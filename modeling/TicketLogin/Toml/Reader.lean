import TicketLogin.Toml.Item
import TicketLogin.Toml.Quoted
import TicketLogin.Toml.Scalar

/-!
# Reading TOML

`read?` accepts a document and gives the fields of its root. Lines are blank, comments, headers or
fields; lists may run over lines and end with a comma, inline tables may do neither. Lists and inline
tables nest less than eighty deep, and no name has eighty parts.
-/

namespace TicketLogin.Toml

open Quoted (isSpace isTextChar afterBreak?)

def depthLimit : Nat := 80

def skipSpace (s : List Char) : List Char := s.dropWhile isSpace

def skipComment : List Char → List Char
  | '#' :: rest => rest.dropWhile isTextChar
  | s => s

/-- What follows a line that holds nothing more but space and a comment. -/
def endLine? (s : List Char) : Option (List Char) :=
  match skipComment (skipSpace s) with
  | [] => some []
  | rest => afterBreak? rest

/-- Drops space, comments and line breaks; `fuel` bounds the lines. -/
def skipLines : Nat → List Char → List Char
  | 0, s => s
  | fuel + 1, s =>
    match afterBreak? (skipComment (skipSpace s)) with
    | some rest => skipLines fuel rest
    | none => skipSpace s

def skipBlank (s : List Char) : List Char := skipLines s.length s

def isBareChar (c : Char) : Bool := c.isAlphanum || c == '_' || c == '-'

def readPart (s : List Char) : Option (String × List Char) :=
  match Quoted.readLine s with
  | some (name, rest) => some (String.ofList name, rest)
  | none =>
    let name := s.takeWhile isBareChar
    if name = [] then none else some (String.ofList name, s.dropWhile isBareChar)

/-- Reads a name of parts between dots, with space around them; `fuel` bounds the parts. -/
def readParts : Nat → List Char → Option (List String × List Char)
  | 0, _ => none
  | fuel + 1, s => do
    let (part, rest) ← readPart (skipSpace s)
    match skipSpace rest with
    | '.' :: rest =>
      let (parts, rest) ← readParts fuel rest
      return (part :: parts, rest)
    | rest => return ([part], rest)

structure Name where
  way : List String
  last : String
  deriving DecidableEq, Repr

def readName (s : List Char) : Option (Name × List Char) := do
  let (parts, rest) ← readParts (depthLimit - 1) s
  return (⟨parts.dropLast, parts.getLast?.getD ""⟩, rest)

def isWordChar (c : Char) : Bool := c.isAlphanum || "+-_.:".toList.contains c

/-- Reads a word: a truth value, a number, a date or a time. A date may be followed by one space and
a time. -/
def readWord (s : List Char) : Option (Item × List Char) :=
  let word := s.takeWhile isWordChar
  let rest := s.dropWhile isWordChar
  if Scalar.isDate word then
    let time := (rest.drop 1).takeWhile isWordChar
    if rest.head? = some ' ' ∧ time ≠ [] then
      if Scalar.isZonedTime time then some (.moment, rest.drop (1 + time.length)) else none
    else some (.moment, rest)
  else if Scalar.isMoment word then some (.moment, rest)
  else if word = "true".toList ∨ word = "false".toList ∨ Scalar.isInteger word
      ∨ Scalar.isFloat word then some (.scalar, rest)
  else none

mutual

/-- Reads a value `depth` lists and tables deep. `fuel` bounds the values read. -/
def readValue : Nat → Nat → List Char → Option (Item × List Char)
  | 0, _, _ => none
  | fuel + 1, depth, s =>
    match s with
    | [] => none
    | c :: rest =>
      if c = '"' ∨ c = '\'' then
        (Quoted.read s).map fun (t, rest) => (.text (String.ofList t), rest)
      else if c = '[' then
        if depthLimit ≤ depth + 1 then none
        else (readItems fuel (depth + 1) (skipBlank rest)).map fun (items, rest) =>
          (.list items, rest)
      else if c.toNat = 0x7B then
        if depthLimit ≤ depth + 1 then none
        else
          match skipSpace rest with
          | [] => none
          | d :: after =>
            if d.toNat = 0x7D then some (.inline [], after)
            else (readFields fuel (depth + 1) rest []).map fun (fields, rest) =>
              (.inline fields, rest)
      else readWord s

def readItems : Nat → Nat → List Char → Option (List Item × List Char)
  | 0, _, _ => none
  | fuel + 1, depth, s =>
    match s with
    | ']' :: rest => some ([], rest)
    | _ =>
      match readValue fuel depth s with
      | none => none
      | some (item, rest) =>
        match skipBlank rest with
        | ',' :: rest =>
          (readItems fuel depth (skipBlank rest)).map fun (items, rest) => (item :: items, rest)
        | ']' :: rest => some ([item], rest)
        | _ => none

def readFields : Nat → Nat → List Char → Fields → Option (Fields × List Char)
  | 0, _, _, _ => none
  | fuel + 1, depth, s, fields =>
    match readName s with
    | some (name, '=' :: rest) =>
      match readValue fuel depth (skipSpace rest) with
      | none => none
      | some (item, rest) =>
        match Fields.addDotted name.way name.last item .header fields, skipSpace rest with
        | some fields, ',' :: rest => readFields fuel depth rest fields
        | some fields, c :: rest => if c.toNat = 0x7D then some (fields, rest) else none
        | _, _ => none
    | _ => none

end

/-- A document as far as it is read, and the way of the header that fields belong to. -/
structure Document where
  fields : Fields
  header : List String

namespace Document

def empty : Document := ⟨[], []⟩

def change (d : Document) (way : List String) (f : Fields.Change) : Option Fields :=
  Fields.descend false f way .header d.fields

def readHeader (d : Document) (isElement : Bool) (s : List Char) :
    Option (Document × List Char) := do
  let (name, rest) ← readName s
  let rest ← match isElement, rest with
    | false, ']' :: rest => some rest
    | true, ']' :: ']' :: rest => some rest
    | _, _ => none
  let fields ← d.change name.way
    (if isElement then Fields.openElement name.last else Fields.openTable name.last)
  return (⟨fields, name.way ++ [name.last]⟩, rest)

def readField (d : Document) (s : List Char) : Option (Document × List Char) := do
  match ← readName s with
  | (name, '=' :: rest) =>
    let s := skipSpace rest
    let (item, rest) ← readValue (s.length + 1) 0 s
    let fields ← d.change d.header (Fields.addDotted name.way name.last item)
    return ({ d with fields }, rest)
  | _ => none

def readLine (d : Document) (s : List Char) : Option (Document × List Char) :=
  match skipSpace s with
  | [] => some (d, [])
  | '[' :: '[' :: rest => d.readHeader true rest
  | '[' :: rest => d.readHeader false rest
  | c :: rest =>
    if c = '#' ∨ c = '\n' ∨ c = '\r' then some (d, c :: rest) else d.readField (c :: rest)

/-- Reads all lines; `fuel` bounds their number. -/
def readLines : Nat → Document → List Char → Option Document
  | 0, _, _ => none
  | fuel + 1, d, s =>
    match d.readLine s with
    | none => none
    | some (d, rest) =>
      match endLine? rest with
      | none => none
      | some [] => some d
      | some rest => readLines fuel d rest

end Document

/-- The text without the mark of byte order at its front. -/
def withoutMark : List Char → List Char
  | '\uFEFF' :: rest => rest
  | s => s

def read? (s : List Char) : Option Fields :=
  let s := withoutMark s
  (Document.readLines (s.length + 1) .empty s).map (·.fields)

end TicketLogin.Toml
