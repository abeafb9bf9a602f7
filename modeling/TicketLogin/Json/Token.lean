import TicketLogin.Json.Number
import TicketLogin.Json.Quoted

/-!
# Tokens of JSON texts

`tokens` cuts a text into punctuation, words, numbers and quoted text and drops white space. It
fails on a character that starts no token, on a number without the digits that its form asks for,
and on quoted text with a control, an unknown escape, or no end.
-/

namespace TicketLogin.Json

inductive Token
  | openList
  | closeList
  | openRecord
  | closeRecord
  | colon
  | comma
  | null
  | bool (b : Bool)
  /-- A number, if it is in range. -/
  | number (n : Option Number)
  /-- Quoted text, if it is readable. -/
  | text (s : Option String)
  deriving DecidableEq, Repr

namespace Token

def isSpace (c : Char) : Bool := c == ' ' || c == '\t' || c == '\n' || c == '\r'

def digits (s : List Char) : List Nat := s.map fun c => c.toNat - 48

def cutDigits (s : List Char) : List Nat × List Char :=
  (digits (s.takeWhile Char.isDigit), s.dropWhile Char.isDigit)

def cutPart (s : List Char) : Option (Option (List Nat) × List Char) :=
  match s with
  | '.' :: rest =>
    let (ds, rest) := cutDigits rest
    if ds = [] then none else some (some ds, rest)
  | _ => some (none, s)

/-- Reads the sign of an exponent: whether it is a minus. -/
def cutSign : List Char → Bool × List Char
  | '-' :: rest => (true, rest)
  | '+' :: rest => (false, rest)
  | s => (false, s)

def cutExponent (s : List Char) : Option (Option Int × List Char) :=
  match s with
  | c :: rest =>
    if c = 'e' ∨ c = 'E' then
      let (negative, rest) := cutSign rest
      let (ds, rest) := cutDigits rest
      let n : Nat := ds.foldl (fun n d => n * 10 + d) 0
      if ds = [] then none else some (some (if negative then -(n : Int) else n), rest)
    else some (none, s)
  | [] => some (none, s)

/-- Reads a number behind its sign. It starts with a digit, and a zero is followed by none. -/
def cutNumber (negative : Bool) (s : List Char) : Option (Option Number × List Char) := do
  let (whole, rest) := cutDigits s
  if whole = [] ∨ (1 < whole.length ∧ whole.head? = some 0) then none
  let (part, rest) ← cutPart rest
  let (exponent, rest) ← cutExponent rest
  return (Number.ofParts negative whole part exponent, rest)

def punctuation? (c : Char) : Option Token :=
  if c = '[' then some .openList
  else if c = ']' then some .closeList
  else if c.toNat = 0x7B then some .openRecord
  else if c.toNat = 0x7D then some .closeRecord
  else if c = ':' then some .colon
  else if c = ',' then some .comma
  else none

/-- The token at the front of a text that starts with no space, and what follows it. -/
def next (s : List Char) : Option (Token × List Char) :=
  match s with
  | [] => none
  | '"' :: rest =>
    (Quoted.pieces rest).map fun (ps, rest) =>
      (.text ((Quoted.join ps).map String.ofList), rest)
  | '-' :: rest => (cutNumber true rest).map fun (n, rest) => (.number n, rest)
  | 'n' :: 'u' :: 'l' :: 'l' :: rest => some (.null, rest)
  | 't' :: 'r' :: 'u' :: 'e' :: rest => some (.bool true, rest)
  | 'f' :: 'a' :: 'l' :: 's' :: 'e' :: rest => some (.bool false, rest)
  | c :: rest =>
    match punctuation? c with
    | some t => some (t, rest)
    | none => (cutNumber false s).map fun (n, rest) => (.number n, rest)

def tokens (s : List Char) : Option (List Token) :=
  match s.dropWhile isSpace with
  | [] => some []
  | c :: more =>
    match next (c :: more) with
    | none => none
    | some (t, rest) =>
      if _h : rest.length < s.length then (tokens rest).map (t :: ·) else none
termination_by s.length

end Token

end TicketLogin.Json
