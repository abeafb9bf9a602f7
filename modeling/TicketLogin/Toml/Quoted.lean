import TicketLogin.Text.Percent

/-!
# Quoted text in TOML

Basic text stands in double quotes and knows escapes; literal text stands in single quotes and knows
none. Three quotes instead of one let text run over lines: a line break right after them is dropped,
up to two quotes may stand before the closing three, and in basic text a backslash at the end of a
line takes away the white space up to the next character.
-/

namespace TicketLogin.Toml.Quoted

/-- Characters of text: no controls but the tab. -/
def isTextChar (c : Char) : Bool := c == '\t' || (0x20 ≤ c.toNat && c.toNat != 0x7F)

def isSpace (c : Char) : Bool := c == ' ' || c == '\t'

def unescape : Char → Option Char
  | 'b' => some '\x08'
  | 'f' => some '\x0c'
  | 'n' => some '\n'
  | 'r' => some '\r'
  | 't' => some '\t'
  | '"' => some '"'
  | '\\' => some '\\'
  | _ => none

def scalar? (ds : List Char) : Option Char := do
  let n ← ds.foldlM (fun n c => (Percent.digit? c).map fun d => n * 16 + d) 0
  if n.isValidChar then some (Char.ofNat n) else none

/-- The number of digits behind `\u` and `\U`. -/
def escapeSize : Char → Option Nat
  | 'u' => some 4
  | 'U' => some 8
  | _ => none

def readEscape (s : List Char) : Option (Char × List Char) :=
  match s with
  | [] => none
  | c :: rest =>
    match escapeSize c with
    | some n =>
      if rest.length < n then none else (scalar? (rest.take n)).map fun x => (x, rest.drop n)
    | none => (unescape c).map fun x => (x, rest)

def afterBreak? : List Char → Option (List Char)
  | '\n' :: rest => some rest
  | '\r' :: '\n' :: rest => some rest
  | _ => none

def dropBlanks : List Char → List Char
  | ' ' :: rest => dropBlanks rest
  | '\t' :: rest => dropBlanks rest
  | '\n' :: rest => dropBlanks rest
  | '\r' :: '\n' :: rest => dropBlanks rest
  | s => s

def readBasic (s : List Char) : Option (List Char × List Char) :=
  match s with
  | [] => none
  | c :: rest =>
    if c = '"' then some ([], rest)
    else if c = '\\' then
      match readEscape rest with
      | none => none
      | some (x, after) =>
        if _h : after.length ≤ rest.length then
          (readBasic after).map fun (t, rest) => (x :: t, rest)
        else none
    else if isTextChar c then (readBasic rest).map fun (t, rest) => (c :: t, rest)
    else none
termination_by s.length
decreasing_by all_goals (subst_vars; simp only [List.length_cons] at *; omega)

def readLiteral : List Char → Option (List Char × List Char)
  | [] => none
  | c :: rest =>
    if c = '\'' then some ([], rest)
    else if isTextChar c then (readLiteral rest).map fun (t, rest) => (c :: t, rest)
    else none

/-- Quotes at the front of a text over lines: those of the text, and whether the text ends. -/
def quoteRun (count : Nat) : Nat × Bool :=
  if count < 3 then (count, false) else (min (count - 3) 2, true)

def readLines (quote : Char) (escapes : Bool) (s : List Char) : Option (List Char × List Char) :=
  match s with
  | [] => none
  | c :: more =>
    if c = quote then
      let count := (s.takeWhile (· == quote)).length
      let (kept, ends) := quoteRun count
      if ends then some (List.replicate kept quote, s.drop (kept + 3))
      else
        (readLines quote escapes (more.drop (count - 1))).map fun (t, rest) =>
          (List.replicate count quote ++ t, rest)
    else if escapes ∧ c = '\\' then
      match afterBreak? (more.dropWhile isSpace) with
      | some after =>
        if _h : (dropBlanks after).length ≤ more.length then
          readLines quote escapes (dropBlanks after)
        else none
      | none =>
        match readEscape more with
        | none => none
        | some (x, after) =>
          if _h : after.length ≤ more.length then
            (readLines quote escapes after).map fun (t, rest) => (x :: t, rest)
          else none
    else
      match afterBreak? s with
      | some after =>
        if _h : after.length ≤ more.length then
          (readLines quote escapes after).map fun (t, rest) => ('\n' :: t, rest)
        else none
      | none =>
        if isTextChar c then (readLines quote escapes more).map fun (t, rest) => (c :: t, rest)
        else none
termination_by s.length
decreasing_by all_goals (subst_vars; simp only [List.length_cons, List.length_drop] at *; omega)

def read (s : List Char) : Option (List Char × List Char) :=
  match s with
  | '"' :: '"' :: '"' :: rest => readLines '"' true ((afterBreak? rest).getD rest)
  | '\'' :: '\'' :: '\'' :: rest => readLines '\'' false ((afterBreak? rest).getD rest)
  | '"' :: rest => readBasic rest
  | '\'' :: rest => readLiteral rest
  | _ => none

def readLine (s : List Char) : Option (List Char × List Char) :=
  match s with
  | '"' :: rest => readBasic rest
  | '\'' :: rest => readLiteral rest
  | _ => none

end TicketLogin.Toml.Quoted
