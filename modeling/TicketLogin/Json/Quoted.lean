import TicketLogin.Text.Percent

/-!
# Quoted text

In a JSON text the quotation mark, the backslash and controls are written with a backslash. Reading
also knows an escaped slash and any character by the four digits of its UTF-16 units; a unit that is
half of a surrogate pair makes the text unreadable, though it still ends where its quotation mark
stands.
-/

namespace TicketLogin.Json.Quoted

def lowerDigit (n : Nat) : Char :=
  if n < 10 then Char.ofNat (48 + n) else Char.ofNat (87 + n)

def escape (c : Char) : List Char :=
  if c = '"' then ['\\', '"']
  else if c = '\\' then ['\\', '\\']
  else if c = '\x08' then ['\\', 'b']
  else if c = '\t' then ['\\', 't']
  else if c = '\n' then ['\\', 'n']
  else if c = '\x0c' then ['\\', 'f']
  else if c = '\r' then ['\\', 'r']
  else if c.toNat < 0x20 then
    ['\\', 'u', '0', '0', lowerDigit (c.toNat / 16), lowerDigit (c.toNat % 16)]
  else [c]

def write (s : List Char) : List Char := '"' :: (s.flatMap escape ++ ['"'])

def unescape : Char → Option Char
  | '"' => some '"'
  | '\\' => some '\\'
  | '/' => some '/'
  | 'b' => some '\x08'
  | 'f' => some '\x0c'
  | 'n' => some '\n'
  | 'r' => some '\r'
  | 't' => some '\t'
  | _ => none

inductive Piece
  | char (c : Char)
  | unit (n : Nat)
  deriving DecidableEq, Repr

def unit? (a b c d : Char) : Option Nat :=
  match Percent.digit? a, Percent.digit? b, Percent.digit? c, Percent.digit? d with
  | some w, some x, some y, some z => some (((w * 16 + x) * 16 + y) * 16 + z)
  | _, _, _, _ => none

/-- Reads up to the closing quotation mark: the pieces, and what follows it. -/
def pieces : List Char → Option (List Piece × List Char)
  | [] => none
  | '"' :: rest => some ([], rest)
  | '\\' :: 'u' :: a :: b :: c :: d :: rest =>
    match unit? a b c d, pieces rest with
    | some n, some (ps, rest) => some (.unit n :: ps, rest)
    | _, _ => none
  | '\\' :: e :: rest =>
    match unescape e, pieces rest with
    | some c, some (ps, rest) => some (.char c :: ps, rest)
    | _, _ => none
  | c :: rest =>
    if c.toNat < 0x20 ∨ c = '\\' then none
    else
      match pieces rest with
      | some (ps, rest) => some (.char c :: ps, rest)
      | none => none

def isHigh (n : Nat) : Bool := 0xD800 ≤ n && n < 0xDC00
def isLow (n : Nat) : Bool := 0xDC00 ≤ n && n < 0xE000

/-- Puts surrogate pairs together; nothing if a half stands alone. -/
def join : List Piece → Option (List Char)
  | [] => some []
  | .unit m :: .unit n :: rest =>
    if isHigh m then
      if isLow n then
        (join rest).map fun cs => Char.ofNat (0x10000 + (m - 0xD800) * 1024 + (n - 0xDC00)) :: cs
      else none
    else if isLow m then none
    else (join (.unit n :: rest)).map fun cs => Char.ofNat m :: cs
  | .unit n :: rest =>
    if isHigh n || isLow n then none else (join rest).map fun cs => Char.ofNat n :: cs
  | .char c :: rest => (join rest).map fun cs => c :: cs

end TicketLogin.Json.Quoted
