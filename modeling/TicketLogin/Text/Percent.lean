import TicketLogin.Text.Utf8

/-!
# Percent encoding

A byte outside the allowed characters of a place is written `%` and two upper-case digits; `decode`
undoes it and leaves a `%` without two digits alone. The form encoding of query pairs writes a
space as `+` and keeps letters, digits and `* - . _`.
-/

namespace TicketLogin.Percent

def upperDigit (n : Nat) : Char :=
  if n < 10 then Char.ofNat (48 + n) else Char.ofNat (55 + n)

def digit? (c : Char) : Option Nat :=
  let n := c.toNat
  if 48 ≤ n ∧ n ≤ 57 then some (n - 48)
  else if 65 ≤ n ∧ n ≤ 70 then some (n - 55)
  else if 97 ≤ n ∧ n ≤ 102 then some (n - 87)
  else none

def triple (b : UInt8) : List Char := ['%', upperDigit (b.toNat / 16), upperDigit (b.toNat % 16)]

def encodeChar (c : Char) : List Char := (Utf8.encodeChar c).flatMap triple

/-- Writes the characters of a class as percent triples and keeps the others. -/
def encode (escaped : Char → Bool) (s : List Char) : List Char :=
  s.flatMap fun c => if escaped c then encodeChar c else [c]

def pair? (a b : Char) : Option UInt8 :=
  match digit? a, digit? b with
  | some x, some y => some (UInt8.ofNat (16 * x + y))
  | _, _ => none

def decode : List Char → List UInt8
  | [] => []
  | '%' :: a :: b :: rest =>
    match pair? a b with
    | some byte => byte :: decode rest
    | none => Utf8.encodeChar '%' ++ decode (a :: b :: rest)
  | c :: rest => Utf8.encodeChar c ++ decode rest
termination_by s => s.length

def isFormSafe (c : Char) : Bool :=
  let n := c.toNat
  (48 ≤ n && n ≤ 57) || (65 ≤ n && n ≤ 90) || (97 ≤ n && n ≤ 122)
    || c == '*' || c == '-' || c == '.' || c == '_'

def formEncodeChar (c : Char) : List Char :=
  if c = ' ' then ['+'] else if isFormSafe c then [c] else encodeChar c

def formEncode (s : List Char) : List Char := s.flatMap formEncodeChar

def formDecode (s : List Char) : List Char :=
  Utf8.decodeLossy (decode (s.map fun c => if c = '+' then ' ' else c))

end TicketLogin.Percent
