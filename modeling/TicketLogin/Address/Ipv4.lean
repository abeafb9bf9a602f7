import TicketLogin.Text.Blank
import TicketLogin.Text.Percent

/-!
# Addresses of the Internet Protocol, version 4

A host name whose last label is a number is read as up to four numbers, each decimal, octal (after
`0`) or hexadecimal (after `0x`); the last one fills the bytes that the others leave. It is written
as four decimal bytes.
-/

namespace TicketLogin.Ipv4

/-- The value of digits in a base, or nothing when one is no digit of it. -/
def digits? (base : Nat) (s : List Char) : Option Nat :=
  s.foldl (fun acc c =>
    match acc, Percent.digit? c with
    | some n, some d => if d < base then some (n * base + d) else none
    | _, _ => none) (some 0)

/-- A number in one of the three bases. A lone `0x` counts as zero. -/
def number? (s : List Char) : Option Nat :=
  match s with
  | [] => none
  | '0' :: 'x' :: rest => digits? 16 rest
  | '0' :: 'X' :: rest => digits? 16 rest
  | '0' :: c :: rest => digits? 8 (c :: rest)
  | _ => digits? 10 s

/-- The labels of a name without the empty one that a final dot leaves. -/
def labels (name : List Char) : List (List Char) :=
  let parts := Text.splitOn '.' name
  if parts.getLast? = some [] then parts.dropLast else parts

/-- Whether the last label is meant as a number. -/
def endsInNumber (name : List Char) : Bool :=
  match (labels name).getLast? with
  | none => false
  | some last => (last != [] && last.all Char.isDigit) || (number? last).isSome

def read? (name : List Char) : Option Nat := do
  let numbers ← (labels name).mapM number?
  let last ← numbers.getLast?
  let heads := numbers.dropLast
  if 3 < heads.length ∨ heads.any (255 < ·) ∨ Nat.pow 256 (4 - heads.length) ≤ last then none
  else some (heads.foldl (fun acc n => acc * 256 + n) 0 * Nat.pow 256 (4 - heads.length) + last)

def text (n : Nat) : List Char :=
  Text.joinWith '.' ([n / 16777216, n / 65536 % 256, n / 256 % 256, n % 256].map fun b =>
    (toString b).toList)

end TicketLogin.Ipv4
