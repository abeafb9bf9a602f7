import TicketLogin.Number.Binary64
import TicketLogin.Text.Percent
import TicketLogin.Text.Blank

/-!
# Numbers, dates and times in TOML

Which words are numbers, dates and times. A number must be in range: integers in 64 bits with a
sign, floating point values below infinity.
-/

namespace TicketLogin.Toml.Scalar

/-- Digits with single underscores between them; the digits without them. -/
def underscored? (isDigit : Char → Bool) (s : List Char) : Option (List Char) :=
  let parts := Text.splitOn '_' s
  if parts.all fun p => p ≠ [] ∧ p.all isDigit then some parts.flatten else none

def value (base : Nat) (ds : List Char) : Nat :=
  ds.foldl (fun n c => n * base + (Percent.digit? c).getD 0) 0

def isBase (base : Nat) (c : Char) : Bool := (Percent.digit? c).any (· < base)

/-- A word without its sign, and whether that is a minus. -/
def unsigned : List Char → Bool × List Char
  | '-' :: rest => (true, rest)
  | '+' :: rest => (false, rest)
  | s => (false, s)

/-- Decimal digits of an integer: no zero before others. -/
def whole? (s : List Char) : Option (List Char) :=
  (underscored? Char.isDigit s).filter fun ds => ds.length = 1 ∨ ds.head? ≠ some '0'

def isInteger (s : List Char) : Bool :=
  let inRange := fun (base : Nat) (s : List Char) =>
    (underscored? (isBase base) s).any fun ds => value base ds < Nat.pow 2 63
  match s with
  | '0' :: 'x' :: rest => inRange 16 rest
  | '0' :: 'o' :: rest => inRange 8 rest
  | '0' :: 'b' :: rest => inRange 2 rest
  | _ =>
    let (negative, ds) := unsigned s
    (whole? ds).any fun ds => value 10 ds < Nat.pow 2 63 + (if negative then 1 else 0)

def isFinite (ds : List Char) (exponent : Int) : Bool :=
  let n := value 10 ds
  if n = 0 then true
  else if 400 < exponent + ds.length then false
  else if exponent + ds.length < -400 then true
  else if 0 ≤ exponent then (Binary64.round (n * Nat.pow 10 exponent.toNat) 1).isSome
  else (Binary64.round n (Nat.pow 10 (-exponent).toNat)).isSome

def cutExponent (s : List Char) : List Char × Option (List Char) :=
  let isMark := fun c => c == 'e' || c == 'E'
  (s.takeWhile fun c => !isMark c, ((s.dropWhile fun c => !isMark c).head?).map fun _ =>
    (s.dropWhile fun c => !isMark c).drop 1)

def exponent? (s : List Char) : Option Int := do
  let (negative, ds) := unsigned s
  let n : Int := value 10 (← underscored? Char.isDigit ds)
  return if negative then -n else n

/-- Whether a word with a point or an exponent is in range; nothing if it is no such word. There is
no bound below. -/
def inRange? (negative : Bool) (s : List Char) : Option Bool := do
  let (mantissa, exponent) := cutExponent s
  let (whole, part) := Text.cutAt '.' mantissa
  if part = none ∧ exponent = none then none
  let ws ← whole? whole
  let ps ← match part with
    | none => some []
    | some p => underscored? Char.isDigit p
  let e ← match exponent with
    | none => some 0
    | some e => exponent? e
  return negative || isFinite (ws ++ ps) (e - ps.length)

def isFloat (s : List Char) : Bool :=
  let (negative, body) := unsigned s
  body = "inf".toList || body = "nan".toList || (inRange? negative body).getD false

/-- The number of `n` digits. -/
def fixed? (n : Nat) (s : List Char) : Option Nat :=
  if s.length = n ∧ s.all Char.isDigit then some (value 10 s) else none

def daysIn (year month : Nat) : Nat :=
  if month = 2 then (if year % 4 = 0 ∧ (year % 100 ≠ 0 ∨ year % 400 = 0) then 29 else 28)
  else if month = 4 ∨ month = 6 ∨ month = 9 ∨ month = 11 then 30
  else 31

def isDate (s : List Char) : Bool :=
  match Text.splitOn '-' s with
  | [y, m, d] =>
    match fixed? 4 y, fixed? 2 m, fixed? 2 d with
    | some y, some m, some d => 1 ≤ m && m ≤ 12 && 1 ≤ d && d ≤ daysIn y m
    | _, _, _ => false
  | _ => false

def isTime (s : List Char) : Bool :=
  let (clock, fraction) := Text.cutAt '.' s
  match (Text.splitOn ':' clock).map (fixed? 2) with
  | [some h, some m, some sec] =>
    h ≤ 23 && m ≤ 59 && sec ≤ 60 && fraction.all fun f => f ≠ [] && f.all Char.isDigit
  | _ => false

def isOffset (s : List Char) : Bool :=
  match (Text.splitOn ':' s).map (fixed? 2) with
  | [some h, some m] => h ≤ 23 && m ≤ 59
  | _ => false

/-- A time of day, with its distance from universal time or without. -/
def isZonedTime (s : List Char) : Bool :=
  let isSign := fun c => c == '+' || c == '-'
  let clock := s.takeWhile fun c => !isSign c
  let offset := s.drop clock.length
  if offset ≠ [] then isTime clock && isOffset (offset.drop 1)
  else if clock.getLast? = some 'Z' ∨ clock.getLast? = some 'z' then isTime clock.dropLast
  else isTime clock

def isMoment (s : List Char) : Bool :=
  isDate s || isTime s ||
    (isDate (s.take 10) && ((s.drop 10).head?.any fun c => c == 'T' || c == 't')
      && isZonedTime (s.drop 11))

end TicketLogin.Toml.Scalar
