import TicketLogin.Number.Shortest

/-!
# Numbers of JSON texts

A number is kept as an integer if it is written as one and fits in 64 bits, with or without a sign;
every other number is a binary floating point value. An integer is written as it stands. A floating
point value is written with its shortest digits: with a point from 0.00001 up to sixteen digits, and
with a signed exponent beyond.
-/

namespace TicketLogin.Json

inductive Number
  | integer (n : Int)
  | float (negative : Bool) (magnitude : Binary64)
  deriving DecidableEq, Repr

namespace Number

def int64? : Number → Option Int
  | .integer n => if -Int.pow 2 63 ≤ n ∧ n < Int.pow 2 63 then some n else none
  | .float _ _ => none

/-- Digits with a point behind the `point`-th of them. -/
def positional (digits : List Char) (point : Int) : List Char :=
  if point ≤ 0 then '0' :: '.' :: (List.replicate (-point).toNat '0' ++ digits)
  else
    let n := point.toNat
    if digits.length ≤ n then digits ++ List.replicate (n - digits.length) '0' ++ ['.', '0']
    else digits.take n ++ '.' :: digits.drop n

def scientific (digits : List Char) (point : Int) : List Char :=
  let exponent := point - 1
  let tail := digits.drop 1
  digits.take 1 ++ (if tail = [] then [] else '.' :: tail) ++
    'e' :: (if 0 ≤ exponent then '+' else '-') :: Nat.toDigits 10 exponent.natAbs

def floatText (x : Binary64) : List Char :=
  if x.significand = 0 then ['0', '.', '0']
  else
    let (d, k) := x.shortest
    let digits := Nat.toDigits 10 d
    let zeros := (digits.reverse.takeWhile (· == '0')).length
    let digits := digits.take (digits.length - zeros)
    let point := k + zeros + digits.length
    if -4 ≤ point ∧ point ≤ 16 then positional digits point else scientific digits point

def text : Number → List Char
  | .integer n => (if n < 0 then ['-'] else []) ++ Nat.toDigits 10 n.natAbs
  | .float negative x => (if negative then ['-'] else []) ++ floatText x

/-- Digits collected into a significand of 64 bits, the power of ten that it still lacks, and
whether a digit was met that did not fit. -/
structure Digits where
  significand : Nat
  power : Int
  full : Bool
  deriving DecidableEq, Repr

/-- A digit before the point; once one does not fit, the rest only count. -/
def Digits.whole (d : Digits) (digit : Nat) : Digits :=
  let next := d.significand * 10 + digit
  if d.full ∨ Nat.pow 2 64 ≤ next then { d with power := d.power + 1, full := true }
  else { d with significand := next }

/-- A digit behind the point; once one does not fit, the rest are dropped. -/
def Digits.part (d : Digits) (digit : Nat) : Digits :=
  let next := d.significand * 10 + digit
  if d.full ∨ Nat.pow 2 64 ≤ next then { d with full := true }
  else { d with significand := next, power := d.power - 1 }

def exponentBound : Int := Int.pow 2 31

/-- The value of digits with an exponent, or nothing when it is too large. -/
def ofDigits (negative : Bool) (d : Digits) (exponent : Int) : Option Number :=
  if exponentBound ≤ exponent then
    if d.significand = 0 then some (.float negative .zero) else none
  else if exponent ≤ -exponentBound then some (.float negative .zero)
  else (Binary64.ofDecimal d.significand (d.power + exponent)).map (.float negative)

/-- A number from its digits before the point, those behind it, and its exponent. -/
def ofParts (negative : Bool) (whole : List Nat) (part : Option (List Nat))
    (exponent : Option Int) : Option Number :=
  let d := whole.foldl Digits.whole ⟨0, 0, false⟩
  match part, exponent with
  | none, none =>
    let n := d.significand
    if d.full then ofDigits negative d 0
    else if !negative then some (.integer n)
    else if n = 0 ∨ Nat.pow 2 63 < n then ofDigits true d 0
    else some (.integer (-n))
  | _, _ =>
    let d := (part.getD []).foldl Digits.part { d with full := false }
    ofDigits negative d (exponent.getD 0)

end Number

end TicketLogin.Json
