import TicketLogin.Number.Binary64

/-!
# Shortest decimal digits

The decimal text of a value has the fewest digits that read back as it, and among those the digits
nearest to it. Grids of powers of ten are tried from coarse to fine; on each, only the two
neighbours of the value can lie in the interval of reals that round to it.
-/

namespace TicketLogin.Binary64

/-- The reals that round to a value: the value and its bounds counted in units. -/
structure Interval where
  low : Nat
  value : Nat
  high : Nat
  unit : Int
  closed : Bool

def interval (x : Binary64) : Interval :=
  let m := x.significand
  { low := 4 * m - (if m = Nat.pow 2 52 ∧ least < x.exponent then 1 else 2)
    value := 4 * m
    high := 4 * m + 2
    unit := x.exponent - 2
    closed := m % 2 = 0 }

def gridQuotient (n : Nat) (unit k : Int) : Nat × Nat :=
  let (a, b) := scaled n 1 (-unit)
  if 0 ≤ k then (a, b * Nat.pow 10 k.toNat) else (a * Nat.pow 10 (-k).toNat, b)

/-- Whether `d` steps of the grid `k` lie in the interval. -/
def Interval.holds (i : Interval) (k : Int) (d : Nat) : Bool :=
  let (l, b) := gridQuotient i.low i.unit k
  let (h, _) := gridQuotient i.high i.unit k
  if i.closed then l ≤ d * b && d * b ≤ h else l < d * b && d * b < h

/-- The step of the grid `k` that is nearest to the value, if one lies in the interval. -/
def Interval.onGrid (i : Interval) (k : Int) : Option Nat :=
  let (v, b) := gridQuotient i.value i.unit k
  let d := v / b
  match i.holds k d && d != 0, i.holds k (d + 1) with
  | true, true => some (if 2 * (v % b) < b ∨ (2 * (v % b) = b ∧ d % 2 = 0) then d else d + 1)
  | true, false => some d
  | false, true => some (d + 1)
  | false, false => none

/-- The number of decimal digits before the point; for a value below one, minus the number of zeros
that follow the point. -/
def pointOf (x : Binary64) : Int :=
  let (a, b) := x.toQuotient
  if b ≤ a then ((Nat.toDigits 10 (a / b)).length : Int)
  else
    match (List.range 400).find? fun j => b ≤ a * Nat.pow 10 (j + 1) with
    | some j => -(j : Int)
    | none => 0

def shortest (x : Binary64) : Nat × Int :=
  let point := x.pointOf
  let i := x.interval
  ((List.range 18).findSome? fun (n : Nat) =>
    let k := point - 1 - (n : Int)
    (i.onGrid k).map fun d => (d, k)).getD (0, 0)

end TicketLogin.Binary64
