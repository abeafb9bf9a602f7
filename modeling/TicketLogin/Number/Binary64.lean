/-!
# Binary floating point of 64 bits

The finite non-negative values are `significand * 2 ^ exponent` with at most 53 bits. `round` takes
a quotient to the nearest of them, a tie to the even one; `ofDecimal` scales a significand by a
power of ten, rounding after every step.
-/

namespace TicketLogin

structure Binary64 where
  significand : Nat
  exponent : Int
  deriving DecidableEq, Repr

namespace Binary64

def least : Int := -1074
def greatest : Int := 971

def zero : Binary64 := ⟨0, least⟩

def scaled (num den : Nat) (e : Int) : Nat × Nat :=
  if 0 ≤ e then (num, den * Nat.pow 2 e.toNat) else (num * Nat.pow 2 (-e).toNat, den)

def exponentOf (num den : Nat) : Int :=
  let guess := (Nat.log2 num : Int) - Nat.log2 den - 53
  let (n, d) := scaled num den guess
  max least (if Nat.pow 2 53 ≤ n / d then guess + 1 else guess)

/-- The quotient of two numbers, rounded to the nearest and a tie to the even one. -/
def roundDiv (n d : Nat) : Nat :=
  let q := n / d
  let r := n % d
  if d < 2 * r ∨ (2 * r = d ∧ q % 2 = 1) then q + 1 else q

/-- The value nearest to a quotient, or nothing when that is beyond all of them. -/
def round (num den : Nat) : Option Binary64 :=
  if num = 0 then some zero
  else
    let e := exponentOf num den
    let (n, d) := scaled num den e
    let m := roundDiv n d
    let (m, e) := if m = Nat.pow 2 53 then (Nat.pow 2 52, e + 1) else (m, e)
    if greatest < e then none else some ⟨m, e⟩

def toQuotient (x : Binary64) : Nat × Nat := scaled x.significand 1 (-x.exponent)

def mul (x y : Binary64) : Option Binary64 :=
  let (a, b) := x.toQuotient
  let (c, d) := y.toQuotient
  round (a * c) (b * d)

def div (x y : Binary64) : Option Binary64 :=
  let (a, b) := x.toQuotient
  let (c, d) := y.toQuotient
  round (a * d) (b * c)

def ofNat (n : Nat) : Option Binary64 := round n 1

/-- A value scaled by a power of ten. Powers go up to the 308th; a value that is to become smaller
than that allows is divided by that power first, and is zero after a few such steps. -/
def scale : Nat → Binary64 → Int → Option Binary64
  | 0, _, _ => some zero
  | fuel + 1, x, k =>
    if x.significand = 0 then some x
    else if 308 < k then none
    else if 0 ≤ k then (ofNat (Nat.pow 10 k.toNat)).bind x.mul
    else if -308 ≤ k then (ofNat (Nat.pow 10 (-k).toNat)).bind x.div
    else ((ofNat (Nat.pow 10 308)).bind x.div).bind fun y => scale fuel y (k + 308)

def ofDecimal (significand : Nat) (k : Int) : Option Binary64 :=
  (ofNat significand).bind fun x => scale 4 x k

end Binary64

end TicketLogin
