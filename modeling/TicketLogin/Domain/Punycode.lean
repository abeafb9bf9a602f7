/-!
# Punycode

A label with characters beyond ASCII is written as its ASCII characters, a hyphen, and a chain of
numbers in a mixed base, each telling how far to go to the next insertion. `step` reads one digit
of that chain; `encode` walks the characters in order of code point.
-/

namespace TicketLogin.Domain.Punycode

def adapt (delta count : Nat) (isFirst : Bool) : Nat :=
  let scaled := if isFirst then delta / 700 else delta / 2
  shrink 32 (scaled + scaled / count) 0
where
  shrink : Nat → Nat → Nat → Nat
    | 0, delta, k => k + 36 * delta / (delta + 38)
    | fuel + 1, delta, k =>
      if 455 < delta then shrink fuel (delta / 35) (k + 36)
      else k + 36 * delta / (delta + 38)

/-- The digits below this one end a number at position `k`. -/
def threshold (k bias : Nat) : Nat :=
  if k ≤ bias then 1 else if bias + 26 ≤ k then 26 else k - bias

def digitChar (d : Nat) : Char := if d < 26 then Char.ofNat (97 + d) else Char.ofNat (22 + d)

def digit? (c : Char) : Option Nat :=
  let n := c.toNat
  if 97 ≤ n ∧ n ≤ 122 then some (n - 97)
  else if 65 ≤ n ∧ n ≤ 90 then some (n - 65)
  else if 48 ≤ n ∧ n ≤ 57 then some (n - 22)
  else none

/-- A number as digits; `fuel` bounds their count. -/
def numberText : Nat → Nat → Nat → Nat → List Char
  | 0, _, _, _ => []
  | fuel + 1, q, k, bias =>
    let t := threshold k bias
    if q < t then [digitChar q]
    else digitChar (t + (q - t) % (36 - t)) :: numberText fuel ((q - t) / (36 - t)) (k + 36) bias

structure Writing where
  delta : Nat
  bias : Nat
  handled : Nat
  basics : Nat
  out : List Char

/-- One character of the label while the characters up to code point `m` are written. -/
def Writing.char (m : Nat) (w : Writing) (c : Char) : Writing :=
  if c.toNat < m then { w with delta := w.delta + 1 }
  else if c.toNat = m then
    { w with
      out := w.out ++ numberText 64 w.delta 36 w.bias
      bias := adapt w.delta (w.handled + 1) (w.handled = w.basics)
      delta := 0
      handled := w.handled + 1 }
  else w

def Writing.point (label : List Char) (w : Writing) (previous m : Nat) : Writing :=
  let w := { w with delta := w.delta + (m - previous) * (w.handled + 1) }
  let w := label.foldl (Writing.char m) w
  { w with delta := w.delta + 1 }

def Writing.points (label : List Char) : Writing → Nat → List Nat → Writing
  | w, _, [] => w
  | w, previous, m :: rest => Writing.points label (w.point label previous m) (m + 1) rest

def nonBasic (label : List Char) : List Nat :=
  ((label.map Char.toNat).filter (128 ≤ ·)).eraseDups.mergeSort

/-- The encoded form of a label, without the `xn--` that marks it. -/
def encode (label : List Char) : List Char :=
  let basic := label.filter fun c => c.toNat < 128
  let start : Writing :=
    ⟨0, 72, basic.length, basic.length, if basic = [] then [] else basic ++ ['-']⟩
  (start.points label 128 (nonBasic label)).out

structure Reading where
  out : List Char
  point : Nat
  bias : Nat
  index : Nat
  before : Nat
  weight : Nat
  k : Nat

def Reading.step (r : Reading) (c : Char) : Option Reading := do
  let d ← digit? c
  let index := r.index + d * r.weight
  if Nat.pow 2 32 ≤ index then none
  let t := threshold r.k r.bias
  if d < t then
    let count := r.out.length + 1
    let point := r.point + index / count
    if point.isValidChar then
      let place := index % count
      some
        { out := r.out.take place ++ Char.ofNat point :: r.out.drop place
          point
          bias := adapt (index - r.before) count (r.before = 0)
          index := place + 1
          before := place + 1
          weight := 1
          k := 36 }
    else none
  else if Nat.pow 2 32 ≤ r.weight * (36 - t) then none
  else some { r with index, weight := r.weight * (36 - t), k := r.k + 36 }

/-- Cuts at the last hyphen: the ASCII characters and the chain of numbers. -/
def parts (s : List Char) : List Char × List Char :=
  if s.contains '-' then
    ((s.reverse.dropWhile (· != '-')).drop 1 |>.reverse, (s.reverse.takeWhile (· != '-')).reverse)
  else ([], s)

/-- The label of an encoded form, or nothing when it is none. -/
def decode? (s : List Char) : Option (List Char) := do
  let (basic, chain) := parts s
  let r ← chain.foldlM Reading.step ⟨basic, 128, 72, 0, 0, 1, 36⟩
  if r.weight = 1 ∧ r.k = 36 then some r.out else none

end TicketLogin.Domain.Punycode
