import TicketLogin.Domain.Marks
import TicketLogin.Domain.Composites

/-!
# Canonical composition

A text is composed by taking its composites apart, putting the marks on each character in order of
their class, and joining again what joins. Syllables of Hangul are taken apart and joined by
computation.
-/

namespace TicketLogin.Domain

/-- The combining class; zero for a character that starts anew. -/
def markClass (c : Char) : Nat :=
  match orderTable.find? c.toNat with
  | some ⟨_, _, k :: _⟩ => k
  | _ => 0

/-- Hangul: the first syllable, and the first consonant, vowel and final. -/
def syllableStart : Nat := 0xAC00
def consonantStart : Nat := 0x1100
def vowelStart : Nat := 0x1161
def finalStart : Nat := 0x11A7

/-- A character taken apart; `fuel` bounds how often its first part is taken apart again. -/
def takeApart : Nat → Char → List Char
  | 0, c => [c]
  | fuel + 1, c =>
    let n := c.toNat
    if syllableStart ≤ n ∧ n < syllableStart + 11172 then
      let i := n - syllableStart
      let body := [Char.ofNat (consonantStart + i / 588), Char.ofNat (vowelStart + i % 588 / 28)]
      if i % 28 = 0 then body else body ++ [Char.ofNat (finalStart + i % 28)]
    else
      match compositeTable.find? n with
      | some ⟨_, _, [a, b]⟩ => takeApart fuel (Char.ofNat a) ++ [Char.ofNat b]
      | _ => [c]

/-- Puts a mark behind those of its class or a lower one; `acc` is in reverse. -/
def settle (acc : List (Char × Nat)) (x : Char × Nat) : List (Char × Nat) :=
  match acc with
  | [] => [x]
  | y :: ys => if x.2 ≠ 0 ∧ x.2 < y.2 then y :: settle ys x else x :: acc

/-- A text taken apart with its marks in order. -/
def ordered (s : List Char) : List (Char × Nat) :=
  (((s.flatMap (takeApart 4)).map fun c => (c, markClass c)).foldl settle []).reverse

def compositePairs : List (List Nat × Nat) :=
  compositeTable.toList.map fun s => (s.target, s.low)

def pair? (a b : Char) : Option Char :=
  let m := a.toNat
  let n := b.toNat
  if consonantStart ≤ m ∧ m < consonantStart + 19 ∧ vowelStart ≤ n ∧ n < vowelStart + 21 then
    some (Char.ofNat (syllableStart + (m - consonantStart) * 588 + (n - vowelStart) * 28))
  else if syllableStart ≤ m ∧ m < syllableStart + 11172 ∧ (m - syllableStart) % 28 = 0
      ∧ finalStart < n ∧ n < finalStart + 28 then
    some (Char.ofNat (m + (n - finalStart)))
  else (compositePairs.lookup [m, n]).map Char.ofNat

/-- A text while it is being joined: what is finished, in reverse, the character that marks may
join, and the marks after it that did not, in reverse. -/
structure Joint where
  finished : List Char
  starter : Option Char
  marks : List (Char × Nat)

namespace Joint

def flat (j : Joint) : List Char :=
  j.marks.map (·.1) ++ (j.starter.toList ++ j.finished)

/-- Whether the last mark keeps a character of class `k` from the starter. -/
def blocks (j : Joint) (k : Nat) : Bool :=
  match j.marks with
  | [] => false
  | m :: _ => k ≤ m.2

def add (j : Joint) (x : Char × Nat) : Joint :=
  let joined := if j.blocks x.2 then none else j.starter.bind fun s => pair? s x.1
  match joined with
  | some c => { j with starter := some c }
  | none => if x.2 = 0 then ⟨j.flat, some x.1, []⟩ else { j with marks := x :: j.marks }

end Joint

def compose (s : List Char) : List Char :=
  ((ordered s).foldl Joint.add ⟨[], none, []⟩).flat.reverse

end TicketLogin.Domain
