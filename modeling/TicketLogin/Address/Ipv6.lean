import TicketLogin.Text.Blank
import TicketLogin.Text.Percent

/-!
# Addresses of the Internet Protocol, version 6

Eight groups of sixteen bits. In reading, `::` stands for one or more groups of zeros and the last
two groups may be four decimal bytes; in writing, the first longest run of at least two zero groups
becomes `::`.
-/

namespace TicketLogin.Ipv6

def group? (s : List Char) : Option Nat :=
  if s = [] ∨ 4 < s.length then none
  else s.foldl (fun acc c =>
    match acc, Percent.digit? c with
    | some n, some d => some (n * 16 + d)
    | _, _ => none) (some 0)

/-- A decimal byte without leading zeros. -/
def byte? (s : List Char) : Option Nat :=
  if s = [] ∨ 3 < s.length ∨ !s.all Char.isDigit ∨ (1 < s.length ∧ s.head? = some '0') then none
  else
    let n := s.foldl (fun acc c => acc * 10 + (c.toNat - 48)) 0
    if n ≤ 255 then some n else none

def quad? (s : List Char) : Option (List Nat) := do
  match ← (Text.splitOn '.' s).mapM byte? with
  | [a, b, c, d] => some [a * 256 + b, c * 256 + d]
  | _ => none

/-- Groups between colons; the last may be four decimal bytes where `quads` allows it. -/
def groups? (quads : Bool) : List (List Char) → Option (List Nat)
  | [] => some []
  | [last] =>
    if quads ∧ last.contains '.' then quad? last else (group? last).map fun n => [n]
  | part :: parts =>
    match group? part, groups? quads parts with
    | some n, some rest => some (n :: rest)
    | _, _ => none

/-- Cuts at the first pair of colons. -/
def cutPair : List Char → List Char × Option (List Char)
  | [] => ([], none)
  | ':' :: ':' :: rest => ([], some rest)
  | c :: rest => (c :: (cutPair rest).1, (cutPair rest).2)

/-- The groups of one side of `::`, where nothing at all stands for none. -/
def side? (quads : Bool) (s : List Char) : Option (List Nat) :=
  if s = [] then some [] else groups? quads (Text.splitOn ':' s)

def read? (s : List Char) : Option (List Nat) :=
  match cutPair s with
  | (whole, none) => do
    let groups ← groups? true (Text.splitOn ':' whole)
    if groups.length = 8 then some groups else none
  | (left, some right) => do
    let before ← side? false left
    let after ← side? true right
    if before.length + after.length ≤ 7 then
      some (before ++ List.replicate (8 - before.length - after.length) 0 ++ after)
    else none

def zeros (groups : List Nat) : Nat := (groups.takeWhile (· == 0)).length

/-- Start and length of the first longest run of zero groups. -/
def longestRun (groups : List Nat) : Nat × Nat :=
  (List.range groups.length).foldl (fun best i =>
    if best.2 < zeros (groups.drop i) then (i, zeros (groups.drop i)) else best) (0, 0)

def hex (n : Nat) : List Char := Nat.toDigits 16 n

def written (groups : List Nat) : List Char := Text.joinWith ':' (groups.map hex)

def text (groups : List Nat) : List Char :=
  let run := longestRun groups
  if run.2 < 2 then written groups
  else written (groups.take run.1) ++ ':' :: ':' :: written (groups.drop (run.1 + run.2))

end TicketLogin.Ipv6
