import TicketLogin.Text.Blank
import TicketLogin.Text.Percent

/-!
# Tables of characters

A table is a sorted list of spans of code points, each with the code points it leads to. Its rows
are words such as `41-5a=61` in hexadecimal; `find?` looks a code point up by halving.
-/

namespace TicketLogin.Domain

structure Span where
  low : Nat
  high : Nat
  target : List Nat
  deriving DecidableEq, Repr

abbrev Table := Array Span

namespace Table

def hex (s : List Char) : Nat :=
  s.foldl (fun n c => 16 * n + (Percent.digit? c).getD 0) 0

/-- A word: a code point or a span of them, and after `=` the target separated by commas. -/
def word (s : List Char) : Span :=
  let (range, target) := Text.cutAt '=' s
  let (low, high) := Text.cutAt '-' range
  ⟨hex low, hex (high.getD low), (target.map fun t => (Text.splitOn ',' t).map hex).getD []⟩

def ofRows (rows : List String) : Table :=
  (rows.flatMap fun row => (Text.splitOn ' ' row.toList).map word).toArray

/-- The span that holds `n` among those from `low` up to `high`. -/
def search (t : Table) (n : Nat) (low high : Nat) : Option Span :=
  if _h : low < high then
    let mid := (low + high) / 2
    match t[mid]? with
    | none => none
    | some s =>
      if n < s.low then search t n low mid
      else if s.high < n then search t n (mid + 1) high
      else some s
  else none
termination_by high - low
decreasing_by all_goals omega

def find? (t : Table) (n : Nat) : Option Span := search t n 0 t.size

def has (t : Table) (n : Nat) : Bool := (find? t n).isSome

end Table

end TicketLogin.Domain
