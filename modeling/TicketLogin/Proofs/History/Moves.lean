import TicketLogin.Proofs.History

/-!
# Histories over any moves

A history moves on along links, replaces its current address, or takes the ticket out of it.
Whatever it does, no move looks at a place without an entry, the current entry is the last one, and
what lies behind it is there for good.
-/

namespace TicketLogin

namespace History

inductive Move
  | navigate (route : String)
  | replace (a : Address)
  | stripTicket

def move (h : History) : Move → History
  | .navigate route => h.navigate route
  | .replace a => h.replace a
  | .stripTicket => h.stripTicket

def run (h : History) (moves : List Move) : History := moves.foldl move h

/-! ## Entries and a place among them -/

/-- Entries and a place that nothing ties to them. A move that looks at a place without an entry
comes to nothing. -/
structure Cursor where
  entries : List Address
  index : Nat
  deriving DecidableEq

namespace Cursor

def location? (c : Cursor) : Option Address := c.entries[c.index]?

def replace? (c : Cursor) (a : Address) : Option Cursor :=
  if c.index < c.entries.length then some ⟨c.entries.set c.index a, c.index⟩ else none

def navigate? (c : Cursor) (route : String) : Option Cursor :=
  c.location?.map fun current =>
    match current.join route with
    | .ok target => ⟨c.entries.take (c.index + 1) ++ [target], c.index + 1⟩
    | .error _ => c

def move? (c : Cursor) : Move → Option Cursor
  | .navigate route => c.navigate? route
  | .replace a => c.replace? a
  | .stripTicket => c.location?.bind fun current => c.replace? current.withoutTicket

def run? (c : Cursor) (moves : List Move) : Option Cursor := moves.foldlM move? c

end Cursor

def cursor (h : History) : Cursor := ⟨h.entries, h.index⟩

theorem location?_cursor (h : History) : h.cursor.location? = some h.location :=
  List.getElem?_eq_getElem h.inside

theorem replace?_cursor (h : History) (a : Address) :
    h.cursor.replace? a = some (h.replace a).cursor :=
  if_pos h.inside

theorem navigate?_cursor (h : History) (route : String) :
    h.cursor.navigate? route = some (h.navigate route).cursor := by
  rw [Cursor.navigate?, location?_cursor, Option.map_some, navigate]
  cases h.location.join route <;> rfl

theorem move?_cursor (h : History) (m : Move) : h.cursor.move? m = some (h.move m).cursor := by
  cases m with
  | navigate route => exact h.navigate?_cursor route
  | replace a => exact h.replace?_cursor a
  | stripTicket =>
    rw [Cursor.move?, location?_cursor]
    exact h.replace?_cursor h.location.withoutTicket

/-- No move of a run looks at a place without an entry. -/
theorem run?_cursor (h : History) (moves : List Move) :
    h.cursor.run? moves = some (h.run moves).cursor := by
  induction moves generalizing h with
  | nil => rfl
  | cons m moves ih =>
    rw [Cursor.run?, List.foldlM_cons, move?_cursor]
    exact ih (h.move m)

/-! ## What a move leaves alone -/

section

variable {h : History}

theorem dropLast_entries (hend : h.AtEnd) : h.entries.dropLast = h.behind := by
  rw [entries_of_atEnd hend, List.dropLast_concat]

theorem entries_replace (hend : h.AtEnd) (a : Address) :
    (h.replace a).entries = h.entries.dropLast ++ [a] := by
  rw [dropLast_entries hend, entries_of_atEnd (atEnd_replace hend a), behind_replace,
    location_replace]

theorem entries_visit (hend : h.AtEnd) (a : Address) : (h.visit a).entries = h.entries ++ [a] := by
  rw [entries_of_atEnd (h.atEnd_visit a), behind_visit, location_visit, ← entries_of_atEnd hend]

theorem atEnd_move (hend : h.AtEnd) (m : Move) : (h.move m).AtEnd := by
  cases m with
  | navigate route => exact atEnd_navigate hend route
  | replace a => exact atEnd_replace hend a
  | stripTicket => exact atEnd_replace hend _

theorem behind_prefix_move (h : History) (m : Move) : h.behind <+: (h.move m).behind := by
  cases m with
  | navigate route => exact h.behind_prefix_navigate route
  | replace a => exact (h.behind_replace a).symm ▸ List.prefix_rfl
  | stripTicket => exact (h.behind_replace _).symm ▸ List.prefix_rfl

theorem atEnd_run (hend : h.AtEnd) (moves : List Move) : (h.run moves).AtEnd := by
  induction moves generalizing h with
  | nil => exact hend
  | cons m moves ih => exact ih (atEnd_move hend m)

theorem behind_prefix_run (h : History) (moves : List Move) :
    h.behind <+: (h.run moves).behind := by
  induction moves generalizing h with
  | nil => exact List.prefix_rfl
  | cons m moves ih => exact (h.behind_prefix_move m).trans (ih (h.move m))

end

/-- After any moves a history is at its last entry: it has never looked at a place without one, a
visit cuts nothing off, a replacement changes that entry only, and what lies behind it stays. -/
theorem entries_kept_by_moves (a : Address) (moves : List Move) :
    let h := (start a).run moves
    Cursor.run? ⟨[a], 0⟩ moves = some ⟨h.entries, h.index⟩ ∧
    h.entries ≠ [] ∧
    h.index + 1 = h.entries.length ∧
    h.entries.take (h.index + 1) = h.entries ∧
    h.entries.getLast? = some h.location ∧
    (∀ b, (h.replace b).entries = h.entries.dropLast ++ [b] ∧
      (h.replace b).entries.length = h.entries.length) ∧
    h.stripTicket.entries = h.entries.dropLast ++ [h.location.withoutTicket] ∧
    (∀ route target, h.location.join route = .ok target →
      (h.navigate route).entries = h.entries ++ [target]) ∧
    (∀ route fault, h.location.join route = .error fault → h.navigate route = h) ∧
    ∀ more, h.entries.dropLast <+: (h.run more).entries.dropLast := by
  intro h
  have hend : h.AtEnd := atEnd_run (atEnd_start a) moves
  have hentries : h.entries = h.behind ++ [h.location] := entries_of_atEnd hend
  refine ⟨(start a).run?_cursor moves, ?_, hend, ?_, ?_,
    fun b => ⟨entries_replace hend b, h.length_replace b⟩, entries_replace hend _, ?_, ?_, ?_⟩
  · rw [hentries]
    exact List.concat_ne_nil _ _
  · rw [hend, List.take_length]
  · rw [hentries, List.getLast?_concat]
  · intro route target hjoin
    rw [navigate, hjoin]
    exact entries_visit hend target
  · intro route fault hjoin
    rw [navigate, hjoin]
  · intro more
    rw [dropLast_entries hend, dropLast_entries (atEnd_run hend more)]
    exact h.behind_prefix_run more

end History

end TicketLogin
