import TicketLogin.Proofs.Address.Pairs
import TicketLogin.History

/-!
# What lies behind the current entry

The entries behind the current one stay as they are, and the current one joins them when it is left.
As long as nobody goes back, the current entry is the last, so a history is what lies behind and the
current entry.
-/

namespace TicketLogin.History

def behind (h : History) : List Address := h.entries.take h.index

def AtEnd (h : History) : Prop := h.index + 1 = h.entries.length

theorem length_behind (h : History) : h.behind.length = h.index :=
  List.length_take_of_le (Nat.le_of_lt h.inside)

theorem take_succ_index (h : History) : h.entries.take (h.index + 1) = h.behind ++ [h.location] := by
  rw [List.take_add_one, List.getElem?_eq_getElem h.inside]
  rfl

theorem entries_of_atEnd {h : History} (hend : h.AtEnd) : h.entries = h.behind ++ [h.location] := by
  rw [← h.take_succ_index, hend, List.take_length]

theorem atEnd_start (a : Address) : (start a).AtEnd := rfl

theorem behind_replace (h : History) (a : Address) : (h.replace a).behind = h.behind :=
  List.take_set_of_le (Nat.le_refl _)

theorem stripTicket_stripTicket (h : History) : h.stripTicket.stripTicket = h.stripTicket := by
  rw [stripTicket, stripTicket, location_replace, Address.withoutTicket_withoutTicket]
  simp only [replace, List.set_set]

theorem atEnd_replace {h : History} (hend : h.AtEnd) (a : Address) : (h.replace a).AtEnd := by
  rw [AtEnd, length_replace]
  exact hend

theorem behind_visit (h : History) (a : Address) : (h.visit a).behind = h.behind ++ [h.location] := by
  rw [behind, ← h.take_succ_index]
  apply List.take_left'
  rw [List.length_take]
  exact Nat.min_eq_left h.inside

theorem atEnd_visit (h : History) (a : Address) : (h.visit a).AtEnd := by
  have hi := h.inside
  simp only [AtEnd, visit, List.length_append, List.length_take, List.length_singleton]
  omega

theorem navigate_cases (h : History) (route : String) :
    h.navigate route = h ∨ ∃ a, h.navigate route = h.visit a := by
  unfold navigate
  split
  · exact .inr ⟨_, rfl⟩
  · exact .inl rfl

theorem atEnd_navigate {h : History} (hend : h.AtEnd) (route : String) : (h.navigate route).AtEnd := by
  obtain heq | ⟨a, heq⟩ := h.navigate_cases route
  · rwa [heq]
  · rw [heq]
    exact h.atEnd_visit a

theorem behind_prefix_navigate (h : History) (route : String) :
    h.behind <+: (h.navigate route).behind := by
  obtain heq | ⟨a, heq⟩ := h.navigate_cases route
  · exact ⟨[], by rw [heq, List.append_nil]⟩
  · rw [heq, behind_visit]
    exact List.prefix_append _ _

def Carries (h : History) (t : Ticket) : Prop := ∃ a ∈ h.entries, a.Carries t

instance (h : History) (t : Ticket) : Decidable (h.Carries t) :=
  inferInstanceAs (Decidable (∃ a ∈ h.entries, a.Carries t))

theorem carries_iff {h : History} (hend : h.AtEnd) (t : Ticket) :
    h.Carries t ↔ (∃ a ∈ h.behind, a.Carries t) ∨ h.location.Carries t := by
  rw [Carries, entries_of_atEnd hend]
  constructor
  · rintro ⟨a, ha, hc⟩
    rcases List.mem_append.1 ha with ha | ha
    · exact .inl ⟨a, ha, hc⟩
    · exact .inr (List.mem_singleton.1 ha ▸ hc)
  · rintro (⟨a, ha, hc⟩ | hc)
    · exact ⟨a, List.mem_append_left _ ha, hc⟩
    · exact ⟨_, List.mem_append_right _ (List.mem_singleton_self _), hc⟩

theorem stripTicket_carries_iff {h : History} (hend : h.AtEnd) (t : Ticket) :
    h.stripTicket.Carries t ↔ ∃ a ∈ h.behind, a.Carries t := by
  rw [stripTicket, carries_iff (atEnd_replace hend _), behind_replace, location_replace]
  have hclean := h.location.not_carries_withoutTicket t
  constructor
  · rintro (hbehind | hc)
    · exact hbehind
    · exact absurd hc hclean
  · exact .inl

/-- Taking the ticket out and moving on leaves the ticket where it was behind, and may bring it up
again with the new entry. -/
theorem stripTicket_navigate_carries_iff {h : History} (hend : h.AtEnd) (route : String)
    (t : Ticket) :
    (h.stripTicket.navigate route).Carries t ↔
      (∃ a ∈ h.behind, a.Carries t) ∨ (h.stripTicket.navigate route).location.Carries t := by
  have hstrip : h.stripTicket.AtEnd := atEnd_replace hend _
  rw [carries_iff (atEnd_navigate hstrip route), ← stripTicket_carries_iff hend, carries_iff hstrip]
  obtain heq | ⟨a, heq⟩ := h.stripTicket.navigate_cases route
  · rw [heq, or_assoc, or_self]
  · rw [heq, behind_visit]
    simp [or_and_right, exists_or]

end TicketLogin.History
