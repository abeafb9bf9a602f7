import TicketLogin.Session.Stored

/-!
# Items one by one

Entries that are inserted in their order give back the items. A session is put in place name by
name, taken away name by name, and nothing else is touched by either.
-/

namespace TicketLogin.Items

theorem entries_insert_last {items : Items} {name : String}
    (h : ∀ e ∈ items.entries, e.1 < name) (value : String) :
    (items.insert name value).entries = items.entries ++ [(name, value)] := by
  have hbelow : items.entries.filter (fun e => e.1 < name) = items.entries :=
    List.filter_eq_self.2 fun e he => decide_eq_true (h e he)
  have habove : items.entries.filter (fun e => name < e.1) = [] := by
    rw [List.filter_eq_nil_iff]
    intro e he hlt
    exact String.lt_irrefl _ (String.lt_trans (h e he) (of_decide_eq_true hlt))
  simp only [insert, hbelow, habove]

theorem entries_insertAll {items : Items} {fields : List (String × String)}
    (hsorted : (items.entries ++ fields).Pairwise fun a b => a.1 < b.1) :
    (items.insertAll fields).entries = items.entries ++ fields := by
  induction fields generalizing items with
  | nil => rw [List.append_nil]; rfl
  | cons f fields ih =>
    have hbelow : ∀ e ∈ items.entries, e.1 < f.1 := fun e he =>
      (List.pairwise_append.1 hsorted).2.2 e he f List.mem_cons_self
    have hlast := entries_insert_last hbelow f.2
    have hmore := @ih (items.insert f.1 f.2) (by
      rw [hlast, List.append_assoc]
      exact hsorted)
    rw [hlast, List.append_assoc] at hmore
    exact hmore

theorem eq_of_entries {a b : Items} (h : a.entries = b.entries) : a = b := by
  obtain ⟨entries, sorted⟩ := a
  subst h
  rfl

theorem ofFields_entries (items : Items) : ofFields items.entries = items :=
  eq_of_entries (@entries_insertAll empty items.entries items.sorted)

theorem get?_insertAll_of_ne {fields : List (String × String)} {name : String}
    (h : ∀ f ∈ fields, f.1 ≠ name) (items : Items) :
    (items.insertAll fields).get? name = items.get? name := by
  induction fields generalizing items with
  | nil => rfl
  | cons f fields ih =>
    have hf : name ≠ f.1 := (h f List.mem_cons_self).symm
    rw [insertAll, List.foldl_cons, ← insertAll, ih fun g hg => h g (List.mem_cons_of_mem _ hg),
      get?_insert, if_neg hf]

theorem get?_insertAll_of_mem {fields : List (String × String)}
    (hnames : fields.Pairwise fun a b => a.1 ≠ b.1) (items : Items) {f : String × String}
    (hf : f ∈ fields) : (items.insertAll fields).get? f.1 = some f.2 := by
  induction fields generalizing items with
  | nil => exact absurd hf List.not_mem_nil
  | cons g fields ih =>
    obtain ⟨hg, hnames⟩ := List.pairwise_cons.1 hnames
    rw [insertAll, List.foldl_cons, ← insertAll]
    rcases List.mem_cons.1 hf with rfl | hf
    · rw [get?_insertAll_of_ne fun e he => (hg e he).symm, get?_insert, if_pos rfl]
    · exact ih hnames _ hf

theorem get?_eraseAll (items : Items) (names : List String) (name : String) :
    (items.eraseAll names).get? name = if name ∈ names then none else items.get? name := by
  induction names generalizing items with
  | nil => rfl
  | cons n names ih =>
    rw [eraseAll, List.foldl_cons, ← eraseAll, ih, get?_erase]
    by_cases hn : name = n
    · simp [hn]
    · simp [hn]

theorem toFields_names (s : Session) : s.toFields.Pairwise fun a b => a.1 ≠ b.1 := by
  have h : (s.toFields.map (·.1)).Pairwise (· ≠ ·) := by
    change Session.itemNames.Pairwise (· ≠ ·)
    decide
  exact List.pairwise_map.1 h

theorem get?_putSession {name : String} (hname : name ∉ Session.itemNames) (items : Items)
    (s : Session) : (items.putSession s).get? name = items.get? name := by
  apply get?_insertAll_of_ne
  intro f hf heq
  have hmem : f.1 ∈ s.toFields.map (·.1) := List.mem_map_of_mem hf
  exact hname (heq ▸ hmem)

/-- What the three items hold: nothing, or all of one session. -/
def Holds (items : Items) : Option Session → Prop
  | none => ∀ name ∈ Session.itemNames, items.get? name = none
  | some s => ∀ f ∈ s.toFields, items.get? f.1 = some f.2

theorem holds_putSession (items : Items) (s : Session) : (items.putSession s).Holds (some s) :=
  fun _ hf => get?_insertAll_of_mem (toFields_names s) items hf

theorem holds_dropSession (items : Items) : items.dropSession.Holds none := by
  intro name hname
  rw [dropSession, get?_eraseAll, if_pos hname]

theorem holds_none_iff (items : Items) : items.Holds none ↔ items.hasSessionItem = false := by
  simp [Holds, hasSessionItem]

end TicketLogin.Items
