/-!
# Stored items

A store keeps texts under names, in the order of the names and each name once. What the operations
do is said by `get?`; two collections with the same `get?` are equal.
-/

namespace TicketLogin

structure Items where
  entries : List (String × String)
  sorted : entries.Pairwise fun a b => a.1 < b.1
  deriving DecidableEq

namespace Items

def empty : Items := ⟨[], .nil⟩

def get? (items : Items) (name : String) : Option String :=
  (items.entries.find? fun e => e.1 = name).map (·.2)

def insert (items : Items) (name value : String) : Items where
  entries := items.entries.filter (fun e => e.1 < name)
    ++ (name, value) :: items.entries.filter fun e => name < e.1
  sorted := by
    refine List.pairwise_append.2 ⟨items.sorted.filter _, ?_, ?_⟩
    · refine List.pairwise_cons.2 ⟨fun e he => ?_, items.sorted.filter _⟩
      simpa using (List.mem_filter.1 he).2
    · intro a ha b hb
      have hlt : a.1 < name := by simpa using (List.mem_filter.1 ha).2
      rcases List.mem_cons.1 hb with rfl | hb
      · exact hlt
      · exact String.lt_trans hlt (by simpa using (List.mem_filter.1 hb).2)

def erase (items : Items) (name : String) : Items where
  entries := items.entries.filter fun e => e.1 ≠ name
  sorted := items.sorted.filter _

/-- Inserts fields one after the other, so that of one name the last stays. -/
def insertAll (items : Items) (fields : List (String × String)) : Items :=
  fields.foldl (fun acc f => acc.insert f.1 f.2) items

def eraseAll (items : Items) (names : List String) : Items := names.foldl erase items

def ofFields (fields : List (String × String)) : Items := empty.insertAll fields

@[simp] theorem get?_empty (name : String) : empty.get? name = none := rfl

theorem get?_eq_some_iff {items : Items} {name value : String} :
    items.get? name = some value ↔ (name, value) ∈ items.entries := by
  obtain ⟨entries, sorted⟩ := items
  simp only [get?]
  induction entries with
  | nil => simp
  | cons e rest ih =>
    have hs := List.pairwise_cons.1 sorted
    by_cases h : e.1 = name
    · subst h
      have hno : ∀ v, (e.1, v) ∉ rest := fun v hv => String.lt_irrefl e.1 (hs.1 (e.1, v) hv)
      simp only [List.find?_cons, decide_true, Option.map_some, Option.some.injEq, List.mem_cons,
        hno, or_false]
      exact ⟨fun hv => by rw [← hv], fun hv => congrArg Prod.snd hv.symm⟩
    · have hne : (name, value) ≠ e := fun he => h (by rw [← he])
      simp only [List.find?_cons, h, decide_false, List.mem_cons, hne, false_or]
      exact ih hs.2

theorem mem_insert_iff {items : Items} {name value : String} {e : String × String} :
    e ∈ (items.insert name value).entries ↔
      e = (name, value) ∨ (e.1 ≠ name ∧ e ∈ items.entries) := by
  have hne : e.1 ≠ name ↔ e.1 < name ∨ name < e.1 := by
    constructor
    · intro h
      by_cases hl : e.1 < name
      · exact .inl hl
      · by_cases hg : name < e.1
        · exact .inr hg
        · exact absurd (String.le_antisymm (String.not_lt.1 hg) (String.not_lt.1 hl)) h
    · rintro (h | h) he
      · exact String.lt_irrefl _ (he ▸ h)
      · exact String.lt_irrefl _ (he ▸ h)
  simp only [insert, List.mem_append, List.mem_filter, List.mem_cons, decide_eq_true_eq, hne]
  constructor
  · rintro (⟨hm, hl⟩ | h | ⟨hm, hg⟩)
    · exact .inr ⟨.inl hl, hm⟩
    · exact .inl h
    · exact .inr ⟨.inr hg, hm⟩
  · rintro (h | ⟨hl | hg, hm⟩)
    · exact .inr (.inl h)
    · exact .inl ⟨hm, hl⟩
    · exact .inr (.inr ⟨hm, hg⟩)

theorem get?_insert (items : Items) (name value other : String) :
    (items.insert name value).get? other = if other = name then some value else items.get? other := by
  apply Option.ext
  intro v
  rw [get?_eq_some_iff, mem_insert_iff]
  by_cases h : other = name
  · subst h
    simp [eq_comm]
  · simp [h, get?_eq_some_iff]

theorem get?_erase (items : Items) (name other : String) :
    (items.erase name).get? other = if other = name then none else items.get? other := by
  apply Option.ext
  intro v
  rw [get?_eq_some_iff]
  by_cases h : other = name
  · simp [erase, h]
  · simp [erase, h, get?_eq_some_iff]

end Items

end TicketLogin
