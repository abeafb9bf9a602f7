import TicketLogin.Address.Reader
import TicketLogin.Proofs.Address.Pairs

/-!
# The marks of a text

In a text a question mark opens the query and a number sign the fragment; whatever stands before the
first of these marks belongs to the path or to what comes before it. Neither the escapes nor the
reading of a path write a mark, and a path is read up to the first one.
-/

namespace TicketLogin

namespace Address

def isMark (c : Char) : Bool := c == '?' || c == '#'

def Unmarked (s : List Char) : Prop := ∀ c ∈ s, isMark c = false

instance (s : List Char) : Decidable (Unmarked s) :=
  List.decidableBAll (fun c => isMark c = false) s

theorem forall_isMark {p : Char → Prop} (hquery : p '?') (hfragment : p '#') (c : Char)
    (h : isMark c = true) : p c := by
  rw [isMark, Bool.or_eq_true, beq_iff_eq, beq_iff_eq] at h
  obtain rfl | rfl := h
  · exact hquery
  · exact hfragment

theorem isMark_eq_false {p : Char → Bool} (hquery : p '?' = false) (hfragment : p '#' = false)
    {c : Char} (h : p c = true) : isMark c = false :=
  Bool.eq_false_iff.2 fun hmark => by
    have hc := forall_isMark (p := fun c => p c = false) hquery hfragment c hmark
    rw [hc] at h
    cases h

theorem isMark_of_isFormSafe {c : Char} (h : Percent.isFormSafe c = true) : isMark c = false :=
  isMark_eq_false (by decide) (by decide) h

theorem isMark_of_slashes {k : Kind} {c : Char} (h : k.slashes c = true) : isMark c = false := by
  cases k <;> exact isMark_eq_false (by decide) (by decide) h

section

variable {s t : List Char} {c : Char}

@[simp] theorem unmarked_nil : Unmarked [] := by simp [Unmarked]

@[simp] theorem unmarked_cons : Unmarked (c :: s) ↔ isMark c = false ∧ Unmarked s :=
  List.forall_mem_cons

@[simp] theorem unmarked_append : Unmarked (s ++ t) ↔ Unmarked s ∧ Unmarked t :=
  List.forall_mem_append

theorem Unmarked.of_subset (h : Unmarked t) (hsub : s ⊆ t) : Unmarked s :=
  fun c hc => h c (hsub hc)

theorem Unmarked.not_mem (h : Unmarked s) (hc : isMark c = true) : c ∉ s := fun hmem => by
  rw [h c hmem] at hc
  cases hc

theorem unmarked_takeWhile {p : Char → Bool} (hp : ∀ c, isMark c = true → p c = false)
    (s : List Char) : Unmarked (s.takeWhile p) := fun c hc =>
  Bool.eq_false_iff.2 fun hmark => by
    have hpc := List.mem_takeWhile_imp hc
    rw [hp c hmark] at hpc
    cases hpc

theorem unmarked_of_not_any {p : Char → Bool} (hp : ∀ c, isMark c = true → p c = true)
    (h : ¬ s.any p = true) : Unmarked s := fun c hc =>
  Bool.eq_false_iff.2 fun hmark => h (List.any_eq_true.2 ⟨c, hc, hp c hmark⟩)

end

/-! ## What follows the path -/

/-- All that stands in a text from its first mark on. -/
def tailOf (s : List Char) : List Char := s.dropWhile fun c => !isMark c

/-- The query that stands in a text. -/
def queryOf (s : List Char) : Option (List Char) := (Text.cutAt '?' (Text.cutAt '#' s).1).2

theorem tailOf_append {s : List Char} (h : Unmarked s) (t : List Char) :
    tailOf (s ++ t) = tailOf t :=
  List.dropWhile_append_of_pos fun c hc => by rw [h c hc]; rfl

theorem tailOf_cons {c : Char} (h : isMark c = false) (s : List Char) :
    tailOf (c :: s) = tailOf s :=
  tailOf_append (s := [c]) (by simpa using h) s

theorem tailOf_cons_of_mark {c : Char} (h : isMark c = true) (s : List Char) :
    tailOf (c :: s) = c :: s :=
  List.dropWhile_cons_of_neg (by simp [h])

theorem tailOf_drop {s : List Char} {n : Nat} (h : Unmarked (s.take n)) :
    tailOf (s.drop n) = tailOf s := by
  rw [← tailOf_append h, List.take_append_drop]

theorem tailOf_dropWhile {p : Char → Bool} (hp : ∀ c, isMark c = true → p c = false)
    (s : List Char) : tailOf (s.dropWhile p) = tailOf s := by
  rw [← tailOf_append (unmarked_takeWhile hp s), List.takeWhile_append_dropWhile]

/-! ## The query of a text -/

theorem queryOf_append {s : List Char} (h : Unmarked s) (t : List Char) :
    queryOf (s ++ t) = queryOf t := by
  rw [queryOf, Text.cutAt_append_left (h.not_mem rfl), Text.cutAt_append_left (h.not_mem rfl)]
  rfl

theorem queryOf_tailOf (s : List Char) : queryOf (tailOf s) = queryOf s := by
  have hhead : Unmarked (s.takeWhile fun c => !isMark c) :=
    unmarked_takeWhile (fun c hc => by rw [hc]; rfl) s
  rw [tailOf, ← queryOf_append hhead, List.takeWhile_append_dropWhile]

theorem queryOf_of_not_mem {s : List Char} (h : '?' ∉ s) : queryOf s = none := by
  rw [queryOf, Text.cutAt_of_not_mem]
  exact fun hmem => h (Text.cutAt_fst_subset _ _ hmem)

/-- The query that is read behind a path is the one that stands in the text, escaped. -/
theorem query_readTail (k : Kind) (s : List Char) :
    (readTail k (tailOf s)).1 = (queryOf s).map (Percent.encode (Escapes.inQuery k)) := by
  rw [← queryOf_tailOf, queryOf]
  cases htail : tailOf s with
  | nil => rfl
  | cons c rest =>
    have hmark : isMark c = true := by
      have hhead := List.head?_dropWhile_not (fun c => !isMark c) s
      rw [← tailOf, htail] at hhead
      simpa using hhead
    obtain rfl | rfl : c = '?' ∨ c = '#' := by simpa [isMark] using hmark
    · rfl
    · rfl

/-! ## Escapes -/

theorem unmarked_encodeChar (c : Char) : Unmarked (Percent.encodeChar c) := by
  intro d hd
  obtain rfl | hsafe := Percent.mem_encodeChar hd
  · rfl
  · exact isMark_of_isFormSafe hsafe

theorem unmarked_encode {escaped : Char → Bool} {s : List Char}
    (h : ∀ c ∈ s, escaped c = false → isMark c = false) : Unmarked (Percent.encode escaped s) := by
  intro c hc
  obtain ⟨hc, hkept⟩ | rfl | hsafe := Percent.mem_encode hc
  · exact h c hc hkept
  · rfl
  · exact isMark_of_isFormSafe hsafe

/-! ## Paths -/

namespace Path

variable {k : Kind} {path : List Char} {w : Walk}

theorem unmarked_uptoLastSlash (h : Unmarked path) : Unmarked (uptoLastSlash path) :=
  h.of_subset ( List.rdropWhile_prefix (· != '/') path).subset

theorem unmarked_pop (h : Unmarked path) : Unmarked (pop k path) := by
  unfold pop
  split
  · exact h
  · exact unmarked_uptoLastSlash h

theorem unmarked_withSlash (h : Unmarked path) : Unmarked (withSlash path) := by
  unfold withSlash
  split
  · exact h
  · exact unmarked_append.2 ⟨h, by decide⟩

theorem unmarked_rooted (h : Unmarked path) : Unmarked (rooted k path) := by
  unfold rooted
  split
  · exact unmarked_cons.2 ⟨rfl, h.of_subset (List.dropWhile_sublist _).subset⟩
  · exact h

namespace Walk

/-- No mark has been read into the path so far. -/
structure Clear (w : Walk) : Prop where
  done : Unmarked w.done
  seg : Unmarked w.seg

theorem unmarked_unslash (h : Unmarked path) : Unmarked (unslash path) := by
  unfold unslash
  dsimp only
  split
  · exact h.of_subset (List.dropLast_subset path)
  · exact h

theorem Clear.close (h : w.Clear) (slash : Bool) : (w.close k slash).Clear := by
  unfold Walk.close
  split
  · refine ⟨?_, unmarked_nil⟩
    have hup := unmarked_pop (k := k) (unmarked_unslash h.done)
    cases slash with
    | false => exact hup
    | true => exact unmarked_withSlash hup
  · split
    · exact ⟨unmarked_withSlash h.done, unmarked_nil⟩
    · have htail : Unmarked (if slash = true then ['/'] else []) := by cases slash <;> decide
      dsimp only
      generalize (if slash = true then ['/'] else []) = tail at htail
      split
      · have hseg := h.seg.of_subset (List.take_subset 1 w.seg)
        refine ⟨?_, unmarked_nil⟩
        simp only [unmarked_append, unmarked_cons]
        exact ⟨⟨h.done, hseg⟩, rfl, htail⟩
      · refine ⟨?_, unmarked_nil⟩
        simp only [unmarked_append]
        exact ⟨⟨h.done, h.seg⟩, htail⟩

theorem Clear.push (h : w.Clear) {c : Char} (hc : isMark c = false) : (w.push k c).Clear := by
  have hwritten : Unmarked (if Escapes.inPath c = true then Percent.encodeChar c else [c]) := by
    split
    · exact unmarked_encodeChar c
    · exact unmarked_cons.2 ⟨hc, unmarked_nil⟩
  unfold Walk.push
  dsimp only
  generalize (if Escapes.inPath c = true then Percent.encodeChar c else [c]) = written at hwritten
  split
  · have hpath : Unmarked (w.done ++ w.seg ++ ['/']) := by
      simp only [unmarked_append]
      exact ⟨⟨h.done, h.seg⟩, by decide⟩
    exact ⟨hpath.of_subset (List.take_subset _ _),
      unmarked_append.2 ⟨hpath.of_subset (List.drop_subset _ _), hwritten⟩⟩
  · exact ⟨h.done, unmarked_append.2 ⟨h.seg, hwritten⟩⟩

end Walk

theorem clear_walk (h : w.Clear) (s : List Char) : (walk k w s).1.Clear := by
  induction s generalizing w with
  | nil => exact h.close false
  | cons c s ih =>
    rw [walk]
    by_cases hslash : k.slashes c = true
    · rw [if_pos hslash]
      exact ih (h.close true)
    · rw [if_neg hslash]
      by_cases hmark : c = '?' ∨ c = '#'
      · rw [if_pos hmark]
        exact h.close false
      · rw [if_neg hmark]
        exact ih (h.push (by simpa [isMark, not_or] using hmark))

theorem rest_walk (w : Walk) (s : List Char) : (walk k w s).2 = tailOf s := by
  induction s generalizing w with
  | nil => rfl
  | cons c s ih =>
    rw [walk]
    by_cases hslash : k.slashes c = true
    · rw [if_pos hslash, tailOf_cons (isMark_of_slashes hslash), ih]
    · rw [if_neg hslash]
      by_cases hmark : c = '?' ∨ c = '#'
      · rw [if_pos hmark, tailOf_cons_of_mark (by simpa [isMark] using hmark)]
      · rw [if_neg hmark, tailOf_cons (by simpa [isMark, not_or] using hmark), ih]

theorem unmarked_read {start : List Char} (h : Unmarked start) (s : List Char) :
    Unmarked (read k start s).1 :=
  unmarked_rooted (clear_walk ⟨h, unmarked_nil⟩ s).done

theorem rest_read (start s : List Char) : (read k start s).2.2 = tailOf s := rest_walk _ s

theorem unmarked_readAfterHost (k : Kind) (s : List Char) : Unmarked (readAfterHost k s).1 := by
  have hslash : Unmarked ['/'] := by decide
  unfold readAfterHost
  split
  · exact unmarked_nil
  · split
    · exact unmarked_nil
    · refine unmarked_read ?_ _
      split
      · exact unmarked_nil
      · exact hslash
  · split
    · exact unmarked_read hslash _
    · exact unmarked_read hslash _
  · exact unmarked_read hslash _

theorem rest_readAfterHost (k : Kind) (s : List Char) : (readAfterHost k s).2.2 = tailOf s := by
  unfold readAfterHost
  split
  · rfl
  · split
    · next hmark => exact (tailOf_cons_of_mark (by simpa [isMark] using hmark) _).symm
    · exact rest_read _ _
  · split
    · next hslash => exact (rest_read _ _).trans (tailOf_cons (isMark_of_slashes hslash) _).symm
    · exact rest_read _ _
  · exact rest_read _ _

end Path

end Address

end TicketLogin
