import TicketLogin.History
import TicketLogin.Proofs.Address.Reading
import TicketLogin.Proofs.Ticket

/-!
# Finding no ticket in a written address

Before a text is read as an address it loses the blanks at its ends and the line breaks in it. A
query that was written from pairs has neither, so the written form of an address is read back with
the same pairs. An address without a ticket stays so along every route that brings no query of its
own, since such a route leads to a query only by taking over that of its base.
-/

namespace TicketLogin

namespace Text

theorem cutAt_filter {sep : Char} {keep : Char → Bool} (h : keep sep = true) (s : List Char) :
    cutAt sep (s.filter keep) =
      ((cutAt sep s).1.filter keep, (cutAt sep s).2.map (·.filter keep)) := by
  induction s with
  | nil => rfl
  | cons c s ih =>
    by_cases hc : c = sep
    · subst hc
      rw [List.filter_cons_of_pos h, cutAt, cutAt, if_pos rfl, if_pos rfl]
      rfl
    · rw [cutAt, if_neg hc]
      by_cases hkeep : keep c = true
      · rw [List.filter_cons_of_pos hkeep, cutAt, if_neg hc, ih, List.filter_cons_of_pos hkeep]
      · rw [List.filter_cons_of_neg hkeep, ih, List.filter_cons_of_neg hkeep]

theorem trimBy_append (p : Char → Bool) (s : List Char) :
    ∃ back, (∀ c ∈ back, p c = true) ∧ trimBy p s ++ back = s.dropWhile p :=
  ⟨(s.dropWhile p).rtakeWhile p, fun _ => List.mem_rtakeWhile_imp,
    List.rdropWhile_append_rtakeWhile⟩

end Text

namespace Address

/-! ## What is dropped before reading -/

theorem queryOf_filter {keep : Char → Bool} (hquery : keep '?' = true) (hfragment : keep '#' = true)
    (s : List Char) : queryOf (s.filter keep) = (queryOf s).map (·.filter keep) := by
  rw [queryOf, Text.cutAt_filter hfragment, Text.cutAt_filter hquery]
  rfl

/-- What is added behind a text without a mark of its own ends up in the query at most. -/
theorem queryOf_append_right {back : List Char} (h : Unmarked back) (s : List Char) :
    ∃ rest, rest ⊆ back ∧ queryOf (s ++ back) = (queryOf s).map (· ++ rest) := by
  by_cases hfragment : '#' ∈ s
  · obtain ⟨front, behind, rfl, hfront⟩ := List.eq_append_cons_of_mem hfragment
    refine ⟨[], List.nil_subset _, ?_⟩
    rw [List.append_assoc, List.cons_append, queryOf, queryOf, Text.cutAt_append hfront,
      Text.cutAt_append hfront]
    simp only [List.append_nil, Option.map_id']
  · have hboth : '#' ∉ s ++ back := by
      rw [List.mem_append, not_or]
      exact ⟨hfragment, h.not_mem rfl⟩
    rw [queryOf, queryOf, Text.cutAt_of_not_mem hfragment, Text.cutAt_of_not_mem hboth]
    by_cases hquery : '?' ∈ s
    · obtain ⟨front, behind, rfl, hfront⟩ := List.eq_append_cons_of_mem hquery
      refine ⟨back, List.Subset.refl _, ?_⟩
      rw [List.append_assoc, List.cons_append, Text.cutAt_append hfront, Text.cutAt_append hfront]
      rfl
    · refine ⟨[], List.nil_subset _, ?_⟩
      rw [Text.cutAt_append_left hquery, Text.cutAt_of_not_mem hquery,
        Text.cutAt_of_not_mem (h.not_mem rfl)]
      rfl

theorem filter_of_solid {s : List Char} (h : ∀ c ∈ s, 0x20 < c.toNat) :
    (s.filter fun c => c ≠ '\t' ∧ c ≠ '\n' ∧ c ≠ '\r') = s := by
  refine List.filter_eq_self.2 fun c hc => decide_eq_true ?_
  have hc := h c hc
  refine ⟨?_, ?_, ?_⟩ <;> rintro rfl <;> exact absurd hc (by decide)

/-- Whatever comes behind it, a front without blanks is there when a text is read. -/
theorem cleaned_append {front : List Char} (hfront : front ≠ [])
    (hsolid : ∀ c ∈ front, 0x20 < c.toNat) (s : List Char) :
    ∃ rest, cleaned (front ++ s) = front ++ rest := by
  obtain ⟨back, hback, htrim⟩ := Text.trimBy_append (fun c => c.toNat ≤ 0x20) (front ++ s)
  have hwhole : (front ++ s).dropWhile (fun c => decide (c.toNat ≤ 0x20)) = front ++ s := by
    obtain ⟨c, more, rfl⟩ := List.exists_cons_of_ne_nil hfront
    exact List.dropWhile_cons_of_neg (by simpa using hsolid c List.mem_cons_self)
  rw [hwhole, List.append_eq_append_iff] at htrim
  rw [cleaned]
  generalize Text.trimBy (fun c => decide (c.toNat ≤ 0x20)) (front ++ s) = trimmed at htrim ⊢
  obtain ⟨lost, rfl, rfl⟩ | ⟨rest, rfl, _⟩ := htrim
  · have hnil : lost = [] := List.eq_nil_iff_forall_not_mem.2 fun c hc => by
      have hblank := of_decide_eq_true (hback c (List.mem_append_left _ hc))
      have hsolid := hsolid c (List.mem_append_right _ hc)
      omega
    rw [hnil, List.append_nil] at hsolid ⊢
    exact ⟨[], by rw [filter_of_solid hsolid, List.append_nil]⟩
  · rw [List.filter_append, filter_of_solid hsolid]
    exact ⟨_, rfl⟩

theorem queryOf_cleaned {s : List Char} (h : ∀ q ∈ queryOf s, ∀ c ∈ q, 0x20 < c.toNat) :
    queryOf (cleaned s) = queryOf s := by
  obtain ⟨back, hback, htrim⟩ := Text.trimBy_append (fun c => c.toNat ≤ 0x20) s
  have hblank : ∀ c ∈ back, c.toNat ≤ 0x20 := fun c hc => of_decide_eq_true (hback c hc)
  have hfront : queryOf (s.dropWhile fun c => c.toNat ≤ 0x20) = queryOf s := by
    rw [← queryOf_tailOf, tailOf_dropWhile (forall_isMark (by decide) (by decide)), queryOf_tailOf]
  have hunmarked : Unmarked back := fun c hc =>
    isMark_eq_false (p := fun c => decide (c.toNat ≤ 0x20)) (by decide) (by decide) (hback c hc)
  obtain ⟨rest, hrest, hquery⟩ :=
    queryOf_append_right hunmarked (Text.trimBy (fun c => c.toNat ≤ 0x20) s)
  rw [htrim, hfront] at hquery
  rw [cleaned, queryOf_filter (by decide) (by decide)]
  cases htrimmed : queryOf (Text.trimBy (fun c => c.toNat ≤ 0x20) s) with
  | none =>
    rw [hquery, htrimmed]
    rfl
  | some q =>
    rw [htrimmed, Option.map_some] at hquery
    have hsolid := h _ hquery
    have hnil : rest = [] := List.eq_nil_iff_forall_not_mem.2 fun c hc =>
      absurd (hblank c (hrest hc)) (Nat.not_le.2 (hsolid c (List.mem_append_right _ hc)))
    rw [hquery, hnil, List.append_nil, Option.map_some]
    exact congrArg some (filter_of_solid fun c hc => hsolid c (List.mem_append_left _ hc))

theorem queryOf_cleaned_of_not_mem {s : List Char} (h : '?' ∉ s) : queryOf (cleaned s) = none := by
  have hnone := queryOf_of_not_mem h
  rw [queryOf_cleaned (by rw [hnone]; rintro _ ⟨⟩), hnone]

/-! ## Queries that are written from pairs -/

/-- The characters of a query that is written from pairs. -/
def isPairChar (c : Char) : Bool :=
  Percent.isFormSafe c || c == '+' || c == '%' || c == '=' || c == '&'

theorem isPairChar_of_mem {ps : List Pair} {c : Char} (h : c ∈ writePairs ps) :
    isPairChar c = true := by
  have hform : ∀ {s : List Char}, c ∈ Percent.formEncode s → isPairChar c = true := by
    intro s hc
    obtain rfl | hsafe | rfl := Percent.mem_formEncode hc
    · rfl
    · rw [isPairChar, hsafe]
      rfl
    · rfl
  obtain rfl | ⟨text, htext, hc⟩ := Text.mem_joinWith h
  · rfl
  · obtain ⟨p, _, rfl⟩ := List.mem_map.1 htext
    rw [Pair.text, List.mem_append, List.mem_cons] at hc
    obtain hname | rfl | hvalue := hc
    · exact hform hname
    · rfl
    · exact hform hvalue

section

variable {c : Char}

theorem isPairChar_iff : isPairChar c = true ↔
    (48 ≤ c.toNat ∧ c.toNat ≤ 57) ∨ (65 ≤ c.toNat ∧ c.toNat ≤ 90) ∨
    (97 ≤ c.toNat ∧ c.toNat ≤ 122) ∨ c.toNat ∈ [37, 38, 42, 43, 45, 46, 61, 95] := by
  simp only [isPairChar, Percent.isFormSafe, Bool.or_eq_true, Bool.and_eq_true,
    decide_eq_true_eq, beq_iff_eq, ← Char.toNat_inj, Char.reduceToNat, List.mem_cons,
    List.not_mem_nil, or_false]
  omega

theorem solid_of_isPairChar (h : isPairChar c = true) : 0x20 < c.toNat := by
  simp only [isPairChar_iff, List.mem_cons, List.not_mem_nil, or_false] at h
  omega

theorem inQuery_of_isPairChar (h : isPairChar c = true) (k : Kind) :
    Escapes.inQuery k c = false := by
  simp only [isPairChar_iff, List.mem_cons, List.not_mem_nil, or_false] at h
  simp only [Escapes.inQuery, Escapes.control, Bool.or_eq_false_iff, Bool.and_eq_false_iff,
    decide_eq_false_iff_not, beq_eq_false_iff_ne, ne_eq, ← Char.toNat_inj, Char.reduceToNat]
  omega

end

/-! ## Addresses without a ticket -/

/-- An address that has been read and has lost its tickets. -/
structure Stripped (a : Address) : Prop where
  wellMarked : a.WellMarked
  query : ∀ q ∈ a.query, ∃ ps : List Pair, q = writePairs ps ∧ ∀ p ∈ ps, p.1 ≠ Ticket.pairName

theorem Stripped.ne_pairName {a : Address} (h : a.Stripped) : ∀ p ∈ a.pairs, p.1 ≠ Ticket.pairName := by
  intro p hp
  cases hquery : a.query with
  | none =>
    rw [pairs, hquery] at hp
    cases hp
  | some q =>
    obtain ⟨ps, rfl, hps⟩ := h.query q hquery
    rw [pairs, hquery] at hp
    have hp : p ∈ readPairs (writePairs ps) := hp
    rw [readPairs_writePairs] at hp
    exact hps p hp

/-- Whoever reads what is written of such an address finds the same query. -/
theorem Stripped.query_of_read {a b : Address} (h : a.Stripped) (hread : read a.toText = .ok b) :
    b.query = a.query := by
  have hchars : ∀ q ∈ a.query, ∀ c ∈ q, isPairChar c = true := by
    intro q hq c hc
    obtain ⟨ps, rfl, _⟩ := h.query q hq
    exact isPairChar_of_mem hc
  have hquery : queryOf (cleaned a.text) = a.query := by
    rw [queryOf_cleaned, h.wellMarked.queryOf_text]
    rw [h.wellMarked.queryOf_text]
    exact fun q hq c hc => solid_of_isPairChar (hchars q hq c hc)
  rw [read, toText, String.toList_ofList] at hread
  have hfrom : ReadFrom none (cleaned a.text) b :=
    readFrom_resolve (fun b hb => by cases hb) hread
  obtain hfound | ⟨_, base, hbase, _⟩ := hfrom.query
  · rw [hfound, hquery]
    cases hq : a.query with
    | none => rfl
    | some q =>
      rw [Option.map_some, Percent.encode_eq_self]
      exact fun c hc => inQuery_of_isPairChar (hchars q hq c hc) _
  · cases hbase

theorem Stripped.join {a b : Address} (h : a.Stripped) {route : String} (hroute : '?' ∉ route.toList)
    (hjoin : a.join route = .ok b) : b.Stripped := by
  have hbase : ∀ c ∈ some a, c.WellMarked := by
    rintro _ ⟨⟩
    exact h.wellMarked
  have hfrom := readFrom_resolve hbase hjoin
  have hnone := queryOf_cleaned_of_not_mem hroute
  refine ⟨hfrom.wellMarked, ?_⟩
  obtain hfound | ⟨_, _, ⟨⟩, hquery⟩ := hfrom.query
  · rw [hnone] at hfound
    rw [hfound]
    rintro _ ⟨⟩
  · rw [hquery]
    exact h.query

theorem dropFinalSpaces_subset (s : List Char) : dropFinalSpaces s ⊆ s :=
  ( List.rdropWhile_prefix (· == ' ') s).subset

theorem wellMarked_of_read {s : String} {a : Address} (h : read s = .ok a) : a.WellMarked := by
  have hnone : ∀ b ∈ (none : Option Address), b.WellMarked := fun b hb => by cases hb
  exact (readFrom_resolve hnone h).wellMarked

theorem WellMarked.stripped_withoutTicket {a : Address} (h : a.WellMarked) :
    a.withoutTicket.Stripped := by
  unfold withoutTicket
  split
  · refine ⟨⟨h.scheme, h.authority, ?_, ?_⟩, ?_⟩
    · dsimp only [withoutQuery]
      split
      · exact h.path.of_subset (dropFinalSpaces_subset a.path)
      · exact h.path
    · rintro _ ⟨⟩
    · rintro _ ⟨⟩
  · refine ⟨⟨h.scheme, h.authority, h.path, ?_⟩, ?_⟩
    · rintro _ ⟨⟩ hmark
      exact absurd (isPairChar_of_mem hmark) (by decide)
    · rintro _ ⟨⟩
      refine ⟨a.otherPairs, rfl, fun p hp => ?_⟩
      simpa [isTicketPair] using not_isTicketPair_of_mem hp

end Address

/-- Where a history is after its ticket has gone and a route has been followed. -/
theorem History.stripped_navigate {visited : History} (h : visited.location.Stripped)
    {route : String} (hroute : '?' ∉ route.toList) :
    (visited.navigate route).location.Stripped := by
  unfold navigate
  cases hjoin : visited.location.join route with
  | error fault => exact h
  | ok target =>
    dsimp only
    rw [location_visit]
    exact h.join hroute hjoin

end TicketLogin
