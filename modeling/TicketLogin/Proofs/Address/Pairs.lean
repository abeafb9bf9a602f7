import Mathlib.Data.List.DropRight
import TicketLogin.Proofs.Text.Percent
import TicketLogin.Ticket.Basic

/-!
# Reading back query pairs

The form encoding writes none of the marks `&` and `=`, so pairs that are written as a query are
read back one by one. An address without its ticket keeps its other pairs, in their order, and has
no further pair.
-/

namespace TicketLogin

namespace Text

theorem splitOn_of_not_mem {sep : Char} {s : List Char} (h : sep ∉ s) : splitOn sep s = [s] := by
  induction s with
  | nil => rfl
  | cons c s ih =>
    have hc : c ≠ sep := fun e => h (e ▸ List.mem_cons_self)
    rw [splitOn, if_neg hc, ih fun hs => h (List.mem_cons_of_mem _ hs)]

theorem splitOn_append_sep (sep : Char) (s rest : List Char) :
    splitOn sep (s ++ sep :: rest) = splitOn sep s ++ splitOn sep rest := by
  induction s with
  | nil => simp [splitOn]
  | cons c s ih =>
    rw [List.cons_append, splitOn, splitOn, ih]
    by_cases hc : c = sep
    · rw [if_pos hc, if_pos hc, List.cons_append]
    · rw [if_neg hc, if_neg hc]
      cases hs : splitOn sep s with
      | nil => exact absurd hs (splitOn_ne_nil sep s)
      | cons part parts => rfl

theorem splitOn_append {sep : Char} {s : List Char} (h : sep ∉ s) (rest : List Char) :
    splitOn sep (s ++ sep :: rest) = s :: splitOn sep rest := by
  rw [splitOn_append_sep, splitOn_of_not_mem h, List.singleton_append]

theorem splitOn_joinWith {sep : Char} {parts : List (List Char)} (hne : parts ≠ [])
    (h : ∀ part ∈ parts, sep ∉ part) : splitOn sep (joinWith sep parts) = parts := by
  induction parts with
  | nil => exact absurd rfl hne
  | cons part parts ih =>
    have hpart := h part List.mem_cons_self
    cases parts with
    | nil => exact splitOn_of_not_mem hpart
    | cons next parts =>
      rw [joinWith, splitOn_append hpart, ih (List.cons_ne_nil _ _)
        fun p hp => h p (List.mem_cons_of_mem _ hp)]
      exact List.cons_ne_nil _ _

theorem mem_joinWith {sep c : Char} {parts : List (List Char)} (h : c ∈ joinWith sep parts) :
    c = sep ∨ ∃ part ∈ parts, c ∈ part := by
  induction parts with
  | nil => cases h
  | cons part parts ih =>
    cases parts with
    | nil => exact .inr ⟨part, List.mem_cons_self, h⟩
    | cons next parts =>
      rw [joinWith, List.mem_append, List.mem_cons] at h
      · obtain hpart | rfl | hrest := h
        · exact .inr ⟨part, List.mem_cons_self, hpart⟩
        · exact .inl rfl
        · obtain rfl | ⟨found, hfound, hc⟩ := ih hrest
          · exact .inl rfl
          · exact .inr ⟨found, List.mem_cons_of_mem _ hfound, hc⟩
      · exact List.cons_ne_nil _ _

theorem cutAt_append_left {sep : Char} {s : List Char} (h : sep ∉ s) (rest : List Char) :
    cutAt sep (s ++ rest) = (s ++ (cutAt sep rest).1, (cutAt sep rest).2) := by
  induction s with
  | nil => rfl
  | cons c s ih =>
    have hc : c ≠ sep := fun e => h (e ▸ List.mem_cons_self)
    rw [List.cons_append, cutAt, if_neg hc, ih fun hs => h (List.mem_cons_of_mem _ hs)]
    rfl

theorem cutAt_of_not_mem {sep : Char} {s : List Char} (h : sep ∉ s) : cutAt sep s = (s, none) := by
  have hcut := cutAt_append_left h []
  rwa [List.append_nil, cutAt, List.append_nil] at hcut

theorem cutAt_fst_subset (sep : Char) (s : List Char) : (cutAt sep s).1 ⊆ s := by
  induction s with
  | nil => exact List.Subset.refl _
  | cons c s ih =>
    rw [cutAt]
    split
    · exact List.nil_subset _
    · exact List.cons_subset_cons c ih

theorem cutAt_append {sep : Char} {s : List Char} (h : sep ∉ s) (rest : List Char) :
    cutAt sep (s ++ sep :: rest) = (s, some rest) := by
  rw [cutAt_append_left h, cutAt, if_pos rfl, List.append_nil]

end Text

namespace Pair

theorem ofText_text (p : Pair) : ofText p.text = p := by
  have hname : '=' ∉ Percent.formEncode p.1 :=
    Percent.not_mem_formEncode (by decide) (by decide) (by decide) p.1
  simp only [ofText, text, Text.cutAt_append hname, Option.getD_some, Percent.formDecode_formEncode]

theorem text_ne_nil (p : Pair) : p.text ≠ [] := by
  intro h
  have hmark : '=' ∈ p.text := List.mem_append_right _ List.mem_cons_self
  rw [h] at hmark
  exact absurd hmark List.not_mem_nil

theorem not_mem_text (p : Pair) : '&' ∉ p.text := by
  intro h
  rcases List.mem_append.1 h with h | h
  · exact Percent.not_mem_formEncode (by decide) (by decide) (by decide) _ h
  · rcases List.mem_cons.1 h with h | h
    · exact absurd h (by decide)
    · exact Percent.not_mem_formEncode (by decide) (by decide) (by decide) _ h

end Pair

namespace Address

theorem readPairs_writePairs (ps : List Pair) : readPairs (writePairs ps) = ps := by
  by_cases hps : ps = []
  · subst hps
    rfl
  have hmap : ps.map Pair.text ≠ [] := fun h => hps (List.map_eq_nil_iff.1 h)
  have hsplit : Text.splitOn '&' (writePairs ps) = ps.map Pair.text := by
    refine Text.splitOn_joinWith hmap fun part hpart => ?_
    obtain ⟨p, _, rfl⟩ := List.mem_map.1 hpart
    exact p.not_mem_text
  have hfull : ∀ part ∈ ps.map Pair.text, decide (part ≠ []) = true := by
    intro part hpart
    obtain ⟨p, _, rfl⟩ := List.mem_map.1 hpart
    exact decide_eq_true p.text_ne_nil
  rw [readPairs, hsplit, List.filter_eq_self.2 hfull, List.map_map]
  exact (List.map_congr_left fun p _ => p.ofText_text).trans (List.map_id ps)

theorem readPairs_append (front behind : List Char) :
    readPairs (front ++ '&' :: behind) = readPairs front ++ readPairs behind := by
  rw [readPairs, Text.splitOn_append_sep, List.filter_append, List.map_append]
  rfl

theorem pairs_addPair (a : Address) (p : Pair) : (a.addPair p).pairs = a.pairs ++ [p] := by
  have hlast : readPairs p.text = [p] := readPairs_writePairs [p]
  have hbefore : a.pairs = readPairs (a.query.getD []) := by
    cases hquery : a.query <;> simp [pairs, hquery, readPairs, Text.splitOn]
  rw [hbefore, pairs, addPair]
  dsimp only
  generalize a.query.getD [] = before
  split
  · next hnone =>
    rw [hnone]
    exact hlast
  · rw [Option.map_some, Option.getD_some, readPairs_append, hlast]

theorem prefix_query_addPair (a : Address) (p : Pair) :
    ∃ query, (a.addPair p).query = some query ∧ a.query.getD [] <+: query := by
  refine ⟨_, rfl, ?_⟩
  split
  · next hnone =>
    rw [hnone]
    exact List.nil_prefix
  · exact List.prefix_append _ _

theorem pairs_withPairs (a : Address) (ps : List Pair) : (a.withPairs ps).pairs = ps :=
  readPairs_writePairs ps

theorem pairs_withoutTicket (a : Address) : a.withoutTicket.pairs = a.otherPairs := by
  unfold withoutTicket
  split
  · next h => exact h.symm
  · exact pairs_withPairs a _

theorem otherPairs_withoutTicket (a : Address) : a.withoutTicket.otherPairs = a.otherPairs := by
  rw [otherPairs, pairs_withoutTicket]
  exact List.filter_eq_self.2 fun p hp => (List.mem_filter.1 hp).2

theorem dropFinalSpaces_dropFinalSpaces (s : List Char) :
    dropFinalSpaces (dropFinalSpaces s) = dropFinalSpaces s := by
  simp only [dropFinalSpaces, List.reverse_reverse, List.dropWhile_idempotent]

theorem withoutQuery_withoutQuery (a : Address) : a.withoutQuery.withoutQuery = a.withoutQuery := by
  obtain ⟨scheme, authority, path, query, fragment⟩ := a
  by_cases hends : isRootless ⟨scheme, authority, path, query, fragment⟩ ∧ fragment = none
  · simp only [withoutQuery, if_pos hends, dropFinalSpaces_dropFinalSpaces, ite_self]
  · have hagain : ¬ (isRootless ⟨scheme, authority, path, none, fragment⟩ ∧ fragment = none) := hends
    simp only [withoutQuery, if_neg hends, if_neg hagain]

theorem withoutTicket_withoutTicket (a : Address) :
    a.withoutTicket.withoutTicket = a.withoutTicket := by
  rw [withoutTicket, otherPairs_withoutTicket, withoutTicket]
  by_cases hnone : a.otherPairs = []
  · simp only [if_pos hnone, withoutQuery_withoutQuery]
  · simp only [if_neg hnone]
    rfl

/-- Whether the query of an address carries this ticket, in whatever place. -/
def Carries (a : Address) (t : Ticket) : Prop := t.pair ∈ a.pairs

instance (a : Address) (t : Ticket) : Decidable (a.Carries t) :=
  inferInstanceAs (Decidable (t.pair ∈ a.pairs))

theorem not_carries_withoutTicket (a : Address) (t : Ticket) : ¬ a.withoutTicket.Carries t := by
  intro h
  rw [Carries, pairs_withoutTicket] at h
  have hother := (List.mem_filter.1 h).2
  simp [isTicketPair, Ticket.pair] at hother

end Address

end TicketLogin
