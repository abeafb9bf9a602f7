import TicketLogin.Address.Host
import TicketLogin.Proofs.Address.Marks

/-!
# Hosts hold no marks

A host is written with digits, with escapes, or as a domain name. No label of a domain name has a
mark when it is read, and Punycode neither brings one in when it is decoded, since what it inserts
lies beyond ASCII, nor when it is encoded, since its digits are letters and digits.
-/

namespace TicketLogin

open Address (Unmarked isMark unmarked_nil unmarked_cons unmarked_append unmarked_encode)

theorem Text.unmarked_joinWith {sep : Char} {parts : List (List Char)} (hsep : isMark sep = false)
    (h : ∀ part ∈ parts, Unmarked part) : Unmarked (joinWith sep parts) := by
  intro c hc
  obtain rfl | ⟨part, hpart, hc⟩ := mem_joinWith hc
  · exact hsep
  · exact h part hpart c hc

theorem Text.unmarked_of_mem_splitOn {sep : Char} {s part : List Char} (h : Unmarked s)
    (hpart : part ∈ splitOn sep s) : Unmarked part := by
  induction s generalizing part with
  | nil =>
    rw [splitOn, List.mem_singleton] at hpart
    exact hpart ▸ unmarked_nil
  | cons c s ih =>
    obtain ⟨hc, hs⟩ := unmarked_cons.1 h
    rw [splitOn] at hpart
    split at hpart
    · obtain rfl | hpart := List.mem_cons.1 hpart
      · exact unmarked_nil
      · exact ih hs hpart
    · split at hpart
      · next hnil => exact absurd hnil (splitOn_ne_nil sep s)
      · next first parts hsplit =>
        rw [hsplit] at ih
        obtain rfl | hpart := List.mem_cons.1 hpart
        · exact unmarked_cons.2 ⟨hc, ih hs List.mem_cons_self⟩
        · exact ih hs (List.mem_cons_of_mem _ hpart)

/-! ## Digits -/

theorem isMark_digitChar {n : Nat} (h : n < 16) : isMark n.digitChar = false := by
  revert n
  decide

theorem unmarked_toDigits {base : Nat} (hlow : 1 < base) (hhigh : base ≤ 16) (n : Nat) :
    Unmarked (Nat.toDigits base n) := by
  induction n using Nat.strongRecOn with
  | ind n ih =>
    rw [Nat.toDigits_eq_if hlow]
    split
    · exact unmarked_cons.2 ⟨isMark_digitChar (by omega), unmarked_nil⟩
    · have hless : n / base < n := Nat.div_lt_self (by omega) hlow
      have hdigit : n % base < 16 := Nat.lt_of_lt_of_le (Nat.mod_lt n (by omega)) hhigh
      exact unmarked_append.2
        ⟨ih _ hless, unmarked_cons.2 ⟨isMark_digitChar hdigit, unmarked_nil⟩⟩

theorem unmarked_toString (n : Nat) : Unmarked (toString n).toList := by
  rw [Nat.toString_eq_ofList_toDigits, String.toList_ofList]
  exact unmarked_toDigits (by decide) (by decide) n

theorem Ipv4.unmarked_text (n : Nat) : Unmarked (text n) := by
  refine Text.unmarked_joinWith rfl fun part hpart => ?_
  obtain ⟨b, _, rfl⟩ := List.mem_map.1 hpart
  exact unmarked_toString b

theorem Ipv6.unmarked_written (groups : List Nat) : Unmarked (written groups) := by
  refine Text.unmarked_joinWith rfl fun part hpart => ?_
  obtain ⟨group, _, rfl⟩ := List.mem_map.1 hpart
  exact unmarked_toDigits (by decide) (by decide) group

theorem Ipv6.unmarked_text (groups : List Nat) : Unmarked (text groups) := by
  unfold text
  dsimp only
  split
  · exact unmarked_written groups
  · simp only [unmarked_append, unmarked_cons]
    exact ⟨unmarked_written _, rfl, rfl, unmarked_written _⟩

/-! ## Domain names -/

namespace Domain

namespace Punycode

theorem isMark_digitChar {d : Nat} (h : d < 36) : isMark (digitChar d) = false := by
  revert d
  decide

theorem threshold_le (k bias : Nat) : threshold k bias ≤ 26 := by
  unfold threshold
  split
  · omega
  · split <;> omega

theorem unmarked_numberText (fuel q k bias : Nat) : Unmarked (numberText fuel q k bias) := by
  induction fuel generalizing q k with
  | zero => exact unmarked_nil
  | succ fuel ih =>
    have ht := threshold_le k bias
    rw [numberText]
    split
    · exact unmarked_cons.2 ⟨isMark_digitChar (by omega), unmarked_nil⟩
    · have hdigit : threshold k bias + (q - threshold k bias) % (36 - threshold k bias) < 36 := by
        have := Nat.mod_lt (q - threshold k bias) (show 36 - threshold k bias > 0 by omega)
        omega
      exact unmarked_cons.2 ⟨isMark_digitChar hdigit, ih _ _⟩

theorem Writing.unmarked_char {w : Writing} (h : Unmarked w.out) (m : Nat) (c : Char) :
    Unmarked (w.char m c).out := by
  unfold Writing.char
  split
  · exact h
  · split
    · exact unmarked_append.2 ⟨h, unmarked_numberText _ _ _ _⟩
    · exact h

theorem Writing.unmarked_chars {w : Writing} (h : Unmarked w.out) (m : Nat) (label : List Char) :
    Unmarked (label.foldl (char m) w).out := by
  induction label generalizing w with
  | nil => exact h
  | cons c label ih => exact ih (unmarked_char h m c)

theorem Writing.unmarked_point {w : Writing} (h : Unmarked w.out) (label : List Char)
    (previous m : Nat) : Unmarked (w.point label previous m).out := by
  have hchars := unmarked_chars (w := { w with delta := w.delta + (m - previous) * (w.handled + 1) })
    h m label
  exact hchars

theorem Writing.unmarked_points {w : Writing} (h : Unmarked w.out) (label : List Char)
    (previous : Nat) (ms : List Nat) : Unmarked (points label w previous ms).out := by
  induction ms generalizing w previous with
  | nil => exact h
  | cons m ms ih => exact ih (unmarked_point h label previous m) (m + 1)

theorem unmarked_encode {label : List Char} (h : Unmarked label) : Unmarked (encode label) := by
  have hbasic : Unmarked (label.filter fun c => c.toNat < 128) :=
    h.of_subset (List.filter_subset_self _)
  unfold encode
  apply Writing.unmarked_points
  dsimp only
  split
  · exact unmarked_nil
  · exact unmarked_append.2 ⟨hbasic, by decide⟩

/-- What has been decoded so far holds no mark, and what comes next lies beyond ASCII. -/
structure Reading.Clear (r : Reading) : Prop where
  out : Unmarked r.out
  point : 128 ≤ r.point

theorem isMark_of_not_ascii {c : Char} (h : 128 ≤ c.toNat) : isMark c = false :=
  Address.isMark_eq_false (p := fun c => 128 ≤ c.toNat) (by decide) (by decide) (decide_eq_true h)

theorem Reading.Clear.insert {r : Reading} (hr : r.Clear) {point : Nat}
    (hvalid : point.isValidChar) (hpoint : r.point ≤ point) (place : Nat) :
    Unmarked (r.out.take place ++ Char.ofNat point :: r.out.drop place) := by
  have hvalue : (Char.ofNat point).toNat = point := by
    rw [Char.ofNat, dif_pos hvalid]
    rfl
  have hmark : isMark (Char.ofNat point) = false :=
    isMark_of_not_ascii (by rw [hvalue]; exact Nat.le_trans hr.point hpoint)
  simp only [unmarked_append, unmarked_cons]
  exact ⟨hr.out.of_subset (List.take_subset _ _), hmark, hr.out.of_subset (List.drop_subset _ _)⟩

theorem Reading.Clear.step {r r' : Reading} {c : Char} (hr : r.Clear) (h : r.step c = some r') :
    r'.Clear := by
  obtain ⟨d, _, h⟩ := Option.bind_eq_some_iff.1 h
  dsimp only at h
  by_cases hover : Nat.pow 2 32 ≤ r.index + d * r.weight
  · rw [if_pos hover] at h
    cases h
  rw [if_neg hover] at h
  by_cases hlast : d < threshold r.k r.bias
  · rw [if_pos hlast] at h
    by_cases hvalid : (r.point + (r.index + d * r.weight) / (r.out.length + 1)).isValidChar
    · rw [if_pos hvalid] at h
      cases h
      exact ⟨hr.insert hvalid (Nat.le_add_right _ _) _, Nat.le_add_right_of_le hr.point⟩
    · rw [if_neg hvalid] at h
      cases h
  · rw [if_neg hlast] at h
    by_cases hfull : Nat.pow 2 32 ≤ r.weight * (36 - threshold r.k r.bias)
    · rw [if_pos hfull] at h
      cases h
    · rw [if_neg hfull] at h
      cases h
      exact ⟨hr.out, hr.point⟩

theorem Reading.Clear.steps {r r' : Reading} {s : List Char} (hr : r.Clear)
    (h : s.foldlM Reading.step r = some r') : r'.Clear := by
  induction s generalizing r with
  | nil =>
    cases h
    exact hr
  | cons c s ih =>
    rw [List.foldlM_cons] at h
    obtain ⟨next, hnext, h⟩ := Option.bind_eq_some_iff.1 h
    exact ih (hr.step hnext) h

theorem unmarked_decode? {s t : List Char} (hs : Unmarked s) (h : decode? s = some t) :
    Unmarked t := by
  have hbasic : Unmarked (parts s).1 := by
    unfold parts
    split
    · refine hs.of_subset fun c hc => ?_
      have hc := (List.drop_subset _ _) (List.mem_reverse.1 hc)
      exact List.mem_reverse.1 ((List.dropWhile_sublist _).subset hc)
    · exact unmarked_nil
  unfold decode? at h
  obtain ⟨r, hr, h⟩ := Option.bind_eq_some_iff.1 h
  have hclear : r.Clear := Reading.Clear.steps ⟨hbasic, Nat.le_refl 128⟩ hr
  split at h
  · cases h
    exact hclear.out
  · cases h

end Punycode

/-- The text of a label, and of the name that it belongs to, has no mark. -/
theorem unmarked_unfolded {label inner : List Char} (hlabel : Unmarked label)
    (h : unfolded label = some inner) : Unmarked inner := by
  unfold unfolded at h
  split at h
  · obtain ⟨decoded, hdecoded, h⟩ := Option.bind_eq_some_iff.1 h
    split at h
    · cases h
    · cases h
      exact Punycode.unmarked_decode? (hlabel.of_subset (List.drop_subset _ _)) hdecoded
  · cases h
    exact hlabel

theorem unmarked_folded {label : List Char} (h : Unmarked label) : Unmarked (folded label) := by
  unfold folded
  split
  · exact h
  · exact unmarked_append.2 ⟨by decide, Punycode.unmarked_encode h⟩

theorem unmarked_mapM_unfolded {labels inners : List (List Char)}
    (hlabels : ∀ label ∈ labels, Unmarked label) (h : labels.mapM unfolded = some inners) :
    ∀ inner ∈ inners, Unmarked inner := by
  induction labels generalizing inners with
  | nil =>
    cases h
    exact List.forall_mem_nil _
  | cons label labels ih =>
    obtain ⟨hlabel, hlabels⟩ := List.forall_mem_cons.1 hlabels
    rw [List.mapM_cons] at h
    obtain ⟨inner, hinner, h⟩ := Option.bind_eq_some_iff.1 h
    obtain ⟨rest, hrest, h⟩ := Option.bind_eq_some_iff.1 h
    cases h
    exact List.forall_mem_cons.2 ⟨unmarked_unfolded hlabel hinner, ih hlabels hrest⟩

theorem unmarked_toAscii {bytes : List UInt8} {name : List Char} (h : toAscii bytes = some name) :
    Unmarked name := by
  obtain ⟨whole, _, h⟩ := Option.bind_eq_some_iff.1 h
  dsimp only at h
  by_cases hdenied : whole.any isDenied = true
  · rw [if_pos hdenied] at h
    cases h
  rw [if_neg hdenied] at h
  have hwhole : Unmarked whole :=
    Address.unmarked_of_not_any (Address.forall_isMark (by decide) (by decide)) hdenied
  obtain ⟨labels, hlabels, h⟩ := Option.bind_eq_some_iff.1 h
  have hclear : ∀ label ∈ labels, Unmarked label :=
    unmarked_mapM_unfolded (fun _ => Text.unmarked_of_mem_splitOn hwhole) hlabels
  have hname : name = Text.joinWith '.' (labels.map folded) := by
    split at h
    · cases h
    · split at h
      · cases h
      · cases h
        rfl
  rw [hname]
  refine Text.unmarked_joinWith rfl fun part hpart => ?_
  obtain ⟨label, hlabel, rfl⟩ := List.mem_map.1 hpart
  exact unmarked_folded (hclear label hlabel)

end Domain

namespace Address.Host

theorem unmarked_readBracketed {s host : List Char} (h : readBracketed s = .ok host) :
    Unmarked host := by
  unfold readBracketed at h
  split at h
  · split at h
    · cases h
      simp only [unmarked_append, unmarked_cons]
      exact ⟨rfl, Ipv6.unmarked_text _, rfl, unmarked_nil⟩
    · cases h
  · cases h

theorem unmarked_readName {s host : List Char} (h : readName s = .ok host) : Unmarked host := by
  unfold readName at h
  split at h
  · exact unmarked_readBracketed h
  · split at h
    · cases h
    · next name hname =>
      have hname := Domain.unmarked_toAscii hname
      split at h
      · cases h
      · split at h
        · split at h
          · cases h
            exact Ipv4.unmarked_text _
          · cases h
        · cases h
          exact hname

theorem unmarked_readPlain {s host : List Char} (h : readPlain s = .ok host) : Unmarked host := by
  unfold readPlain at h
  split at h
  · exact unmarked_readBracketed h
  · split at h
    · cases h
    · next hfree =>
      cases h
      have hclear : Unmarked s := unmarked_of_not_any (forall_isMark (by decide) (by decide)) hfree
      exact unmarked_encode fun c hc _ => hclear c hc

theorem unmarked_read {k : Kind} {s host : List Char} (h : read k s = .ok host) :
    Unmarked host := by
  unfold read at h
  split at h
  · exact unmarked_readPlain h
  · exact unmarked_readName h

end Address.Host

end TicketLogin
