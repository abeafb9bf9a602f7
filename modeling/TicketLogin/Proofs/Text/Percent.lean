import TicketLogin.Proofs.Text.Utf8
import TicketLogin.Text.Percent

/-!
# Reading back the form encoding

A percent triple stands for its byte, so percent decoding undoes the form encoding character by
character. What the form encoding writes holds neither of the marks that separate query pairs.
-/

namespace TicketLogin.Percent

theorem digit?_upperDigit {n : Nat} (h : n < 16) : digit? (upperDigit n) = some n := by
  revert n
  decide

theorem pair?_upperDigits (b : UInt8) :
    pair? (upperDigit (b.toNat / 16)) (upperDigit (b.toNat % 16)) = some b := by
  have hb := b.toNat_lt
  rw [pair?, digit?_upperDigit (by omega), digit?_upperDigit (by omega)]
  dsimp only
  rw [Nat.div_add_mod, UInt8.ofNat_toNat]

theorem decode_triple (b : UInt8) (rest : List Char) : decode (triple b ++ rest) = b :: decode rest := by
  simp only [triple, List.cons_append, List.nil_append]
  rw [decode, pair?_upperDigits]

theorem decode_cons {c : Char} (h : c ≠ '%') (rest : List Char) :
    decode (c :: rest) = Utf8.encodeChar c ++ decode rest := by
  rw [decode]
  intro a b more hc
  exact absurd hc h

theorem decode_triples (bytes : List UInt8) (rest : List Char) :
    decode (bytes.flatMap triple ++ rest) = bytes ++ decode rest := by
  induction bytes with
  | nil => rfl
  | cons b bytes ih =>
    rw [List.flatMap_cons, List.append_assoc, decode_triple, ih]
    rfl

def unplus (c : Char) : Char := if c = '+' then ' ' else c

theorem mem_encodeChar {c d : Char} (h : d ∈ encodeChar c) : d = '%' ∨ isFormSafe d = true := by
  obtain ⟨b, _, hd⟩ := List.mem_flatMap.1 h
  have hb := b.toNat_lt
  have hupper : ∀ n < 16, isFormSafe (upperDigit n) = true := by decide
  simp only [triple, List.mem_cons, List.not_mem_nil, or_false] at hd
  obtain rfl | rfl | rfl := hd
  · exact .inl rfl
  · exact .inr (hupper _ (by omega))
  · exact .inr (hupper _ (by omega))

theorem mem_formEncodeChar {c d : Char} (h : d ∈ formEncodeChar c) :
    d = '+' ∨ isFormSafe d = true ∨ d = '%' := by
  unfold formEncodeChar at h
  split at h
  · exact .inl (List.mem_singleton.1 h)
  · split at h
    · next hsafe => exact .inr (.inl (List.mem_singleton.1 h ▸ hsafe))
    · exact .inr (mem_encodeChar h).symm

/-- What percent encoding keeps, and what it writes instead of the rest. -/
theorem mem_encode {escaped : Char → Bool} {s : List Char} {d : Char} (h : d ∈ encode escaped s) :
    (d ∈ s ∧ escaped d = false) ∨ d = '%' ∨ isFormSafe d = true := by
  obtain ⟨c, hc, hd⟩ := List.mem_flatMap.1 h
  split at hd
  · exact .inr (mem_encodeChar hd)
  · next hkept =>
    rw [List.mem_singleton] at hd
    subst hd
    exact .inl ⟨hc, Bool.eq_false_iff.2 hkept⟩

theorem encode_eq_self {escaped : Char → Bool} {s : List Char} (h : ∀ c ∈ s, escaped c = false) :
    encode escaped s = s := by
  induction s with
  | nil => rfl
  | cons c s ih =>
    obtain ⟨hc, hs⟩ := List.forall_mem_cons.1 h
    rw [encode, List.flatMap_cons, if_neg (Bool.eq_false_iff.1 hc)]
    exact congrArg (c :: ·) (ih hs)

theorem mem_formEncode {s : List Char} {d : Char} (h : d ∈ formEncode s) :
    d = '+' ∨ isFormSafe d = true ∨ d = '%' := by
  obtain ⟨c, _, hd⟩ := List.mem_flatMap.1 h
  exact mem_formEncodeChar hd

theorem not_mem_formEncode {mark : Char} (hplus : mark ≠ '+') (hsafe : isFormSafe mark = false)
    (hpercent : mark ≠ '%') (s : List Char) : mark ∉ formEncode s := by
  intro h
  obtain h | h | h := mem_formEncode h
  · exact hplus h
  · rw [hsafe] at h
    cases h
  · exact hpercent h

theorem map_unplus_triples (bytes : List UInt8) :
    (bytes.flatMap triple).map unplus = bytes.flatMap triple := by
  have hupper : ∀ n < 16, unplus (upperDigit n) = upperDigit n := by decide
  induction bytes with
  | nil => rfl
  | cons b bytes ih =>
    have hb := b.toNat_lt
    rw [List.flatMap_cons, List.map_append, ih]
    simp only [triple, List.map_cons, List.map_nil, hupper _ (show b.toNat / 16 < 16 by omega),
      hupper _ (show b.toNat % 16 < 16 by omega), show unplus '%' = '%' from rfl]

theorem decode_formEncodeChar (c : Char) (rest : List Char) :
    decode ((formEncodeChar c).map unplus ++ rest) = Utf8.encodeChar c ++ decode rest := by
  unfold formEncodeChar
  split
  · next h =>
    subst h
    exact decode_cons (by decide) rest
  · split
    · next hsafe =>
      have hplus : c ≠ '+' := fun e => by
        subst e
        exact absurd hsafe (by decide)
      have hpercent : c ≠ '%' := fun e => by
        subst e
        exact absurd hsafe (by decide)
      simp only [List.map_cons, List.map_nil, unplus, if_neg hplus, List.singleton_append]
      exact decode_cons hpercent rest
    · rw [encodeChar, map_unplus_triples, decode_triples]

theorem formDecode_formEncode (s : List Char) : formDecode (formEncode s) = s := by
  have h : decode ((formEncode s).map unplus) = Utf8.encode s := by
    induction s with
    | nil => simp [formEncode, decode, Utf8.encode]
    | cons c s ih =>
      simp only [formEncode, List.flatMap_cons, List.map_append] at ih ⊢
      rw [decode_formEncodeChar, ih, Utf8.encode_cons]
  change Utf8.decodeLossy (decode ((formEncode s).map unplus)) = s
  rw [h, Utf8.decodeLossy_encode]

end TicketLogin.Percent
