import TicketLogin.Text.Utf8

/-!
# Reading back what UTF-8 writes

The bytes of a character lead the decoder from between characters to between characters and give
that character. So a text is read back from its bytes, and the strict reader accepts it.
-/

namespace TicketLogin.Utf8

theorem decodeFrom_cons (o : Option Open) {b : Nat} (hb : b < 256) (rest : List UInt8) :
    decodeFrom o (UInt8.ofNat b :: rest) = (step o b).1 ++ decodeFrom (step o b).2 rest := by
  have hbyte : (UInt8.ofNat b).toNat = b := by
    rw [UInt8.toNat_ofNat']
    exact Nat.mod_eq_of_lt hb
  cases o <;> rw [decodeFrom, hbyte]

/-- A byte that ends the open character. -/
theorem decodeFrom_last {p : Open} {b : Nat} (howed : p.owed = 1) (hlow : p.low ≤ b)
    (hhigh : b ≤ p.high) (hb : b < 256) (rest : List UInt8) :
    decodeFrom (some p) (UInt8.ofNat b :: rest) =
      Char.ofNat (p.value * 64 + b % 64) :: decodeFrom none rest := by
  rw [decodeFrom_cons _ hb]
  simp only [step, if_pos (And.intro hlow hhigh), howed, Nat.le_refl, if_true]
  rfl

theorem decodeFrom_more {p : Open} {b : Nat} (howed : 1 < p.owed) (hlow : p.low ≤ b)
    (hhigh : b ≤ p.high) (hb : b < 256) (rest : List UInt8) :
    decodeFrom (some p) (UInt8.ofNat b :: rest) =
      decodeFrom (some ⟨p.value * 64 + b % 64, p.owed - 1, 0x80, 0xBF⟩) rest := by
  rw [decodeFrom_cons _ hb]
  simp only [step, if_pos (And.intro hlow hhigh), if_neg (Nat.not_le.2 howed)]
  rfl

theorem decodeFrom_two {b : Nat} (hlow : 0xC2 ≤ b) (hhigh : b < 0xE0) (rest : List UInt8) :
    decodeFrom none (UInt8.ofNat b :: rest) =
      decodeFrom (some ⟨b - 0xC0, 1, 0x80, 0xBF⟩) rest := by
  rw [decodeFrom_cons _ (by omega), step, first, if_neg (by omega), if_neg (by omega),
    if_pos hhigh]
  rfl

theorem decodeFrom_three {b : Nat} (hlow : 0xE0 ≤ b) (hhigh : b < 0xF0) (rest : List UInt8) :
    decodeFrom none (UInt8.ofNat b :: rest) =
      decodeFrom (some ⟨b - 0xE0, 2, if b = 0xE0 then 0xA0 else 0x80,
        if b = 0xED then 0x9F else 0xBF⟩) rest := by
  rw [decodeFrom_cons _ (by omega), step, first, if_neg (by omega), if_neg (by omega),
    if_neg (by omega), if_pos hhigh]
  rfl

theorem decodeFrom_four {b : Nat} (hlow : 0xF0 ≤ b) (hhigh : b < 0xF5) (rest : List UInt8) :
    decodeFrom none (UInt8.ofNat b :: rest) =
      decodeFrom (some ⟨b - 0xF0, 3, if b = 0xF0 then 0x90 else 0x80,
        if b = 0xF4 then 0x8F else 0xBF⟩) rest := by
  rw [decodeFrom_cons _ (by omega), step, first, if_neg (by omega), if_neg (by omega),
    if_neg (by omega), if_neg (by omega), if_pos hhigh]
  rfl

theorem decodeFrom_encodeChar (c : Char) (rest : List UInt8) :
    decodeFrom none (encodeChar c ++ rest) = c :: decodeFrom none rest := by
  have hvalid : c.toNat < 0xD800 ∨ (0xDFFF < c.toNat ∧ c.toNat < 0x110000) := c.valid
  have hchar := Char.ofNat_toNat c
  generalize hn : c.toNat = n at hvalid hchar
  simp only [encodeChar, hn]
  by_cases h1 : n < 0x80
  · rw [if_pos h1, List.singleton_append, decodeFrom_cons _ (by omega), step, first, if_pos h1,
      hchar]
    rfl
  by_cases h2 : n < 0x800
  · simp only [if_neg h1, if_pos h2, List.cons_append, List.nil_append]
    rw [decodeFrom_two (by omega) (by omega),
      decodeFrom_last rfl (by dsimp only; omega) (by dsimp only; omega) (by omega)]
    dsimp only
    rw [show (192 + n / 64 - 192) * 64 + (128 + n % 64) % 64 = n by omega, hchar]
  by_cases h3 : n < 0x10000
  · simp only [if_neg h1, if_neg h2, if_pos h3, List.cons_append, List.nil_append]
    have hlow : (if 224 + n / 4096 = 224 then 160 else 128) ≤ 128 + n / 64 % 64 := by
      split <;> omega
    have hhigh : 128 + n / 64 % 64 ≤ if 224 + n / 4096 = 237 then 159 else 191 := by
      split <;> omega
    rw [decodeFrom_three (by omega) (by omega),
      decodeFrom_more (by dsimp only; omega) hlow hhigh (by omega),
      decodeFrom_last rfl (by dsimp only; omega) (by dsimp only; omega) (by omega)]
    dsimp only
    rw [show ((224 + n / 4096 - 224) * 64 + (128 + n / 64 % 64) % 64) * 64 + (128 + n % 64) % 64 = n
      by omega, hchar]
  · simp only [if_neg h1, if_neg h2, if_neg h3, List.cons_append, List.nil_append]
    have hlow : (if 240 + n / 262144 = 240 then 144 else 128) ≤ 128 + n / 4096 % 64 := by
      split <;> omega
    have hhigh : 128 + n / 4096 % 64 ≤ if 240 + n / 262144 = 244 then 143 else 191 := by
      split <;> omega
    rw [decodeFrom_four (by omega) (by omega),
      decodeFrom_more (by dsimp only; omega) hlow hhigh (by omega),
      decodeFrom_more (by dsimp only; omega) (by dsimp only; omega) (by dsimp only; omega) (by omega),
      decodeFrom_last rfl (by dsimp only; omega) (by dsimp only; omega) (by omega)]
    dsimp only
    rw [show (((240 + n / 262144 - 240) * 64 + (128 + n / 4096 % 64) % 64) * 64 +
      (128 + n / 64 % 64) % 64) * 64 + (128 + n % 64) % 64 = n by omega, hchar]

theorem decodeFrom_encode (s : List Char) (rest : List UInt8) :
    decodeFrom none (encode s ++ rest) = s ++ decodeFrom none rest := by
  induction s with
  | nil => rfl
  | cons c s ih => rw [encode_cons, List.append_assoc, decodeFrom_encodeChar, ih, List.cons_append]

theorem decodeLossy_encode (s : List Char) : decodeLossy (encode s) = s := by
  have h := decodeFrom_encode s []
  rwa [List.append_nil, decodeFrom, List.append_nil] at h

theorem decode?_encode (s : List Char) : decode? (encode s) = some s := by
  rw [decode?, decodeLossy_encode, if_pos rfl]

end TicketLogin.Utf8
