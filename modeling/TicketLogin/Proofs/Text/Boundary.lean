import TicketLogin.Proofs.Text.Utf8

/-!
# Places between characters

Each byte of a text tells by itself whether it begins a character or goes on with one. So one byte
shows whether a text can be cut before it, and bytes that are cut off there, and only those, are a
text again.
-/

namespace TicketLogin.Utf8

def Continues (b : UInt8) : Prop := 0x80 ≤ b.toNat ∧ b.toNat < 0xC0

instance : DecidablePred Continues := fun _ => inferInstanceAs (Decidable (_ ∧ _))

/-- The place after `n` bytes is at an end, or before a byte that begins a character. -/
def isBoundary (bytes : List UInt8) (n : Nat) : Bool :=
  n = 0 ||
    match bytes[n]? with
    | none => n = bytes.length
    | some b => ¬ Continues b

/-- The characters begin the text and fill exactly `n` of its bytes. -/
def Fills (front s : List Char) (n : Nat) : Prop := front <+: s ∧ (encode front).length = n

/-! ## The bytes of a character -/

theorem continues_ofNat {k : Nat} (hk : k < 256) :
    Continues (UInt8.ofNat k) ↔ 0x80 ≤ k ∧ k < 0xC0 := by
  rw [Continues, UInt8.toNat_ofNat', Nat.mod_eq_of_lt hk]

/-- The first byte of a character begins it, and all others go on with it. -/
theorem encodeChar_eq_cons (c : Char) :
    ∃ lead rest, encodeChar c = lead :: rest ∧ ¬ Continues lead ∧ ∀ b ∈ rest, Continues b := by
  have hvalid : c.toNat < 0xD800 ∨ (0xDFFF < c.toNat ∧ c.toNat < 0x110000) := c.valid
  generalize hn : c.toNat = n at hvalid
  have hlead {k : Nat} (hk : k < 0x80 ∨ 0xC0 ≤ k ∧ k < 256) : ¬ Continues (UInt8.ofNat k) := by
    rw [continues_ofNat (by omega)]
    omega
  have hrest (ks : List Nat) : ∀ b ∈ ks.map fun k => UInt8.ofNat (0x80 + k % 64), Continues b := by
    refine List.forall_mem_map.2 fun k _ => ?_
    rw [continues_ofNat (by omega)]
    omega
  simp only [encodeChar, hn]
  split
  · exact ⟨_, _, rfl, hlead (by omega), hrest []⟩
  split
  · exact ⟨_, _, rfl, hlead (by omega), hrest [n]⟩
  split
  · exact ⟨_, _, rfl, hlead (by omega), hrest [n / 64, n]⟩
  · exact ⟨_, _, rfl, hlead (by omega), hrest [n / 4096, n / 64, n]⟩

theorem length_encodeChar_pos (c : Char) : 0 < (encodeChar c).length := by
  obtain ⟨lead, rest, hc, _⟩ := encodeChar_eq_cons c
  rw [hc]
  exact Nat.succ_pos _

theorem not_continues_of_head {s : List Char} {b : UInt8} (h : (encode s)[0]? = some b) :
    ¬ Continues b := by
  cases s with
  | nil => cases h
  | cons c s =>
    obtain ⟨lead, rest, hc, hlead, _⟩ := encodeChar_eq_cons c
    rw [encode_cons, hc] at h
    obtain rfl : lead = b := Option.some.inj h
    exact hlead

theorem continues_of_inside {c : Char} {n : Nat} (hpos : 0 < n) (hn : n < (encodeChar c).length) :
    Continues (encodeChar c)[n] := by
  obtain ⟨lead, rest, hc, _, hrest⟩ := encodeChar_eq_cons c
  obtain ⟨n, rfl⟩ := Nat.exists_eq_succ_of_ne_zero (Nat.ne_of_gt hpos)
  simp only [hc, List.getElem_cons_succ]
  exact hrest _ (List.getElem_mem _)

/-! ## Characters that fill some bytes -/

section

variable {front s : List Char} {c : Char} {n : Nat}

theorem fills_zero_iff : Fills front s 0 ↔ front = [] := by
  constructor
  · rintro ⟨_, hlength⟩
    cases front with
    | nil => rfl
    | cons c front =>
      have hpos := length_encodeChar_pos c
      rw [encode_cons, List.length_append] at hlength
      omega
  · rintro rfl
    exact ⟨⟨s, rfl⟩, rfl⟩

theorem not_fills_nil (hpos : 0 < n) : ¬ Fills front [] n := by
  rintro ⟨hbegins, hlength⟩
  obtain rfl := List.prefix_nil.1 hbegins
  exact Nat.ne_of_lt hpos hlength

theorem fills_cons_iff (hpos : 0 < n) :
    Fills front (c :: s) n ↔
      (encodeChar c).length ≤ n ∧
        ∃ rest, front = c :: rest ∧ Fills rest s (n - (encodeChar c).length) := by
  constructor
  · rintro ⟨hbegins, hlength⟩
    obtain rfl | ⟨rest, rfl, hrest⟩ := List.prefix_cons_iff.1 hbegins
    · exact absurd hlength (Nat.ne_of_lt hpos)
    · rw [encode_cons, List.length_append] at hlength
      exact ⟨by omega, rest, rfl, hrest, by omega⟩
  · rintro ⟨hle, rest, rfl, hrest, hlength⟩
    refine ⟨(List.prefix_cons_inj c).2 hrest, ?_⟩
    rw [encode_cons, List.length_append]
    omega

theorem Fills.take_encode (h : Fills front s n) : (encode s).take n = encode front := by
  obtain ⟨⟨back, rfl⟩, rfl⟩ := h
  rw [encode_append, List.take_left]

end

/-! ## Cutting a text -/

theorem isBoundary_encode_cons {c : Char} {s : List Char} {n : Nat} (hpos : 0 < n) :
    isBoundary (encode (c :: s)) n =
      ((encodeChar c).length ≤ n && isBoundary (encode s) (n - (encodeChar c).length)) := by
  rw [encode_cons, isBoundary, decide_eq_false (Nat.ne_of_gt hpos), Bool.false_or]
  obtain hlt | hle := Nat.lt_or_ge n (encodeChar c).length
  · rw [List.getElem?_append_left hlt, List.getElem?_eq_getElem hlt,
      decide_eq_false (Nat.not_le.2 hlt), Bool.false_and]
    exact decide_eq_false (not_not_intro (continues_of_inside hpos hlt))
  · obtain ⟨m, rfl⟩ := Nat.exists_eq_add_of_le hle
    rw [List.getElem?_append_right hle, List.length_append, decide_eq_true hle, Bool.true_and,
      Nat.add_sub_cancel_left, isBoundary]
    simp only [Nat.add_left_cancel_iff]
    -- Right behind the character there is the end, or the byte that begins the next one.
    cases m with
    | zero =>
      cases hb : (encode s)[0]? with
      | none => simpa [eq_comm] using hb
      | some b => simpa using not_continues_of_head hb
    | succ m => rfl

/-- A byte tells rightly whether a text can be cut before it. -/
theorem isBoundary_encode_iff {s : List Char} {n : Nat} :
    isBoundary (encode s) n = true ↔ ∃ front, Fills front s n := by
  induction s generalizing n with
  | nil =>
    cases n with
    | zero => exact ⟨fun _ => ⟨[], fills_zero_iff.2 rfl⟩, fun _ => rfl⟩
    | succ n => simp [isBoundary, encode_nil, not_fills_nil]
  | cons c s ih =>
    cases n with
    | zero => exact ⟨fun _ => ⟨[], fills_zero_iff.2 rfl⟩, fun _ => rfl⟩
    | succ n =>
      simp only [isBoundary_encode_cons (Nat.succ_pos n), fills_cons_iff (Nat.succ_pos n),
        Bool.and_eq_true, decide_eq_true_eq, ih]
      constructor
      · rintro ⟨hle, rest, hrest⟩
        exact ⟨c :: rest, hle, rest, rfl, hrest⟩
      · rintro ⟨_, hle, rest, _, hrest⟩
        exact ⟨hle, rest, hrest⟩

theorem prefix_of_encode {s t : List Char} (h : encode t <+: encode s) : t <+: s := by
  obtain ⟨rest, hrest⟩ := h
  refine ⟨decodeFrom none rest, ?_⟩
  rw [← decodeFrom_encode, hrest]
  exact decodeLossy_encode s

/-- The first bytes of a text are a text only if they end between characters. -/
theorem decode?_take_encode_iff {front s : List Char} {n : Nat} (hn : n ≤ (encode s).length) :
    decode? ((encode s).take n) = some front ↔ Fills front s n := by
  constructor
  · intro h
    have hfront := encode_of_decode? h
    refine ⟨prefix_of_encode ?_, ?_⟩
    · rw [hfront]
      exact List.take_prefix n (encode s)
    · rw [hfront, List.length_take, Nat.min_eq_left hn]
  · intro h
    rw [h.take_encode, decode?_encode]

end TicketLogin.Utf8
