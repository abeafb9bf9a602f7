import TicketLogin.Proofs.Text.Percent
import TicketLogin.Json.Quoted

/-!
# Reading back quoted text

What is written between quotation marks ends at the closing one and reads back to the same text. A
control without a short escape comes back as a UTF-16 unit, which is never half of a pair.
-/

namespace TicketLogin.Json.Quoted

/-- A piece that stands for a whole character. -/
def Spells (p : Piece) (c : Char) : Prop := p = .char c ∨ (p = .unit c.toNat ∧ c.toNat < 0x20)

theorem digit?_lowerDigit {n : Nat} (h : n < 16) : Percent.digit? (lowerDigit n) = some n := by
  revert n
  decide

theorem unit?_lowerDigits {n : Nat} (h : n < 0x20) :
    unit? '0' '0' (lowerDigit (n / 16)) (lowerDigit (n % 16)) = some n := by
  have hzero : Percent.digit? '0' = some 0 := rfl
  rw [unit?, hzero, digit?_lowerDigit (by omega), digit?_lowerDigit (by omega)]
  simp only [Option.some.injEq]
  omega

theorem pieces_plain {c : Char} (hquote : c ≠ '"') (hslash : c ≠ '\\') (hcontrol : ¬ c.toNat < 0x20)
    (rest : List Char) :
    pieces (c :: rest) = (pieces rest).map fun p => (.char c :: p.1, p.2) := by
  rw [pieces]
  · rw [if_neg (not_or.2 ⟨hcontrol, hslash⟩)]
    cases pieces rest <;> rfl
  · exact fun e => hquote e
  · exact fun _ _ _ _ _ e _ => hslash e
  · exact fun _ _ e _ => hslash e

theorem pieces_short {e c : Char} (he : e ≠ 'u') (h : unescape e = some c) (rest : List Char) :
    pieces ('\\' :: e :: rest) = (pieces rest).map fun p => (.char c :: p.1, p.2) := by
  rw [pieces, h]
  · cases pieces rest <;> rfl
  · exact fun _ _ _ _ _ e' _ => he e'

theorem pieces_escape (c : Char) :
    ∃ p, Spells p c ∧ ∀ rest,
      pieces (escape c ++ rest) = (pieces rest).map fun q => (p :: q.1, q.2) := by
  by_cases hshort : ∃ e, e ≠ 'u' ∧ unescape e = some c ∧ escape c = ['\\', e]
  · obtain ⟨e, he, hc, hescape⟩ := hshort
    refine ⟨.char c, .inl rfl, fun rest => ?_⟩
    rw [hescape]
    exact pieces_short he hc rest
  · -- what has no short escape is a control or stands for itself
    have hno : ∀ e d, e ≠ 'u' → unescape e = some d → escape d = ['\\', e] → c ≠ d := by
      rintro e d he hd hescape rfl
      exact hshort ⟨e, he, hd, hescape⟩
    have hquote : c ≠ '"' := hno '"' '"' (by decide) rfl rfl
    have hslash : c ≠ '\\' := hno '\\' '\\' (by decide) rfl rfl
    have hb : c ≠ '\x08' := hno 'b' '\x08' (by decide) rfl rfl
    have ht : c ≠ '\t' := hno 't' '\t' (by decide) rfl rfl
    have hn : c ≠ '\n' := hno 'n' '\n' (by decide) rfl rfl
    have hf : c ≠ '\x0c' := hno 'f' '\x0c' (by decide) rfl rfl
    have hr : c ≠ '\r' := hno 'r' '\r' (by decide) rfl rfl
    simp only [escape, if_neg hquote, if_neg hslash, if_neg hb, if_neg ht, if_neg hn, if_neg hf,
      if_neg hr]
    by_cases hcontrol : c.toNat < 0x20
    · refine ⟨.unit c.toNat, .inr ⟨rfl, hcontrol⟩, fun rest => ?_⟩
      rw [if_pos hcontrol]
      simp only [List.cons_append, List.nil_append]
      rw [pieces, unit?_lowerDigits hcontrol]
      cases pieces rest <;> rfl
    · refine ⟨.char c, .inl rfl, fun rest => ?_⟩
      rw [if_neg hcontrol]
      exact pieces_plain hquote hslash hcontrol rest

theorem join_spelled {p : Piece} {c : Char} (h : Spells p c) (ps : List Piece) :
    join (p :: ps) = (join ps).map (c :: ·) := by
  rcases h with rfl | ⟨rfl, hc⟩
  · rfl
  · have hhigh : isHigh c.toNat = false := by
      simp only [isHigh, Bool.and_eq_false_iff, decide_eq_false_iff_not]
      omega
    have hlow : isLow c.toNat = false := by
      simp only [isLow, Bool.and_eq_false_iff, decide_eq_false_iff_not]
      omega
    cases ps with
    | nil => simp [join, hhigh, hlow, Char.ofNat_toNat]
    | cons q ps => cases q <;> simp [join, hhigh, hlow, Char.ofNat_toNat]

/-- A text between quotation marks is read as pieces that spell it, whatever follows. -/
theorem pieces_write (s : List Char) :
    ∃ ps, join ps = some s ∧
      ∀ rest, pieces (s.flatMap escape ++ '"' :: rest) = some (ps, rest) := by
  induction s with
  | nil => exact ⟨[], rfl, fun _ => rfl⟩
  | cons c s ih =>
    obtain ⟨ps, hjoin, hpieces⟩ := ih
    obtain ⟨p, hp, hescape⟩ := pieces_escape c
    refine ⟨p :: ps, ?_, fun rest => ?_⟩
    · rw [join_spelled hp, hjoin]
      rfl
    · rw [List.flatMap_cons, List.append_assoc, hescape, hpieces]
      rfl

end TicketLogin.Json.Quoted
