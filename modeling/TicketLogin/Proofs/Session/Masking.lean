import TicketLogin.Proofs.Text.Boundary
import TicketLogin.Session.Basic

/-!
# What a masked token shows

A masked token is cut out of the bytes of the token, and the byte behind the twelve that may be
shown tells whether that would cut a character. What comes out depends on those twelve alone, as
long as the token has more than sixteen.
-/

namespace TicketLogin

namespace AccessToken

def bytes (token : String) : List UInt8 := Utf8.encode token.toList

/-- The masked token, cut out of the bytes; none if the cut goes through a character. -/
def cutOut? (token : String) : Option String :=
  if (bytes token).length ≤ 16 ∨ Utf8.isBoundary (bytes token) 12 = false then some "***"
  else (Utf8.decode? ((bytes token).take 12)).map fun front => String.ofList front ++ "..."

theorem firstBytes_zero (s : List Char) : firstBytes 0 s = some [] := by cases s <;> rfl

theorem firstBytes_cons {n : Nat} (hpos : 0 < n) (c : Char) (s : List Char) :
    firstBytes n (c :: s) =
      if (Utf8.encodeChar c).length ≤ n then
        (firstBytes (n - (Utf8.encodeChar c).length) s).map (c :: ·)
      else none := by
  cases n with
  | zero => exact absurd hpos (Nat.lt_irrefl 0)
  | succ n => rfl

theorem firstBytes_eq_some_iff {n : Nat} {s front : List Char} :
    firstBytes n s = some front ↔ Utf8.Fills front s n := by
  induction s generalizing n front with
  | nil =>
    cases n with
    | zero => rw [firstBytes_zero, Utf8.fills_zero_iff, Option.some_inj, eq_comm]
    | succ n => exact iff_of_false nofun (Utf8.not_fills_nil (Nat.succ_pos n))
  | cons c s ih =>
    cases n with
    | zero => rw [firstBytes_zero, Utf8.fills_zero_iff, Option.some_inj, eq_comm]
    | succ n =>
      rw [firstBytes_cons (Nat.succ_pos n), Utf8.fills_cons_iff (Nat.succ_pos n)]
      split
      · next hle =>
        rw [Option.map_eq_some_iff]
        constructor
        · rintro ⟨rest, hrest, rfl⟩
          exact ⟨hle, rest, rfl, ih.1 hrest⟩
        · rintro ⟨_, rest, rfl, hrest⟩
          exact ⟨rest, ih.2 hrest, rfl⟩
      · next hlt => exact iff_of_false nofun fun h => hlt h.1

theorem isBoundary_eq_isSome (token : String) (n : Nat) :
    Utf8.isBoundary (bytes token) n = (firstBytes n token.toList).isSome := by
  rw [Bool.eq_iff_iff, bytes, Utf8.isBoundary_encode_iff, Option.isSome_iff_exists]
  simp only [firstBytes_eq_some_iff]

section

variable {token : String}

theorem firstBytes_eq_decode? (hlong : 16 < (bytes token).length) :
    firstBytes 12 token.toList = Utf8.decode? ((bytes token).take 12) := by
  apply Option.ext
  intro front
  rw [firstBytes_eq_some_iff, bytes, Utf8.decode?_take_encode_iff]
  exact Nat.le_trans (by decide) (Nat.le_of_lt hlong)

theorem masked_of_short (hshort : (bytes token).length ≤ 16) : masked token = "***" := if_pos hshort

theorem masked_of_long (hlong : 16 < (bytes token).length) :
    masked token =
      match Utf8.decode? ((bytes token).take 12) with
      | some front => String.ofList front ++ "..."
      | none => "***" := by
  rw [← firstBytes_eq_decode? hlong]
  refine (if_neg (Nat.not_le.2 hlong)).trans ?_
  cases firstBytes 12 token.toList with
  | none => rfl
  | some front => exact String.ofList_append

/-- No cut goes through a character, and what is cut out is the masked token. -/
theorem cutOut?_eq_masked (token : String) : cutOut? token = some (masked token) := by
  unfold cutOut?
  by_cases hshort : (bytes token).length ≤ 16
  · rw [if_pos (.inl hshort), masked_of_short hshort]
  · have hlong := Nat.lt_of_not_le hshort
    rw [isBoundary_eq_isSome, masked_of_long hlong, ← firstBytes_eq_decode? hlong]
    cases firstBytes 12 token.toList with
    | none => rw [if_pos (.inr Option.isSome_none)]
    | some front =>
      rw [if_neg (not_or.2 ⟨hshort, Bool.ne_false_iff.2 Option.isSome_some⟩)]
      rfl

/-- Twelve bytes are shown, and five or more are not, or nothing is shown. -/
theorem masked_shows (token : String) :
    masked token = "***" ∨
      bytes (masked token) = (bytes token).take 12 ++ bytes "..." ∧
        5 ≤ ((bytes token).drop 12).length := by
  by_cases hshort : (bytes token).length ≤ 16
  · exact .inl (masked_of_short hshort)
  · rw [masked_of_long (Nat.lt_of_not_le hshort)]
    cases hfront : Utf8.decode? ((bytes token).take 12) with
    | none => exact .inl rfl
    | some front =>
      refine .inr ⟨?_, ?_⟩
      · simp only [bytes, String.toList_append, String.toList_ofList, Utf8.encode_append]
        rw [Utf8.encode_of_decode? hfront]
        rfl
      · rw [List.length_drop]
        omega

end

theorem masked_congr {a b : String} (ha : 16 < (bytes a).length) (hb : 16 < (bytes b).length)
    (hfront : (bytes a).take 12 = (bytes b).take 12) : masked a = masked b := by
  rw [masked_of_long ha, masked_of_long hb, hfront]

/-- The twelfth byte begins a character that goes on behind it. -/
example : masked "0123456789aéBCDE" = "***" := by decide +kernel

end AccessToken

/-- Sessions of one identity whose tokens have more than sixteen bytes, the first twelve in
common. -/
structure Session.Resembles (a b : Session) : Prop where
  identity : a.identity = b.identity
  long : 16 < (AccessToken.bytes a.accessToken).length
  long' : 16 < (AccessToken.bytes b.accessToken).length
  front : (AccessToken.bytes a.accessToken).take 12 = (AccessToken.bytes b.accessToken).take 12

theorem Session.Resembles.masked_eq {a b : Session} (h : a.Resembles b) :
    AccessToken.masked a.accessToken = AccessToken.masked b.accessToken :=
  AccessToken.masked_congr h.long h.long' h.front

end TicketLogin
