import TicketLogin.Proofs.Redemption
import TicketLogin.Proofs.Session.RoundTrip

/-!
# Grants are usable

A grant always holds an authorization value and a token, whatever the answer it was made of. So its
session is one that, once saved, is found and read back as it was.
-/

namespace TicketLogin

namespace Json.Number

theorem positional_ne_nil (digits : List Char) (point : Int) : positional digits point ≠ [] := by
  unfold positional
  split
  · exact List.cons_ne_nil _ _
  · dsimp only
    split <;> simp

theorem scientific_ne_nil (digits : List Char) (point : Int) : scientific digits point ≠ [] :=
  List.append_ne_nil_of_right_ne_nil _ (List.cons_ne_nil _ _)

theorem floatText_ne_nil (x : Binary64) : floatText x ≠ [] := by
  unfold floatText
  split
  · exact List.cons_ne_nil _ _
  · dsimp only
    split
    · exact positional_ne_nil _ _
    · exact scientific_ne_nil _ _

theorem text_ne_nil (n : Number) : n.text ≠ [] := by
  cases n with
  | integer n =>
    exact List.append_ne_nil_of_right_ne_nil _ (List.ne_nil_of_length_pos Nat.length_toDigits_pos)
  | float negative magnitude =>
    exact List.append_ne_nil_of_right_ne_nil _ (floatText_ne_nil magnitude)

end Json.Number

namespace Grant

theorem IsText.ne_empty {payload : Json.Value} {name s : String} (h : IsText payload name s) :
    s ≠ "" := by
  cases h with
  | text _ nonempty => exact nonempty
  | @number n field =>
    intro hempty
    have hchars := congrArg String.toList hempty
    rw [String.toList_ofList] at hchars
    exact n.text_ne_nil hchars

theorem Describes.authorization_ne_empty {payload : Json.Value} {header : Option String} {g : Grant}
    (h : g.Describes payload header) : g.authorization ≠ "" := by
  by_cases hheader : ∃ value, header = some value ∧ value ≠ ""
  · obtain ⟨value, hvalue, hne⟩ := hheader
    rw [h.named value hvalue hne]
    exact hne
  · rw [h.bearer fun value hvalue => by_contra fun hne => hheader ⟨value, hvalue, hne⟩]
    intro hempty
    have hlength := congrArg String.length hempty
    rw [String.length_append] at hlength
    exact absurd hlength (Nat.ne_of_gt (Nat.lt_add_right _ (by decide)))

/-- A grant with which one is logged in as soon as its session is saved, wherever that is. -/
structure Usable (g : Grant) : Prop where
  authorization : g.authorization ≠ ""
  accessToken : g.accessToken ≠ ""
  found : ∀ m : Medium, (m.persist g.session).2 = .ok () →
    (m.persist g.session).1.hasSession = true
  readBack : ∀ m : Medium, (m.persist g.session).2 = .ok () →
    (m.persist g.session).1.read = .ok (some g.session)

theorem usable_of_ofAnswer {answer : Json.Value} {header : Option String} {g : Grant}
    (h : ofAnswer answer header = .ok g) : g.Usable := by
  have hdescribes := describes_of_ofAnswer header h
  have hauthorized : g.session.authorization ≠ "" := hdescribes.authorization_ne_empty
  refine ⟨hauthorized, hdescribes.token.ne_empty, ?_, ?_⟩
  · intro m hsaved
    exact (m.read_after_persist g.session hsaved).2.2 hauthorized
  · intro m hsaved
    rw [(m.read_after_persist g.session hsaved).1, if_neg hauthorized]

end Grant

end TicketLogin
