import Mathlib.Control.Monad.Basic
import TicketLogin.Proofs.Session.Refinement

/-!
# Taking a session away

Clearing looks at the authorization value alone, while looking for a session reads all of it. So the
two agree on whether there is a session unless its identity is garbled: such a session is not found,
and yet it is one that can be taken away. Once it is gone none is found, and none is left to take.
-/

namespace TicketLogin

namespace Items

variable {items : Items}

theorem authorization?_eq_some_iff {value : String} :
    items.authorization? = some value ↔
      items.get? Session.authorizationName = some value ∧ value ≠ "" := by
  rw [authorization?, Option.filter_eq_some_iff, decide_eq_true_iff]

/-- Where somebody is authorized there is a session, unless its identity cannot be read. -/
theorem isSome_authorization?_iff :
    items.authorization?.isSome = true ↔
      (∃ s, items.session? = .ok (some s)) ∨ items.session? = .error .malformedIdentity := by
  unfold session?
  cases items.authorization? with
  | none => simp
  | some authorization =>
    cases items.identity? with
    | none => simp
    | some identity => simp

theorem holds_after_clear (items : Items) : (items.after .clear).Holds none := by
  rw [after]
  split
  · exact items.holds_dropSession
  · next hitem => exact items.holds_none_iff.2 (Bool.eq_false_iff.2 hitem)

end Items

namespace Medium

variable {m : Medium} {items : Items}

theorem hasSession_iff : m.hasSession = true ↔ ∃ s, m.read = .ok (some s) := by
  unfold hasSession
  constructor
  · intro h
    split at h
    · next s hread => exact ⟨s, hread⟩
    · cases h
  · rintro ⟨s, hread⟩
    rw [hread]

/-- A medium that holds nothing of a session shows none and has none to take away. -/
structure SignedOut (m : Medium) : Prop where
  read : m.read = .ok none
  hasSession : m.hasSession = false
  clear : m.clear = (m, .ok false)

theorem signedOut_of_load (hload : m.load = .ok items) (hnone : items.Holds none) :
    m.SignedOut := by
  have hread : m.read = .ok none :=
    (read_of_load hload).trans (Items.session?_of_holds_none hnone)
  refine ⟨hread, ?_, ?_⟩
  · rw [Medium.hasSession, hread]
  · rw [clear_of_load hload, items.holds_none_iff.1 hnone, Items.authorization?_of_holds_none hnone]
    rfl

/-- Clearing that succeeds has found items, and leaves those of others. -/
theorem exists_load_of_clear {removed : Bool} (h : m.clear.2 = .ok removed) :
    ∃ items, m.load = .ok items ∧ removed = items.authorization?.isSome ∧
      m.clear.1.load = .ok (items.after .clear) := by
  cases hload : m.load with
  | error fault =>
    rw [clear, hload] at h
    cases h
  | ok items =>
    refine ⟨items, rfl, ?_⟩
    obtain hfault | ⟨hreply, hnow⟩ := answer_cases hload .clear
    · simp only [answer, h] at hfault
      cases hfault
    · refine ⟨?_, hnow⟩
      have hmemory : (memory items).clear.2 = .ok items.authorization?.isSome := by
        simp only [clear, load]
        split <;> rfl
      simp only [answer, h, hmemory, Reply.of, Reply.flag.injEq] at hreply
      exact hreply

/-- A session is taken away if an authorization value was stored. That is one that was found, or one
whose identity is garbled. -/
theorem session_taken_away {removed : Bool} (h : m.clear.2 = .ok removed) :
    ∃ items, m.load = .ok items ∧
      (removed = true ↔
        ∃ value, items.get? Session.authorizationName = some value ∧ value ≠ "") ∧
      (removed = true ↔ m.hasSession = true ∨ m.read = .error .malformedIdentity) ∧
      m.clear.1.SignedOut := by
  obtain ⟨items, hload, rfl, hnow⟩ := exists_load_of_clear h
  refine ⟨items, hload, ?_, ?_, signedOut_of_load hnow items.holds_after_clear⟩
  · rw [Option.isSome_iff_exists]
    exact exists_congr fun _ => Items.authorization?_eq_some_iff
  · rw [Items.isSome_authorization?_iff, hasSession_iff, read_of_load hload]
    rfl

/-- A session with a text in the place of its identity that is none. -/
def garbledIdentity : SessionFile :=
  ⟨"<TMP>/session.json", ⟨[(["session.json"], .file (Utf8.encode
    "\x7b\"Authorization\":\"A\",\"Token\":\"K\",\"userInfo\":\"x\"\x7d".toList) Disk.openMode)]⟩⟩

theorem clear_garbledIdentity : (Medium.file garbledIdentity).clear.2 = .ok true := by
  decide +kernel

theorem garbled_session_taken_away :
    (Medium.file garbledIdentity).clear.2 = .ok true ∧
    ∃ items, (Medium.file garbledIdentity).load = .ok items ∧
      (true = true ↔
        ∃ value, items.get? Session.authorizationName = some value ∧ value ≠ "") ∧
      (true = true ↔ (Medium.file garbledIdentity).hasSession = true ∨
        (Medium.file garbledIdentity).read = .error .malformedIdentity) ∧
      (Medium.file garbledIdentity).clear.1.SignedOut :=
  ⟨clear_garbledIdentity, session_taken_away clear_garbledIdentity⟩

/-- It has not been found before it is taken away. -/
theorem taken_away_unfound :
    ¬ ∀ (m : Medium) (removed : Bool), m.clear.2 = .ok removed →
      (removed = true ↔ m.hasSession = true) := by
  intro hclaim
  have hfound := (hclaim (.file garbledIdentity) true clear_garbledIdentity).1 rfl
  have hunfound : (Medium.file garbledIdentity).hasSession = false := by decide +kernel
  rw [hunfound] at hfound
  cases hfound

end Medium

end TicketLogin
