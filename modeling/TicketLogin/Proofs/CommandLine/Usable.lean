import Mathlib.Control.Monad.Basic
import TicketLogin.Proofs.CommandLine.Login

/-!
# A login that succeeded ends with its session

A login reads the session back that it has saved. As grants are usable, it always finds the one of
its grant: after an exchange that succeeded there is nothing left that could go wrong.
-/

namespace TicketLogin.CommandLine

section

variable {s : Surroundings} {text : String} {settings : Settings} {start : Address}

theorem asks_of_succeeded (hsettings : s.settings = .ok settings)
    (hpage : Address.read (Text.trim text) = .ok start)
    (hsucceeded : (visit s settings start).outcome = .exchanged .succeeded) :
    ∃ ticket g requests, s.Asks text settings start ticket ∧
      s.asked settings start ticket = (.ok g, requests) ∧
      (s.medium.persist g.session).2 = .ok () := by
  cases hsession : s.medium.hasSession with
  | true =>
    rw [(visit_of_session settings start hsession).outcome] at hsucceeded
    cases hsucceeded
  | false =>
    cases hticket : start.ticket? with
    | none =>
      rw [(visit_of_ticketless settings start hsession hticket).outcome] at hsucceeded
      cases hsucceeded
    | some ticket =>
      rcases hasked : s.asked settings start ticket with ⟨answer, requests⟩
      rw [(visit_of_ticket settings start hsession hticket hasked).outcome] at hsucceeded
      cases hfailure : answer.failure? (.ofMedium s.medium) with
      | some failure =>
        rw [hfailure] at hsucceeded
        cases hsucceeded
      | none =>
        obtain ⟨g, rfl, hsaved⟩ := (answer.failure?_eq_none_iff _).1 hfailure
        simp only [Store.persist_ofMedium] at hsaved
        exact ⟨ticket, g, requests, ⟨hsettings, hpage, hsession, hticket⟩, hasked, hsaved⟩

/-- What the program makes of a visit, if after a successful exchange there is a session to read. -/
theorem verdict_report (s : Surroundings) (start : Address) {v : Visit}
    (hread : v.outcome = .exchanged .succeeded →
      ∃ session, v.browser.store.read = .ok (some session)) :
    (report s start v).1 = .success ∨ (report s start v).1 = .failure .ticketLogin := by
  unfold report
  split
  · exact .inl rfl
  · next hsucceeded =>
    obtain ⟨session, hsession⟩ := hread hsucceeded
    rw [hsession]
    exact .inl rfl
  · exact .inr rfl
  · exact .inl rfl

inductive Ends (text : String) : Verdict → Prop
  | well : Ends text .success
  | settings (fault : SettingsFault) : Ends text (.failure (.settings fault))
  | page (fault : AddressFault) : Ends text (.failure (.page text fault))
  | exchange : Ends text (.failure .ticketLogin)

theorem ends_login (s : Surroundings) (text : String) : Ends text (login s text).verdict := by
  cases hsettings : s.settings with
  | error fault =>
    rw [login_of_settings_error hsettings]
    exact .settings fault
  | ok settings =>
    cases hpage : Address.read (Text.trim text) with
    | error fault =>
      rw [login_of_page_error hsettings hpage]
      exact .page fault
    | ok start =>
      have hreport : (login s text).verdict = (report s start (visit s settings start)).1 := by
        rw [login_of_page hsettings hpage]
      have hread (hsucceeded : (visit s settings start).outcome = .exchanged .succeeded) :
          ∃ session, (visit s settings start).browser.store.read = .ok (some session) := by
        obtain ⟨_, g, _, hasks, hasked, hsaved⟩ := asks_of_succeeded hsettings hpage hsucceeded
        exact ⟨g.session, read_of_grant hasks hasked hsaved⟩
      rw [hreport]
      obtain h | h := verdict_report s start hread
      · rw [h]
        exact .well
      · rw [h]
        exact .exchange

end

/-- Every grant that an answer means is usable. So no login misses its session or fails to read it,
and one whose exchange has succeeded reads the session of its grant and ends well. -/
theorem grants_usable :
    (∀ answer header g, Grant.ofAnswer answer header = .ok g → g.Usable) ∧
    ∀ (s : Surroundings) (text : String),
      (login s text).verdict ≠ .failure .sessionMissing ∧
      (∀ fault, (login s text).verdict ≠ .failure (.session fault)) ∧
      ∀ settings start, s.settings = .ok settings → Address.read (Text.trim text) = .ok start →
        (visit s settings start).outcome = .exchanged .succeeded →
        ∃ g, s.obtained? text = some g ∧
          (visit s settings start).browser.store.read = .ok (some g.session) ∧
          (login s text).verdict = .success := by
  refine ⟨fun _ _ _ => Grant.usable_of_ofAnswer, fun s text => ⟨?_, ?_, ?_⟩⟩
  · intro hmissing
    have hends := ends_login s text
    rw [hmissing] at hends
    cases hends
  · intro fault hfault
    have hends := ends_login s text
    rw [hfault] at hends
    cases hends
  · intro settings start hsettings hpage hsucceeded
    obtain ⟨ticket, g, requests, hasks, hasked, hsaved⟩ :=
      asks_of_succeeded hsettings hpage hsucceeded
    refine ⟨g, ?_, read_of_grant hasks hasked hsaved, ?_⟩
    · rw [hasks.obtained?_eq, hasked]
      rfl
    · exact ((hasks.saves hasked).1.saved hsaved).1

def numberedAnswer : Json.Value := .record [("access_token", .number (.integer 7))]

theorem number_token_usable :
    Grant.ofAnswer numberedAnswer (some "") = .ok ⟨"Bearer 7", "7", none, none, none⟩ ∧
    Grant.Usable ⟨"Bearer 7", "7", none, none, none⟩ := by
  have hgranted : Grant.ofAnswer numberedAnswer (some "") =
      .ok ⟨"Bearer 7", "7", none, none, none⟩ := by decide +kernel
  exact ⟨hgranted, grants_usable.1 _ _ _ hgranted⟩

end TicketLogin.CommandLine
