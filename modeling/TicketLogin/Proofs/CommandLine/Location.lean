import TicketLogin.Proofs.Address.ReadBack
import TicketLogin.Proofs.CommandLine.Login
import TicketLogin.Proofs.Page.SpentTicket

/-!
# The location after a login

A login that greets somebody has redeemed the ticket of the page, so its history is that of the page
without its tickets, moved along the landing route. A landing route without a question mark brings no
query of its own, and what the login prints as its location holds no ticket.
-/

namespace TicketLogin.CommandLine

variable {s : Surroundings} {text : String} {settings : Settings} {start : Address}

/-- The run says that somebody is logged in now. -/
def Run.Greets (r : Run) : Prop := ∃ line ∈ r.printed, "✓ Logged in as ".toList <+: line.toList

theorem history_visit (hsignedOut : s.medium.hasSession = false) {ticket : Ticket}
    (hticket : start.ticket? = some ticket)
    (hdone : (visit s settings start).outcome = .exchanged .succeeded) :
    (visit s settings start).browser.history =
      (History.start start).stripTicket.navigate settings.landingRoute := by
  rcases hasked : s.asked settings start ticket with ⟨answer, requests⟩
  obtain ⟨b, i, hb, hvisit⟩ := visit_eq_complete settings start hsignedOut hticket hasked
  rw [hvisit] at hdone ⊢
  obtain ⟨hphase, _⟩ | ⟨_, hsettled⟩ := b.history_complete i answer
  · rw [hphase] at hdone
    cases hdone
  · rw [hsettled, Browser.settled, hb.mounted, if_pos rfl, hb.history, hb.landing]

theorem not_greets {r : Run} (h : ∀ line ∈ r.printed, line.toList.head? ≠ some '✓') :
    ¬ r.Greets := by
  rintro ⟨line, hline, rest, hrest⟩
  apply h line hline
  rw [← hrest]
  rfl

/-- A login that has asked for a redemption greets somebody only after it, and says last where it has
come to. -/
theorem Surroundings.Asks.greets {ticket : Ticket} (h : s.Asks text settings start ticket)
    (hgreets : (login s text).Greets) :
    (visit s settings start).outcome = .exchanged .succeeded ∧
      (login s text).printed.getLast? =
        some s!"  Location: {(visit s settings start).location}" := by
  rw [login_of_page h.settings h.page, h.announced] at hgreets ⊢
  rcases hasked : s.asked settings start ticket with ⟨answer, requests⟩
  have houtcome := (visit_of_ticket settings start h.signedOut h.ticket hasked).outcome
  generalize visit s settings start = v at hgreets houtcome ⊢
  split at houtcome
  · simp only [report, houtcome] at hgreets
    exact absurd hgreets (not_greets (by simp))
  · refine ⟨houtcome, ?_⟩
    simp only [report, houtcome] at hgreets ⊢
    split at hgreets
    · exact absurd hgreets (not_greets (by simp))
    · exact absurd hgreets (not_greets (by simp))
    · rfl

theorem asks_of_greets (h : (login s text).Greets) :
    ∃ settings start ticket, s.Asks text settings start ticket := by
  cases hsettings : s.settings with
  | error fault =>
    rw [login_of_settings_error hsettings] at h
    exact absurd h (not_greets (by simp [Run.failing]))
  | ok settings =>
    cases hpage : Address.read (Text.trim text) with
    | error fault =>
      rw [login_of_page_error hsettings hpage] at h
      exact absurd h (not_greets (by simp [Run.failing]))
    | ok start =>
      cases hsession : s.medium.hasSession with
      | true =>
        obtain ⟨location, hlogin⟩ := login_of_session hsettings hpage hsession
        rw [hlogin] at h
        exact absurd h (not_greets (by simp [Run.printing, toString]))
      | false =>
        cases hticket : start.ticket? with
        | none =>
          rw [login_of_ticketless hsettings hpage hsession hticket] at h
          exact absurd h (not_greets (by simp [Run.printing, toString]))
        | some ticket => exact ⟨settings, start, ticket, hsettings, hpage, hsession, hticket⟩

/-- If a login greets somebody and the landing route holds no question mark, the location that it
prints has no pair named `ticket`, neither as the browser holds it nor for whoever reads it. -/
theorem printed_location_ticketless (s : Surroundings) (text : String) {settings : Settings}
    (hsettings : s.settings = .ok settings) (hroute : '?' ∉ settings.landingRoute.toList)
    (hgreets : (login s text).Greets) :
    ∃ location : Address,
      (login s text).printed.getLast? = some s!"  Location: {location.toText}" ∧
      (∀ p ∈ location.pairs, p.1 ≠ "ticket".toList) ∧
      ∀ a, Address.read location.toText = .ok a → ∀ p ∈ a.pairs, p.1 ≠ "ticket".toList := by
  obtain ⟨settings', start, ticket, hasks⟩ := asks_of_greets hgreets
  obtain ⟨hdone, hprinted⟩ := hasks.greets hgreets
  obtain rfl := Except.ok.inj (hsettings.symm.trans hasks.settings)
  have hstripped : (visit s settings start).browser.history.location.Stripped := by
    rw [history_visit hasks.signedOut hasks.ticket hdone]
    refine History.stripped_navigate ?_ hroute
    rw [History.stripTicket, History.location_replace]
    exact (Address.wellMarked_of_read hasks.page).stripped_withoutTicket
  refine ⟨_, hprinted, hstripped.ne_pairName, fun a hread => ?_⟩
  have hpairs : a.pairs = (visit s settings start).browser.history.location.pairs := by
    rw [Address.pairs, hstripped.query_of_read hread]
    rfl
  rw [hpairs]
  exact hstripped.ne_pairName

/-- A landing route that keeps to the page, and so to what is left of its query. -/
def stayingSettings : Settings := { Settings.default with landingRoute := "#done" }

def stayingHome : Surroundings where
  disk := ⟨[(["home"], .folder),
    (["home", "config.toml"],
      .file (Utf8.encode "landing_route = \"#done\"".toList) Disk.privateMode)]⟩
  environment := fun name => if name = "IDSGATE_HOME" then some "<TMP>/home" else none
  network :=
    ⟨[⟨200, [], Utf8.encode "\x7b\"access_token\":\"T\"\x7d".toList, false, 0⟩], fun _ _ => true⟩

def twiceTicketedPage : String := "https://[::1]/login?lang=zh&ticket=ST-1&%74icket=x#top"

theorem staying_location_ticketless :
    stayingHome.settings = .ok stayingSettings ∧
    '?' ∉ stayingSettings.landingRoute.toList ∧
    (login stayingHome twiceTicketedPage).Greets ∧
    (login stayingHome twiceTicketedPage).printed.getLast? =
      some "  Location: https://[::1]/login?lang=zh#done" ∧
    ∃ location : Address,
      (login stayingHome twiceTicketedPage).printed.getLast? =
        some s!"  Location: {location.toText}" ∧
      (∀ p ∈ location.pairs, p.1 ≠ "ticket".toList) ∧
      ∀ a, Address.read location.toText = .ok a → ∀ p ∈ a.pairs, p.1 ≠ "ticket".toList := by
  have hsettings : stayingHome.settings = .ok stayingSettings := by decide +kernel
  have hroute : '?' ∉ stayingSettings.landingRoute.toList := by decide +kernel
  have hprinted : (login stayingHome twiceTicketedPage).printed =
      ["Exchanging ticket...", "", "✓ Logged in as unknown user (token: ***)",
        "  Session saved to: <TMP>/home/session.json",
        "  Location: https://[::1]/login?lang=zh#done"] := by
    decide +kernel
  have hgreets : (login stayingHome twiceTicketedPage).Greets := by
    refine ⟨"✓ Logged in as unknown user (token: ***)", ?_, by decide +kernel⟩
    rw [hprinted]
    exact List.mem_cons_of_mem _ (List.mem_cons_of_mem _ List.mem_cons_self)
  refine ⟨hsettings, hroute, hgreets, ?_,
    printed_location_ticketless stayingHome twiceTicketedPage hsettings hroute hgreets⟩
  rw [hprinted]
  rfl

end TicketLogin.CommandLine
