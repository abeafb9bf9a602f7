import TicketLogin.CommandLine.Run
import TicketLogin.Proofs.Http.Classification
import TicketLogin.Proofs.Http.Exchange
import TicketLogin.Proofs.Page.Completion
import TicketLogin.Proofs.Path
import TicketLogin.Proofs.Session.Persist

/-!
# A login is all or nothing

A login asks the server only for somebody who is signed out and comes with a ticket; then it asks
for the redemption of that ticket. Either it leaves the session of the grant in the file, beside the
items of others, or it leaves the file alone. Each way in which it can stop has its exit code.
-/

namespace TicketLogin

namespace Browser

variable {b : Browser} {i : Nat}

structure Opens (b : Browser) (store : Store) (start : Address) : Prop where
  kind : b.kind = .page
  store : b.store = store
  fresh : b.surface b.current = .fresh
  location : b.history.location = start
  notices : b.notices = []

theorem opens_load (landing : String) (store : Store) (start : Address) :
    (load .page landing store start).Opens store start := ⟨rfl, rfl, rfl, rfl, rfl⟩

theorem simplePass_page_of_session (hkind : b.kind = .page) (hfound : b.store.hasSession = true)
    (i : Nat) (answer : Option Answer) :
    b.simplePass i answer = (b.leave, .done .alreadySignedIn) := by
  simp only [simplePass, pass, hkind, guardPass, uninterrupted, hfound, if_true]

theorem simplePass_page_of_fresh (hkind : b.kind = .page) (hfound : b.store.hasSession = false)
    (hfresh : b.surface i = .fresh) :
    b.simplePass i none =
      match b.history.location.ticket? with
      | none => (b, .done (.exchanged .idle))
      | some ticket => (b.beginCall i ticket, .waiting b.calls.length) := by
  simp only [simplePass, pass, hkind, guardPass, uninterrupted, hfound, Bool.false_eq_true,
    if_false, exchangePass, hfresh]
  cases b.history.location.ticket? with
  | none => rfl
  | some ticket => rfl

end Browser

namespace CommandLine

/-! ## Visits of the login page -/

def Surroundings.asked (s : Surroundings) (settings : Settings) (start : Address)
    (ticket : Ticket) : Answer × List Http.Request :=
  Http.redeem settings.provider.ticketLoginUrl ticket start s.network

structure Visit.ComesTo (v : Visit) (outcome : Outcome) (store : Store) (notices : Notices)
    (requests : List Http.Request) : Prop where
  outcome : v.outcome = outcome
  store : v.browser.store = store
  notices : v.browser.notices = notices
  requests : v.requests = requests

section

variable {s : Surroundings} (settings : Settings) (start : Address)

theorem visit_of_session (h : s.medium.hasSession = true) :
    (visit s settings start).ComesTo .alreadySignedIn (.ofMedium s.medium) [] [] := by
  have hopen := Browser.opens_load settings.landingRoute (.ofMedium s.medium) start
  generalize hb : Browser.load .page settings.landingRoute (.ofMedium s.medium) start = b at hopen
  have hfound : b.store.hasSession = true := by
    rw [hopen.store, Store.hasSession_ofMedium, h]
  delta visit
  simp only [hb, Browser.simplePass_page_of_session hopen.kind hfound]
  obtain ⟨history, hleave⟩ := b.leave_eq_with
  rw [hleave]
  exact ⟨rfl, hopen.store, hopen.notices, rfl⟩

theorem visit_of_ticketless (h : s.medium.hasSession = false) (hticket : start.ticket? = none) :
    (visit s settings start).ComesTo (.exchanged .idle) (.ofMedium s.medium) [] [] := by
  have hopen := Browser.opens_load settings.landingRoute (.ofMedium s.medium) start
  generalize hb : Browser.load .page settings.landingRoute (.ofMedium s.medium) start = b at hopen
  have hfound : b.store.hasSession = false := by
    rw [hopen.store, Store.hasSession_ofMedium, h]
  delta visit
  simp only [hb, Browser.simplePass_page_of_fresh hopen.kind hfound hopen.fresh,
    hopen.location, hticket]
  exact ⟨rfl, hopen.store, hopen.notices, rfl⟩

/-- What a browser is like that has opened the page of a visit and waits for its answer. -/
structure Awaits (s : Surroundings) (settings : Settings) (start : Address) (b : Browser)
    (i : Nat) : Prop where
  mounted : (b.surface i).mounted = true
  store : b.store = .ofMedium s.medium
  notices : b.notices = []
  history : b.history = .start start
  landing : b.landing = settings.landingRoute

theorem visit_eq_complete (h : s.medium.hasSession = false) {ticket : Ticket}
    (hticket : start.ticket? = some ticket) {answer : Answer} {requests : List Http.Request}
    (hasked : s.asked settings start ticket = (answer, requests)) :
    ∃ b i, Awaits s settings start b i ∧ visit s settings start =
      ⟨(b.complete i answer).1, .exchanged (b.complete i answer).2, requests⟩ := by
  have hopen := Browser.opens_load settings.landingRoute (.ofMedium s.medium) start
  have hhistory : (Browser.load .page settings.landingRoute (.ofMedium s.medium) start).history =
      .start start := rfl
  have hlanding : (Browser.load .page settings.landingRoute (.ofMedium s.medium) start).landing =
      settings.landingRoute := rfl
  rw [Surroundings.asked] at hasked
  delta visit
  generalize Browser.load .page settings.landingRoute (.ofMedium s.medium) start = b
    at hopen hhistory hlanding ⊢
  have hfound : b.store.hasSession = false := by
    rw [hopen.store, Store.hasSession_ofMedium, h]
  simp only [Browser.simplePass_page_of_fresh hopen.kind hfound hopen.fresh, hopen.location,
    hticket, b.pending?_beginCall, hasked]
  refine ⟨(b.beginCall b.current ticket).setStatus b.calls.length .answered, b.current, ?_, rfl⟩
  refine ⟨?_, ?_, ?_, ?_, ?_⟩
  · exact (b.mounted_beginCall b.current b.current ticket).trans
      (congrArg Surface.mounted hopen.fresh)
  · rw [Browser.store_setStatus, Browser.store_beginCall, hopen.store]
  · rw [Browser.notices_setStatus, Browser.notices_beginCall, hopen.notices]
  · rw [Browser.history_setStatus, Browser.history_beginCall, hhistory]
  · rw [Browser.landing_setStatus, Browser.landing_beginCall, hlanding]

theorem visit_of_ticket (h : s.medium.hasSession = false) {ticket : Ticket}
    (hticket : start.ticket? = some ticket) {answer : Answer} {requests : List Http.Request}
    (hasked : s.asked settings start ticket = (answer, requests)) :
    (visit s settings start).ComesTo
      (.exchanged (if (answer.failure? (.ofMedium s.medium)).isSome then .failed else .succeeded))
      (answer.stored (.ofMedium s.medium))
      ((answer.failure? (.ofMedium s.medium)).map (·.notice)).toList requests := by
  obtain ⟨b, i, hb, hvisit⟩ := visit_eq_complete settings start h hticket hasked
  rw [hvisit]
  refine ⟨?_, ?_, ?_, rfl⟩
  · rw [Browser.phase_complete, hb.store]
  · rw [Browser.store_complete, hb.store]
  · rw [Browser.notices_complete, hb.notices, List.nil_append, Completion.notice?,
      Browser.completed, hb.mounted, hb.store]
    rfl

end

/-! ## Runs of a login -/

/-- A login that gets as far as asking: it has its settings, and somebody who is signed out comes to
a page with this ticket. -/
structure Surroundings.Asks (s : Surroundings) (text : String) (settings : Settings)
    (start : Address) (ticket : Ticket) : Prop where
  settings : s.settings = .ok settings
  page : Address.read (Text.trim text) = .ok start
  signedOut : s.medium.hasSession = false
  ticket : start.ticket? = some ticket

/-- The grant that a login obtains. -/
def Surroundings.obtained? (s : Surroundings) (text : String) : Option Grant :=
  match s.settings, Address.read (Text.trim text) with
  | .ok settings, .ok start =>
    if s.medium.hasSession then none
    else start.ticket?.bind fun ticket => (s.asked settings start ticket).1.toOption
  | _, _ => none

section

variable {s : Surroundings} {text : String}

theorem announcement_of_session (h : s.medium.hasSession = true) (start : Address) :
    announcement s start = [] := by
  rw [announcement, h, Bool.not_true, Bool.and_false]
  rfl

theorem login_of_settings_error {fault : SettingsFault} (hsettings : s.settings = .error fault) :
    login s text = .failing s.disk (.settings fault) := by
  delta login
  rw [hsettings]

theorem login_of_page_error {settings : Settings} {fault : AddressFault}
    (hsettings : s.settings = .ok settings)
    (hpage : Address.read (Text.trim text) = .error fault) :
    login s text = .failing s.disk (.page text fault) := by
  delta login
  rw [hsettings]
  dsimp only
  rw [hpage]

theorem login_of_page {settings : Settings} {start : Address}
    (hsettings : s.settings = .ok settings) (hpage : Address.read (Text.trim text) = .ok start) :
    login s text =
      let v := visit s settings start
      ⟨v.disk s, (report s start v).1, announcement s start ++ (report s start v).2,
        v.browser.notices, v.requests⟩ := by
  delta login
  rw [hsettings]
  dsimp only
  rw [hpage]

theorem login_of_session {settings : Settings} {start : Address}
    (hsettings : s.settings = .ok settings) (hpage : Address.read (Text.trim text) = .ok start)
    (h : s.medium.hasSession = true) :
    ∃ location : String, login s text =
      .printing s.disk ["Already logged in.", s!"  Redirected to: {location}"] := by
  obtain ⟨houtcome, hstore, hnotices, hrequests⟩ := visit_of_session settings start h
  refine ⟨(visit s settings start).location, ?_⟩
  simp only [login_of_page hsettings hpage, report, houtcome, announcement_of_session h, hnotices,
    hrequests, Visit.disk, hstore]
  rfl

theorem login_of_ticketless {settings : Settings} {start : Address}
    (hsettings : s.settings = .ok settings) (hpage : Address.read (Text.trim text) = .ok start)
    (h : s.medium.hasSession = false) (hticket : start.ticket? = none) :
    login s text = .printing s.disk
      [s!"No ticket in {start.toText}; nothing to exchange.",
       "Run `idsgate login-url` to start a login."] := by
  obtain ⟨houtcome, hstore, hnotices, hrequests⟩ := visit_of_ticketless settings start h hticket
  have hquiet : announcement s start = [] := by
    rw [announcement, hticket]
    rfl
  simp only [login_of_page hsettings hpage, report, houtcome, hquiet, hnotices, hrequests,
    Visit.disk, hstore]
  rfl

variable {settings : Settings} {start : Address} {ticket : Ticket}

theorem Surroundings.Asks.announced (h : s.Asks text settings start ticket) :
    announcement s start = ["Exchanging ticket..."] := by
  rw [announcement, h.ticket, h.signedOut]
  rfl

theorem login_of_failure (h : s.Asks text settings start ticket) {answer : Answer}
    {requests : List Http.Request} (hasked : s.asked settings start ticket = (answer, requests))
    {failure : RedemptionFailure} (hfailure : answer.failure? (.ofMedium s.medium) = some failure) :
    login s text =
      ⟨diskOf s (answer.stored (.ofMedium s.medium)).medium, .failure .ticketLogin,
        ["Exchanging ticket..."], [failure.notice], requests⟩ := by
  obtain ⟨houtcome, hstore, hnotices, hrequests⟩ :=
    visit_of_ticket settings start h.signedOut h.ticket hasked
  rw [hfailure] at houtcome hnotices
  have houtcome : (visit s settings start).outcome = .exchanged .failed := houtcome
  simp only [login_of_page h.settings h.page, report, houtcome, h.announced, hnotices, hrequests,
    Visit.disk, hstore]
  rfl

theorem read_of_grant (h : s.Asks text settings start ticket) {g : Grant}
    {requests : List Http.Request} (hasked : s.asked settings start ticket = (.ok g, requests))
    (hsaved : (s.medium.persist g.session).2 = .ok ()) :
    (visit s settings start).browser.store.read = .ok (some g.session) := by
  have hread : (s.medium.persist g.session).1.read = .ok (some g.session) :=
    (Http.usable_of_redeem (congrArg Prod.fst hasked)).readBack s.medium hsaved
  simp only [(visit_of_ticket settings start h.signedOut h.ticket hasked).store, Answer.stored,
    Store.persist_ofMedium]
  generalize s.medium.persist g.session = persisted at hread
  exact hread

theorem login_of_grant (h : s.Asks text settings start ticket) {g : Grant}
    {requests : List Http.Request} (hasked : s.asked settings start ticket = (.ok g, requests))
    (hsaved : (s.medium.persist g.session).2 = .ok ()) :
    login s text =
      ⟨diskOf s (s.medium.persist g.session).1, .success,
        "Exchanging ticket..." :: welcome s (visit s settings start) g.session, [], requests⟩ := by
  obtain ⟨houtcome, hstore, hnotices, hrequests⟩ :=
    visit_of_ticket settings start h.signedOut h.ticket hasked
  have hnone : Answer.failure? (.ok g) (.ofMedium s.medium) = none := by
    simp only [Answer.failure?, Store.persist_ofMedium, hsaved]
  rw [hnone] at houtcome hnotices
  have houtcome : (visit s settings start).outcome = .exchanged .succeeded := houtcome
  have hmedium : Answer.stored (.ok g) (.ofMedium s.medium) =
      .ofMedium (s.medium.persist g.session).1 := by
    rw [Answer.stored, Store.persist_ofMedium]
  have hread := read_of_grant h hasked hsaved
  rw [hstore, hmedium] at hread
  generalize s.medium.persist g.session = persisted at *
  simp only [login_of_page h.settings h.page, report, houtcome, h.announced, hnotices, hrequests,
    Visit.disk, hstore, hmedium, hread]
  rfl

theorem Surroundings.Asks.obtained?_eq (h : s.Asks text settings start ticket) :
    s.obtained? text = (s.asked settings start ticket).1.toOption := by
  simp only [obtained?, h.settings, h.page, h.signedOut, h.ticket, Bool.false_eq_true, if_false]
  rfl

theorem Surroundings.usable_of_obtained {g : Grant} (h : s.obtained? text = some g) :
    g.Usable := by
  unfold obtained? at h
  split at h
  · split at h
    · cases h
    · obtain ⟨ticket, _, hanswer⟩ := Option.bind_eq_some_iff.1 h
      rcases hasked : s.asked _ _ ticket with ⟨answer, requests⟩
      rw [hasked] at hanswer
      cases answer with
      | error failure => cases hanswer
      | ok g' =>
        obtain rfl := Option.some.inj hanswer
        exact Http.usable_of_redeem (congrArg Prod.fst hasked)
  · cases h

/-- What a run of a login leaves that asks nothing. -/
structure Run.Idle (s : Surroundings) (text : String) (r : Run) : Prop where
  disk : r.disk = s.disk
  requests : r.requests = []
  obtained : s.obtained? text = none

theorem login_of_not_asks (h : ∀ settings start ticket, ¬ s.Asks text settings start ticket) :
    (login s text).Idle s text := by
  cases hsettings : s.settings with
  | error fault =>
    rw [login_of_settings_error hsettings]
    exact ⟨rfl, rfl, by simp only [Surroundings.obtained?, hsettings]⟩
  | ok settings =>
    cases hpage : Address.read (Text.trim text) with
    | error fault =>
      rw [login_of_page_error hsettings hpage]
      exact ⟨rfl, rfl, by simp only [Surroundings.obtained?, hsettings, hpage]⟩
    | ok start =>
      cases hsession : s.medium.hasSession with
      | true =>
        obtain ⟨location, hlogin⟩ := login_of_session hsettings hpage hsession
        rw [hlogin]
        refine ⟨rfl, rfl, ?_⟩
        simp only [Surroundings.obtained?, hsettings, hpage, hsession, if_true]
      | false =>
        cases hticket : start.ticket? with
        | none =>
          rw [login_of_ticketless hsettings hpage hsession hticket]
          refine ⟨rfl, rfl, ?_⟩
          simp only [Surroundings.obtained?, hsettings, hpage, hticket, ite_self, Option.bind_none]
        | some ticket =>
          exact absurd ⟨hsettings, hpage, hsession, hticket⟩ (h settings start ticket)

def greeting (session : Session) : String :=
  s!"✓ Logged in as {session.identity.shown} (token: {AccessToken.masked session.accessToken})"

/-- What a run of a login leaves that has obtained a session and tried to save it. -/
structure Run.Saves (s : Surroundings) (session : Session)
    (attempt : Medium × Except StoreFault Unit) (r : Run) : Prop where
  disk : r.disk = diskOf s attempt.1
  saved : attempt.2 = .ok () → r.verdict = .success ∧ greeting session ∈ r.printed
  unsaved : ∀ fault, attempt.2 = .error fault → r.verdict = .failure .ticketLogin

theorem Surroundings.Asks.saves (h : s.Asks text settings start ticket) {g : Grant}
    {requests : List Http.Request} (hasked : s.asked settings start ticket = (.ok g, requests)) :
    (login s text).Saves s g.session (s.medium.persist g.session) ∧
      (login s text).requests = requests := by
  cases hresult : (s.medium.persist g.session).2 with
  | ok =>
    rw [login_of_grant h hasked hresult]
    generalize s.medium.persist g.session = saved at hresult
    refine ⟨⟨rfl, fun _ => ⟨rfl, ?_⟩, fun fault herror => ?_⟩, rfl⟩
    · exact List.mem_cons_of_mem _ (List.mem_cons_of_mem _ List.mem_cons_self)
    · rw [hresult] at herror
      cases herror
  | error fault =>
    have hfailure : Answer.failure? (.ok g) (.ofMedium s.medium) =
        some (.persistence fault.chain) := by
      simp only [Answer.failure?, Store.persist_ofMedium, hresult]
    rw [login_of_failure h hasked hfailure, Answer.stored, Store.persist_ofMedium]
    generalize s.medium.persist g.session = saved at hresult
    refine ⟨⟨rfl, fun hok => ?_, fun _ _ => rfl⟩, rfl⟩
    rw [hresult] at hok
    cases hok

theorem Surroundings.Asks.refused (h : s.Asks text settings start ticket)
    {failure : RedemptionFailure} {requests : List Http.Request}
    (hasked : s.asked settings start ticket = (.error failure, requests)) :
    (login s text).disk = s.disk ∧ (login s text).verdict = .failure .ticketLogin ∧
      (login s text).requests = requests := by
  have hfailure : Answer.failure? (.error failure) (.ofMedium s.medium) = some failure := rfl
  rw [login_of_failure h hasked hfailure]
  exact ⟨rfl, rfl, rfl⟩

/-- Without a grant a login leaves the disk as it is, with one it saves the session. -/
theorem login_cases (s : Surroundings) (text : String) :
    (s.obtained? text = none ∧ (login s text).disk = s.disk) ∨
    ∃ g, s.obtained? text = some g ∧
      (login s text).Saves s g.session (s.medium.persist g.session) := by
  by_cases hasks : ∃ settings start ticket, s.Asks text settings start ticket
  · obtain ⟨settings, start, ticket, h⟩ := hasks
    rw [h.obtained?_eq]
    rcases hasked : s.asked settings start ticket with ⟨answer, requests⟩
    cases answer with
    | error failure => exact .inl ⟨rfl, (h.refused hasked).1⟩
    | ok g => exact .inr ⟨g, rfl, (h.saves hasked).1⟩
  · have hidle := login_of_not_asks fun settings start ticket h =>
      hasks ⟨settings, start, ticket, h⟩
    exact .inl ⟨hidle.obtained, hidle.disk⟩

theorem requests_login (s : Surroundings) (text : String) :
    (login s text).requests = [] ∨
    ∃ settings start ticket, s.Asks text settings start ticket ∧
      (login s text).requests = (s.asked settings start ticket).2 := by
  by_cases hasks : ∃ settings start ticket, s.Asks text settings start ticket
  · obtain ⟨settings, start, ticket, h⟩ := hasks
    refine .inr ⟨settings, start, ticket, h, ?_⟩
    rcases hasked : s.asked settings start ticket with ⟨answer, requests⟩
    cases answer with
    | error failure => exact (h.refused hasked).2.2
    | ok g => exact (h.saves hasked).2
  · have hidle := login_of_not_asks fun settings start ticket h =>
      hasks ⟨settings, start, ticket, h⟩
    exact .inl hidle.requests

theorem requests_of_session (h : s.medium.hasSession = true) : (login s text).requests = [] := by
  obtain hnone | ⟨settings, start, ticket, hasks, _⟩ := requests_login s text
  · exact hnone
  · rw [hasks.signedOut] at h
    cases h

theorem requests_of_ticketless {start : Address} (hpage : Address.read (Text.trim text) = .ok start)
    (h : start.ticket? = none) : (login s text).requests = [] := by
  obtain hnone | ⟨settings, start', ticket, hasks, _⟩ := requests_login s text
  · exact hnone
  · obtain rfl := Except.ok.inj (hasks.page.symm.trans hpage)
    rw [hasks.ticket] at h
    cases h

theorem first_of_login {request : Http.Request} (h : (login s text).requests.head? = some request) :
    ∃ settings start ticket address, s.Asks text settings start ticket ∧
      start.redemption settings.provider.ticketLoginUrl ticket = .ok address ∧
      request.url = address.asSent.toText := by
  obtain hnone | ⟨settings, start, ticket, hasks, hasked⟩ := requests_login s text
  · rw [hnone] at h
    cases h
  · rw [hasked] at h
    obtain ⟨address, haddress, hurl⟩ := Http.first_of_redeem h
    exact ⟨settings, start, ticket, address, hasks, haddress, hurl⟩

end

/-! ## What is left in the file -/

namespace Surroundings

def sessionFile (s : Surroundings) (disk : Disk) : SessionFile := ⟨s.sessionPath, disk⟩

theorem isName_session : Disk.IsName "session.json" := by
  constructor <;> decide

theorem steps_sessionPath (s : Surroundings) :
    Disk.steps s.sessionPath = Disk.steps s.home ++ ["session.json"] :=
  Disk.steps_child isName_session s.home

theorem steps_sessionFolder (s : Surroundings) (disk : Disk) :
    Disk.steps (s.sessionFile disk).folder = Disk.steps s.home :=
  (SessionFile.steps_folder _).trans (Disk.steps_parent_child isName_session s.home)

theorem steps_sessionFile (s : Surroundings) (disk : Disk) :
    Disk.steps (s.sessionFile disk).path =
      Disk.steps (s.sessionFile disk).folder ++ ["session.json"] := by
  rw [steps_sessionFolder]
  exact s.steps_sessionPath

theorem persist_eq (s : Surroundings) (session : Session) :
    ∃ items, s.medium.persist session = (.file ((s.sessionFile s.disk).save items).1,
      ((s.sessionFile s.disk).save items).2) :=
  ⟨_, (Medium.persist_eq _ session).trans (Medium.save_file _ _)⟩

theorem bytes_of_persist_error (s : Surroundings) {session : Session} {fault : StoreFault}
    (h : (s.medium.persist session).2 = .error fault) :
    ((diskOf s (s.medium.persist session).1).readBytes s.sessionPath).toOption =
      (s.disk.readBytes s.sessionPath).toOption := by
  obtain ⟨items, hpersist⟩ := s.persist_eq session
  simp only [hpersist, diskOf] at h ⊢
  exact SessionFile.bytes_of_save_error (f := s.sessionFile s.disk) h

theorem took_of_persist (s : Surroundings) {session : Session}
    (h : (s.medium.persist session).2 = .ok ()) :
    ∃ items, (s.sessionFile (diskOf s (s.medium.persist session).1)).load = .ok items ∧
      (s.medium.load.toOption.getD .empty).Took session items := by
  obtain ⟨after, hload, htook⟩ := Medium.took_of_persist h
  refine ⟨after, ?_, htook⟩
  obtain ⟨items, hpersist⟩ := s.persist_eq session
  rw [hpersist] at hload ⊢
  rw [← hload]
  have hpath := (s.sessionFile s.disk).path_save items
  generalize (s.sessionFile s.disk).save items = saved at hpath
  obtain ⟨⟨path, disk⟩, result⟩ := saved
  have hpath : path = s.sessionPath := hpath
  rw [hpath]
  rfl

end Surroundings

/-- A login asks the server if somebody is signed out and has a ticket, and asks for the redemption
of that ticket first. If it fails the bytes of the file are as before; if not, the file holds the
session of the grant in place of any before, or there was no grant and nothing has changed. -/
theorem login_all_or_nothing (s : Surroundings) (text : String) :
    let r := login s text
    (s.medium.hasSession = true → r.requests = []) ∧
    (∀ start, Address.read (Text.trim text) = .ok start → start.ticket? = none → r.requests = []) ∧
    (∀ request, r.requests.head? = some request →
      ∃ settings start ticket address, s.Asks text settings start ticket ∧
        start.redemption settings.provider.ticketLoginUrl ticket = .ok address ∧
        request.url = address.asSent.toText) ∧
    (r.verdict.exitCode ≠ 0 →
      (r.disk.readBytes s.sessionPath).toOption = (s.disk.readBytes s.sessionPath).toOption) ∧
    (r.verdict.exitCode = 0 →
      match s.obtained? text with
      | some g => ∃ items, (s.sessionFile r.disk).load = .ok items ∧
          (s.medium.load.toOption.getD .empty).Took g.session items
      | none => r.disk = s.disk) := by
  intro r
  refine ⟨requests_of_session, ?_, ?_, ?_⟩
  · intro start hpage hnone
    exact requests_of_ticketless hpage hnone
  · intro request hfirst
    exact first_of_login hfirst
  · obtain ⟨hnone, hdisk⟩ | ⟨g, hg, hsaves⟩ := login_cases s text
    · have hdisk : r.disk = s.disk := hdisk
      rw [hnone]
      refine ⟨fun _ => ?_, fun _ => hdisk⟩
      rw [hdisk]
    · have hdisk : r.disk = diskOf s (s.medium.persist g.session).1 := hsaves.disk
      rw [hg, hdisk]
      cases hresult : (s.medium.persist g.session).2 with
      | ok =>
        refine ⟨fun hcode => absurd ?_ hcode, fun _ => s.took_of_persist hresult⟩
        exact congrArg Verdict.exitCode (hsaves.saved hresult).1
      | error fault =>
        refine ⟨fun _ => s.bytes_of_persist_error hresult, fun hcode => ?_⟩
        have hverdict : r.verdict = .failure .ticketLogin := hsaves.unsaved fault hresult
        rw [hverdict] at hcode
        cases hcode

end CommandLine

end TicketLogin
