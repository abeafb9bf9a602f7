import TicketLogin.Proofs.Page.SpentTicket
import TicketLogin.Proofs.Page.Completion
import TicketLogin.Proofs.Session.Persist
import TicketLogin.Proofs.Ticket

/-!
# What an answer changes

The answer to a call ends the call and moves its surface on, if the surface is still there. Beyond
that a grant that the store takes changes the three items of the session and the address: the ticket
leaves the current entry, and the landing route is visited from there. Everything else is as it was
when the answer came, whatever has happened since the call.
-/

namespace TicketLogin

/-- Whether operations of the store work does not change by saving. -/
theorem Store.persist_flags (s : Store) (session : Session) :
    (s.persist session).1 = { s with medium := (s.persist session).1.medium } := by
  unfold Store.persist
  split <;> rfl

namespace Browser

variable {b : Browser} {n : Nat} {c : Call}

theorem surfaces_advance (b : Browser) (i : Nat) (phase : Phase) :
    (b.advance i phase).surfaces = b.surfaces.set i ((b.surface i).advance phase) := by
  apply List.ext_getElem?
  intro j
  simp only [advance, updateSurface, surface, List.getElem?_modify, List.getElem?_set,
    List.getD_eq_getElem?_getD]
  by_cases hij : i = j
  · subst hij
    cases hs : b.surfaces[i]? with
    | none => simp [List.getElem?_eq_none_iff.1 hs]
    | some s => simp [(List.getElem?_eq_some_iff.1 hs).1]
  · simp [hij]

theorem calls_setStatus_eq (hc : b.calls[n]? = some c) (status : CallStatus) :
    (b.setStatus n status).calls = b.calls.set n { c with status } := by
  obtain ⟨hn, rfl⟩ := List.getElem?_eq_some_iff.1 hc
  apply List.ext_getElem?
  intro k
  simp only [setStatus, List.getElem?_modify, List.getElem?_set]
  by_cases hk : n = k
  · subst hk
    simp [hn]
  · simp [hk]

theorem step_respond (hpending : b.pending? n = some c) (answer : Answer) :
    b.step (.respond n answer) =
      ((b.answerCall n c.surface answer).1,
        .ended (.done (.exchanged (b.answerCall n c.surface answer).2)) none) := by
  simp only [step, hpending]

/-- A call is answered and its surface, if it is there, comes to this phase. Other calls and other
surfaces do not change, and neither does the page. -/
structure Answers (b b' : Browser) (n : Nat) (c : Call) (phase : Phase) : Prop where
  calls : b'.calls = b.calls.set n { c with status := .answered }
  surfaces : b'.surfaces = b.surfaces.set c.surface ((b.surface c.surface).advance phase)
  kind : b'.kind = b.kind
  landing : b'.landing = b.landing

theorem answers_answerCall (hpending : b.pending? n = some c) (answer : Answer) :
    b.Answers (b.answerCall n c.surface answer).1 n c (b.answerCall n c.surface answer).2 := by
  have hframe := b.frame_answerCall n c.surface answer
  refine ⟨?_, ?_, congrArg (·.1) hframe, congrArg (·.2.1) hframe⟩
  · rw [calls_answerCall, calls_setStatus_eq (calls_of_pending? hpending).1]
  · rw [← surfaces_advance]
    exact (b.setStatus n .answered).surfaces_complete c.surface answer

theorem phase_answerCall (b : Browser) (n i : Nat) (answer : Answer) :
    (b.answerCall n i answer).2 =
      if (answer.failure? b.store).isSome then .failed else .succeeded :=
  phase_complete (b.setStatus n .answered) i answer

theorem notices_answerCall (b : Browser) (n i : Nat) (answer : Answer) :
    (b.answerCall n i answer).1.notices = b.notices ++ (b.completed i answer).notice?.toList :=
  notices_complete (b.setStatus n .answered) i answer

theorem store_answerCall (b : Browser) (n i : Nat) (answer : Answer) :
    (b.answerCall n i answer).1.store = answer.stored b.store :=
  store_complete (b.setStatus n .answered) i answer

theorem history_answerCall_of_granted {answer : Answer} (hgranted : answer.failure? b.store = none)
    (n i : Nat) : (b.answerCall n i answer).1.history = b.settled i := by
  have hphase := b.phase_answerCall n i answer
  rw [hgranted] at hphase
  obtain ⟨hfailed, _⟩ | ⟨_, hhistory⟩ := (b.setStatus n .answered).history_complete i answer
  · rw [answerCall, hfailed] at hphase
    cases hphase
  · exact hhistory

theorem entries_settled (hend : b.history.AtEnd) {i : Nat}
    (hmounted : (b.surface i).mounted = true) :
    (b.settled i).AtEnd ∧ (b.settled i).entries =
      b.history.behind ++ b.history.location.withoutTicket ::
        (b.history.location.withoutTicket.join b.landing).toOption.toList := by
  have hstrip : b.history.stripTicket.AtEnd := History.atEnd_replace hend _
  have hlocation : b.history.stripTicket.location = b.history.location.withoutTicket :=
    History.location_replace ..
  have hbehind : b.history.stripTicket.behind = b.history.behind := History.behind_replace ..
  have hnow : (b.settled i).AtEnd := by
    rw [settled, if_pos hmounted]
    exact History.atEnd_navigate hstrip b.landing
  refine ⟨hnow, ?_⟩
  rw [History.entries_of_atEnd hnow, settled, if_pos hmounted, History.navigate, hlocation]
  cases hjoin : b.history.location.withoutTicket.join b.landing with
  | error fault => simp [hlocation, hbehind, Except.toOption]
  | ok target => simp [History.behind_visit, hlocation, hbehind, Except.toOption]

/-- A grant is stored and the surface has moved on. The session takes the place of any other among
the items, the last entry of the history is rid of its ticket, and from there the landing route is
visited, if it leads anywhere. Nobody is told anything. -/
structure Grants (b b' : Browser) (n : Nat) (c : Call) (g : Grant) : Prop
    extends b.Answers b' n c .succeeded where
  phase : (b'.surface c.surface).phase = .succeeded
  store : b'.store = { b.store with medium := b'.store.medium }
  items : ∃ items, b'.store.medium.load = .ok items ∧
    (b.store.medium.load.toOption.getD .empty).Took g.session items
  before : b.history.entries = b.history.behind ++ [b.history.location]
  after : b'.history.entries = b.history.behind ++ b.history.location.withoutTicket ::
    (b.history.location.withoutTicket.join b.landing).toOption.toList
  last : b'.history.AtEnd
  clean : ∀ p ∈ b.history.location.withoutTicket.pairs, ¬ Address.isTicketPair p = true
  notices : b'.notices = b.notices

theorem grants_answerCall (hb : b.Accounted) (hend : b.history.AtEnd)
    (hpending : b.pending? n = some c) (hmounted : (b.surface c.surface).mounted = true) {g : Grant}
    (hsaved : (b.store.persist g.session).2 = .ok ()) :
    b.Grants (b.answerCall n c.surface (.ok g)).1 n c g := by
  have hgranted : Answer.failure? (.ok g) b.store = none := by
    simp only [Answer.failure?, hsaved]
  have hphase : (b.answerCall n c.surface (.ok g)).2 = .succeeded := by
    rw [phase_answerCall, hgranted]
    rfl
  have hstore : (b.answerCall n c.surface (.ok g)).1.store = (b.store.persist g.session).1 :=
    (b.setStatus n .answered).store_complete c.surface (.ok g)
  have hanswers := answers_answerCall hpending (.ok g)
  rw [hphase] at hanswers
  obtain ⟨hlast, hentries⟩ := entries_settled hend hmounted
  have hhistory := history_answerCall_of_granted hgranted n c.surface
  refine ⟨hanswers, ?_, ?_, ?_, History.entries_of_atEnd hend, ?_, ?_, ?_, ?_⟩
  · rw [surface_answerCall_of_pending hb hpending, if_pos rfl, hphase, Surface.phase_advance,
      if_pos hmounted]
  · rw [hstore]
    exact Store.persist_flags b.store g.session
  · rw [hstore]
    exact Store.took_of_persist hsaved
  · rw [hhistory, hentries]
  · rw [hhistory]
    exact hlast
  · intro p hp
    rw [Address.pairs_withoutTicket] at hp
    exact Address.not_isTicketPair_of_mem hp
  · rw [notices_answerCall, Completion.notice?, completed, hgranted]
    simp

theorem step_succeeded_iff (hpending : b.pending? n = some c) (answer : Answer) :
    (b.step (.respond n answer)).2 = .ended (.done (.exchanged .succeeded)) none ↔
      ∃ g, answer = .ok g ∧ (b.store.persist g.session).2 = .ok () := by
  rw [step_respond hpending, ← Answer.failure?_eq_none_iff, phase_answerCall]
  cases answer.failure? b.store with
  | none => exact ⟨fun _ => rfl, fun _ => rfl⟩
  | some failure =>
    constructor
    · intro h
      cases h
    · intro h
      cases h

/-- Whatever call is pending, its exchange succeeds by a grant that the store takes and by nothing
else, and of a surface that is there such a grant has these effects only. -/
def SettlesGrants (b : Browser) : Prop :=
  ∀ n c, b.pending? n = some c →
    (∀ answer, (b.step (.respond n answer)).2 = .ended (.done (.exchanged .succeeded)) none ↔
      ∃ g, answer = .ok g ∧ (b.store.persist g.session).2 = .ok ()) ∧
    ∀ g, (b.store.persist g.session).2 = .ok () → (b.surface c.surface).mounted = true →
      b.Grants (b.step (.respond n (.ok g))).1 n c g

theorem settlesGrants (hb : b.Accounted) (hend : b.history.AtEnd) : b.SettlesGrants := by
  intro n c hpending
  refine ⟨step_succeeded_iff hpending, fun g hsaved hmounted => ?_⟩
  rw [step_respond hpending]
  exact grants_answerCall hb hend hpending hmounted hsaved

end Browser

/-- In whatever state the answer finds the browser, wherever it has gone since the call and whatever
others have stored, these are the effects of a grant. -/
theorem grants_settled (kind : SurfaceKind) (landing : String) (store : Store) (start : Address) :
    (∀ moves : List Move,
      let b := ((Scene.load kind landing store start).run moves).browser
      b.landing = landing ∧ b.SettlesGrants) ∧
    ∀ events : List Event,
      let b := (Browser.load kind landing store start).run events
      b.landing = landing ∧ b.SettlesGrants := by
  have haccounted := Browser.accounted_load kind landing store start
  have hstart : (Browser.load kind landing store start).history.AtEnd := History.atEnd_start start
  constructor
  · intro moves b
    have hsound := Scene.sound_calm (Browser.load kind landing store start)
    have hpage := (Browser.kept_page kind landing).run hsound moves ⟨rfl, rfl⟩
    exact ⟨hpage.2, Browser.settlesGrants (Browser.kept_accounted.run hsound moves haccounted)
      (Browser.kept_atEnd.run hsound moves hstart)⟩
  · intro events b
    have hsome := Browser.surfaces_load kind landing store start
    have hpage := (Browser.kept_page kind landing).events hsome events ⟨rfl, rfl⟩
    exact ⟨hpage.2, Browser.settlesGrants (Browser.kept_accounted.events hsome events haccounted)
      (Browser.kept_atEnd.events hsome events hstart)⟩

namespace Scene

/-- Before the answer comes, somebody has gone to a page that carries a ticket of its own, stored
another session and loaded the page again. -/
def outpaced : List Move :=
  [.enter 0 none, .resume, .outside (.navigate "/other?ticket=ST-2#top"),
    .outside (.persist ⟨"A", "A", .blank⟩), .outside .mount]

theorem grant_settled_outpaced :
    let b := ((load .exchange "welcome" workingStore ticketPage).run outpaced).browser
    let g : Grant := ⟨"T", "T", none, none, none⟩
    b.pending? 0 = some (ticketCall .pending) ∧ (b.store.persist g.session).2 = .ok () ∧
      (b.surface 0).mounted = true ∧
      b.Grants (b.step (.respond 0 (.ok g))).1 0 (ticketCall .pending) g := by
  intro b g
  have hpending : b.pending? 0 = some (ticketCall .pending) := by decide +kernel
  have hsaved : (b.store.persist g.session).2 = .ok () := by decide +kernel
  have hmounted : (b.surface 0).mounted = true := by decide +kernel
  have hsettles := ((grants_settled .exchange "welcome" workingStore ticketPage).1 outpaced).2
  exact ⟨hpending, hsaved, hmounted, (hsettles 0 _ hpending).2 g hsaved hmounted⟩

end Scene

end TicketLogin
