import TicketLogin.Proofs.Page.Simulation
import TicketLogin.Proofs.Session.Store

/-!
# The stored session over a run

What a run has stored is told by its reports: a session that was saved directly or by an exchange
that succeeded, unless it was cleared since. The three items are all of that session, or none is
there; a refused operation and a failed exchange leave them as they are.
-/

namespace TicketLogin

/-- The store lets itself be written and its items hold this session, or none. -/
def Store.Keeps (s : Store) (kept : Option Session) : Prop :=
  ∃ items, s.medium.Holds items ∧ items.Holds kept

namespace Store.Keeps

variable {s : Store} {kept : Option Session}

theorem persist (h : s.Keeps kept) (session : Session) :
    ((s.persist session).2 = .ok () ∧ (s.persist session).1.Keeps (some session)) ∨
    ∃ fault, (s.persist session).2 = .error fault ∧ (s.persist session).1.Keeps kept := by
  obtain ⟨items, hholds, hitems⟩ := h
  unfold Store.persist
  split
  · exact .inr ⟨_, rfl, items, hholds, hitems⟩
  · obtain ⟨m, hm, hnow⟩ := hholds.persist session
    rw [hm]
    exact .inl ⟨rfl, _, hnow, items.holds_putSession session⟩

theorem clear (h : s.Keeps kept) :
    (∃ had, s.clear.2 = .ok had ∧ s.clear.1.Keeps none) ∨
    ∃ fault, s.clear.2 = .error fault ∧ s.clear.1.Keeps kept := by
  obtain ⟨items, hholds, hitems⟩ := h
  unfold Store.clear
  split
  · exact .inr ⟨_, rfl, items, hholds, hitems⟩
  · obtain ⟨m, hm, hnow⟩ := hholds.clear
    rw [hm]
    refine .inl ⟨_, rfl, _, hnow, ?_⟩
    split
    · exact items.holds_dropSession
    · next hno =>
      rw [Items.holds_none_iff]
      simpa using hno

end Store.Keeps

inductive Change
  | saved (s : Session)
  | cleared

def Change.after (kept : Option Session) : Option Change → Option Session
  | none => kept
  | some (.saved s) => some s
  | some .cleared => none

def Answer.change (answer : Option Answer) (report : Report) : Option Change :=
  match answer with
  | some (.ok g) => if report.isSuccess then some (.saved g.session) else none
  | _ => none

/-- What an event changed, by its report. -/
def Event.change : Event → Report → Option Change
  | .persist s, .nothing => some (.saved s)
  | .clear, .flag _ => some .cleared
  | .respond _ answer, report => Answer.change (some answer) report
  | _, _ => none

namespace Browser

theorem store_fail (b : Browser) (i : Nat) (mounted : Bool) (failure : RedemptionFailure) :
    (b.fail i mounted failure).store = b.store := by
  cases mounted <;> rfl

theorem store_succeed (b : Browser) (i : Nat) (mounted : Bool) :
    (b.succeed i mounted).store = b.store := by
  cases mounted <;> rfl

theorem keeps_complete {b : Browser} {kept : Option Session} (h : b.store.Keeps kept) (i : Nat)
    (answer : Answer) (inner : Option Ending) :
    (b.complete i answer).1.store.Keeps (Change.after kept
      (Answer.change (some answer) (.ended (.done (.exchanged (b.complete i answer).2)) inner))) := by
  cases answer with
  | error failure =>
    rw [complete_error, store_fail]
    exact h
  | ok g =>
    obtain ⟨hok, hnow⟩ | ⟨fault, hfault, hstill⟩ := h.persist g.session
    · rw [complete_ok i hok, store_succeed]
      exact hnow
    · rw [complete_ok_of_fault i hfault, store_fail]
      exact hstill

theorem keeps_redeem {b : Browser} {kept : Option Session} (h : b.store.Keeps kept) (i : Nat)
    (ticket : Ticket) (answer : Option Answer) (inner : Option Ending) :
    (b.redeem i ticket answer).1.store.Keeps (Change.after kept
      (Answer.change answer (.ended (b.redeem i ticket answer).2 inner))) := by
  cases answer with
  | none => exact h
  | some answer =>
    exact keeps_complete (b := (b.beginCall i ticket).setStatus b.calls.length .answered) h i answer
      inner

theorem keeps_outside {b : Browser} {kept : Option Session} (h : b.store.Keeps kept) {e : Event}
    (he : e.isRender = false) :
    (b.step e).1.store.Keeps (Change.after kept (e.change (b.step e).2)) := by
  cases e with
  | render => cases he
  | respond n answer =>
    simp only [step]
    split
    · cases answer <;> exact h
    · exact keeps_complete (b := b.setStatus n .answered) h _ answer none
  | cancel n =>
    simp only [step]
    split <;> exact h
  | persist session =>
    obtain ⟨hok, hnow⟩ | ⟨fault, hfault, hstill⟩ := h.persist session
    · simp only [step, hok]
      exact hnow
    · simp only [step, hfault]
      exact hstill
  | clear =>
    obtain ⟨had, hok, hnow⟩ | ⟨fault, hfault, hstill⟩ := h.clear
    · simp only [step, hok]
      exact hnow
    · simp only [step, hfault]
      exact hstill
  | _ => exact h

end Browser

namespace Scene

/-- What a move changed, by its report. A section of a pass saves nothing unless it has just asked
for a redemption whose answer is at hand. -/
def change (s : Scene) (m : Move) : Option Change :=
  match m, s.passes with
  | .outside e, [] => e.change (s.step m).2
  | .resume, p :: _ =>
    if s.browser.calls.length < (s.step m).1.browser.calls.length then
      Answer.change p.answer (s.step m).2
    else none
  | _, _ => none

/-- The session that was saved last in a run and has not been cleared since. -/
def lastSession (s : Scene) (kept : Option Session) : List Move → Option Session
  | [] => kept
  | m :: moves => lastSession (s.step m).1 (Change.after kept (s.change m)) moves

theorem keeps_step {s : Scene} {kept : Option Session} (h : s.browser.store.Keeps kept) (m : Move) :
    (s.step m).1.browser.store.Keeps (Change.after kept (s.change m)) := by
  obtain ⟨b, passes⟩ := s
  cases m with
  | enter i answer =>
    simp only [step, change]
    split
    · rwa [browser_follow]
    · exact h
  | unmount i =>
    simp only [step, change]
    split <;> exact h
  | outside e =>
    cases passes with
    | cons p passes => exact h
    | nil =>
      cases he : e.isRender with
      | true =>
        cases e with
        | render => exact h
        | _ => cases he
      | false =>
        simp only [change, step, List.isEmpty_nil, he, Bool.not_false, Bool.and_self, if_true]
        exact Browser.keeps_outside h he
  | resume =>
    cases passes with
    | nil => exact h
    | cons p passes =>
      simp only [change, step, browser_follow]
      obtain heq | ⟨_, heq⟩ | ⟨_, ticket, _, _, _, heq⟩ := b.resume_cases p.surface p.answer p.rest
      · rw [heq, if_neg (Nat.lt_irrefl _)]
        exact h
      · rw [heq, b.store_leave, b.calls_leave, if_neg (Nat.lt_irrefl _)]
        exact h
      · -- a section that asks adds its call, and by that `change` knows it
        obtain ⟨status, hcalls⟩ := b.calls_redeem p.surface ticket p.answer
        have hmore : b.calls.length < (b.redeem p.surface ticket p.answer).1.calls.length := by
          rw [hcalls, List.length_append]
          exact Nat.lt_succ_self _
        rw [heq, if_pos hmore]
        exact Browser.keeps_redeem h p.surface ticket p.answer none

theorem keeps_run {s : Scene} {kept : Option Session} (h : s.browser.store.Keeps kept)
    (moves : List Move) : (s.run moves).browser.store.Keeps (s.lastSession kept moves) := by
  induction moves generalizing s kept with
  | nil => exact h
  | cons m moves ih => exact ih (keeps_step h m)

/-- The store can be read throughout, faults of the medium apart, and holds all of the session that
was saved last, or nothing of any. -/
theorem stored_session_whole (kind : SurfaceKind) (landing : String) (store : Store)
    (start : Address) (hblank : store.medium.Blank) (moves : List Move) :
    let s := load kind landing store start
    (∃ items, (s.run moves).browser.store.medium.load = .ok items ∧
      items.Holds (s.lastSession none moves)) ∧
    ∀ events, ∃ moves, s.run moves = calm ((Browser.load kind landing store start).run events) := by
  intro s
  constructor
  · have hkeeps : s.browser.store.Keeps none := ⟨.empty, hblank.holds, fun _ _ => rfl⟩
    obtain ⟨items, hholds, hitems⟩ := keeps_run hkeeps moves
    exact ⟨items, hholds.load, hitems⟩
  · exact exists_run_eq (List.cons_ne_nil _ _)

def absentFile : SessionFile := ⟨"<TMP>/state/session.json", .empty⟩

theorem blank_absentFile : (Medium.file absentFile).Blank := by
  constructor
  · decide +kernel
  · have hsave : (absentFile.save .empty).2 = .ok () := rfl
    exact SessionFile.writable_of_save hsave

def signInThenFault : List Move :=
  [.enter 0 (some (.ok ⟨"T", "T", some "U", none, none⟩)), .resume, .resume,
    .outside (.fault (some true) none none), .outside (.persist ⟨"A", "A", .blank⟩), .outside .mount]

theorem stored_session_whole_in_file :
    (Medium.file absentFile).Blank ∧
    let s := load .page "/" (.ofMedium (.file absentFile))
      ⟨"https".toList, some ⟨[], [], "app.example".toList, none⟩, "/".toList,
        some "ticket=ST-1".toList, none⟩
    (∃ items, (s.run signInThenFault).browser.store.medium.load = .ok items ∧
      items.Holds (s.lastSession none signInThenFault)) ∧
    ∀ events, ∃ moves, s.run moves = calm ((Browser.load .page "/" (.ofMedium (.file absentFile))
      ⟨"https".toList, some ⟨[], [], "app.example".toList, none⟩, "/".toList,
        some "ticket=ST-1".toList, none⟩).run events) :=
  ⟨blank_absentFile, stored_session_whole .page "/" (.ofMedium (.file absentFile)) _ blank_absentFile
    signInThenFault⟩

end Scene

end TicketLogin
