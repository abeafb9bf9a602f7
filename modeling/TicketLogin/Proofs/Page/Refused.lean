import TicketLogin.Proofs.Page.Granted
import TicketLogin.Proofs.Page.Reported
import TicketLogin.Proofs.Page.Unmounted

/-!
# After an exchange has failed

A redemption that is refused, and a grant that the store does not take, leave everything as it was
but the phase of the surface and the notice of it. The failed phase is an end: although the ticket
is still in the address, no later render of the surface asks again or changes anything at all.
-/

namespace TicketLogin

/-- What an answer that leads to no session stores: nothing, not even in part. -/
theorem Answer.found_of_failure {answer : Answer} {store : Store}
    (h : (answer.failure? store).isSome = true) :
    (answer.stored store).medium.found = store.medium.found := by
  cases answer with
  | error failure => rfl
  | ok g =>
    cases hresult : (store.persist g.session).2 with
    | ok => simp [failure?, hresult] at h
    | error fault => exact Store.found_of_persist_error hresult

namespace Browser

variable {b : Browser} {n i : Nat} {c : Call}

/-- The exchange has failed and its surface shows it. The store holds the items it held, on the same
files, and is the very same if the redemption was refused; no entry of the history has changed. -/
structure Refuses (b b' : Browser) (n : Nat) (c : Call) (answer : Answer) : Prop
    extends b.Answers b' n c .failed where
  untouched : b.store.Untouched b'.store
  items : b'.store.medium.found = b.store.medium.found
  store : ∀ failure, answer = .error failure → b'.store = b.store
  history : b'.history = b.history
  notices : b'.notices = b.notices ++ (b.completed c.surface answer).notice?.toList

theorem phase_answerCall_of_failure {answer : Answer}
    (hfails : (answer.failure? b.store).isSome = true) (n i : Nat) :
    (b.answerCall n i answer).2 = .failed := by
  rw [phase_answerCall, if_pos hfails]

theorem history_answerCall_of_failure {answer : Answer}
    (hfails : (answer.failure? b.store).isSome = true) (n i : Nat) :
    (b.answerCall n i answer).1.history = b.history := by
  have hphase := phase_answerCall_of_failure hfails n i
  obtain ⟨_, hhistory⟩ | ⟨hsucceeded, _⟩ := (b.setStatus n .answered).history_complete i answer
  · exact hhistory
  · rw [answerCall, hsucceeded] at hphase
    cases hphase

theorem refuses_answerCall (hpending : b.pending? n = some c) {answer : Answer}
    (hfails : (answer.failure? b.store).isSome = true) :
    b.Refuses (b.answerCall n c.surface answer).1 n c answer := by
  have hanswers := answers_answerCall hpending answer
  rw [phase_answerCall_of_failure hfails] at hanswers
  refine ⟨hanswers, ?_, ?_, ?_, ?_, ?_⟩
  · rw [store_answerCall]
    exact Answer.untouched_of_failure hfails
  · rw [store_answerCall]
    exact Answer.found_of_failure hfails
  · rintro failure rfl
    rw [store_answerCall]
    rfl
  · exact history_answerCall_of_failure hfails n c.surface
  · exact b.notices_answerCall n c.surface answer

/-! ## Later renders -/

/-- The surface shows that its exchange has failed, on a page that has an exchange, and no session
is to be seen. -/
structure GaveUp (b : Browser) (i : Nat) : Prop where
  failed : (b.surface i).phase = .failed
  exchange : b.kind ≠ .guard
  signedOut : b.store.hasSession = false

theorem GaveUp.exchangePass (h : b.GaveUp i) (atRead : Interruption) (answer : Option Answer) :
    b.exchangePass i atRead answer = ⟨b, .done (.exchanged .failed), none⟩ := by
  rw [exchangePass_eq, h.failed, if_pos]
  rfl

/-- An interruption that changes nothing and can report nothing but the failure. -/
def Harmless (b : Browser) (f : Interruption) : Prop :=
  (f b).1 = b ∧ ∀ e ∈ (f b).2, e = .done (.exchanged .failed)

theorem harmless_uninterrupted (b : Browser) : b.Harmless uninterrupted :=
  ⟨rfl, fun _ he => by cases he⟩

theorem GaveUp.pass (h : b.GaveUp i) {first : Interruption} (hfirst : b.Harmless first)
    (second : Interruption) (answer : Option Answer) :
    ∃ inner, b.pass i first second answer = ⟨b, .done (.exchanged .failed), inner⟩ ∧
      ∀ e ∈ inner, e = .done (.exchanged .failed) := by
  cases hkind : b.kind with
  | guard => exact absurd hkind h.exchange
  | exchange =>
    refine ⟨none, ?_, fun _ he => by cases he⟩
    simp only [Browser.pass, hkind, h.exchangePass]
  | page =>
    refine ⟨(first b).2, ?_, hfirst.2⟩
    simp only [Browser.pass, hkind, guardPass, h.signedOut, hfirst.1, Bool.false_eq_true, if_false,
      h.exchangePass, Option.orElse_eq_orElse, Option.orElse_eq_or, Option.or_none]

theorem GaveUp.simplePass (h : b.GaveUp i) (answer : Option Answer) :
    b.simplePass i answer = (b, .done (.exchanged .failed)) := by
  obtain ⟨inner, hpass, _⟩ := h.pass b.harmless_uninterrupted uninterrupted answer
  rw [Browser.simplePass, hpass]

theorem GaveUp.render (h : b.GaveUp b.current) (answer : Option Answer) (nested : Option Nested) :
    ∃ inner, b.step (.render answer nested) = (b, .ended (.done (.exchanged .failed)) inner) ∧
      ∀ e ∈ inner, e = .done (.exchanged .failed) := by
  cases nested with
  | none =>
    refine ⟨none, ?_, fun _ he => by cases he⟩
    simp only [step, Browser.render, h.simplePass]
  | some nested =>
    simp only [step, Browser.render, nestedPass]
    split
    · have hharmless : b.Harmless fun b' =>
          ((b'.simplePass b.current nested.answer).1,
            some (b'.simplePass b.current nested.answer).2) := by
        rw [Harmless, h.simplePass]
        exact ⟨rfl, fun e he => (Option.some.inj he).symm⟩
      obtain ⟨inner, hpass, hall⟩ := h.pass hharmless _ answer
      exact ⟨inner, by rw [hpass], hall⟩
    · obtain ⟨inner, hpass, hall⟩ := h.pass b.harmless_uninterrupted _ answer
      exact ⟨inner, by rw [hpass], hall⟩

theorem GaveUp.run (h : b.GaveUp b.current) {renders : List Event}
    (hrenders : ∀ e ∈ renders, e.isRender = true) : b.run renders = b := by
  induction renders with
  | nil => rfl
  | cons e renders ih =>
    obtain ⟨answer, nested, rfl⟩ := Event.eq_render (hrenders e List.mem_cons_self)
    obtain ⟨inner, hstep, _⟩ := h.render answer nested
    rw [Browser.run, List.foldl_cons, hstep]
    exact ih fun d hd => hrenders d (List.mem_cons_of_mem _ hd)

end Browser

namespace Scene

/-- Within these passes only passes of this surface have been started, and they rest where the guard
has seen no session; nothing has changed. -/
structure OnlyChecks (b : Browser) (passes : List OpenPass) (i : Nat) (s : Scene) : Prop where
  browser : s.browser = b
  above : ∃ upper, s.passes = upper ++ passes ∧
    ∀ p ∈ upper, p.surface = i ∧ p.rest = .guard false ∧ b.kind = .page

/-- The report is empty or says that the exchange has failed. -/
def Fails (r : Report) : Prop := r = .nothing ∨ r = .ended (.done (.exchanged .failed)) none

variable {b : Browser} {passes : List OpenPass} {i : Nat}

theorem beginExchange_of_gaveUp (h : b.GaveUp i) :
    b.beginExchange i = .finished (.done (.exchanged .failed)) := by
  rw [Browser.beginExchange, h.failed, if_pos]
  rfl

theorem OnlyChecks.enter (h : b.GaveUp i) {s : Scene} (hs : OnlyChecks b passes i s)
    (answer : Option Answer) :
    OnlyChecks b passes i (s.step (.enter i answer)).1 ∧ Fails (s.step (.enter i answer)).2 := by
  obtain ⟨b', all⟩ := s
  obtain ⟨hb, upper, hall, hupper⟩ := hs
  obtain rfl : b' = b := hb
  obtain rfl : all = upper ++ passes := hall
  simp only [Scene.step]
  split
  · cases hkind : b'.kind with
    | guard => exact absurd hkind h.exchange
    | exchange =>
      simp only [Browser.enter, hkind, beginExchange_of_gaveUp h, follow]
      exact ⟨⟨rfl, upper, rfl, hupper⟩, .inr rfl⟩
    | page =>
      simp only [Browser.enter, hkind, h.signedOut, follow]
      refine ⟨⟨rfl, ⟨i, answer, .guard false⟩ :: upper, rfl, ?_⟩, .inl rfl⟩
      rintro p (_ | ⟨_, hp⟩)
      · exact ⟨rfl, rfl, hkind⟩
      · exact hupper p hp
  · exact ⟨⟨rfl, upper, rfl, hupper⟩, .inl rfl⟩

theorem OnlyChecks.resume (h : b.GaveUp i) {p : OpenPass} {upper : List OpenPass}
    (hupper : ∀ q ∈ p :: upper, q.surface = i ∧ q.rest = .guard false ∧ b.kind = .page) :
    (⟨b, p :: upper ++ passes⟩ : Scene).step .resume =
      (⟨b, upper ++ passes⟩, .ended (.done (.exchanged .failed)) none) := by
  obtain ⟨hsurface, hrest, hkind⟩ := hupper p List.mem_cons_self
  simp only [Scene.step, List.cons_append, Browser.resume, hrest, hsurface, hkind, if_true,
    Bool.false_eq_true, if_false, beginExchange_of_gaveUp h, follow]

theorem OnlyChecks.step (h : b.GaveUp i) {s : Scene} (hs : OnlyChecks b passes i s)
    (hopen : passes.length < s.passes.length) (m : Move) :
    OnlyChecks b passes i (s.step m).1 ∧ Fails (s.step m).2 := by
  obtain ⟨b', all⟩ := s
  obtain ⟨hb, upper, hall, hupper⟩ := id hs
  obtain rfl : b' = b := hb
  obtain rfl : all = upper ++ passes := hall
  cases upper with
  | nil => exact absurd hopen (Nat.lt_irrefl _)
  | cons p upper =>
    cases m with
    | enter j answer =>
      by_cases hj : j = i
      · subst hj
        exact hs.enter h answer
      · -- a pass of the surface is under way, so none of another may start
        have hrefused : (⟨b', p :: upper ++ passes⟩ : Scene).admits j = false := by
          rw [Bool.eq_false_iff]
          intro hadmits
          have hsame := (admits_iff.1 hadmits).2 p List.mem_cons_self
          exact hj (hsame.symm.trans (hupper p List.mem_cons_self).1)
        simp only [Scene.step, hrefused, Bool.false_eq_true, if_false]
        exact ⟨hs, .inl rfl⟩
    | resume =>
      rw [OnlyChecks.resume h hupper]
      exact ⟨⟨rfl, upper, rfl, fun q hq => hupper q (List.mem_cons_of_mem _ hq)⟩, .inr rfl⟩
    | unmount j => exact ⟨hs, .inl rfl⟩
    | outside e => exact ⟨hs, .inl rfl⟩

theorem OnlyChecks.run (h : b.GaveUp i) {s : Scene} (hs : OnlyChecks b passes i s)
    {moves : List Move} (hwithin : Within passes.length s moves) :
    OnlyChecks b passes i (s.run moves) := by
  induction moves generalizing s with
  | nil => exact hs
  | cons m moves ih => exact ih (hs.step h hwithin.1 m).1 hwithin.2

/-- Renders of the surface change nothing and report a failed exchange: any number of whole renders,
interrupted or not, and any render that is woven of moves together with all renders within it. -/
structure NoRetry (s : Scene) (i : Nat) : Prop where
  whole : s.browser.current = i → ∀ renders : List Event, (∀ e ∈ renders, e.isRender = true) →
    s.browser.run renders = s.browser
  reported : s.browser.current = i → ∀ answer nested, ∃ inner,
    (s.browser.step (.render answer nested)).2 = .ended (.done (.exchanged .failed)) inner ∧
      ∀ e ∈ inner, e = .done (.exchanged .failed)
  woven : ∀ answer moves, Within s.passes.length (s.step (.enter i answer)).1 moves →
    ((s.step (.enter i answer)).1.run moves).browser = s.browser
  begun : ∀ answer, Fails (s.step (.enter i answer)).2
  wovenReported : ∀ answer moves, Within s.passes.length (s.step (.enter i answer)).1 moves →
    let t := (s.step (.enter i answer)).1.run moves
    ∀ m, s.passes.length < t.passes.length → Fails (t.step m).2

theorem noRetry_of_gaveUp {s : Scene} (h : s.browser.GaveUp i) : s.NoRetry i := by
  have hstart : OnlyChecks s.browser s.passes i s :=
    ⟨rfl, [], rfl, fun _ hp => absurd hp List.not_mem_nil⟩
  constructor
  · rintro rfl renders hrenders
    exact h.run hrenders
  · rintro rfl answer nested
    obtain ⟨inner, hstep, hall⟩ := h.render answer nested
    exact ⟨inner, by rw [hstep], hall⟩
  · intro answer moves hwithin
    exact ((hstart.enter h answer).1.run h hwithin).browser
  · intro answer
    exact (hstart.enter h answer).2
  · intro answer moves hwithin t m hopen
    exact (((hstart.enter h answer).1.run h hwithin).step h hopen m).2

/-- The state right after an answer, with the passes that are under way. -/
def answered (s : Scene) (n : Nat) (answer : Answer) : Scene :=
  ⟨(s.browser.step (.respond n answer)).1, s.passes⟩

theorem sound_answered {s : Scene} (hs : s.Sound) {n : Nat} {c : Call}
    (hpending : s.browser.pending? n = some c) (answer : Answer) : (s.answered n answer).Sound := by
  refine ⟨fun p hp => ?_, hs.alike⟩
  have hframe := s.browser.frame_answerCall n c.surface answer
  rw [answered, Browser.step_respond hpending, Browser.length_eq_of_frame hframe]
  exact hs.present p hp

theorem failed_for_good {s : Scene} (hs : s.Sound)
    (hphased : s.browser.Accounted ∧ s.browser.Phased) {n : Nat} {c : Call}
    (hpending : s.browser.pending? n = some c) {answer : Answer}
    (hfails : (answer.failure? s.browser.store).isSome = true) (moves : List Move)
    (hmounted : (((s.answered n answer).run moves).browser.surface c.surface).mounted = true) :
    (((s.answered n answer).run moves).browser.surface c.surface).phase = .failed := by
  have hstep : (s.answered n answer).browser = (s.browser.answerCall n c.surface answer).1 := by
    rw [answered, Browser.step_respond hpending]
  have hsound := sound_answered hs hpending answer
  have hthere : ((s.answered n answer).browser.surface c.surface).mounted = true := by
    cases hgone : ((s.answered n answer).browser.surface c.surface).mounted with
    | true => rfl
    | false =>
      have hstill := (Browser.kept_gone c.surface _).run hsound moves ⟨hgone, rfl⟩
      rw [hmounted] at hstill
      cases hstill.1
  have hfailed : ((s.answered n answer).browser.surface c.surface).phase = .failed := by
    rw [hstep, Browser.surface_answerCall_of_pending hphased.1 hpending, if_pos rfl] at hthere ⊢
    rw [Surface.mounted_advance] at hthere
    rw [Browser.phase_answerCall_of_failure hfails, Surface.phase_advance, if_pos hthere]
  have hnow := Browser.kept_phased.answerCall _ n c answer hpending hphased
  rw [← hstep] at hnow
  have hlater := (Browser.kept_leads .failed c.surface).run hsound moves ⟨hnow, hfailed ▸ .refl⟩
  exact hlater.2.eq_of_isTerminal rfl

/-- A failed exchange leaves all as it was but what its surface shows, and that is the end of it: as
long as the surface is there and there is no session, its renders change nothing, whatever else has
happened since. A guard on its own has no exchange, so its renders are left out. -/
theorem failure_final (kind : SurfaceKind) (landing : String) (store : Store) (start : Address)
    (moves : List Move) (n : Nat) (c : Call) (answer : Answer)
    (hpending : ((load kind landing store start).run moves).browser.pending? n = some c)
    (hfails : (answer.failure?
      ((load kind landing store start).run moves).browser.store).isSome = true) :
    let s := (load kind landing store start).run moves
    (s.browser.step (.respond n answer)).2 = .ended (.done (.exchanged .failed)) none ∧
    s.browser.Refuses (s.browser.step (.respond n answer)).1 n c answer ∧
    ∀ more, let t := (s.answered n answer).run more
      kind ≠ .guard → (t.browser.surface c.surface).mounted = true →
        t.browser.store.hasSession = false → t.NoRetry c.surface := by
  intro s
  have hsound : s.Sound := (sound_calm _).run moves
  have hphased := Browser.kept_phased.run (sound_calm _) moves
    (Browser.phased_load kind landing store start)
  refine ⟨?_, ?_, ?_⟩
  · rw [Browser.step_respond hpending, Browser.phase_answerCall_of_failure hfails]
  · rw [Browser.step_respond hpending]
    exact Browser.refuses_answerCall hpending hfails
  · intro more t hkind hmounted hsignedOut
    have hpage := Browser.kept_page kind landing
    have hanswered : (s.answered n answer).browser.kind = kind ∧
        (s.answered n answer).browser.landing = landing := by
      rw [answered, Browser.step_respond hpending]
      exact hpage.answerCall _ n c answer hpending (hpage.run (sound_calm _) moves ⟨rfl, rfl⟩)
    have hthen := hpage.run (sound_answered hsound hpending answer) more hanswered
    refine noRetry_of_gaveUp ⟨?_, ?_, hsignedOut⟩
    · exact failed_for_good hsound hphased hpending hfails more hmounted
    · rw [hthen.1]
      exact hkind

/-- The disk is full when the grant arrives. -/
def fullDisk : List Move :=
  [.enter 0 none, .resume, .resume, .outside (.fault (some true) none none)]

/-- Later the disk has room again, and the page is rendered in the middle of something else. -/
def roomAgain : List Move :=
  [.outside (.fault (some false) none none), .outside (.navigate "/help"), .enter 0 none]

theorem failure_final_on_full_disk :
    let s := (load .page "/" workingStore ticketPage).run fullDisk
    let t := (s.answered 0 grantAtHand).run roomAgain
    s.browser.pending? 0 = some (ticketCall .pending) ∧
    (grantAtHand.failure? s.browser.store).isSome = true ∧
    (s.browser.step (.respond 0 grantAtHand)).2 = .ended (.done (.exchanged .failed)) none ∧
    s.browser.Refuses (s.browser.step (.respond 0 grantAtHand)).1 0 (ticketCall .pending)
      grantAtHand ∧
    (t.browser.surface 0).mounted = true ∧ t.browser.store.hasSession = false ∧ t.NoRetry 0 := by
  intro s t
  have hpending : s.browser.pending? 0 = some (ticketCall .pending) := by decide +kernel
  have hfails : (grantAtHand.failure? s.browser.store).isSome = true := by decide +kernel
  have hmounted : (t.browser.surface 0).mounted = true := by decide +kernel
  have hsignedOut : t.browser.store.hasSession = false := by decide +kernel
  obtain ⟨hreport, hrefuses, hlater⟩ := failure_final .page "/" workingStore ticketPage fullDisk 0
    (ticketCall .pending) grantAtHand hpending hfails
  exact ⟨hpending, hfails, hreport, hrefuses, hmounted, hsignedOut,
    hlater roomAgain (by decide) hmounted hsignedOut⟩

end Scene

end TicketLogin
