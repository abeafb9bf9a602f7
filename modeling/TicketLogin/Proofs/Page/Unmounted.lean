import TicketLogin.Proofs.Page.Completion
import TicketLogin.Proofs.Page.SpentTicket
import TicketLogin.Proofs.Session.Persist

/-!
# After a surface is gone

An exchange goes on when its surface is gone, out of sight: the phase stays, no notice is added, and
all that may happen to the history is that the ticket leaves the current address. What the exchange
is for happens nevertheless. A grant is stored, and a failure changes nothing.
-/

namespace TicketLogin

/-- The surface is gone, as before, and nothing of it was shown in between. -/
structure Browser.Unseen (b b' : Browser) (i : Nat) : Prop where
  gone : (b'.surface i).mounted = false
  phase : (b'.surface i).phase = (b.surface i).phase
  notices : b'.notices = b.notices
  history : b'.history = b.history ∨ b'.history = b.history.stripTicket

/-- What a completed exchange has come to, in sight or not: the session of the grant is stored and
the ticket has left the address, or neither the sessions nor the addresses have changed. -/
structure Completion.TakesEffect (c : Completion) (b b' : Browser) (report : Report) : Prop where
  granted : c.failure? = none →
    report = .ended (.done (.exchanged .succeeded)) none ∧ b'.history = b.history.stripTicket ∧
    ∃ g items, c.answer = .ok g ∧ b'.store.medium.load = .ok items ∧
      (b.store.medium.load.toOption.getD .empty).Took g.session items
  failed : c.failure?.isSome = true →
    report = .ended (.done (.exchanged .failed)) none ∧ b'.history = b.history ∧
    b.store.Untouched b'.store
  refused : ∀ failure, c.answer = .error failure → b'.store = b.store

namespace Answer

theorem took_of_stored {answer : Answer} {store : Store} (h : answer.failure? store = none) :
    ∃ g items, answer = .ok g ∧ (answer.stored store).medium.load = .ok items ∧
      (store.medium.load.toOption.getD .empty).Took g.session items := by
  cases answer with
  | error failure => cases h
  | ok g =>
    have hsaved : (store.persist g.session).2 = .ok () := by
      cases hresult : (store.persist g.session).2 with
      | ok => rfl
      | error fault => simp [failure?, hresult] at h
    obtain ⟨items, hload, htook⟩ := Store.took_of_persist hsaved
    exact ⟨g, items, rfl, hload, htook⟩

theorem untouched_of_failure {answer : Answer} {store : Store}
    (h : (answer.failure? store).isSome = true) : store.Untouched (answer.stored store) := by
  cases answer with
  | error failure => exact .refl store
  | ok g =>
    cases hresult : (store.persist g.session).2 with
    | ok => simp [failure?, hresult] at h
    | error fault => exact Store.untouched_of_persist_error hresult

end Answer

namespace Browser

variable {b : Browser} {i : Nat}

theorem lt_of_gone (h : (b.surface i).mounted = false) : i < b.surfaces.length := by
  refine Nat.lt_of_not_le fun hi => ?_
  rw [surface_of_length_le hi] at h
  cases h

namespace Unseen

theorem refl (h : (b.surface i).mounted = false) : b.Unseen b i := ⟨h, rfl, rfl, .inl rfl⟩

theorem trans {b' b'' : Browser} (h : b.Unseen b' i) (h' : b'.Unseen b'' i) : b.Unseen b'' i := by
  refine ⟨h'.gone, h'.phase.trans h.phase, h'.notices.trans h.notices, ?_⟩
  rcases h'.history with hsame | hstrip
  · rw [hsame]
    exact h.history
  · right
    rw [hstrip]
    rcases h.history with heq | heq
    · rw [heq]
    · rw [heq, History.stripTicket_stripTicket]

theorem length_entries {b' : Browser} (h : b.Unseen b' i) :
    b'.history.entries.length = b.history.entries.length := by
  rcases h.history with heq | heq
  · rw [heq]
  · rw [heq, History.stripTicket, History.length_replace]

end Unseen

theorem kept_gone (i : Nat) (p : Phase) :
    Browser.Kept fun b => (b.surface i).mounted = false ∧ (b.surface i).phase = p where
  navigate _ _ hb := hb
  beginCall b j ticket hj _ _ hb := by
    refine ⟨(b.mounted_beginCall j i ticket).trans hb.1, ?_⟩
    rw [surface_beginCall hj]
    split
    · rw [Surface.begun_eq, hb.1]
      exact hb.2
    · exact hb.2
  answerCall b n c answer _ hb := by
    obtain ⟨_, hmounted⟩ := flags_eq_of_frame (b.frame_answerCall n c.surface answer) i
    refine ⟨hmounted.trans hb.1, ?_⟩
    rw [surface_answerCall]
    split
    · rw [Surface.phase_advance, if_neg (by simp [hb.1])]
      exact hb.2
    · exact hb.2
  mount b hb := by rwa [surface_mount]
  unmount b j hb := by
    rw [surface_updateSurface]
    split
    · exact ⟨rfl, hb.2⟩
    · exact hb
  cancel _ _ _ _ hb := hb
  store _ _ hb := hb
  replace _ _ hb := hb

/-! ## What the exchange does -/

theorem complete_of_gone (h : (b.surface i).mounted = false) (answer : Answer) :
    b.complete i answer =
      if (answer.failure? b.store).isSome then ({ b with store := answer.stored b.store }, .failed)
      else ({ b with store := answer.stored b.store, history := b.history.stripTicket },
        .succeeded) := by
  rw [complete_eq, h]
  cases answer.failure? b.store <;> rfl

theorem answerCall_of_gone (h : (b.surface i).mounted = false) (n : Nat) (answer : Answer) :
    b.answerCall n i answer =
      if (answer.failure? b.store).isSome then
        ({ b.setStatus n .answered with store := answer.stored b.store }, .failed)
      else ({ b.setStatus n .answered with
        store := answer.stored b.store, history := b.history.stripTicket }, .succeeded) :=
  complete_of_gone (b := b.setStatus n .answered) h answer

theorem unseen_answerCall (h : (b.surface i).mounted = false) (n : Nat) (answer : Answer) :
    b.Unseen (b.answerCall n i answer).1 i := by
  rw [answerCall_of_gone h]
  split
  · exact ⟨h, rfl, rfl, .inl rfl⟩
  · exact ⟨h, rfl, rfl, .inr rfl⟩

theorem unseen_beginCall (h : (b.surface i).mounted = false) (ticket : Ticket) :
    b.Unseen (b.beginCall i ticket) i := by
  refine ⟨(b.mounted_beginCall i i ticket).trans h, ?_, rfl, .inl rfl⟩
  rw [surface_beginCall (lt_of_gone h), if_pos rfl, Surface.begun_eq, h]
  rfl

theorem unseen_redeem (h : (b.surface i).mounted = false) (ticket : Ticket)
    (answer : Option Answer) : b.Unseen (b.redeem i ticket answer).1 i := by
  have hbegun := unseen_beginCall h ticket
  cases answer with
  | none => exact hbegun
  | some answer => exact hbegun.trans (unseen_answerCall hbegun.gone _ answer)

theorem unseen_respond (h : (b.surface i).mounted = false) {n : Nat}
    (hown : ∃ c, b.calls[n]? = some c ∧ c.surface = i) (answer : Answer) :
    b.Unseen (b.step (.respond n answer)).1 i := by
  obtain ⟨c, hc, hsurface⟩ := hown
  simp only [step]
  cases hpending : b.pending? n with
  | none => exact .refl h
  | some d =>
    have hd := (calls_of_pending? hpending).1
    rw [hc] at hd
    obtain rfl : c = d := Option.some.inj hd
    subst hsurface
    exact unseen_answerCall h n answer

theorem unseen_cancel (h : (b.surface i).mounted = false) (n : Nat) :
    b.Unseen (b.step (.cancel n)).1 i := by
  simp only [step]
  split
  · exact .refl h
  · exact ⟨h, rfl, rfl, .inl rfl⟩

theorem takesEffect_answerCall (h : (b.surface i).mounted = false) (n : Nat) (answer : Answer) :
    (b.completed i answer).TakesEffect b (b.answerCall n i answer).1
      (.ended (.done (.exchanged (b.answerCall n i answer).2)) none) := by
  rw [answerCall_of_gone h]
  cases hfailure : answer.failure? b.store with
  | none =>
    refine ⟨fun _ => ⟨rfl, rfl, Answer.took_of_stored hfailure⟩, fun hsome => ?_, ?_⟩
    · rw [completed, hfailure] at hsome
      cases hsome
    · rintro failure hanswer
      have hanswer : answer = .error failure := hanswer
      rw [hanswer] at hfailure
      cases hfailure
  | some failure =>
    refine ⟨fun hnone => ?_, fun _ => ⟨rfl, rfl, Answer.untouched_of_failure ?_⟩, ?_⟩
    · rw [completed, hfailure] at hnone
      cases hnone
    · rw [hfailure]
      rfl
    · rintro failure hanswer
      have hanswer : answer = .error failure := hanswer
      rw [hanswer]
      rfl

theorem takesEffect_redeem (h : (b.surface i).mounted = false) (ticket : Ticket)
    (answer : Answer) {ending : Ending}
    (hending : (b.redeem i ticket (some answer)).2 = ending) :
    (b.completed i answer).TakesEffect b (b.redeem i ticket (some answer)).1
      (.ended ending none) := by
  have hbegun := unseen_beginCall h ticket
  have heffect := takesEffect_answerCall hbegun.gone b.calls.length answer
  rw [completed_beginCall] at heffect
  subst hending
  exact ⟨heffect.granted, heffect.failed, heffect.refused⟩

/-! ## Single events and moves -/

theorem mem_asked {b' : Browser} {answer : Option Answer} {c : Completion}
    (hc : c ∈ b.asked b' i answer) :
    b.calls.length < b'.calls.length ∧ ∃ a, answer = some a ∧ c = b.completed i a := by
  unfold asked at hc
  split at hc
  · next hmore =>
    refine ⟨hmore, ?_⟩
    cases answer with
    | none => cases hc
    | some a => exact ⟨a, rfl, List.mem_singleton.1 hc⟩
  · cases hc

theorem mem_responded {n : Nat} {answer : Answer} {c : Completion}
    (hc : c ∈ b.responded n answer) :
    ∃ d, b.pending? n = some d ∧ c = b.completed d.surface answer := by
  unfold responded at hc
  cases hpending : b.pending? n with
  | none =>
    rw [hpending] at hc
    cases hc
  | some d =>
    rw [hpending] at hc
    exact ⟨d, rfl, List.mem_singleton.1 hc⟩

theorem LastSection.unseen {b' : Browser} {answer : Option Answer} (h : b.LastSection b' i answer)
    (hkind : b.kind = .exchange) (hgone : (b.surface i).mounted = false) : b.Unseen b' i := by
  obtain rfl | ⟨hpage, _⟩ | ⟨phase, found, rfl⟩ := h
  · exact .refl hgone
  · exact absurd hkind hpage
  · obtain h | ⟨ticket, h⟩ := b.endExchange_cases i answer phase found
    · rw [h]
      exact .refl hgone
    · rw [h]
      exact unseen_redeem hgone ticket answer

theorem unseen_render (hkind : b.kind = .exchange) (hgone : (b.surface b.current).mounted = false)
    (answer : Option Answer) (nested : Option Nested) :
    b.Unseen (b.render answer nested).browser b.current := by
  have hsome : b.surfaces ≠ [] := List.length_pos_iff.1 (Nat.zero_lt_of_lt (lt_of_gone hgone))
  have hlast := lastSection_render hsome answer nested
  generalize (b.render answer nested).inner = inner at hlast
  match nested, inner with
  | some nested, some _ =>
    have hinner : b.Unseen (b.simplePass b.current nested.answer).1 b.current :=
      (b.lastSection_simplePass b.current nested.answer).unseen hkind hgone
    have hstays := (stays_simplePass hsome nested.answer).2.trans hkind
    exact hinner.trans (hlast.unseen hstays hinner.gone)
  | some _, none => exact hlast.unseen hkind hgone
  | none, _ => exact hlast.unseen hkind hgone

/-- The events of the exchange of a surface, where that is all there is to a page. -/
def OfExchange (b : Browser) (i : Nat) : Event → Prop
  | .render _ _ => b.kind = .exchange ∧ b.current = i
  | .respond n _ | .cancel n => ∃ c, b.calls[n]? = some c ∧ c.surface = i
  | _ => False

def AllOfExchange (i : Nat) : Browser → List Event → Prop
  | _, [] => True
  | b, e :: events => b.OfExchange i e ∧ (b.step e).1.AllOfExchange i events

theorem unseen_step (hgone : (b.surface i).mounted = false) {e : Event} (hown : b.OfExchange i e) :
    b.Unseen (b.step e).1 i := by
  cases e with
  | render answer nested =>
    obtain ⟨hkind, rfl⟩ := hown
    exact unseen_render hkind hgone answer nested
  | respond n answer => exact unseen_respond hgone hown answer
  | cancel n => exact unseen_cancel hgone n
  | _ => exact hown.elim

theorem unseen_run (hgone : (b.surface i).mounted = false) {events : List Event}
    (hown : b.AllOfExchange i events) : b.Unseen (b.run events) i := by
  induction events generalizing b with
  | nil => exact .refl hgone
  | cons e events ih =>
    have hstep := unseen_step hgone hown.1
    exact hstep.trans (ih hstep.gone hown.2)

end Browser

namespace Scene

variable {s : Scene} {i : Nat}

/-- The moves of the exchange of a surface. On a login page the guard's leaving for the landing
route is not among them. -/
def OfExchange (s : Scene) (i : Nat) : Move → Prop
  | .enter j _ => j = i
  | .resume => ∃ p ∈ s.passes.head?, p.surface = i ∧ p.rest ≠ .guard true
  | .outside (.respond n _) | .outside (.cancel n) =>
    ∃ c, s.browser.calls[n]? = some c ∧ c.surface = i
  | _ => False

def AllOfExchange (i : Nat) : Scene → List Move → Prop
  | _, [] => True
  | s, m :: moves => s.OfExchange i m ∧ (s.step m).1.AllOfExchange i moves

theorem unseen_outside (hgone : (s.browser.surface i).mounted = false) {e : Event}
    (hevent : s.browser.Unseen (s.browser.step e).1 i) :
    s.browser.Unseen (s.step (.outside e)).1.browser i := by
  simp only [step]
  split
  · exact hevent
  · exact .refl hgone

theorem unseen_step (hgone : (s.browser.surface i).mounted = false) {m : Move}
    (hown : s.OfExchange i m) : s.browser.Unseen (s.step m).1.browser i := by
  cases m with
  | enter j answer =>
    simp only [step]
    split
    · rw [browser_follow]
      exact .refl hgone
    · exact .refl hgone
  | resume =>
    obtain ⟨b, passes⟩ := s
    obtain ⟨p, hp, rfl, hrest⟩ := hown
    cases passes with
    | nil => cases hp
    | cons q passes =>
      obtain rfl : q = p := Option.some.inj hp
      simp only [step, browser_follow]
      obtain heq | ⟨hguard, _⟩ | ⟨_, ticket, _, _, _, heq⟩ :=
        b.resume_cases q.surface q.answer q.rest
      · rw [heq]
        exact .refl hgone
      · exact absurd hguard hrest
      · rw [heq]
        exact Browser.unseen_redeem hgone ticket q.answer
  | unmount j => exact hown.elim
  | outside e =>
    cases e with
    | respond n answer => exact unseen_outside hgone (Browser.unseen_respond hgone hown answer)
    | cancel n => exact unseen_outside hgone (Browser.unseen_cancel hgone n)
    | _ => exact hown.elim

theorem unseen_run (hgone : (s.browser.surface i).mounted = false) {moves : List Move}
    (hown : s.AllOfExchange i moves) : s.browser.Unseen (s.run moves).browser i := by
  induction moves generalizing s with
  | nil => exact .refl hgone
  | cons m moves ih =>
    have hstep := unseen_step hgone hown.1
    exact hstep.trans (ih hstep.gone hown.2)

theorem takesEffect_resume (hgone : (s.browser.surface i).mounted = false) {c : Completion}
    (hc : c ∈ s.completions .resume) (hi : c.surface = i) :
    c.TakesEffect s.browser (s.step .resume).1.browser (s.step .resume).2 := by
  obtain ⟨b, passes⟩ := s
  cases passes with
  | nil => cases hc
  | cons p passes =>
    simp only [completions, step, browser_follow] at hc ⊢
    obtain ⟨hmore, answer, hanswer, rfl⟩ := Browser.mem_asked hc
    subst hi
    obtain heq | ⟨_, heq⟩ | ⟨_, ticket, _, _, _, heq⟩ := b.resume_cases p.surface p.answer p.rest
    · rw [heq] at hmore
      exact absurd hmore (Nat.lt_irrefl _)
    · rw [heq, Browser.calls_leave] at hmore
      exact absurd hmore (Nat.lt_irrefl _)
    · rw [heq, hanswer]
      simp only [follow]
      exact Browser.takesEffect_redeem hgone ticket answer rfl

theorem takesEffect_step (hgone : (s.browser.surface i).mounted = false) {m : Move} {c : Completion}
    (hc : c ∈ s.completions m) (hi : c.surface = i) :
    c.TakesEffect s.browser (s.step m).1.browser (s.step m).2 := by
  cases m with
  | enter j answer => cases hc
  | resume => exact takesEffect_resume hgone hc hi
  | unmount j => cases hc
  | outside e =>
    cases e with
    | respond n answer =>
      simp only [completions] at hc
      split at hc
      · next hcalm =>
        obtain ⟨d, hpending, rfl⟩ := Browser.mem_responded hc
        subst hi
        simp only [step, hcalm, Event.isRender, Bool.not_false, Bool.and_self, if_true,
          Browser.step, hpending]
        exact Browser.takesEffect_answerCall hgone n answer
      · cases hc
    | _ => cases hc

/-- Whatever happens after a surface is gone, its phase stays. What its exchange does is not seen,
and has its effect. -/
theorem unseen_after_unmount (kind : SurfaceKind) (landing : String) (store : Store)
    (start : Address) (before : List Move) (i : Nat)
    (hgone : (((load kind landing store start).run before).browser.surface i).mounted = false) :
    let s := (load kind landing store start).run before
    (∀ moves, let t := s.run moves
      (t.browser.surface i).phase = (s.browser.surface i).phase ∧
      ∀ m, (t.OfExchange i m → t.browser.Unseen (t.step m).1.browser i) ∧
        ∀ c ∈ t.completions m, c.surface = i →
          c.TakesEffect t.browser (t.step m).1.browser (t.step m).2) ∧
    (∀ moves, s.AllOfExchange i moves →
      s.browser.Unseen (s.run moves).browser i ∧
      (s.run moves).browser.history.entries.length = s.browser.history.entries.length) ∧
    ∀ events, s.browser.AllOfExchange i events →
      s.browser.Unseen (s.browser.run events) i ∧
      (s.browser.run events).history.entries.length = s.browser.history.entries.length := by
  intro s
  have hsound : s.Sound := (sound_calm _).run before
  refine ⟨fun moves => ?_, fun moves hown => ?_, fun events hown => ?_⟩
  · obtain ⟨hmounted, hphase⟩ :=
      (Browser.kept_gone i (s.browser.surface i).phase).run hsound moves ⟨hgone, rfl⟩
    exact ⟨hphase, fun m => ⟨unseen_step hmounted, fun c hc => takesEffect_step hmounted hc⟩⟩
  · have hunseen := unseen_run hgone hown
    exact ⟨hunseen, hunseen.length_entries⟩
  · have hunseen := Browser.unseen_run hgone hown
    exact ⟨hunseen, hunseen.length_entries⟩

/-- The surface goes while its call is pending, and is rendered once more. -/
def abandoned : Scene :=
  ((load .exchange "/" workingStore ticketPage).run [.enter 0 none, .resume, .unmount 0]).run
    [.enter 0 (some (.error (.rejected none)))]

theorem completions_abandoned :
    (abandoned.completions grantAccess).length = 1 ∧
    ∀ c ∈ abandoned.completions grantAccess, c.surface = 0 := by
  decide +kernel

theorem late_grant_takes_effect :
    let s := (load .exchange "/" workingStore ticketPage).run [.enter 0 none, .resume, .unmount 0]
    (s.browser.surface 0).mounted = false ∧
    (abandoned.browser.surface 0).phase = (s.browser.surface 0).phase ∧
    (abandoned.completions grantAccess).length = 1 ∧
    ∀ c ∈ abandoned.completions grantAccess,
      c.TakesEffect abandoned.browser (abandoned.step grantAccess).1.browser
        (abandoned.step grantAccess).2 := by
  have hgone : (((load .exchange "/" workingStore ticketPage).run
      [.enter 0 none, .resume, .unmount 0]).browser.surface 0).mounted = false := by
    decide +kernel
  obtain ⟨hone, hown⟩ := completions_abandoned
  obtain ⟨hphase, hlate⟩ := (unseen_after_unmount .exchange "/" workingStore ticketPage
    [.enter 0 none, .resume, .unmount 0] 0 hgone).1 [.enter 0 (some (.error (.rejected none)))]
  exact ⟨hgone, hphase, hone, fun c hc => (hlate grantAccess).2 c hc (hown c hc)⟩

end Scene

end TicketLogin
