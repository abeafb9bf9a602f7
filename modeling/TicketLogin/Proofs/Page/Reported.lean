import TicketLogin.Proofs.Page.PhaseOrder
import TicketLogin.Proofs.Page.SpentTicket

/-!
# The phase that a pass reports

A pass looks at the phase of its surface first, and at the store and the address later. If another
pass of the surface runs in between and takes the ticket out of the address, the first one finds
nothing to do and reports what it saw at the start. In every other case a pass reports the phase
that its surface has when the pass is over.
-/

namespace TicketLogin

def Report.phase? : Report → Option Phase
  | .ended (.done (.exchanged phase)) _ => some phase
  | _ => none

namespace Browser

/-- An exchange that waits to go on saw its surface idle. If it also saw a session, the surface has
not attempted since. -/
def Stands (b : Browser) (i : Nat) : Rest → Prop
  | .guard _ => True
  | .exchange phase found => phase = .idle ∧ (found = true → (b.surface i).attempted = false)

theorem stands_beginExchange {b : Browser} (hp : b.Phased) {i : Nat} {rest : Rest}
    (h : b.beginExchange i = .resting rest) : b.Stands i rest := by
  simp only [beginExchange] at h
  split at h
  · cases h
  · next hfree =>
    cases h
    simp only [Bool.or_eq_true, not_or, Bool.not_eq_true] at hfree
    exact ⟨(hp.orderly i).idle hfree.2, fun _ => hfree.2⟩

theorem stands_enter {b : Browser} (hp : b.Phased) {i : Nat} {rest : Rest}
    (h : b.enter i = .resting rest) : b.Stands i rest := by
  unfold enter at h
  split at h
  · exact stands_beginExchange hp h
  · cases h
    trivial

theorem stands_resume {b : Browser} (hp : b.Phased) {i : Nat} {answer : Option Answer}
    {rest next : Rest} (h : (b.resume i answer rest).2 = .resting next) :
    (b.resume i answer rest).1.Stands i next := by
  cases rest with
  | exchange phase found => cases h
  | guard found =>
    by_cases hkind : b.kind = .page
    · cases found with
      | true => simp [resume, hkind] at h
      | false =>
        simp only [resume, hkind, if_true, Bool.false_eq_true, if_false] at h ⊢
        exact stands_beginExchange hp h
    · simp [resume, hkind] at h

theorem surfaces_resume_of_found (b : Browser) (i : Nat) (answer : Option Answer) {rest : Rest}
    (h : rest.found = true) : (b.resume i answer rest).1.surfaces = b.surfaces := by
  obtain heq | ⟨_, heq⟩ | ⟨phase, ticket, hrest, _⟩ := b.resume_cases i answer rest
  · rw [heq]
  · rw [heq, b.surfaces_leave]
  · rw [hrest] at h
    cases h

end Browser

namespace Scene

def Standing (s : Scene) : Prop := ∀ p ∈ s.passes, s.browser.Stands p.surface p.rest

/-- All passes under way have read the same store as long as their surface has not attempted, so
none of them asks for a redemption while one of them saw a session. -/
theorem stands_of_resume {s : Scene} (hreads : s.ReadsHold) {p q : OpenPass} (hp : p ∈ s.passes)
    (hq : q ∈ s.passes) (hsame : q.surface = p.surface)
    (h : s.browser.Stands q.surface q.rest) :
    (s.browser.resume p.surface p.answer p.rest).1.Stands q.surface q.rest := by
  cases hrest : q.rest with
  | guard found => trivial
  | exchange phase found =>
    rw [hrest] at h
    refine ⟨h.1, fun hfound => ?_⟩
    have hfree : (s.browser.surface q.surface).attempted = false := h.2 hfound
    have hvisible : s.browser.store.hasSession = true := by
      rw [← hreads q hq hfree, hrest]
      exact hfound
    -- the other pass has read the same store, so it stops where it saw the session
    have hseen : p.rest.found = true := (hreads p hp (hsame ▸ hfree)).trans hvisible
    rw [Browser.surface, s.browser.surfaces_resume_of_found p.surface p.answer hseen]
    exact hfree

theorem Standing.step {s : Scene} (hsound : s.Sound) (hp : s.browser.Phased)
    (hreads : s.ReadsHold) (hs : s.Standing) (m : Move) : (s.step m).1.Standing := by
  apply forall_passes_step (Q := Browser.Stands) hs
  · intro i rest hnext
    exact Browser.stands_enter hp hnext
  · intro p rest hnext
    exact Browser.stands_resume hp hnext
  · intro p passes hpasses q hq hstands
    have hmem : p ∈ s.passes := hpasses ▸ List.mem_cons_self
    have hq : q ∈ s.passes := hpasses ▸ List.mem_cons_of_mem _ hq
    exact stands_of_resume hreads hmem hq (hsound.alike q hq p hmem) hstands

/-- All that is known of a scene on the way. -/
structure Regular (s : Scene) : Prop where
  sound : s.Sound
  accounted : s.browser.Accounted
  phased : s.browser.Phased
  reads : s.ReadsHold
  standing : s.Standing

theorem regular_calm {b : Browser} (hb : b.Accounted) (hp : b.Phased) : (calm b).Regular :=
  ⟨sound_calm b, hb, hp, fun _ h => absurd h List.not_mem_nil, fun _ h => absurd h List.not_mem_nil⟩

theorem Regular.step {s : Scene} (hs : s.Regular) (m : Move) : (s.step m).1.Regular := by
  have hphased := Browser.kept_phased.scene hs.sound m ⟨hs.accounted, hs.phased⟩
  exact ⟨hs.sound.step m, hphased.1, hphased.2, hs.reads.step hs.sound m,
    hs.standing.step hs.sound hs.phased hs.reads m⟩

theorem Regular.run {s : Scene} (hs : s.Regular) (moves : List Move) : (s.run moves).Regular := by
  induction moves generalizing s with
  | nil => exact hs
  | cons m moves ih => exact ih (hs.step m)

theorem regular_load (kind : SurfaceKind) (landing : String) (store : Store) (start : Address) :
    (load kind landing store start).Regular := by
  obtain ⟨haccounted, hphased⟩ := Browser.phased_load kind landing store start
  exact regular_calm haccounted hphased

/-- The move ends a pass, or the answer to a call, of a surface that is there, and reports a phase. -/
structure Shows (s : Scene) (m : Move) (i : Nat) (phase : Phase) : Prop where
  subject : s.subject? m = some i
  report : (s.step m).2.phase? = some phase
  mounted : ((s.step m).1.browser.surface i).mounted = true

end Scene

namespace Browser

theorem reported_beginExchange {b : Browser} {i : Nat} {ending : Ending}
    (h : b.beginExchange i = .finished ending) : ending = .done (.exchanged (b.surface i).phase) := by
  simp only [beginExchange] at h
  split at h
  · cases h
    rfl
  · cases h

theorem reported_enter {b : Browser} {i : Nat} {ending : Ending} (h : b.enter i = .finished ending) :
    ending = .done (.exchanged (b.surface i).phase) := by
  unfold enter at h
  split at h
  · exact reported_beginExchange h
  · cases h

theorem reported_answerCall {b : Browser} {n i : Nat} (hi : i < b.surfaces.length) (answer : Answer)
    (hmounted : ((b.answerCall n i answer).1.surface i).mounted = true) :
    ((b.answerCall n i answer).1.surface i).phase = (b.answerCall n i answer).2 := by
  rw [surface_answerCall, if_pos ⟨rfl, hi⟩] at hmounted ⊢
  rw [Surface.mounted_advance] at hmounted
  rw [Surface.phase_advance, if_pos hmounted]

theorem reported_redeem {b : Browser} {i : Nat} (hi : i < b.surfaces.length) (ticket : Ticket)
    {answer : Option Answer} {phase : Phase}
    (h : (b.redeem i ticket answer).2 = .done (.exchanged phase))
    (hmounted : ((b.redeem i ticket answer).1.surface i).mounted = true) :
    phase = ((b.redeem i ticket answer).1.surface i).phase := by
  cases answer with
  | none => cases h
  | some answer =>
    rw [redeem_some] at h hmounted ⊢
    cases h
    have hstill : i < (b.beginCall i ticket).surfaces.length := by rwa [length_beginCall]
    exact (reported_answerCall hstill answer hmounted).symm

/-- The exchange saw no session, but another pass of its surface has attempted since, and the ticket
has left the address. -/
def Late (b : Browser) (i : Nat) (rest : Rest) : Prop :=
  (∃ phase, rest = .exchange phase false) ∧ (b.surface i).attempted = true ∧
    b.history.location.ticket? = none

theorem Late.resume {b : Browser} {i : Nat} {rest : Rest} (h : b.Late i rest)
    (hstands : b.Stands i rest) (answer : Option Answer) :
    b.resume i answer rest = (b, .finished (.done (.exchanged .idle))) := by
  obtain ⟨⟨phase, rfl⟩, _, hticket⟩ := h
  obtain ⟨rfl, _⟩ := hstands
  simp [Browser.resume, endExchange, hticket]

theorem reported_resume {b : Browser} (hp : b.Phased) {i : Nat} (hi : i < b.surfaces.length)
    {answer : Option Answer} {rest : Rest} {phase : Phase} (hstands : b.Stands i rest)
    (hlate : ¬ b.Late i rest)
    (h : (b.resume i answer rest).2 = .finished (.done (.exchanged phase)))
    (hmounted : ((b.resume i answer rest).1.surface i).mounted = true) :
    phase = ((b.resume i answer rest).1.surface i).phase := by
  cases rest with
  | guard found =>
    by_cases hkind : b.kind = .page
    · cases found with
      | true => simp [resume, hkind] at h
      | false =>
        simp only [resume, hkind, if_true, Bool.false_eq_true, if_false] at h ⊢
        cases reported_beginExchange h
        rfl
    · simp [resume, hkind] at h
  | exchange seen found =>
    obtain ⟨rfl, hquiet⟩ := hstands
    cases found with
    | true =>
      -- as there was a session, no pass has attempted since
      cases h
      exact ((hp.orderly i).idle (hquiet rfl)).symm
    | false =>
      cases hticket : b.history.location.ticket? with
      | none =>
        have hfree : (b.surface i).attempted = false := by
          rw [← Bool.not_eq_true]
          exact fun hattempted => hlate ⟨⟨_, rfl⟩, hattempted, hticket⟩
        simp only [resume, endExchange, hticket, Bool.false_eq_true, if_false] at h ⊢
        cases h
        exact ((hp.orderly i).idle hfree).symm
      | some ticket =>
        cases hattempted : (b.surface i).attempted with
        | true =>
          -- the lost attempt is the one end that looks at the phase again
          simp only [resume, endExchange, hticket, hattempted, if_true, Bool.false_eq_true,
            if_false] at h ⊢
          cases h
          rfl
        | false =>
          simp only [resume, endExchange, hticket, hattempted, Bool.false_eq_true, if_false]
            at h hmounted ⊢
          rw [Progress.finished.injEq] at h
          exact reported_redeem hi ticket h hmounted

theorem reported_outside {b : Browser} {e : Event} {phase : Phase} (he : e.isRender = false)
    (h : (b.step e).2.phase? = some phase) :
    ∃ n c answer, e = .respond n answer ∧ b.pending? n = some c ∧
      (b.step e).1 = (b.answerCall n c.surface answer).1 ∧
      phase = (b.answerCall n c.surface answer).2 := by
  cases e with
  | render => cases he
  | respond n answer =>
    cases hpending : b.pending? n with
    | none =>
      simp only [step, hpending] at h
      cases h
    | some c =>
      simp only [step, hpending] at h ⊢
      cases h
      exact ⟨n, c, answer, rfl, hpending, rfl, rfl⟩
  | cancel n =>
    simp only [step] at h
    split at h <;> cases h
  | persist s =>
    simp only [step] at h
    split at h <;> cases h
  | read =>
    simp only [step] at h
    split at h <;> cases h
  | clear =>
    simp only [step] at h
    split at h <;> cases h
  | _ => cases h

end Browser

namespace Scene

/-- The innermost pass goes on although another one has overtaken it. -/
def Overtaken (s : Scene) : Move → Prop
  | .resume => ∃ p ∈ s.passes.head?, s.browser.Late p.surface p.rest
  | _ => False

theorem phase?_follow {b : Browser} {passes : List OpenPass} {i : Nat} {answer : Option Answer}
    {progress : Progress} {phase : Phase}
    (h : (follow b passes i answer progress).2.phase? = some phase) :
    progress = .finished (.done (.exchanged phase)) := by
  cases progress with
  | resting rest => cases h
  | finished ending =>
    cases ending with
    | waiting call => cases h
    | done outcome =>
      cases outcome with
      | exchanged p =>
        cases h
        rfl
      | _ => cases h

theorem Regular.shows_enter {s : Scene} {i j : Nat} {answer : Option Answer} {phase : Phase}
    (h : s.Shows (.enter j answer) i phase) :
    phase = ((s.step (.enter j answer)).1.browser.surface i).phase := by
  obtain ⟨hsubject, hreport, _⟩ := h
  cases hsubject
  simp only [Scene.step] at hreport ⊢
  split at hreport
  · next hadmits =>
    have henter := phase?_follow hreport
    cases Browser.reported_enter henter
    rw [if_pos hadmits, browser_follow]
  · cases hreport

theorem Regular.shows_outside {s : Scene} (hs : s.Regular) {e : Event} {i : Nat} {phase : Phase}
    (h : s.Shows (.outside e) i phase) :
    phase = ((s.step (.outside e)).1.browser.surface i).phase := by
  obtain ⟨hsubject, hreport, hmounted⟩ := h
  simp only [Scene.step] at hreport hmounted ⊢
  split at hreport
  · next hquiet =>
    simp only [Bool.and_eq_true, Bool.not_eq_true'] at hquiet
    obtain ⟨n, c, answer, rfl, hpending, hstep, rfl⟩ := Browser.reported_outside hquiet.2 hreport
    obtain ⟨hc, _⟩ := Browser.calls_of_pending? hpending
    have hsurface : i = c.surface := by
      simp only [subject?, hc, Option.map_some, Option.some.injEq] at hsubject
      exact hsubject.symm
    subst hsurface
    have hknown : c.surface < s.browser.surfaces.length :=
      hs.accounted.known _ (List.mem_map_of_mem (List.mem_of_getElem? hc))
    simp only [hquiet.1, hquiet.2, Bool.not_false, Bool.and_self, if_true, calm, hstep]
      at hmounted ⊢
    exact (Browser.reported_answerCall hknown answer hmounted).symm
  · cases hreport

theorem Regular.shows_resume {s : Scene} (hs : s.Regular) {i : Nat} {phase : Phase}
    (h : s.Shows .resume i phase) (hlate : ¬ s.Overtaken .resume) :
    phase = ((s.step .resume).1.browser.surface i).phase := by
  obtain ⟨b, passes⟩ := s
  obtain ⟨hsubject, hreport, hmounted⟩ := h
  cases passes with
  | nil => cases hsubject
  | cons p passes =>
    cases hsubject
    simp only [Scene.step] at hreport hmounted ⊢
    rw [browser_follow] at hmounted ⊢
    have hp : p ∈ p :: passes := List.mem_cons_self
    have hintime : ¬ b.Late p.surface p.rest := fun hlater => hlate ⟨p, rfl, hlater⟩
    exact Browser.reported_resume hs.phased (hs.sound.present p hp) (hs.standing p hp) hintime
      (phase?_follow hreport) hmounted

theorem Regular.shows_overtaken {s : Scene} (hs : s.Regular) {m : Move} {i : Nat} {phase : Phase}
    (h : s.Shows m i phase) (hlate : s.Overtaken m) :
    phase = .idle ∧ ((s.step m).1.browser.surface i).attempted = true := by
  obtain ⟨b, passes⟩ := s
  cases m with
  | resume =>
    obtain ⟨p, hp, hlate⟩ := hlate
    cases passes with
    | nil => cases hp
    | cons q passes =>
      cases hp
      have hresume := hlate.resume (hs.standing p List.mem_cons_self) p.answer
      obtain ⟨hsubject, hreport, _⟩ := h
      cases hsubject
      simp only [Scene.step, hresume] at hreport ⊢
      cases phase?_follow hreport
      exact ⟨rfl, hlate.2.1⟩
  | _ => cases hlate

/-- A report is wrong exactly if its pass was overtaken; then it tells of a wait although the
surface has attempted. -/
theorem Regular.reported_iff {s : Scene} (hs : s.Regular) {m : Move} {i : Nat} {phase : Phase}
    (h : s.Shows m i phase) :
    (phase = ((s.step m).1.browser.surface i).phase ↔ ¬ s.Overtaken m) ∧
    (s.Overtaken m ↔ phase = .idle ∧ ((s.step m).1.browser.surface i).attempted = true) := by
  -- a surface that is there and has attempted does not wait
  have hwrong : phase = .idle ∧ ((s.step m).1.browser.surface i).attempted = true →
      phase ≠ ((s.step m).1.browser.surface i).phase := by
    rintro ⟨rfl, hattempted⟩ hsame
    exact ((hs.step m).phased.orderly i).busy hattempted h.mounted hsame.symm
  have hright : ¬ s.Overtaken m → phase = ((s.step m).1.browser.surface i).phase := by
    intro hlate
    cases m with
    | enter j answer => exact Regular.shows_enter h
    | resume => exact hs.shows_resume h hlate
    | unmount j =>
      have hreport := h.report
      simp only [Scene.step] at hreport
      split at hreport <;> cases hreport
    | outside e => exact hs.shows_outside h
  have hlate : s.Overtaken m →
      phase = .idle ∧ ((s.step m).1.browser.surface i).attempted = true := hs.shows_overtaken h
  constructor
  · exact ⟨fun hsame hover => hwrong (hlate hover) hsame, hright⟩
  · refine ⟨hlate, fun hidle => ?_⟩
    exact Classical.byContradiction fun hintime => hwrong hidle (hright hintime)

/-- Of a surface that is there every pass reports the phase that it has, unless the pass has been
overtaken: it is woven into others of the surface, one of them has asked for the redemption since
this one looked, and the ticket is gone from the address. Of a whole pass this shows in a report of
a wait of a surface that has attempted. -/
theorem reported_phase_real_iff (kind : SurfaceKind) (landing : String) (store : Store)
    (start : Address) :
    (∀ moves m i phase,
      let s := (load kind landing store start).run moves
      s.Shows m i phase →
        (phase = ((s.step m).1.browser.surface i).phase ↔ ¬ s.Overtaken m)) ∧
    ∀ events answer nested phase,
      let b := (Browser.load kind landing store start).run events
      let result := b.render answer nested
      result.ending = .done (.exchanged phase) →
      (result.browser.surface b.current).mounted = true →
        (phase = (result.browser.surface b.current).phase ↔
          ¬ (phase = .idle ∧ (result.browser.surface b.current).attempted = true)) := by
  have hload := regular_load kind landing store start
  constructor
  · intro moves m i phase s hshows
    exact ((hload.run moves).reported_iff hshows).1
  · intro events answer nested phase b result hending hmounted
    have hsome := Browser.surfaces_load kind landing store start
    obtain ⟨moves, hmoves⟩ := exists_run_eq hsome events
    have hregular : (calm b).Regular := by
      rw [← hmoves]
      exact hload.run moves
    obtain ⟨more, last, hsubject, hlast⟩ :=
      ends_render (Browser.surfaces_run hsome events) answer nested
    have hshows : ((calm b).run more).Shows last b.current phase := by
      refine ⟨hsubject, ?_, ?_⟩
      · rw [hlast]
        change (Report.ended result.ending none).phase? = _
        rw [hending]
        rfl
      · rw [hlast]
        exact hmounted
    obtain ⟨hreal, hlate⟩ := (hregular.run more).reported_iff hshows
    rw [hlast] at hreal hlate
    exact hreal.trans (not_congr hlate)

def grantAtHand : Answer := .ok ⟨"T", "T", none, none, none⟩

/-- One pass looks, then another one looks and redeems the ticket. -/
def overtaking : List Move := [.enter 0 none, .enter 0 (some grantAtHand), .resume]

theorem shows_overtaking :
    ((load .exchange "/" workingStore ticketPage).run overtaking).Shows .resume 0 .idle := by
  constructor <;> decide +kernel

theorem overtaken_report_real_iff :
    let s := (load .exchange "/" workingStore ticketPage).run overtaking
    s.Shows .resume 0 .idle ∧
    (Phase.idle = ((s.step .resume).1.browser.surface 0).phase ↔ ¬ s.Overtaken .resume) :=
  ⟨shows_overtaking, (reported_phase_real_iff .exchange "/" workingStore ticketPage).1 overtaking
    .resume 0 .idle shows_overtaking⟩

/-- A pass that is interrupted after its read by one that signs the user in reports that the surface
waits, although its exchange has succeeded. -/
theorem idle_reported_after_success :
    let b := Browser.load .exchange "/" workingStore ticketPage
    let result := b.render none (some ⟨1, some grantAtHand⟩)
    result.ending = .done (.exchanged .idle) ∧
    result.inner = some (.done (.exchanged .succeeded)) ∧
    (result.browser.surface b.current).mounted = true ∧
    (result.browser.surface b.current).phase = .succeeded := by
  decide +kernel

end Scene

end TicketLogin
