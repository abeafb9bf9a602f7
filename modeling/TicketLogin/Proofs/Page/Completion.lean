import TicketLogin.Proofs.Page.PhaseOrder

/-!
# Exchanges that are completed

An exchange is completed when its call is answered, be it by an answer that comes later or by the
one at hand when a pass asks. What it comes to hangs on the answer and on whether the store takes
the session; a surface that is gone shows nothing of it. The exchanges that a run completes make up
its ledger.
-/

namespace TicketLogin

namespace Answer

/-- Why an answer does not lead to a stored session; nothing if it does. -/
def failure? (answer : Answer) (store : Store) : Option RedemptionFailure :=
  match answer with
  | .error failure => some failure
  | .ok g =>
    match (store.persist g.session).2 with
    | .ok () => none
    | .error fault => some (.persistence fault.chain)

def stored (answer : Answer) (store : Store) : Store :=
  match answer with
  | .error _ => store
  | .ok g => (store.persist g.session).1

theorem failure?_eq_none_iff (answer : Answer) (store : Store) :
    answer.failure? store = none ↔ ∃ g, answer = .ok g ∧ (store.persist g.session).2 = .ok () := by
  cases answer with
  | error failure => simp [failure?]
  | ok g =>
    cases hresult : (store.persist g.session).2 with
    | ok => simp [failure?, hresult]
    | error fault => simp [failure?, hresult]

end Answer

structure Completion where
  surface : Nat
  /-- Whether the surface was still there. -/
  mounted : Bool
  answer : Answer
  failure? : Option RedemptionFailure

/-- The notice of a completed exchange: of a failure in sight of the user. -/
def Completion.notice? (c : Completion) : Option String :=
  if c.mounted then c.failure?.map (·.notice) else none

namespace Browser

def completed (b : Browser) (i : Nat) (answer : Answer) : Completion :=
  ⟨i, (b.surface i).mounted, answer, answer.failure? b.store⟩

theorem complete_eq (b : Browser) (i : Nat) (answer : Answer) :
    b.complete i answer =
      match answer.failure? b.store with
      | some failure =>
        (({ b with store := answer.stored b.store }).fail i (b.surface i).mounted failure, .failed)
      | none =>
        (({ b with store := answer.stored b.store }).succeed i (b.surface i).mounted, .succeeded) := by
  cases answer with
  | error failure => rfl
  | ok g =>
    cases h : (b.store.persist g.session).2 with
    | ok => simp only [Answer.failure?, Answer.stored, h, complete_ok i h]
    | error fault => simp only [Answer.failure?, Answer.stored, h, complete_ok_of_fault i h]

theorem notices_complete (b : Browser) (i : Nat) (answer : Answer) :
    (b.complete i answer).1.notices = b.notices ++ (b.completed i answer).notice?.toList := by
  rw [complete_eq, Completion.notice?, completed]
  cases answer.failure? b.store with
  | some failure => cases (b.surface i).mounted <;> simp [fail, notify, Notices.add, advance, updateSurface]
  | none => cases (b.surface i).mounted <;> simp [succeed, navigate, advance, updateSurface]

theorem store_complete (b : Browser) (i : Nat) (answer : Answer) :
    (b.complete i answer).1.store = answer.stored b.store := by
  rw [complete_eq]
  cases answer.failure? b.store <;> cases (b.surface i).mounted <;> rfl

theorem phase_complete (b : Browser) (i : Nat) (answer : Answer) :
    (b.complete i answer).2 = if (answer.failure? b.store).isSome then .failed else .succeeded := by
  rw [complete_eq]
  cases answer.failure? b.store <;> rfl

def answeredOf (b : Browser) (i : Nat) : Nat :=
  b.calls.countP fun c => c.surface = i ∧ c.status = .answered

theorem answeredOf_eq (b : Browser) (i : Nat) :
    b.answeredOf i = ((b.callsOf i).filter (·.status = .answered)).length := by
  rw [answeredOf, callsOf, ← List.countP_eq_length_filter, List.countP_filter]
  apply List.countP_congr
  intro c _
  simp [and_comm]

/-- A call that was pending counts exactly if it is answered now. -/
theorem answeredOf_setStatus {b : Browser} {n : Nat} {c : Call} (hc : b.calls[n]? = some c)
    (hpending : c.status = .pending) (status : CallStatus) (i : Nat) :
    (b.setStatus n status).answeredOf i =
      b.answeredOf i + if c.surface = i ∧ status = .answered then 1 else 0 := by
  obtain ⟨hn, rfl⟩ := List.getElem?_eq_some_iff.1 hc
  obtain ⟨front, d, rest, hcalls, rfl, hmodify⟩ :=
    List.exists_of_modify (fun c => { c with status }) hn
  have hd : b.calls[front.length] = d := by simp [hcalls]
  rw [hd] at hpending ⊢
  rw [answeredOf, setStatus, hmodify, answeredOf, hcalls]
  simp only [List.countP_append, List.countP_cons, hpending, reduceCtorEq, and_false, decide_false,
    Bool.false_eq_true, if_false, decide_eq_true_eq]
  omega

/-- On the way from one browser to another just these exchanges are completed, in this order: their
notices are added, and each surface gains as many answers as it has exchanges among them. -/
structure Completes (b b' : Browser) (completions : List Completion) : Prop where
  notices : b'.notices = b.notices ++ completions.filterMap Completion.notice?
  answered : ∀ i, b'.answeredOf i = b.answeredOf i + (completions.filter (·.surface = i)).length

namespace Completes

theorem none_of_eq {b b' : Browser} (hnotices : b'.notices = b.notices) (hcalls : b'.calls = b.calls) :
    b.Completes b' [] := by
  constructor
  · rw [hnotices, List.filterMap_nil, List.append_nil]
  · intro i
    rw [answeredOf, hcalls]
    rfl

theorem refl (b : Browser) : b.Completes b [] := none_of_eq rfl rfl

theorem trans {b b' b'' : Browser} {first second : List Completion} (h : b.Completes b' first)
    (h' : b'.Completes b'' second) : b.Completes b'' (first ++ second) := by
  constructor
  · rw [h'.notices, h.notices, List.filterMap_append, List.append_assoc]
  · intro i
    rw [h'.answered, h.answered, List.filter_append, List.length_append, Nat.add_assoc]

end Completes

/-! ## What each operation completes -/

theorem completes_leave (b : Browser) : b.Completes b.leave [] := by
  obtain ⟨history, h⟩ := b.leave_eq_with
  rw [h]
  exact .none_of_eq rfl rfl

theorem completes_answerCall {b : Browser} {n : Nat} {c : Call} (hpending : b.pending? n = some c)
    (answer : Answer) :
    b.Completes (b.answerCall n c.surface answer).1 [b.completed c.surface answer] := by
  obtain ⟨hc, hstatus⟩ := calls_of_pending? hpending
  constructor
  · have hnotices := (b.setStatus n .answered).notices_complete c.surface answer
    rw [answerCall, hnotices]
    change b.notices ++ (b.completed c.surface answer).notice?.toList = _
    cases h : (b.completed c.surface answer).notice? <;> simp [h]
  · intro i
    rw [answeredOf, calls_answerCall, ← answeredOf, answeredOf_setStatus hc hstatus]
    by_cases hi : c.surface = i <;> simp [completed, hi]

theorem completes_beginCall (b : Browser) (i : Nat) (ticket : Ticket) :
    b.Completes (b.beginCall i ticket) [] := by
  constructor
  · rw [List.filterMap_nil, List.append_nil]
    rfl
  · intro j
    rw [answeredOf, calls_beginCall, List.countP_append]
    simp [answeredOf]

theorem completed_beginCall (b : Browser) (i : Nat) (ticket : Ticket) (answer : Answer) :
    (b.beginCall i ticket).completed i answer = b.completed i answer := by
  rw [completed, mounted_beginCall]
  rfl

theorem completes_redeem (b : Browser) (i : Nat) (ticket : Ticket) (answer : Option Answer) :
    b.Completes (b.redeem i ticket answer).1 (answer.map (b.completed i)).toList := by
  have hbegun := b.completes_beginCall i ticket
  cases answer with
  | none => exact hbegun
  | some answer =>
    have hanswered := completes_answerCall (b.pending?_beginCall i ticket) answer
    rw [completed_beginCall] at hanswered
    exact hbegun.trans hanswered

theorem completes_cancel {b : Browser} {n : Nat} {c : Call} (hpending : b.pending? n = some c) :
    b.Completes (b.setStatus n .cancelled) [] := by
  obtain ⟨hc, hstatus⟩ := calls_of_pending? hpending
  constructor
  · rw [List.filterMap_nil, List.append_nil]
    rfl
  · intro i
    rw [answeredOf_setStatus hc hstatus, if_neg fun h => CallStatus.noConfusion h.2]
    rfl

/-- What a stretch of a pass completes: the exchange that it asks for, if the answer is at hand. -/
def asked (b b' : Browser) (i : Nat) (answer : Option Answer) : List Completion :=
  if b.calls.length < b'.calls.length then (answer.map (b.completed i)).toList else []

theorem completes_asked_of_none {b b' : Browser} (h : b.Completes b' []) (hcalls : b'.calls = b.calls)
    (i : Nat) (answer : Option Answer) : b.Completes b' (b.asked b' i answer) := by
  rwa [asked, hcalls, if_neg (Nat.lt_irrefl _)]

theorem completes_asked_redeem (b : Browser) (i : Nat) (ticket : Ticket) (answer : Option Answer) :
    b.Completes (b.redeem i ticket answer).1 (b.asked (b.redeem i ticket answer).1 i answer) := by
  obtain ⟨status, hcalls⟩ := b.calls_redeem i ticket answer
  have hmore : b.calls.length < (b.redeem i ticket answer).1.calls.length := by
    rw [hcalls, List.length_append]
    exact Nat.lt_succ_self _
  rw [asked, if_pos hmore]
  exact b.completes_redeem i ticket answer

def responded (b : Browser) (n : Nat) (answer : Answer) : List Completion :=
  ((b.pending? n).map fun c => b.completed c.surface answer).toList

theorem completes_respond (b : Browser) (n : Nat) (answer : Answer) :
    b.Completes (b.step (.respond n answer)).1 (b.responded n answer) := by
  simp only [step, responded]
  cases hpending : b.pending? n with
  | none => exact .refl b
  | some c => exact completes_answerCall hpending answer

theorem completes_outside (b : Browser) {e : Event} (he : e.isRender = false)
    (hno : ∀ n answer, e ≠ .respond n answer) : b.Completes (b.step e).1 [] := by
  cases e with
  | render => cases he
  | respond n answer => exact absurd rfl (hno n answer)
  | cancel n =>
    simp only [step]
    cases hpending : b.pending? n with
    | none => exact .refl b
    | some c => exact completes_cancel hpending
  | _ => exact .none_of_eq rfl rfl

/-! ## Whole passes -/

/-- What the last section of a pass does: nothing, leave the page, or end the exchange. -/
def LastSection (b b' : Browser) (i : Nat) (answer : Option Answer) : Prop :=
  b' = b ∨ (b.kind ≠ .exchange ∧ b' = b.leave) ∨
    ∃ phase found, b' = (b.endExchange i answer phase found).1

theorem lastSection_ite {b : Browser} (hkind : b.kind ≠ .exchange) (i : Nat)
    (answer : Option Answer) (found : Bool) :
    b.LastSection (if found then b.leave else b) i answer := by
  cases found with
  | true => exact .inr (.inl ⟨hkind, rfl⟩)
  | false => exact .inl rfl

/-- An interruption that tells whether it has happened; the browser that the interrupted pass goes on
with is known by that. -/
def Told (f : Interruption) (between : Browser → Browser) : Prop :=
  ∀ b, (f b).1 = if (f b).2.isSome then between b else b

theorem told_uninterrupted (between : Browser → Browser) : Told uninterrupted between := fun _ => rfl

theorem told_ite {c : Prop} [Decidable c] (f : Interruption) (between : Browser → Browser)
    (hf : Told f between) : Told (if c then f else uninterrupted) between := by
  split
  · exact hf
  · exact told_uninterrupted between

theorem lastSection_exchangePass {f : Interruption} {between : Browser → Browser}
    (hf : Told f between) (b : Browser) (i : Nat) (answer : Option Answer) :
    (if (b.exchangePass i f answer).inner.isSome then between b else b).LastSection
      (b.exchangePass i f answer).browser i answer := by
  rw [exchangePass_eq]
  split
  · exact .inl rfl
  · dsimp only
    rw [← hf b]
    exact .inr (.inr ⟨_, _, rfl⟩)

theorem inner_exchangePass_uninterrupted (b : Browser) (i : Nat) (answer : Option Answer) :
    (b.exchangePass i uninterrupted answer).inner = none := by
  rw [exchangePass_eq]
  split <;> rfl

/-- A pass that is interrupted once at most goes on from where the interruption has left the browser,
and then only its last section is left. -/
theorem lastSection_pass {first second : Interruption} {between : Browser → Browser}
    (hfirst : Told first between) (hsecond : Told second between)
    (hone : first = uninterrupted ∨ second = uninterrupted) (b : Browser)
    (hkind : (between b).kind = b.kind) (i : Nat) (answer : Option Answer) :
    (if (b.pass i first second answer).inner.isSome then between b else b).LastSection
      (b.pass i first second answer).browser i answer := by
  have hfrom : (first b).1.kind = b.kind := by
    rw [hfirst b]
    split
    · exact hkind
    · rfl
  cases hb : b.kind with
  | exchange =>
    simp only [pass, hb]
    exact lastSection_exchangePass hfirst b i answer
  | guard =>
    simp only [pass, hb, guardPass]
    rw [← hfirst b]
    exact lastSection_ite (by simp [hfrom, hb]) i answer _
  | page =>
    cases hfound : b.store.hasSession with
    | true =>
      simp only [pass, hb, guardPass, hfound, if_true]
      rw [← hfirst b]
      exact lastSection_ite (by simp [hfrom, hb]) i answer true
    | false =>
      simp only [pass, hb, guardPass, hfound, Bool.false_eq_true, if_false]
      obtain rfl | rfl := hone
      · exact lastSection_exchangePass hsecond b i answer
      · simp only [inner_exchangePass_uninterrupted, Option.orElse_eq_orElse, Option.orElse_eq_or,
          Option.or_none]
        rw [← hfirst b]
        have h := lastSection_exchangePass (told_uninterrupted id) (first b).1 i answer
        rwa [id, ite_self] at h

theorem lastSection_simplePass (b : Browser) (i : Nat) (answer : Option Answer) :
    b.LastSection (b.simplePass i answer).1 i answer := by
  have h := lastSection_pass (told_uninterrupted id) (told_uninterrupted id) (.inl rfl) b rfl i answer
  rwa [id, ite_self] at h

def between (b : Browser) (nested : Option Nested) (inner : Option Ending) : Browser :=
  match nested, inner with
  | some nested, some _ => (b.simplePass b.current nested.answer).1
  | _, _ => b

theorem between_some (b : Browser) (nested : Nested) (inner : Option Ending) :
    b.between (some nested) inner =
      if inner.isSome then (b.simplePass b.current nested.answer).1 else b := by
  cases inner <;> rfl

theorem stays_simplePass {b : Browser} (h : b.surfaces ≠ []) (answer : Option Answer) :
    b.current < (b.simplePass b.current answer).1.surfaces.length ∧
      (b.simplePass b.current answer).1.kind = b.kind := by
  obtain ⟨hadmits, hkind⟩ :=
    (Scene.realizes_simplePass b.current answer).stays (Scene.admits_calm h)
  exact ⟨(Scene.admits_iff.1 hadmits).1, hkind⟩

theorem lastSection_render {b : Browser} (h : b.surfaces ≠ []) (answer : Option Answer)
    (nested : Option Nested) :
    (b.between nested (b.render answer nested).inner).LastSection (b.render answer nested).browser
      b.current answer := by
  cases nested with
  | none => exact b.lastSection_simplePass b.current answer
  | some nested =>
    rw [between_some]
    have htold : Told
        (fun b' => ((b'.simplePass b.current nested.answer).1,
          some (b'.simplePass b.current nested.answer).2))
        (fun b' => (b'.simplePass b.current nested.answer).1) := fun _ => rfl
    refine lastSection_pass (told_ite _ _ htold) (told_ite _ _ htold) ?_ b
      (stays_simplePass h nested.answer).2 b.current answer
    by_cases hread : nested.read = 1
    · exact .inr (if_neg (by omega))
    · exact .inl (if_neg hread)

/-! ## The ledger of a run -/

theorem completes_asked_self (b : Browser) (i : Nat) (answer : Option Answer) :
    b.Completes b (b.asked b i answer) := completes_asked_of_none (.refl b) rfl i answer

theorem endExchange_cases (b : Browser) (i : Nat) (answer : Option Answer) (phase : Phase)
    (found : Bool) :
    (b.endExchange i answer phase found).1 = b ∨
    ∃ ticket, b.endExchange i answer phase found = b.redeem i ticket answer := by
  unfold endExchange
  split
  · exact .inl rfl
  · split
    · exact .inl rfl
    · next ticket _ =>
      split
      · exact .inl rfl
      · exact .inr ⟨ticket, rfl⟩

theorem LastSection.completes {b b' : Browser} {i : Nat} {answer : Option Answer}
    (h : b.LastSection b' i answer) : b.Completes b' (b.asked b' i answer) := by
  obtain rfl | ⟨_, rfl⟩ | ⟨phase, found, rfl⟩ := h
  · exact b'.completes_asked_self i answer
  · exact completes_asked_of_none b.completes_leave b.calls_leave i answer
  · obtain h | ⟨ticket, h⟩ := b.endExchange_cases i answer phase found
    · rw [h]
      exact b.completes_asked_self i answer
    · rw [h]
      exact b.completes_asked_redeem i ticket answer

theorem completes_between (b : Browser) (nested : Option Nested) (inner : Option Ending) :
    b.Completes (b.between nested inner)
      (b.asked (b.between nested inner) b.current (nested.bind (·.answer))) := by
  match nested, inner with
  | some nested, some _ => exact (b.lastSection_simplePass b.current nested.answer).completes
  | some nested, none => exact b.completes_asked_self b.current nested.answer
  | none, _ => exact b.completes_asked_self b.current none

/-- The exchanges that an event completes: of a pass, the one that the interrupting pass asks for and
the one that it asks for itself. -/
def completions (b : Browser) : Event → List Completion
  | .respond n answer => b.responded n answer
  | .render answer nested =>
    let result := b.render answer nested
    let between := b.between nested result.inner
    b.asked between b.current (nested.bind (·.answer)) ++
      between.asked result.browser b.current answer
  | _ => []

def ledger (b : Browser) : List Event → List Completion
  | [] => []
  | e :: events => b.completions e ++ (b.step e).1.ledger events

theorem completes_step {b : Browser} (h : b.surfaces ≠ []) (e : Event) :
    b.Completes (b.step e).1 (b.completions e) := by
  by_cases he : e.isRender = true
  · cases e with
    | render answer nested =>
      exact (b.completes_between nested _).trans (lastSection_render h answer nested).completes
    | _ => cases he
  · rw [Bool.not_eq_true] at he
    cases e with
    | render => cases he
    | respond n answer => exact b.completes_respond n answer
    | _ => exact b.completes_outside he fun _ _ => Event.noConfusion

theorem completes_run {b : Browser} (h : b.surfaces ≠ []) (events : List Event) :
    b.Completes (b.run events) (b.ledger events) := by
  induction events generalizing b with
  | nil => exact .refl b
  | cons e events ih => exact (completes_step h e).trans (ih (Scene.surfaces_step h e))

end Browser

namespace Scene

/-- The exchanges that a move completes. A section of a pass completes one if it asks with the answer
at hand. -/
def completions (s : Scene) : Move → List Completion
  | .outside (.respond n answer) => if s.passes.isEmpty then s.browser.responded n answer else []
  | .resume =>
    match s.passes with
    | [] => []
    | p :: _ => s.browser.asked (s.step .resume).1.browser p.surface p.answer
  | _ => []

def ledger (s : Scene) : List Move → List Completion
  | [] => []
  | m :: moves => s.completions m ++ (s.step m).1.ledger moves

theorem completes_outside (s : Scene) (e : Event) :
    s.browser.Completes (s.step (.outside e)).1.browser (s.completions (.outside e)) := by
  obtain ⟨b, passes⟩ := s
  cases passes with
  | cons p passes => cases e <;> exact .refl b
  | nil =>
    cases he : e.isRender with
    | true =>
      cases e with
      | render => exact .refl b
      | _ => cases he
    | false =>
      simp only [step, List.isEmpty_nil, he, Bool.not_false, Bool.and_self, if_true]
      cases e with
      | render => cases he
      | respond n answer => exact b.completes_respond n answer
      | _ => exact b.completes_outside he fun _ _ => Event.noConfusion

theorem completes_resume (s : Scene) :
    s.browser.Completes (s.step .resume).1.browser (s.completions .resume) := by
  obtain ⟨b, passes⟩ := s
  cases passes with
  | nil => exact .refl b
  | cons p passes =>
    simp only [completions, step, browser_follow]
    obtain heq | ⟨_, heq⟩ | ⟨_, ticket, _, _, _, heq⟩ := b.resume_cases p.surface p.answer p.rest
    · rw [heq]
      exact b.completes_asked_self p.surface p.answer
    · rw [heq]
      exact Browser.completes_asked_of_none b.completes_leave b.calls_leave p.surface p.answer
    · rw [heq]
      exact b.completes_asked_redeem p.surface ticket p.answer

theorem completes_step (s : Scene) (m : Move) :
    s.browser.Completes (s.step m).1.browser (s.completions m) := by
  cases m with
  | enter i answer =>
    simp only [step, completions]
    split
    · rw [browser_follow]
      exact .refl _
    · exact .refl _
  | resume => exact s.completes_resume
  | unmount i =>
    simp only [step, completions]
    split
    · exact .none_of_eq rfl rfl
    · exact .refl _
  | outside e => exact s.completes_outside e

theorem completes_run (s : Scene) (moves : List Move) :
    s.browser.Completes (s.run moves).browser (s.ledger moves) := by
  induction moves generalizing s with
  | nil => exact .refl s.browser
  | cons m moves ih => exact (s.completes_step m).trans (ih _)

end Scene

end TicketLogin
