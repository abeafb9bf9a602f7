import TicketLogin.Proofs.Page.Operations

/-!
# Passes in sections

A pass runs in sections, each up to its next read of the store or to its end. Right after a read
other passes of the same surface may run, to any depth and any number of them; between passes
anything else may happen, to any surface. A scene is a browser with the passes under way, the
innermost first, and a move is one section of a pass or one event outside of all of them. Every run
of a browser is a run of its scene.
-/

namespace TicketLogin

/-- Where a pass rests: it has read the store and not yet used what it read. -/
inductive Rest
  | guard (found : Bool)
  | exchange (phase : Phase) (found : Bool)
  deriving DecidableEq, Repr

/-- A section leads to the next rest or to the end of the pass. -/
inductive Progress
  | resting (rest : Rest)
  | finished (ending : Ending)

namespace Browser

def beginExchange (b : Browser) (i : Nat) : Progress :=
  let phase := (b.surface i).phase
  if phase.isTerminal || (b.surface i).attempted then .finished (.done (.exchanged phase))
  else .resting (.exchange phase b.store.hasSession)

def endExchange (b : Browser) (i : Nat) (answer : Option Answer) (phase : Phase) (found : Bool) :
    Browser × Ending :=
  if found then (b, .done (.exchanged phase))
  else
    match b.history.location.ticket? with
    | none => (b, .done (.exchanged phase))
    | some ticket =>
      if (b.surface i).attempted then (b, .done (.exchanged (b.surface i).phase))
      else b.redeem i ticket answer

def enter (b : Browser) (i : Nat) : Progress :=
  match b.kind with
  | .exchange => b.beginExchange i
  | _ => .resting (.guard b.store.hasSession)

def resume (b : Browser) (i : Nat) (answer : Option Answer) : Rest → Browser × Progress
  | .guard found =>
    if b.kind = .page then
      if found then (b.leave, .finished (.done .alreadySignedIn)) else (b, b.beginExchange i)
    else (if found then b.leave else b, .finished (.done (.guarded found)))
  | .exchange phase found =>
    let (b, ending) := b.endExchange i answer phase found
    (b, .finished ending)

/-- A section from a read on does one of three things: nothing at all, leave the page if the guard
found a session, or ask for the redemption of the current ticket if the exchange found none. -/
theorem resume_cases (b : Browser) (i : Nat) (answer : Option Answer) (rest : Rest) :
    (b.resume i answer rest).1 = b ∨
    (rest = .guard true ∧ (b.resume i answer rest).1 = b.leave) ∨
    ∃ phase ticket, rest = .exchange phase false ∧ b.history.location.ticket? = some ticket ∧
      (b.surface i).attempted = false ∧
      b.resume i answer rest =
        ((b.redeem i ticket answer).1, .finished (b.redeem i ticket answer).2) := by
  cases rest with
  | guard found =>
    by_cases hkind : b.kind = .page <;> cases found <;> simp [resume, hkind]
  | exchange phase found =>
    cases found with
    | true => exact .inl rfl
    | false =>
      cases ht : b.history.location.ticket? with
      | none => exact .inl (by simp [resume, endExchange, ht])
      | some ticket =>
        cases hfree : (b.surface i).attempted with
        | true => exact .inl (by simp [resume, endExchange, ht, hfree])
        | false =>
          exact .inr (.inr ⟨phase, ticket, rfl, rfl, rfl, by simp [resume, endExchange, ht, hfree]⟩)

end Browser

/-- A pass under way, and the answer at hand if it asks for one. -/
structure OpenPass where
  surface : Nat
  answer : Option Answer
  rest : Rest

structure Scene where
  browser : Browser
  passes : List OpenPass

inductive Move
  /-- A pass of a surface starts. -/
  | enter (surface : Nat) (answer : Option Answer)
  /-- The innermost pass goes on. -/
  | resume
  | unmount (surface : Nat)
  /-- Any event that is no pass. -/
  | outside (e : Event)

def Event.isRender : Event → Bool
  | .render _ _ => true
  | _ => false

theorem Event.eq_render {e : Event} (h : e.isRender = true) :
    ∃ answer nested, e = .render answer nested := by
  cases e with
  | render answer nested => exact ⟨answer, nested, rfl⟩
  | _ => cases h

/-- Whether an exchange has just succeeded. -/
def Report.isSuccess : Report → Bool
  | .ended (.done (.exchanged .succeeded)) _ => true
  | _ => false

theorem Report.isSuccess_ended {ending : Ending} {inner : Option Ending}
    (h : (Report.ended ending inner).isSuccess = true) :
    ending = .done (.exchanged .succeeded) := by
  unfold isSuccess at h
  split at h
  · next heq =>
    injection heq
  · cases h

namespace Scene

def calm (b : Browser) : Scene := ⟨b, []⟩

/-- Whether a pass of this surface may start: one that is there, and only within passes of its
own. -/
def admits (s : Scene) (i : Nat) : Bool :=
  i < s.browser.surfaces.length && s.passes.all (·.surface = i)

def follow (b : Browser) (passes : List OpenPass) (i : Nat) (answer : Option Answer) :
    Progress → Scene × Report
  | .resting rest => (⟨b, ⟨i, answer, rest⟩ :: passes⟩, .nothing)
  | .finished ending => (⟨b, passes⟩, .ended ending none)

/-- One move. A move that cannot be made changes nothing. -/
def step (s : Scene) : Move → Scene × Report
  | .enter i answer =>
    if s.admits i then follow s.browser s.passes i answer (s.browser.enter i) else (s, .nothing)
  | .resume =>
    match s.passes with
    | [] => (s, .nothing)
    | p :: passes =>
      let (b, progress) := s.browser.resume p.surface p.answer p.rest
      follow b passes p.surface p.answer progress
  | .unmount i =>
    if s.passes.isEmpty then
      (calm (s.browser.updateSurface i fun t => { t with mounted := false }), .nothing)
    else (s, .nothing)
  | .outside e =>
    if s.passes.isEmpty && !e.isRender then
      let (b, report) := s.browser.step e
      (calm b, report)
    else (s, .nothing)

/-- The surface that a move is about. -/
def subject? (s : Scene) : Move → Option Nat
  | .enter i _ => some i
  | .resume => s.passes.head?.map (·.surface)
  | .unmount i => some i
  | .outside (.respond n _) => (s.browser.calls[n]?).map (·.surface)
  | .outside _ => none

def run (s : Scene) (moves : List Move) : Scene := moves.foldl (fun s m => (s.step m).1) s

@[simp] theorem run_nil (s : Scene) : s.run [] = s := rfl

@[simp] theorem run_cons (s : Scene) (m : Move) (moves : List Move) :
    s.run (m :: moves) = (s.step m).1.run moves := rfl

theorem run_append (s : Scene) (first second : List Move) :
    s.run (first ++ second) = (s.run first).run second := List.foldl_append ..

def load (kind : SurfaceKind) (landing : String) (store : Store) (start : Address) : Scene :=
  calm (.load kind landing store start)

end Scene

end TicketLogin
