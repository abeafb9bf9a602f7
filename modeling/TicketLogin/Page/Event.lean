import TicketLogin.Page.Pass

/-!
# Runs of a browser

Everything that can happen to a browser, one event at a time, and what each event reports. A run is
a list of events.
-/

namespace TicketLogin

/-- A pass that interrupts another: after which read, and the answer to its call if it makes one. -/
structure Nested where
  read : Nat
  answer : Option Answer

inductive Event
  /-- The page is loaded again. -/
  | mount
  | unmount
  | render (answer : Option Answer) (nested : Option Nested)
  | respond (call : Nat) (answer : Answer)
  | cancel (call : Nat)
  /-- Operations of the store go out of order, or work again. -/
  | fault (persist read clear : Option Bool)
  | persist (session : Session)
  | read
  | clear
  | exists
  | navigate (route : String)
  | replace (address : Address)

inductive Report
  | nothing
  | ended (ending : Ending) (inner : Option Ending)
  | noSuchCall
  | session (s : Option Session)
  | flag (b : Bool)
  | refused (fault : StoreFault)

namespace Browser

def pending? (b : Browser) (call : Nat) : Option Call :=
  (b.calls[call]?).filter fun c => c.status = .pending

def applyFault (s : Store) (persist read clear : Option Bool) : Store :=
  { s with
    persistFails := persist.getD s.persistFails
    readFails := read.getD s.readFails
    clearFails := clear.getD s.clearFails }

def render (b : Browser) (answer : Option Answer) : Option Nested → PassResult
  | none =>
    let (after, ending) := b.simplePass b.current answer
    ⟨after, ending, none⟩
  | some nested => b.nestedPass b.current answer nested.read nested.answer

def step (b : Browser) : Event → Browser × Report
  | .mount => ({ b with surfaces := b.surfaces ++ [.fresh] }, .nothing)
  | .unmount => (b.updateSurface b.current fun s => { s with mounted := false }, .nothing)
  | .render answer nested =>
    let result := b.render answer nested
    (result.browser, .ended result.ending result.inner)
  | .respond call answer =>
    match b.pending? call with
    | none => (b, .noSuchCall)
    | some c =>
      let (b, phase) := b.answerCall call c.surface answer
      (b, .ended (.done (.exchanged phase)) none)
  | .cancel call =>
    match b.pending? call with
    | none => (b, .noSuchCall)
    | some _ => (b.setStatus call .cancelled, .nothing)
  | .fault persist read clear =>
    ({ b with store := applyFault b.store persist read clear }, .nothing)
  | .persist session =>
    let (store, result) := b.store.persist session
    ({ b with store },
      match result with
      | .ok () => .nothing
      | .error fault => .refused fault)
  | .read =>
    (b,
      match b.store.read with
      | .ok s => .session s
      | .error fault => .refused fault)
  | .clear =>
    let (store, result) := b.store.clear
    ({ b with store },
      match result with
      | .ok had => .flag had
      | .error fault => .refused fault)
  | .exists => (b, .flag b.store.hasSession)
  | .navigate route => (b.navigate route, .nothing)
  | .replace address => ({ b with history := b.history.replace address }, .nothing)

def run (b : Browser) (events : List Event) : Browser :=
  events.foldl (fun b e => (b.step e).1) b

end Browser

end TicketLogin
