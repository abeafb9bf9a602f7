import TicketLogin.Page.Basic

/-!
# Render passes

A pass reads the store, and the page does so twice: once for the guard and once for the exchange.
Another pass of the same surface may run right after a read, when the value read is fixed but has
not been used; it is given as an interruption of that read.
-/

namespace TicketLogin

inductive Outcome
  /-- Whether the guard found a session. -/
  | guarded (found : Bool)
  /-- The page found a session and sent the user away. -/
  | alreadySignedIn
  | exchanged (phase : Phase)
  deriving DecidableEq, Repr

inductive Ending
  | done (outcome : Outcome)
  | waiting (call : Nat)
  deriving DecidableEq, Repr

/-- The browser after a pass, how the pass ended, and how the one that interrupted it did. -/
structure PassResult where
  browser : Browser
  ending : Ending
  inner : Option Ending

abbrev Interruption := Browser → Browser × Option Ending

namespace Browser

def uninterrupted : Interruption := fun b => (b, none)

/-- The redemption came to nothing. Only a surface that is still there shows it. -/
def fail (b : Browser) (i : Nat) (mounted : Bool) (failure : RedemptionFailure) : Browser :=
  if mounted then (b.advance i .failed).notify failure.notice else b

/-- The session is stored. The ticket is spent, so it leaves the address in any case; a surface that
is still there moves on to the landing route. -/
def succeed (b : Browser) (i : Nat) (mounted : Bool) : Browser :=
  let b := { b with history := b.history.stripTicket }
  if mounted then (b.advance i .succeeded).navigate b.landing else b

def complete (b : Browser) (i : Nat) (answer : Answer) : Browser × Phase :=
  let mounted := (b.surface i).mounted
  match answer with
  | .error failure => (b.fail i mounted failure, .failed)
  | .ok grant =>
    let (store, result) := b.store.persist grant.session
    let b := { b with store }
    match result with
    | .ok () => (b.succeed i mounted, .succeeded)
    | .error fault => (b.fail i mounted (.persistence fault.chain), .failed)

/-- Takes the attempt and asks for the redemption of the ticket on the current page. -/
def beginCall (b : Browser) (i : Nat) (ticket : Ticket) : Browser :=
  let b := b.updateSurface i fun s => { s with attempted := true }
  let b := (b.advance i .ticketPending).advance i .exchanging
  { b with calls := b.calls ++ [⟨i, ticket, b.history.location, .pending⟩] }

def answerCall (b : Browser) (call i : Nat) (answer : Answer) : Browser × Phase :=
  (b.setStatus call .answered).complete i answer

/-- Redeems the ticket of the current page: waits, or goes on with the answer at hand. -/
def redeem (b : Browser) (i : Nat) (ticket : Ticket) (answer : Option Answer) : Browser × Ending :=
  let call := b.calls.length
  let b := b.beginCall i ticket
  match answer with
  | none => (b, .waiting call)
  | some answer =>
    let (b, phase) := b.answerCall call i answer
    (b, .done (.exchanged phase))

def exchangePass (b : Browser) (i : Nat) (atRead : Interruption) (answer : Option Answer) :
    PassResult :=
  let phase := (b.surface i).phase
  if phase.isTerminal || (b.surface i).attempted then ⟨b, .done (.exchanged phase), none⟩
  else
    let found := b.store.hasSession
    let (b, inner) := atRead b
    if found then ⟨b, .done (.exchanged phase), inner⟩
    else
      match b.history.location.ticket? with
      | none => ⟨b, .done (.exchanged phase), inner⟩
      | some ticket =>
        if (b.surface i).attempted then ⟨b, .done (.exchanged (b.surface i).phase), inner⟩
        else
          let (b, ending) := b.redeem i ticket answer
          ⟨b, ending, inner⟩

/-- Goes to the landing route, unless it leads to where the browser is. -/
def leave (b : Browser) : Browser :=
  match b.history.location.join b.landing with
  | .ok target => if target = b.history.location then b else b.navigate b.landing
  | .error _ => b.navigate b.landing

/-- One check of the guard: the browser, whether there was a session, and how an interruption
ended. -/
def guardPass (b : Browser) (atRead : Interruption) : Browser × Bool × Option Ending :=
  let found := b.store.hasSession
  let (b, inner) := atRead b
  (if found then b.leave else b, found, inner)

/-- One pass of a surface. The interruptions belong to the first and to the second read. -/
def pass (b : Browser) (i : Nat) (first second : Interruption) (answer : Option Answer) :
    PassResult :=
  match b.kind with
  | .guard =>
    let (b, found, inner) := b.guardPass first
    ⟨b, .done (.guarded found), inner⟩
  | .exchange => b.exchangePass i first answer
  | .page =>
    let (b, found, inner) := b.guardPass first
    if found then ⟨b, .done .alreadySignedIn, inner⟩
    else
      let result := b.exchangePass i second answer
      { result with inner := inner <|> result.inner }

/-- A pass that nothing interrupts. -/
def simplePass (b : Browser) (i : Nat) (answer : Option Answer) : Browser × Ending :=
  let result := b.pass i uninterrupted uninterrupted answer
  (result.browser, result.ending)

/-- A pass that another one of the same surface interrupts after the read with this number. -/
def nestedPass (b : Browser) (i : Nat) (answer : Option Answer) (read : Nat)
    (innerAnswer : Option Answer) : PassResult :=
  let inner : Interruption := fun b =>
    let (b, ending) := b.simplePass i innerAnswer
    (b, some ending)
  b.pass i (if read = 1 then inner else uninterrupted) (if read = 2 then inner else uninterrupted)
    answer

end Browser

end TicketLogin
