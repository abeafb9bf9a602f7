import TicketLogin.History
import TicketLogin.Redemption
import TicketLogin.Session.Store

/-!
# Page loads

A page load shows one surface: the guard that sends signed-in users away, the exchange that redeems
the ticket of the address, or the login page, which is both. Surfaces of all page loads share a
store, a history and a list of notices. A redemption is a call that waits for its answer; the
surface that made it has attempted and never does so again.
-/

namespace TicketLogin

inductive Phase
  | idle
  | ticketPending
  | exchanging
  | succeeded
  | failed
  deriving DecidableEq, Repr

namespace Phase

def isTerminal : Phase → Bool
  | .succeeded | .failed => true
  | _ => false

def name : Phase → String
  | .idle => "Idle"
  | .ticketPending => "TicketPending"
  | .exchanging => "Exchanging"
  | .succeeded => "Succeeded"
  | .failed => "Failed"

end Phase

inductive SurfaceKind
  | guard
  | exchange
  | page
  deriving DecidableEq, Repr

structure Surface where
  attempted : Bool
  mounted : Bool
  phase : Phase
  deriving DecidableEq, Repr

namespace Surface

def fresh : Surface := ⟨false, true, .idle⟩

def isLoading (s : Surface) : Bool := s.phase == .exchanging

/-- Moves on, unless the surface is gone. -/
def advance (s : Surface) (phase : Phase) : Surface :=
  if s.mounted then { s with phase } else s

end Surface

inductive CallStatus
  | pending
  | answered
  | cancelled
  deriving DecidableEq, Repr

structure Call where
  surface : Nat
  ticket : Ticket
  page : Address
  status : CallStatus
  deriving DecidableEq

abbrev Answer := Except RedemptionFailure Grant

/-- The notices shown so far, oldest first. -/
abbrev Notices := List String

def Notices.add (notices : Notices) (message : String) : Notices := notices ++ [message]

/-- A browser in which one page is loaded, again and again. The last surface is the current one. -/
structure Browser where
  kind : SurfaceKind
  landing : String
  store : Store
  history : History
  notices : Notices
  surfaces : List Surface
  calls : List Call
  deriving DecidableEq

namespace Browser

def load (kind : SurfaceKind) (landing : String) (store : Store) (start : Address) : Browser :=
  ⟨kind, landing, store, .start start, [], [.fresh], []⟩

/-- The surface with this number; a fresh one if there is none. -/
def surface (b : Browser) (i : Nat) : Surface := b.surfaces.getD i .fresh

def current (b : Browser) : Nat := b.surfaces.length - 1

def updateSurface (b : Browser) (i : Nat) (f : Surface → Surface) : Browser :=
  { b with surfaces := b.surfaces.modify i f }

/-- Moves a surface on, unless it is gone. -/
def advance (b : Browser) (i : Nat) (phase : Phase) : Browser :=
  b.updateSurface i (·.advance phase)

def setStatus (b : Browser) (call : Nat) (status : CallStatus) : Browser :=
  { b with calls := b.calls.modify call fun c => { c with status } }

def navigate (b : Browser) (route : String) : Browser :=
  { b with history := b.history.navigate route }

def notify (b : Browser) (message : String) : Browser :=
  { b with notices := b.notices.add message }

end Browser

end TicketLogin
