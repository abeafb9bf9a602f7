import TicketLogin.Address.Pairs
import TicketLogin.Address.Reader

/-!
# Tickets

An identity provider hands a ticket back in the query pair `ticket` of the page address. A ticket is
a credential for one use, so it is never shown; `Address.ticket?` finds it and `Address.withoutTicket`
takes it out of the address.
-/

namespace TicketLogin

/-- A ticket is never empty. -/
structure Ticket where
  value : List Char
  value_ne_nil : value ≠ []
  deriving DecidableEq

namespace Ticket

def pairName : List Char := "ticket".toList

def masked (_ : Ticket) : String := "Ticket(***)"

def ofValue? (value : List Char) : Option Ticket :=
  if h : value = [] then none else some ⟨value, h⟩

def pair (t : Ticket) : Pair := (pairName, t.value)

theorem ofValue?_eq_some_iff {value : List Char} {t : Ticket} :
    ofValue? value = some t ↔ t.value = value := by
  obtain ⟨v, hv⟩ := t
  by_cases h : value = []
  · simp only [ofValue?, h, dif_pos, reduceCtorEq, false_iff]
    exact hv
  · simp only [ofValue?, h, dif_neg, not_false_eq_true, Option.some.injEq, Ticket.mk.injEq]
    exact eq_comm

end Ticket

namespace Address

def isTicketPair (p : Pair) : Bool := p.1 = Ticket.pairName

/-- The ticket of an address. Only the first ticket pair counts, and an empty one is none. -/
def ticket? (a : Address) : Option Ticket :=
  (a.pairs.find? isTicketPair).bind fun p => Ticket.ofValue? p.2

def otherPairs (a : Address) : List Pair := a.pairs.filter fun p => !isTicketPair p

/-- The address without its ticket pairs. The other pairs are kept in order; if there are none, the
query goes too. -/
def withoutTicket (a : Address) : Address :=
  if a.otherPairs = [] then a.withoutQuery else a.withPairs a.otherPairs

/-- Where to redeem a ticket: the endpoint, resolved against the root of the page, with its own
ticket pairs replaced by this one. -/
def redemption (page : Address) (endpoint : String) (t : Ticket) :
    Except AddressFault Address := do
  let root ← page.join "/"
  let target ← root.join endpoint
  return target.withPairs (target.otherPairs ++ [t.pair])

end Address

end TicketLogin
