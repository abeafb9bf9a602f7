import TicketLogin.Ticket.Basic

/-!
# Browsing history

The addresses visited, oldest first, and the place of the current one among them. A visit drops what
lies ahead and adds an entry; a replacement changes the current entry only.
-/

namespace TicketLogin

structure History where
  entries : List Address
  index : Nat
  inside : index < entries.length
  deriving DecidableEq

namespace History

def start (a : Address) : History := ⟨[a], 0, by simp⟩

def location (h : History) : Address := h.entries.get ⟨h.index, h.inside⟩

def replace (h : History) (a : Address) : History :=
  ⟨h.entries.set h.index a, h.index, by simpa using h.inside⟩

def visit (h : History) (a : Address) : History :=
  ⟨h.entries.take (h.index + 1) ++ [a], h.index + 1, by
    have := h.inside
    simp only [List.length_append, List.length_take, List.length_singleton]
    omega⟩

/-- Follows a link from the current entry; one that leads nowhere changes nothing. -/
def navigate (h : History) (route : String) : History :=
  match h.location.join route with
  | .ok target => h.visit target
  | .error _ => h

def stripTicket (h : History) : History := h.replace h.location.withoutTicket

@[simp] theorem location_start (a : Address) : (start a).location = a := rfl

@[simp] theorem location_replace (h : History) (a : Address) : (h.replace a).location = a := by
  simp [location, replace]

@[simp] theorem location_visit (h : History) (a : Address) : (h.visit a).location = a := by
  have hi := h.inside
  have hl : (h.entries.take (h.index + 1)).length = h.index + 1 := by
    rw [List.length_take]; omega
  simp [location, visit, hl]

@[simp] theorem length_replace (h : History) (a : Address) :
    (h.replace a).entries.length = h.entries.length := by
  simp [replace]

end History

end TicketLogin
