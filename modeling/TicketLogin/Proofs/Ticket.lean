import TicketLogin.Proofs.Address.Pairs

/-!
# Taking a ticket out and sending it on

Without its ticket an address keeps every other pair and every other part. The redemption address is
the endpoint with its own tickets taken out and this one put last, so what the server finds in it is
the ticket that was found on the page, to the letter.
-/

namespace TicketLogin.Address

variable {a : Address}

theorem not_isTicketPair_of_mem {p : Pair} (h : p ∈ a.otherPairs) : ¬ isTicketPair p = true := by
  have hother := (List.mem_filter.1 h).2
  rwa [Bool.not_eq_true', ← Bool.not_eq_true] at hother

theorem otherPairs_eq_filter (a : Address) :
    a.otherPairs = a.pairs.filter fun p => p.1 ≠ Ticket.pairName :=
  List.filter_congr fun p _ => by rw [isTicketPair, decide_not]

theorem otherPairs_eq_nil_iff :
    a.otherPairs = [] ↔ ∀ p ∈ a.pairs, p.1 = Ticket.pairName := by
  rw [otherPairs_eq_filter, List.filter_eq_nil_iff]
  simp only [decide_not, Bool.not_eq_true', decide_eq_false_iff_not, not_not]

theorem ticket?_eq_none_of_pairs (h : ∀ p ∈ a.pairs, ¬ isTicketPair p = true) :
    a.ticket? = none := by
  rw [ticket?, List.find?_eq_none.2 h]
  rfl

theorem ticket?_withoutTicket (a : Address) : a.withoutTicket.ticket? = none := by
  apply ticket?_eq_none_of_pairs
  rw [pairs_withoutTicket]
  exact fun _ => not_isTicketPair_of_mem

theorem query_withoutTicket_eq_none_iff :
    a.withoutTicket.query = none ↔ ∀ p ∈ a.pairs, p.1 = Ticket.pairName := by
  rw [← otherPairs_eq_nil_iff, withoutTicket]
  by_cases hnone : a.otherPairs = []
  · rw [if_pos hnone]
    exact iff_of_true rfl hnone
  · rw [if_neg hnone]
    exact iff_of_false (Option.some_ne_none _) hnone

/-- The ticket pairs behind the last other pair; the first of them is what counts. -/
theorem ticket?_of_pairs {others : List Pair} (hothers : ∀ p ∈ others, ¬ isTicketPair p = true)
    (t : Ticket) (h : a.pairs = others ++ [t.pair]) : a.ticket? = some t := by
  rw [ticket?, h, List.find?_append, List.find?_eq_none.2 hothers]
  exact Ticket.ofValue?_eq_some_iff.2 rfl

theorem scheme_withoutTicket (a : Address) : a.withoutTicket.scheme = a.scheme := by
  unfold withoutTicket
  split <;> rfl

theorem authority_withoutTicket (a : Address) : a.withoutTicket.authority = a.authority := by
  unfold withoutTicket
  split <;> rfl

theorem fragment_withoutTicket (a : Address) : a.withoutTicket.fragment = a.fragment := by
  unfold withoutTicket
  split <;> rfl

theorem path_withoutTicket (h : a.isRootless = false) : a.withoutTicket.path = a.path := by
  unfold withoutTicket
  split
  · simp only [withoutQuery, h, Bool.false_eq_true, false_and, if_false]
  · rfl

/-- Without its ticket an address keeps its other pairs in order, and the query goes if there are
none; nothing else changes, and no ticket is left to be found or taken out. -/
theorem ticket_taken_out (a : Address) (h : a.isRootless = false) :
    a.withoutTicket.pairs = a.pairs.filter (fun p => p.1 ≠ "ticket".toList) ∧
    a.withoutTicket.scheme = a.scheme ∧
    a.withoutTicket.authority = a.authority ∧
    a.withoutTicket.path = a.path ∧
    a.withoutTicket.fragment = a.fragment ∧
    (a.withoutTicket.query = none ↔ ∀ p ∈ a.pairs, p.1 = "ticket".toList) ∧
    a.withoutTicket.ticket? = none ∧
    a.withoutTicket.withoutTicket = a.withoutTicket :=
  ⟨a.pairs_withoutTicket.trans a.otherPairs_eq_filter, a.scheme_withoutTicket,
    a.authority_withoutTicket, path_withoutTicket h, a.fragment_withoutTicket,
    query_withoutTicket_eq_none_iff, a.ticket?_withoutTicket, a.withoutTicket_withoutTicket⟩

/-- A page with tickets in three spellings among pairs that are ill-formed or empty. -/
def crowdedPage : Address :=
  ⟨"https".toList, some ⟨"u".toList, "p".toList, "app.example".toList, some 8443⟩, "/login".toList,
    some "%zz=%FF&&ticket=ST-1&%74icket=ST-2&=&x=1+2%26&ticket".toList, some "top".toList⟩

theorem tickets_taken_out_of_crowded :
    crowdedPage.isRootless = false ∧
    crowdedPage.withoutTicket.pairs =
      [("%zz".toList, "\uFFFD".toList), ([], []), ("x".toList, "1 2&".toList)] ∧
    crowdedPage.withoutTicket.path = "/login".toList ∧
    crowdedPage.withoutTicket.fragment = some "top".toList ∧
    crowdedPage.withoutTicket.ticket? = none := by
  have hrooted : crowdedPage.isRootless = false := by decide
  obtain ⟨hpairs, _, _, hpath, hfragment, _, hticket, _⟩ := ticket_taken_out crowdedPage hrooted
  refine ⟨hrooted, hpairs.trans ?_, hpath, hfragment, hticket⟩
  decide +kernel

/-! ## The redemption address -/

/-- For every endpoint that resolves there is a redemption address, which is the resolved endpoint
with its tickets replaced by this one. -/
theorem redemption_carries_ticket {page root target : Address} {endpoint : String} (t : Ticket)
    (hroot : page.join "/" = .ok root) (htarget : root.join endpoint = .ok target) :
    ∃ address, page.redemption endpoint t = .ok address ∧
      address.pairs =
        target.pairs.filter (fun p => p.1 ≠ "ticket".toList) ++ [("ticket".toList, t.value)] ∧
      address.ticket? = some t ∧
      address.scheme = target.scheme ∧ address.authority = target.authority ∧
      address.path = target.path ∧ address.fragment = target.fragment := by
  have hpairs : (target.withPairs (target.otherPairs ++ [t.pair])).pairs =
      target.otherPairs ++ [t.pair] := pairs_withPairs _ _
  refine ⟨target.withPairs (target.otherPairs ++ [t.pair]), ?_, ?_, ?_, rfl, rfl, rfl, rfl⟩
  · simp only [redemption, hroot, htarget, bind, Except.bind]
    rfl
  · rw [hpairs, otherPairs_eq_filter]
    rfl
  · exact ticket?_of_pairs (fun _ => not_isTicketPair_of_mem) t hpairs

/-- A page whose ticket has every mark that an address gives a meaning to. -/
def awkwardPage : Address :=
  ⟨"https".toList, some ⟨[], [], "app.example".toList, none⟩, "/sso/login".toList,
    some "ticket=a%26b%3D%2B%25%23+%C3%A9".toList, none⟩

def awkwardTicket : Ticket := ⟨"a&b=+%# é".toList, by decide⟩

def awkwardRoot : Address := { awkwardPage with path := "/".toList, query := none }

def staleEndpoint : Address :=
  { awkwardRoot with
    path := "/v1/login".toList
    query := some "%74icket=stale&client=web".toList
    fragment := some "top".toList }

theorem awkward_ticket_carried :
    awkwardPage.ticket? = some awkwardTicket ∧
    awkwardPage.join "/" = .ok awkwardRoot ∧
    awkwardRoot.join "v1/login?%74icket=stale&client=web#top" = .ok staleEndpoint ∧
    ∃ address,
      awkwardPage.redemption "v1/login?%74icket=stale&client=web#top" awkwardTicket = .ok address ∧
      address.pairs = [("client".toList, "web".toList), awkwardTicket.pair] ∧
      address.ticket? = some awkwardTicket := by
  have hroot : awkwardPage.join "/" = .ok awkwardRoot := by decide +kernel
  have htarget : awkwardRoot.join "v1/login?%74icket=stale&client=web#top" = .ok staleEndpoint := by
    decide +kernel
  obtain ⟨address, haddress, hpairs, hticket, _⟩ :=
    redemption_carries_ticket awkwardTicket hroot htarget
  refine ⟨by decide +kernel, hroot, htarget, address, haddress, hpairs.trans ?_, hticket⟩
  decide +kernel

end TicketLogin.Address
