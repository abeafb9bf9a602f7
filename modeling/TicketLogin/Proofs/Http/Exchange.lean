import TicketLogin.Http.Exchange

/-!
# Where a redemption goes

The first request of a redemption goes to the redemption address, whatever the server answers; of
that address the server sees neither user nor fragment.
-/

namespace TicketLogin

/-- What a request shows of an address. -/
def Address.asSent (a : Address) : Address :=
  { a with
    authority := a.authority.map fun h => { h with user := [], password := [] }
    fragment := none }

namespace Http

theorem secure?_eq_some_iff {scheme : List Char} {secure : Bool} :
    secure? scheme = some secure ↔
      scheme = if secure then "https".toList else "http".toList := by
  unfold secure?
  split
  · next hplain =>
    subst hplain
    cases secure <;> decide
  · next hplain =>
    split
    · next hsecure =>
      subst hsecure
      cases secure <;> decide
    · next hsecure =>
      cases secure with
      | false => exact ⟨nofun, fun h => absurd h hplain⟩
      | true => exact ⟨nofun, fun h => absurd h hsecure⟩

/-- An address that is asked has a scheme and a host that can be asked, and they are the target of
the request. -/
theorem firstRequest?_eq_some_iff {a : Address} {request : Request} :
    firstRequest? a = some request ↔ ∃ h secure, a.authority = some h ∧
      secure? a.scheme = some secure ∧ h.host.any isUnsendable = false ∧
      request = ⟨⟨secure, h.host, h.port, a.path ++ Address.marked '?' a.query⟩,
        basicAuthorization h⟩ := by
  unfold firstRequest?
  cases a.authority with
  | none => exact ⟨nofun, fun ⟨h, _, hnone, _⟩ => nomatch hnone⟩
  | some h =>
    cases secure? a.scheme with
    | none => exact ⟨nofun, fun ⟨_, secure, _, hnone, _⟩ => nomatch hnone⟩
    | some secure =>
      cases hhost : h.host.any isUnsendable with
      | true =>
        simp only [bind, Option.bind, hhost, if_true]
        refine ⟨nofun, ?_⟩
        rintro ⟨h', _, hauthority, _, hsendable, _⟩
        obtain rfl := Option.some.inj hauthority
        rw [hhost] at hsendable
        cases hsendable
      | false =>
        simp only [bind, Option.bind, hhost, Bool.false_eq_true, if_false, pure,
          Option.some.injEq]
        constructor
        · rintro rfl
          exact ⟨h, secure, rfl, rfl, hhost, rfl⟩
        · rintro ⟨h', secure', rfl, rfl, _, rfl⟩
          rfl

theorem url_firstRequest {a : Address} {request : Request} (h : firstRequest? a = some request) :
    request.url = a.asSent.toText := by
  obtain ⟨host, secure, hauthority, hsecure, _, rfl⟩ := firstRequest?_eq_some_iff.1 h
  obtain ⟨scheme, authority, path, query, fragment⟩ := a
  obtain rfl : authority = some host := hauthority
  obtain rfl := secure?_eq_some_iff.1 hsecure
  obtain ⟨user, password, host, port⟩ := host
  apply congrArg String.ofList
  cases port <;>
    simp [Target.textWith, Target.scheme, Address.asSent, Address.text, Address.stem,
      Address.authorityText, Authority.text, Authority.userinfo, Authority.portText,
      Address.marked]

theorem head?_follow (reaches : Target → Bool) (base : Option Reference) (request : Request)
    (followed : Nat) (replies : List Reply) :
    (follow reaches base request followed replies).2.head? = some request := by
  cases replies with
  | nil => rfl
  | cons r rest =>
    unfold follow
    split
    · rfl
    · split
      · split
        · rfl
        · rfl
        · split
          · rfl
          · split <;> rfl
      · rfl

section

variable {endpoint : String} {ticket : Ticket} {page : Address} {network : Network}

theorem first_of_redeem {request : Request}
    (h : (redeem endpoint ticket page network).2.head? = some request) :
    ∃ address, page.redemption endpoint ticket = .ok address ∧
      request.url = address.asSent.toText := by
  unfold redeem at h
  split at h
  · cases h
  · next address haddress =>
    split at h
    · cases h
    · next first hfirst =>
      rw [head?_follow, Option.some.injEq] at h
      subst h
      exact ⟨address, haddress, url_firstRequest (Option.filter_eq_some_iff.1 hfirst).1⟩

end

end Http

end TicketLogin
