import Mathlib.Control.Monad.Basic
import TicketLogin.Proofs.Http.Exchange
import TicketLogin.Proofs.Session.Usable

/-!
# What comes of a redemption

Whatever a server replies and whichever connections come about, a redemption follows redirects up to
a reply that is the last one, or the replies are lost on the way. Lost replies are a failure of the
transport. Of the last reply its body and its authorization header count: they are read as an answer
if the body is JSON, and rejected without a message if it is not.
-/

namespace TicketLogin.Http

/-! ## The authorization header -/

def IsAuthorization (name : String) : Prop := name.toList.map Char.toLower = "authorization".toList

instance (name : String) : Decidable (IsAuthorization name) :=
  inferInstanceAs (Decidable (_ = _))

def IsVisible (b : UInt8) : Prop := b = 9 ∨ 32 ≤ b ∧ b < 127

/-- What a reply shows as its authorization value: the first header of that name, without the space
around it, if it is plain visible text. -/
inductive Shows (r : Reply) : String → Prop
  | first {front back : List (String × List UInt8)} {name : String} {bytes : List UInt8}
      (headers : r.headers = front ++ (name, bytes) :: back)
      (others : ∀ x ∈ front, ¬ IsAuthorization x.1) (named : IsAuthorization name)
      (visible : ∀ b ∈ trimmed bytes, IsVisible b) :
      Shows r (String.ofList ((trimmed bytes).map fun b => Char.ofNat b.toNat))

variable {r : Reply}

theorem visibleText?_eq_some_iff {bytes : List UInt8} {value : String} :
    visibleText? bytes = some value ↔
      (∀ b ∈ bytes, IsVisible b) ∧
        value = String.ofList (bytes.map fun b => Char.ofNat b.toNat) := by
  have hvisible : (bytes.all fun b => b == 9 || (32 ≤ b && b < 127)) = true ↔
      ∀ b ∈ bytes, IsVisible b := by
    simp [IsVisible]
  unfold visibleText?
  split
  · next hall =>
    rw [Option.some.injEq]
    exact ⟨fun h => ⟨hvisible.1 hall, h.symm⟩, fun h => h.2.symm⟩
  · next hall => exact ⟨nofun, fun h => absurd (hvisible.2 h.1) hall⟩

theorem firstHeader?_eq_some_iff {bytes : List UInt8} :
    firstHeader? r "authorization" = some bytes ↔
      ∃ front name value back, r.headers = front ++ (name, value) :: back ∧
        (∀ x ∈ front, ¬ IsAuthorization x.1) ∧ IsAuthorization name ∧ trimmed value = bytes := by
  have hfirst : firstHeader? r "authorization" =
      (r.headers.find? fun x => IsAuthorization x.1).map fun x => trimmed x.2 := by
    rw [firstHeader?, headers, List.head?_map, List.head?_filter, Option.map_map]
    rfl
  rw [hfirst, Option.map_eq_some_iff]
  constructor
  · rintro ⟨⟨name, value⟩, hfound, htrimmed⟩
    obtain ⟨hnamed, front, back, hheaders, hothers⟩ := List.find?_eq_some_iff_append.1 hfound
    refine ⟨front, name, value, back, hheaders, ?_, of_decide_eq_true hnamed, htrimmed⟩
    intro x hx
    simpa using hothers x hx
  · rintro ⟨front, name, value, back, hheaders, hothers, hnamed, htrimmed⟩
    have hfound : (decide (IsAuthorization name)) = true := decide_eq_true hnamed
    refine ⟨(name, value), List.find?_eq_some_iff_append.2 ⟨hfound, front, back, hheaders, ?_⟩,
      htrimmed⟩
    intro x hx
    simpa using hothers x hx

theorem authorization?_eq_some_iff {value : String} :
    authorization? r = some value ↔ Shows r value := by
  rw [authorization?, Option.bind_eq_some_iff]
  constructor
  · rintro ⟨bytes, hfirst, htext⟩
    obtain ⟨front, name, bytes, back, hheaders, hothers, hnamed, rfl⟩ :=
      firstHeader?_eq_some_iff.1 hfirst
    obtain ⟨hvisible, rfl⟩ := visibleText?_eq_some_iff.1 htext
    exact .first hheaders hothers hnamed hvisible
  · rintro ⟨hheaders, hothers, hnamed, hvisible⟩
    exact ⟨_, firstHeader?_eq_some_iff.2 ⟨_, _, _, _, hheaders, hothers, hnamed, rfl⟩,
      visibleText?_eq_some_iff.2 ⟨hvisible, rfl⟩⟩

/-! ## What a body means -/

/-- What a body means beside an authorization value; a body that is no JSON means a rejection. -/
def classify (body : List UInt8) (header : Option String) : Answer :=
  match Json.Value.ofBytes? body with
  | some answer => Grant.ofAnswer answer header
  | none => .error (.rejected none)

theorem ofAnswer_empty (header : Option String) :
    Grant.ofAnswer (.record []) header = .error (.rejected none) := rfl

theorem conclude_eq {body : List UInt8} (hbody : body? r = some body) :
    conclude r = classify body (authorization? r) := by
  simp only [conclude, hbody, classify]
  cases Json.Value.ofBytes? body with
  | some answer => rfl
  | none => exact ofAnswer_empty _

theorem conclude_of_truncated (hbody : body? r = none) :
    conclude r = .error (.transport .connection) := by
  rw [conclude, hbody]

theorem classify_ne_persistence (body : List UInt8) (header : Option String) (detail : String) :
    classify body header ≠ .error (.persistence detail) := by
  unfold classify
  split
  · next answer _ =>
    intro h
    obtain ⟨hmissing, _⟩ | ⟨_, hrejected⟩ := Grant.ofAnswer_eq_error header h
    · cases hmissing
    · cases hrejected
  · nofun

theorem answer_of_classify {body : List UInt8} {header : Option String} {g : Grant}
    (h : classify body header = .ok g) :
    ∃ answer, Json.Value.ofBytes? body = some answer ∧ Grant.ofAnswer answer header = .ok g := by
  unfold classify at h
  split at h
  · next answer hanswer => exact ⟨answer, hanswer, h⟩
  · cases h

/-! ## One reply -/

section

variable {reaches : Target → Bool} {base last : Option Reference} {next : Reference}
  {followed : Nat} {rest : List Reply}

/-- A redirect to where another request can be sent. -/
structure LeadsTo (reaches : Target → Bool) (base : Option Reference) (r : Reply)
    (next : Reference) : Prop where
  readable : isBroken r = false
  redirect : isRedirect r = true
  target : ∃ target, redirection base r = .leads next target ∧ (origin? target).isSome = true ∧
    reaches target = true

/-- A reply that is not followed by another request. -/
structure IsLast (base : Option Reference) (r : Reply) : Prop where
  readable : isBroken r = false
  stays : isRedirect r = true → redirection base r = .stays

/-- A redirect to something that is no address of HTTP, or to where no connection comes about. -/
structure IsUnusable (reaches : Target → Bool) (base : Option Reference) (r : Reply) : Prop where
  readable : isBroken r = false
  redirect : isRedirect r = true
  target : redirection base r = .unusable ∨
    ∃ next target, redirection base r = .leads next target ∧
      (origin? target = none ∨ reaches target = false)

/-- Why no last reply comes: none is left, or one cannot be read, or the last one is cut short, or a
redirect cannot be followed, or there were too many of them. -/
inductive Loss (reaches : Target → Bool) (base : Option Reference) (followed : Nat) :
    List Reply → Prop
  | missing : Loss reaches base followed []
  | unreadable {r : Reply} {rest : List Reply} (broken : isBroken r = true) :
      Loss reaches base followed (r :: rest)
  | truncated {r : Reply} {rest : List Reply} (final : IsLast base r) (short : body? r = none) :
      Loss reaches base followed (r :: rest)
  | unusable {r : Reply} {rest : List Reply} (redirect : IsUnusable reaches base r) :
      Loss reaches base followed (r :: rest)
  | tooMany {r : Reply} {rest : List Reply} {next : Reference}
      (leads : LeadsTo reaches base r next) (limit : redirectLimit ≤ followed) :
      Loss reaches base followed (r :: rest)

theorem follow_of_isLast (h : IsLast base r) (request : Request) (followed : Nat)
    (rest : List Reply) : (follow reaches base request followed (r :: rest)).1 = conclude r := by
  rw [follow, if_neg (Bool.eq_false_iff.1 h.readable)]
  split
  · next hredirect => rw [h.stays hredirect]
  · rfl

theorem follow_of_loss (h : Loss reaches base followed rest) (request : Request) :
    (follow reaches base request followed rest).1 = .error (.transport .connection) := by
  cases h with
  | missing => rfl
  | unreadable broken => rw [follow, if_pos broken]
  | truncated final short => rw [follow_of_isLast final, conclude_of_truncated short]
  | unusable redirect =>
    rw [follow, if_neg (Bool.eq_false_iff.1 redirect.readable), if_pos redirect.redirect]
    obtain htarget | ⟨next, target, htarget, horigin | hunreached⟩ := redirect.target
    · rw [htarget]
    · simp only [htarget, horigin]
    · simp only [htarget, hunreached, or_true, if_true]
      cases origin? target <;> rfl
  | tooMany leads limit =>
    obtain ⟨target, htarget, horigin, _⟩ := leads.target
    obtain ⟨origin, horigin⟩ := Option.isSome_iff_exists.1 horigin
    rw [follow, if_neg (Bool.eq_false_iff.1 leads.readable), if_pos leads.redirect]
    simp only [htarget, horigin, if_pos (Or.inl limit)]

theorem follow_of_leadsTo (h : LeadsTo reaches base r next) (hlimit : followed < redirectLimit)
    (request : Request) (rest : List Reply) :
    ∃ request', (follow reaches base request followed (r :: rest)).1 =
      (follow reaches (some next) request' (followed + 1) rest).1 := by
  obtain ⟨target, htarget, horigin, hreached⟩ := h.target
  obtain ⟨origin, horigin⟩ := Option.isSome_iff_exists.1 horigin
  have hgoes : ¬ (redirectLimit ≤ followed ∨ reaches target = false) := by
    rw [hreached, not_or]
    exact ⟨Nat.not_le.2 hlimit, nofun⟩
  rw [follow, if_neg (Bool.eq_false_iff.1 h.readable), if_pos h.redirect]
  simp only [htarget, horigin, if_neg hgoes]
  exact ⟨_, rfl⟩

theorem reply_cases (reaches : Target → Bool) (base : Option Reference) (r : Reply) :
    isBroken r = true ∨ (∃ next, LeadsTo reaches base r next) ∨ IsLast base r ∨
      IsUnusable reaches base r := by
  cases hbroken : isBroken r with
  | true => exact .inl rfl
  | false =>
    refine .inr ?_
    cases hredirect : isRedirect r with
    | false => exact .inr (.inl ⟨hbroken, fun h => absurd (hredirect.symm.trans h) nofun⟩)
    | true =>
      cases htarget : redirection base r with
      | stays => exact .inr (.inl ⟨hbroken, fun _ => htarget⟩)
      | unusable => exact .inr (.inr ⟨hbroken, hredirect, .inl htarget⟩)
      | leads next target =>
        cases horigin : origin? target with
        | none =>
          exact .inr (.inr ⟨hbroken, hredirect, .inr ⟨next, target, htarget, .inl horigin⟩⟩)
        | some origin =>
          cases hreached : reaches target with
          | false =>
            exact .inr (.inr ⟨hbroken, hredirect, .inr ⟨next, target, htarget, .inr hreached⟩⟩)
          | true =>
            refine .inl ⟨next, hbroken, hredirect, target, htarget, ?_, hreached⟩
            rw [horigin]
            rfl

/-! ## All replies -/

/-- A chain of redirects, from the address that was asked first to the one that is asked last. -/
inductive Follows (reaches : Target → Bool) :
    Option Reference → List Reply → Option Reference → Prop
  | stop (base : Option Reference) : Follows reaches base [] base
  | hop {base last : Option Reference} {r : Reply} {next : Reference} {hops : List Reply}
      (leads : LeadsTo reaches base r next) (onward : Follows reaches (some next) hops last) :
      Follows reaches base (r :: hops) last

/-- What a client has of the replies when it stops: nothing, or the body of the last one and what
that shows as its authorization value. -/
inductive Receives (network : Network) (base : Option Reference) :
    Option (List UInt8 × Option String) → Prop
  | nothing {hops rest : List Reply} {last : Option Reference}
      (split : network.replies = hops ++ rest) (follows : Follows network.reaches base hops last)
      (limit : hops.length ≤ redirectLimit)
      (loss : Loss network.reaches last hops.length rest) : Receives network base none
  | body {hops rest : List Reply} {last : Option Reference} {r : Reply} {body : List UInt8}
      {header : Option String} (split : network.replies = hops ++ r :: rest)
      (follows : Follows network.reaches base hops last) (limit : hops.length ≤ redirectLimit)
      (final : IsLast last r) (whole : body? r = some body)
      (shown : ∀ value, header = some value ↔ Shows r value) :
      Receives network base (some (body, header))

def settled : Option (List UInt8 × Option String) → Answer
  | none => .error (.transport .connection)
  | some (body, header) => classify body header

theorem follow_of_follows {hops : List Reply} (h : Follows reaches base hops last)
    (request : Request) (followed : Nat) (hlimit : followed + hops.length ≤ redirectLimit)
    (rest : List Reply) :
    ∃ request', (follow reaches base request followed (hops ++ rest)).1 =
      (follow reaches last request' (followed + hops.length) rest).1 := by
  -- Along the redirects only the request changes, and no answer depends on it.
  induction h generalizing request followed with
  | stop base => exact ⟨request, rfl⟩
  | @hop base last r next hops leads onward ih =>
    rw [List.length_cons] at hlimit
    obtain ⟨request₁, hstep⟩ := follow_of_leadsTo leads (by omega : followed < redirectLimit)
      request (hops ++ rest)
    obtain ⟨request₂, hrun⟩ := ih request₁ (followed + 1) (by omega)
    refine ⟨request₂, ?_⟩
    rw [List.cons_append, hstep, hrun, List.length_cons, Nat.add_right_comm, Nat.add_assoc]

theorem exists_follows (reaches : Target → Bool) (base : Option Reference) (followed : Nat)
    (replies : List Reply) (hfollowed : followed ≤ redirectLimit) :
    ∃ hops last rest, replies = hops ++ rest ∧ Follows reaches base hops last ∧
      followed + hops.length ≤ redirectLimit ∧
      (Loss reaches last (followed + hops.length) rest ∨
        ∃ r others body, rest = r :: others ∧ IsLast last r ∧ body? r = some body) := by
  -- What was followed so far counts against the limit, so it grows as the replies are used up.
  induction replies generalizing base followed with
  | nil => exact ⟨[], base, [], rfl, .stop base, hfollowed, .inl .missing⟩
  | cons r replies ih =>
    have hhere (hend : Loss reaches base followed (r :: replies) ∨
        ∃ r' others body, r :: replies = r' :: others ∧ IsLast base r' ∧ body? r' = some body) :
        ∃ hops last rest, r :: replies = hops ++ rest ∧ Follows reaches base hops last ∧
          followed + hops.length ≤ redirectLimit ∧
          (Loss reaches last (followed + hops.length) rest ∨
            ∃ r' others body, rest = r' :: others ∧ IsLast last r' ∧ body? r' = some body) :=
      ⟨[], base, r :: replies, rfl, .stop base, hfollowed, hend⟩
    obtain hbroken | ⟨next, hleads⟩ | hlast | hunusable := reply_cases reaches base r
    · exact hhere (.inl (.unreadable hbroken))
    · by_cases hlimit : redirectLimit ≤ followed
      · exact hhere (.inl (.tooMany hleads hlimit))
      · obtain ⟨hops, last, rest, hsplit, hfollows, hlength, hend⟩ :=
          ih (some next) (followed + 1) (Nat.not_le.1 hlimit)
        rw [Nat.add_right_comm, Nat.add_assoc] at hlength hend
        exact ⟨r :: hops, last, rest, congrArg (r :: ·) hsplit, .hop hleads hfollows, hlength, hend⟩
    · cases hbody : body? r with
      | none => exact hhere (.inl (.truncated hlast hbody))
      | some body => exact hhere (.inr ⟨r, replies, body, rfl, hlast, hbody⟩)
    · exact hhere (.inl (.unusable hunusable))

theorem exists_receives (network : Network) (base : Option Reference) :
    ∃ got, Receives network base got := by
  obtain ⟨hops, last, rest, hsplit, hfollows, hlimit, hend⟩ :=
    exists_follows network.reaches base 0 network.replies (Nat.zero_le _)
  rw [Nat.zero_add] at hlimit hend
  obtain hloss | ⟨r, others, body, rfl, hlast, hbody⟩ := hend
  · exact ⟨none, .nothing hsplit hfollows hlimit hloss⟩
  · exact ⟨some (body, authorization? r), .body hsplit hfollows hlimit hlast hbody
      fun _ => authorization?_eq_some_iff⟩

theorem follow_of_receives {network : Network} {got : Option (List UInt8 × Option String)}
    (h : Receives network base got) (request : Request) :
    (follow network.reaches base request 0 network.replies).1 = settled got := by
  cases h with
  | @nothing hops rest last split follows limit loss =>
    obtain ⟨request', hrun⟩ := follow_of_follows follows request 0 (by omega) rest
    rw [split, hrun, Nat.zero_add, follow_of_loss loss]
    rfl
  | @body hops rest last r body header split follows limit final whole shown =>
    obtain ⟨request', hrun⟩ := follow_of_follows follows request 0 (by omega) (r :: rest)
    have hheader : authorization? r = header :=
      Option.ext fun value => authorization?_eq_some_iff.trans (shown value).symm
    rw [split, hrun, follow_of_isLast final, conclude_eq whole, hheader]
    rfl

end

/-! ## Redemptions -/

/-- An address that a request can be sent to: one of HTTP with a host that can be asked, to which a
secure connection comes about if the scheme asks for one. -/
structure Askable (network : Network) (a : Address) : Prop where
  scheme : a.scheme = "http".toList ∨ a.scheme = "https".toList
  host : ∃ h, a.authority = some h ∧ h.host.any isUnsendable = false ∧
    (a.scheme = "https".toList → network.secures h.host h.port = true)

section

variable {endpoint : String} {ticket : Ticket} {page : Address} {network : Network}

theorem isSome_firstRequest?_iff {a : Address} :
    (network.firstRequest? a).isSome = true ↔ Askable network a := by
  rw [Option.isSome_iff_exists]
  constructor
  · rintro ⟨request, hrequest⟩
    obtain ⟨hfirst, hreached⟩ := Option.filter_eq_some_iff.1 hrequest
    obtain ⟨h, secure, hauthority, hsecure, hsendable, rfl⟩ := firstRequest?_eq_some_iff.1 hfirst
    have hscheme := secure?_eq_some_iff.1 hsecure
    cases secure with
    | false =>
      refine ⟨.inl hscheme, h, hauthority, hsendable, fun hother => ?_⟩
      rw [hscheme] at hother
      cases hother
    | true => exact ⟨.inr hscheme, h, hauthority, hsendable, fun _ => hreached⟩
  · rintro ⟨hscheme, h, hauthority, hsendable, hsecures⟩
    have hfirst (secure : Bool) (hsecure : secure? a.scheme = some secure) :=
      firstRequest?_eq_some_iff.2 ⟨h, secure, hauthority, hsecure, hsendable, rfl⟩
    obtain hplain | hsecure := hscheme
    · exact ⟨_, Option.filter_eq_some_iff.2 ⟨hfirst false (secure?_eq_some_iff.2 hplain), rfl⟩⟩
    · exact ⟨_, Option.filter_eq_some_iff.2
        ⟨hfirst true (secure?_eq_some_iff.2 hsecure), hsecures hsecure⟩⟩

theorem redeem_of_error {fault : AddressFault} (h : page.redemption endpoint ticket = .error fault)
    (network : Network) :
    redeem endpoint ticket page network = (.error (.transport (.endpoint endpoint fault)), []) := by
  rw [redeem, h]

theorem redeem_of_not_askable {address : Address}
    (h : page.redemption endpoint ticket = .ok address) (hnot : ¬ Askable network address) :
    redeem endpoint ticket page network = (.error (.transport .connection), []) := by
  have hnone : network.firstRequest? address = none := by
    rw [← Option.not_isSome_iff_eq_none, isSome_firstRequest?_iff]
    exact hnot
  simp only [redeem, h, hnone]

/-- Where redirects of a redemption are resolved from. -/
def baseOf (address : Address) : Option Reference :=
  (firstRequest? address).bind fun request => request.target.reference? (keptUserinfo address)

theorem redeem_of_receives {address : Address}
    (h : page.redemption endpoint ticket = .ok address) (haskable : Askable network address)
    {got : Option (List UInt8 × Option String)} (hgot : Receives network (baseOf address) got) :
    (redeem endpoint ticket page network).1 = settled got := by
  obtain ⟨request, hrequest⟩ := Option.isSome_iff_exists.1 (isSome_firstRequest?_iff.2 haskable)
  simp only [baseOf, (Option.filter_eq_some_iff.1 hrequest).1, Option.bind_some] at hgot
  simp only [redeem, h, hrequest]
  exact follow_of_receives hgot request

theorem redeem_cases (endpoint : String) (ticket : Ticket) (page : Address) (network : Network) :
    (∃ fault, (redeem endpoint ticket page network).1 = .error (.transport fault)) ∨
    ∃ address got, page.redemption endpoint ticket = .ok address ∧ Askable network address ∧
      Receives network (baseOf address) got ∧
      (redeem endpoint ticket page network).1 = settled got := by
  cases haddress : page.redemption endpoint ticket with
  | error fault =>
    refine .inl ⟨.endpoint endpoint fault, ?_⟩
    rw [redeem_of_error haddress]
  | ok address =>
    by_cases haskable : Askable network address
    · obtain ⟨got, hgot⟩ := exists_receives network (baseOf address)
      exact .inr ⟨address, got, rfl, haskable, hgot, redeem_of_receives haddress haskable hgot⟩
    · refine .inl ⟨.connection, ?_⟩
      rw [redeem_of_not_askable haddress haskable]

theorem redeem_ne_persistence (endpoint : String) (ticket : Ticket) (page : Address)
    (network : Network) (detail : String) :
    (redeem endpoint ticket page network).1 ≠ .error (.persistence detail) := by
  intro h
  obtain ⟨fault, htransport⟩ | ⟨address, got, _, _, _, hsettled⟩ :=
    redeem_cases endpoint ticket page network
  · rw [h] at htransport
    cases htransport
  · rw [h] at hsettled
    cases got with
    | none => cases hsettled
    | some got => exact classify_ne_persistence got.1 got.2 detail hsettled.symm

theorem receives_of_redeem {g : Grant} (h : (redeem endpoint ticket page network).1 = .ok g) :
    ∃ address body header answer, page.redemption endpoint ticket = .ok address ∧
      Receives network (baseOf address) (some (body, header)) ∧
      Json.Value.ofBytes? body = some answer ∧ Grant.ofAnswer answer header = .ok g := by
  obtain ⟨fault, htransport⟩ | ⟨address, got, haddress, _, hgot, hsettled⟩ :=
    redeem_cases endpoint ticket page network
  · rw [h] at htransport
    cases htransport
  · rw [h] at hsettled
    cases got with
    | none => cases hsettled
    | some got =>
      obtain ⟨body, header⟩ := got
      obtain ⟨answer, hanswer, hgrant⟩ := answer_of_classify hsettled.symm
      exact ⟨address, body, header, answer, haddress, hgot, hanswer, hgrant⟩

theorem usable_of_redeem {g : Grant} (h : (redeem endpoint ticket page network).1 = .ok g) :
    g.Usable := by
  obtain ⟨_, _, _, _, _, _, _, hgrant⟩ := receives_of_redeem h
  exact Grant.usable_of_ofAnswer hgrant

end

def grantingReply : Reply :=
  ⟨200, [], Utf8.encode "\x7b\"access_token\":\"T\"\x7d".toList, false, 0⟩

def plainGrant : Grant := ⟨"Bearer T", "T", none, none, none⟩

def redirectTo (location : String) : Reply :=
  ⟨302, [("Location", Utf8.encode location.toList)], [], false, 0⟩

def visitedPage : Address :=
  ⟨"http".toList, some ⟨[], [], "app.example".toList, none⟩, "/login".toList,
    some "ticket=ST-1".toList, none⟩

def visitorsTicket : Ticket := ⟨['S', 'T', '-', '1'], List.cons_ne_nil _ _⟩

/-- A redirect to where a secure connection comes about is followed over it. -/
example :
    let network : Network := ⟨[redirectTo "https://[::1]/v2", grantingReply], fun _ _ => true⟩
    let (answer, requests) := redeem "/v1" visitorsTicket visitedPage network
    answer = .ok plainGrant ∧
      requests.map (·.url) = ["http://app.example/v1?ticket=ST-1", "https://[::1]/v2"] := by
  decide +kernel

def Arrives (r : Reply) : Prop := r.dropped = false ∧ r.missing = 0

instance (r : Reply) : Decidable (Arrives r) := inferInstanceAs (Decidable (_ ∧ _))

/-- A redemption in which nothing counts of the replies up to the last one but whether all of them
arrive, and of the last one its body and its authorization header. -/
def HangsOnArrival (endpoint : String) (ticket : Ticket) (page : Address)
    (network : Network) : Prop :=
  (page.redemption endpoint ticket).isOk = true →
    ∀ hops r rest, network.replies = hops ++ r :: rest → hops.length ≤ redirectLimit →
      (∀ x ∈ hops, isRedirect x = true ∧ (firstHeader? x "location").isSome = true) →
      isRedirect r = false →
      if ∀ x ∈ hops ++ [r], Arrives x then
        (redeem endpoint ticket page network).1 = classify r.body (authorization? r)
      else ∃ fault, (redeem endpoint ticket page network).1 = .error (.transport fault)

/-- It does not hang on that alone if all replies arrive, the last one with a grant, and yet it is
lost. -/
theorem not_hangsOnArrival {endpoint : String} {ticket : Ticket} {page : Address} {g : Grant}
    {network : Network} (hops : List Reply) (r : Reply) (hreplies : network.replies = hops ++ [r])
    (hresolves : (page.redemption endpoint ticket).isOk = true)
    (hlimit : hops.length ≤ redirectLimit)
    (hhops : ∀ x ∈ hops, isRedirect x = true ∧ (firstHeader? x "location").isSome = true)
    (hlast : isRedirect r = false) (harrive : ∀ x ∈ hops ++ [r], Arrives x)
    (hgrant : classify r.body (authorization? r) = .ok g)
    (hlost : (redeem endpoint ticket page network).1 = .error (.transport .connection)) :
    ¬ HangsOnArrival endpoint ticket page network := by
  intro h
  have hanswer := h hresolves hops r [] hreplies hlimit hhops hlast
  rw [if_pos harrive] at hanswer
  cases hlost.symm.trans (hanswer.trans hgrant)

theorem classify_grantingReply : classify grantingReply.body none = .ok plainGrant := by
  decide +kernel

end TicketLogin.Http
