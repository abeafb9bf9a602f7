import TicketLogin.Proofs.Address.ReadBack
import TicketLogin.Proofs.Settings.Rank

/-!
# Where users sign in

The login address is what the environment says, else what the file says, and else it is made: the
base with the address of the service as one more pair, at the end of its query. A base that cannot
be read is a fault, and blanks never count, except in the address of the service that a file gives.
-/

namespace TicketLogin

namespace Address

theorem WellMarked.addPair {a : Address} (h : a.WellMarked) (p : Pair) :
    (a.addPair p).WellMarked := by
  have htext : '#' ∉ writePairs [p] := fun hmark => absurd (isPairChar_of_mem hmark) (by decide)
  refine ⟨h.scheme, h.authority, h.path, ?_⟩
  rintro _ ⟨⟩
  split
  · exact htext
  · have hbefore : '#' ∉ a.query.getD [] := by
      cases hquery : a.query with
      | none => exact List.not_mem_nil
      | some q => exact h.query q hquery
    simp only [List.mem_append, List.mem_cons, not_or]
    exact ⟨hbefore, by decide, htext⟩

/-- The written form of an address with one more pair: scheme, authority, path and fragment are
those of the address, and the query is its own with the pair at the end. -/
structure Extended (a : Address) (p : Pair) (query : List Char) (url : String) : Prop where
  written : url.toList = a.stem ++ '?' :: query ++ marked '#' a.fragment
  found : queryOf url.toList = some query
  before : a.query.getD [] <+: query
  pairs : readPairs query = a.pairs ++ [p]

theorem WellMarked.exists_extended {a : Address} (h : a.WellMarked) (p : Pair) :
    ∃ query, a.Extended p query (a.addPair p).toText := by
  obtain ⟨query, hquery, hbefore⟩ := a.prefix_query_addPair p
  have hpairs := a.pairs_addPair p
  rw [pairs, hquery] at hpairs
  refine ⟨query, ?_, ?_, hbefore, hpairs⟩
  · rw [toText, String.toList_ofList, text, hquery, List.append_assoc]
    rfl
  · rw [toText, String.toList_ofList, (h.addPair p).queryOf_text, hquery]

end Address

namespace Provider

/-- A text that ends with a slash; one is put behind it if it does not. -/
inductive Slashed (s : String) : String → Prop
  | kept (slash : s.toList.getLast? = some '/') : Slashed s s
  | added (bare : s.toList.getLast? ≠ some '/') : Slashed s (s ++ "/")

theorem slashed_withSlash (s : String) : Slashed s (withSlash s) := by
  unfold withSlash
  split
  · next h => exact .kept h
  · next h => exact .added h

section

variable {p : Provider}

theorem loginAddress_of_filled {url : String} (h : p.loginUrl = some url)
    (hfilled : Text.allBlank url = false) : p.loginAddress = .ok url := by
  have hurl : p.loginUrl.filter (fun url => !Text.allBlank url) = some url := by
    rw [h, Option.filter_some, if_pos (by rw [hfilled]; rfl)]
  rw [loginAddress, hurl]

theorem loginAddress_of_bare (h : ∀ url, p.loginUrl = some url → Text.allBlank url = true) :
    p.loginAddress =
      match Address.read p.loginBaseUrl with
      | .ok base => .ok (base.addPair p.servicePair).toText
      | .error fault => .error ⟨p.loginBaseUrl, fault⟩ := by
  have hnone : p.loginUrl.filter (fun url => !Text.allBlank url) = none := by
    rw [Option.filter_eq_none_iff]
    intro url hurl
    rw [h url hurl]
    decide
  cases hread : Address.read p.loginBaseUrl <;> simp only [loginAddress, hnone, hread]

end

end Provider

namespace Settings

/-- What a login address comes from, in order of rank. -/
inductive LoginFrom (fields : Toml.Fields) (environment : Environment) :
    Except LoginAddressFault String → Prop
  | variable {url : String} (set : IsSet environment "IDSGATE_IDS_LOGIN_URL" url) :
      LoginFrom fields environment (.ok url)
  | file {url : String} (unset : ∀ other, ¬ IsSet environment "IDSGATE_IDS_LOGIN_URL" other)
      (given : Gives fields "login_url" url) (filled : Text.allBlank url = false) :
      LoginFrom fields environment (.ok url)
  | made {loginBase given service address url : String} {base : Address} {query : List Char}
      (unset : ∀ other, ¬ IsSet environment "IDSGATE_IDS_LOGIN_URL" other)
      (bare : ∀ other, Gives fields "login_url" other → Text.allBlank other = true)
      (ofFile : Chosen (Gives fields "login_base_url") Provider.default.loginBaseUrl loginBase)
      (read : Address.read loginBase = .ok base)
      (serviceOfFile : Chosen (Gives fields "service_url") Provider.default.serviceUrl given)
      (serviceOfVariable : Chosen (IsSet environment "IDSGATE_IDS_SERVICE_URL") given service)
      (slashed : Provider.Slashed service address)
      (extended : base.Extended ("service".toList, address.toList) query url) :
      LoginFrom fields environment (.ok url)
  | fault {loginBase : String} {fault : AddressFault}
      (unset : ∀ other, ¬ IsSet environment "IDSGATE_IDS_LOGIN_URL" other)
      (bare : ∀ other, Gives fields "login_url" other → Text.allBlank other = true)
      (ofFile : Chosen (Gives fields "login_base_url") Provider.default.loginBaseUrl loginBase)
      (unread : Address.read loginBase = .error fault) :
      LoginFrom fields environment (.error ⟨loginBase, fault⟩)

section

variable {fields : Toml.Fields} {environment : Environment} {s : Settings}

theorem loginUrl_withEnvironment (s : Settings) (environment : Environment) :
    (s.withEnvironment environment).provider.loginUrl =
      (given? environment "IDSGATE_IDS_LOGIN_URL" <|> s.provider.loginUrl) := rfl

/-- Without a login address in the environment and in the file one is made from the base. -/
theorem loginFrom_of_bare (h : s.provider.FilledBy (Gives fields))
    (hunset : given? environment "IDSGATE_IDS_LOGIN_URL" = none)
    (hbare : ∀ url, s.provider.loginUrl = some url → Text.allBlank url = true) :
    LoginFrom fields environment (s.withEnvironment environment).provider.loginAddress := by
  have hlogin : (s.withEnvironment environment).provider.loginUrl = s.provider.loginUrl := by
    rw [loginUrl_withEnvironment, hunset]
    rfl
  have hgiven : ∀ url, Gives fields "login_url" url → Text.allBlank url = true :=
    fun url hurl => hbare url ((h.login url).2 hurl)
  have hbase : (s.withEnvironment environment).provider.loginBaseUrl =
      s.provider.loginBaseUrl := rfl
  rw [Provider.loginAddress_of_bare (by rwa [hlogin]), hbase]
  cases hread : Address.read s.provider.loginBaseUrl with
  | error fault => exact .fault (given?_eq_none_iff.1 hunset) hgiven h.loginBase hread
  | ok base =>
    obtain ⟨query, hextended⟩ := (Address.wellMarked_of_read hread).exists_extended
      (s.withEnvironment environment).provider.servicePair
    exact .made (given?_eq_none_iff.1 hunset) hgiven h.loginBase hread h.service
      (chosen_getD_given? s.provider.serviceUrl) (Provider.slashed_withSlash _) hextended

theorem loginFrom_of_filledBy (h : s.provider.FilledBy (Gives fields)) :
    LoginFrom fields environment (s.withEnvironment environment).provider.loginAddress := by
  cases hset : given? environment "IDSGATE_IDS_LOGIN_URL" with
  | some url =>
    have hurl := given?_eq_some_iff.1 hset
    rw [Provider.loginAddress_of_filled (by rw [loginUrl_withEnvironment, hset]; rfl) hurl.2]
    exact .variable hurl
  | none =>
    by_cases hbare : ∀ url, s.provider.loginUrl = some url → Text.allBlank url = true
    · exact loginFrom_of_bare h hset hbare
    · obtain ⟨url, hurl⟩ := not_forall.1 hbare
      obtain ⟨hurl, hfilled⟩ := Classical.not_imp.1 hurl
      have hfilled := Bool.eq_false_iff.2 hfilled
      have hlogin : (s.withEnvironment environment).provider.loginUrl = some url := by
        rw [loginUrl_withEnvironment, hset, hurl]
        rfl
      rw [Provider.loginAddress_of_filled hlogin hfilled]
      exact .file (given?_eq_none_iff.1 hset) ((h.login url).1 hurl) hfilled

end

/-- For every file that can be loaded and every environment the login address comes from what has
the highest rank, and blank variables change nothing. -/
theorem login_address_by_rank {disk : Disk} {path : String} {s : Settings}
    (h : load disk path = .ok s) (environment : Environment) :
    ∃ fields, IsDocument disk path fields ∧
      LoginFrom fields environment (s.withEnvironment environment).provider.loginAddress ∧
      ∀ other : Environment,
        (∀ name value, IsSet other name value ↔ IsSet environment name value) →
        (s.withEnvironment other).provider.loginAddress =
          (s.withEnvironment environment).provider.loginAddress := by
  obtain ⟨fields, hdocument, hfields⟩ := exists_isDocument h
  exact ⟨fields, hdocument, loginFrom_of_filledBy (filledBy_of_fields hfields),
    fun _ hsame => by rw [withEnvironment_congr hsame]⟩

/-- A file with a service of blanks and a login address of blanks. -/
def blankDisk : Disk :=
  ⟨[(["config.toml"], .file
    (Utf8.encode ("[ids]\nservice_url = \" \"\nlogin_base_url = \"https://[::1]/a?x=%20#top\"\n" ++
      "login_url = \" \"").toList) Disk.privateMode)]⟩

def blankSettings : Settings :=
  ⟨"/", ⟨" ", "https://[::1]/a?x=%20#top", some " ", Provider.default.ticketLoginUrl⟩⟩

def blankEnvironment : Environment := fun name =>
  if name = "IDSGATE_IDS_LOGIN_URL" ∨ name = "IDSGATE_IDS_SERVICE_URL" then some "\t" else none

theorem blank_service_kept :
    load blankDisk "config.toml" = .ok blankSettings ∧
    (blankSettings.withEnvironment blankEnvironment).provider.loginAddress =
      .ok "https://[::1]/a?x=%20&service=+%2F#top" ∧
    (∃ fields, IsDocument blankDisk "config.toml" fields ∧
      LoginFrom fields blankEnvironment (.ok "https://[::1]/a?x=%20&service=+%2F#top")) ∧
    (blankSettings.withEnvironment fun _ => none).provider.loginAddress =
      .ok "https://[::1]/a?x=%20&service=+%2F#top" := by
  have hload : load blankDisk "config.toml" = .ok blankSettings := by decide +kernel
  have hlogin : (blankSettings.withEnvironment blankEnvironment).provider.loginAddress =
      .ok "https://[::1]/a?x=%20&service=+%2F#top" := by
    decide +kernel
  have hunset : ∀ name value, ¬ IsSet blankEnvironment name value := by
    rintro name value ⟨hset, hfilled⟩
    obtain ⟨_, hvalue⟩ := Option.ite_none_right_eq_some.1 hset
    rw [← Option.some.inj hvalue] at hfilled
    exact absurd hfilled (by decide)
  have hsame : ∀ name value, IsSet (fun _ => none) name value ↔ IsSet blankEnvironment name value :=
    fun name value => iff_of_false (fun h => by cases h.1) (hunset name value)
  obtain ⟨fields, hdocument, hfrom, hblank⟩ := login_address_by_rank hload blankEnvironment
  rw [hlogin] at hfrom
  exact ⟨hload, hlogin, ⟨fields, hdocument, hfrom⟩, (hblank _ hsame).trans hlogin⟩

end Settings

end TicketLogin
