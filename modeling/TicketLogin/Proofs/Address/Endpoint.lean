import TicketLogin.Proofs.Address.Following
import TicketLogin.Proofs.Address.ReadBack

/-!
# Endpoints behind the root of a site

The endpoint of a redemption is resolved against the root of the site that the page belongs to, so a
path, a query or a fragment of the page is never seen. An endpoint of the web that names its host
comes to the same from every page that has a root; a page without one spoils it all the same.
-/

namespace TicketLogin.Address

/-- The page at the root of a site. -/
def siteRoot (a : Address) : Address := ⟨a.scheme, a.authority, ['/'], none, none⟩

/-- A letter, letters, digits and `+-.`, and a colon stand in front. -/
def HasScheme (s : List Char) : Prop :=
  ∃ c name rest, s = c :: (name ++ ':' :: rest) ∧ c.isAlpha = true ∧
    ∀ d ∈ name, isSchemeChar d = true

section

variable {base page v : Address} {s : List Char}

/-! ## Schemes -/

theorem isSchemeChar_of_isAlpha {c : Char} (h : c.isAlpha = true) : isSchemeChar c = true := by
  simp only [isSchemeChar, Char.isAlphanum, h, Bool.true_or]

theorem isSome_cutScheme_iff : (cutScheme s).isSome = true ↔ HasScheme s := by
  constructor
  · intro h
    unfold cutScheme at h
    split at h
    · next rest c hdrop hhead =>
      split at h
      · next halpha =>
        obtain ⟨more, rfl⟩ := List.head?_eq_some_iff.1 hhead
        have hc := isSchemeChar_of_isAlpha halpha
        rw [List.dropWhile_cons_of_pos hc] at hdrop
        refine ⟨c, more.takeWhile isSchemeChar, rest, ?_, halpha, fun d => List.mem_takeWhile_imp⟩
        rw [← hdrop, List.takeWhile_append_dropWhile]
      · cases h
    · cases h
  · rintro ⟨c, name, rest, rfl, halpha, hname⟩
    have hdrop : (c :: (name ++ ':' :: rest)).dropWhile isSchemeChar = ':' :: rest := by
      rw [List.dropWhile_cons_of_pos (isSchemeChar_of_isAlpha halpha),
        List.dropWhile_append_of_pos hname]
      exact List.dropWhile_cons_of_neg (by decide)
    rw [cutScheme, hdrop, List.head?_cons]
    simp only [halpha, if_true, Option.isSome_some]

theorem cutScheme_eq_none_iff : cutScheme s = none ↔ ¬ HasScheme s := by
  rw [← isSome_cutScheme_iff, Option.not_isSome_iff_eq_none]

/-! ## The root of a site -/

theorem cleaned_slash : cleaned "/".toList = ['/'] := by decide

theorem join_slash : base.join "/" = readWithoutScheme (some base) ['/'] := by
  rw [join, cleaned_slash, resolve_of_none (by decide)]

theorem join_slash_of_rootless (h : page.isRootless = true) :
    page.join "/" = .error .rootlessBase := by
  rw [join_slash, readWithoutScheme_eq (by decide), if_pos h]

theorem join_slash_of_rooted (hkind : page.kind ≠ .file) (h : page.isRootless = false) :
    page.join "/" = .ok page.siteRoot := by
  rw [join_slash, readWithoutScheme_eq (by decide), h, if_neg Bool.false_ne_true, if_neg hkind]
  rfl

theorem exists_join_slash (h : page.isRootless = false) : ∃ root, page.join "/" = .ok root := by
  by_cases hkind : page.kind = .file
  · rw [join_slash, readWithoutScheme_eq (by decide), h, if_neg Bool.false_ne_true, if_pos hkind,
      readFile_root]
    exact ⟨_, rfl⟩
  · exact ⟨_, join_slash_of_rooted hkind h⟩

theorem redemption_of_error {fault : AddressFault} (h : page.join "/" = .error fault)
    (endpoint : String) (t : Ticket) : page.redemption endpoint t = .error fault := by
  rw [redemption, h]
  rfl

theorem redemption_of_join {root : Address} (h : page.join "/" = .ok root) (endpoint : String)
    (t : Ticket) :
    page.redemption endpoint t =
      (root.join endpoint).map fun target => target.withPairs (target.otherPairs ++ [t.pair]) := by
  rw [redemption, h]
  simp only [bind, Except.bind]
  cases root.join endpoint <;> rfl

/-! ## Pages of the web -/

/-- A text that names no host stays on the site of the page. -/
theorem readRelative_of_slashes (h : slashes s < 2) :
    ∃ v, readRelative base s = .ok v ∧ v.scheme = base.scheme ∧ v.authority = base.authority := by
  cases hrel : isPathRelative s with
  | true => exact ⟨_, readRelative_path hrel, rfl, rfl⟩
  | false =>
    cases s with
    | nil => exact ⟨_, rfl, rfl, rfl⟩
    | cons c rest =>
      obtain hc | rfl | rfl := isPathRelative_cons_eq_false.1 hrel
      · rw [readRelative_slash hc]
        cases rest with
        | nil => exact ⟨_, rfl, rfl, rfl⟩
        | cons d below =>
          have hd : ¬ (d = '/' ∨ d = '\\') := fun hd => by
            simp only [slashes, List.takeWhile_cons, Bool.or_eq_true, beq_iff_eq, hc, hd, if_true,
              List.length_cons] at h
            omega
          rw [readFromRoot, if_neg hd]
          exact ⟨_, rfl, rfl, rfl⟩
      · exact ⟨_, rfl, rfl, rfl⟩
      · exact ⟨_, rfl, rfl, rfl⟩

theorem join_of_schemeless {route : String} (hkind : base.kind ≠ .file)
    (hrooted : base.isRootless = false) (hscheme : ¬ HasScheme (cleaned route.toList)) :
    base.join route = readRelative base (cleaned route.toList) := by
  have hpart : relativePart? base (cleaned route.toList) = some (cleaned route.toList) := by
    rw [relativePart?, cutScheme_eq_none_iff.2 hscheme]
    exact if_neg (by simp [hkind, hrooted])
  exact (resolve_of_relativePart? hpart).2

theorem kind_readFile_none (h : readFile none s = .ok v) : v.kind = .file := by
  unfold readFile at h
  dsimp only at h
  split at h
  · exact kind_readFileHost h
  · split at h
    · cases h
      rfl
    · split at h
      · cases h
        rfl
      · cases h
        rfl
  · cases h
    rfl

theorem scheme_readPlain {scheme : List Char} (h : readPlain scheme s = .ok v) :
    v.scheme = scheme := by
  unfold readPlain at h
  split at h
  · exact scheme_readAfterSlashes h
  · cases h
    rfl
  · cases h
    rfl

theorem isSome_authority_of_readAfterSlashes {scheme : List Char}
    (h : readAfterSlashes scheme s = .ok v) : v.authority.isSome = true := by
  obtain ⟨_, _, h⟩ := exists_of_bind_eq_ok h
  cases h
  rfl

end

/-- A page of the web: it has one of the two schemes, and then it has a host. -/
structure IsWeb (a : Address) : Prop where
  scheme : a.scheme = "http".toList ∨ a.scheme = "https".toList
  hosted : a.authority.isSome = true

theorem kindOf_web {scheme : List Char} (h : scheme = "http".toList ∨ scheme = "https".toList) :
    kindOf scheme = .special := by
  obtain rfl | rfl := h <;> decide

theorem IsWeb.kind_ne {a : Address} (h : a.IsWeb) : a.kind ≠ .file := by
  rw [kind, kindOf_web h.scheme]
  exact Kind.noConfusion

theorem IsWeb.isRootless_eq {a : Address} (h : a.IsWeb) : a.isRootless = false :=
  isRootless_eq_false_iff.2 (.inl h.hosted)

/-- What is read with a scheme of the web has a host. -/
theorem isWeb_of_read {s : String} {a : Address} (h : read s = .ok a)
    (hscheme : a.scheme = "http".toList ∨ a.scheme = "https".toList) : a.IsWeb := by
  refine ⟨hscheme, ?_⟩
  have hspecial : a.kind = .special := kindOf_web hscheme
  unfold read resolve at h
  split at h
  · next scheme rest _ =>
    unfold readWithScheme at h
    cases hkind : kindOf scheme with
    | file =>
      rw [hkind] at h
      rw [kind_readFile_none h] at hspecial
      cases hspecial
    | special =>
      rw [hkind] at h
      exact isSome_authority_of_readAfterSlashes h
    | plain =>
      rw [hkind] at h
      rw [kind, scheme_readPlain h, hkind] at hspecial
      cases hspecial
  · cases h

/-- All pages of one site lead to the same redemption address, and an endpoint that names no host
leads to one on that site. -/
theorem redemption_within_site {p q : Address} (hp : p.IsWeb) (hq : q.IsWeb)
    (hscheme : q.scheme = p.scheme) (hauthority : q.authority = p.authority) (endpoint : String)
    (t : Ticket) :
    p.redemption endpoint t = q.redemption endpoint t ∧
    (¬ HasScheme (cleaned endpoint.toList) → slashes (cleaned endpoint.toList) < 2 →
      ∃ a, p.redemption endpoint t = .ok a ∧
        a.scheme = p.scheme ∧ a.authority = p.authority) := by
  have hroot : p.join "/" = .ok p.siteRoot := join_slash_of_rooted hp.kind_ne hp.isRootless_eq
  have hsame : q.siteRoot = p.siteRoot := by rw [siteRoot, hscheme, hauthority, siteRoot]
  refine ⟨?_, fun hschemeless hslashes => ?_⟩
  · rw [redemption_of_join hroot,
      redemption_of_join (join_slash_of_rooted hq.kind_ne hq.isRootless_eq), hsame]
  · have hweb : p.siteRoot.IsWeb := ⟨hp.scheme, hp.hosted⟩
    obtain ⟨v, hv, hvscheme, hvauthority⟩ :
        ∃ v, readRelative p.siteRoot (cleaned endpoint.toList) = .ok v ∧
          v.scheme = p.scheme ∧ v.authority = p.authority :=
      readRelative_of_slashes hslashes
    have hjoin := join_of_schemeless hweb.kind_ne hweb.isRootless_eq hschemeless
    rw [redemption_of_join hroot, hjoin, hv]
    exact ⟨_, rfl, hvscheme, hvauthority⟩

def innerPage : Address :=
  ⟨"https".toList, some ⟨"u".toList, "p".toList, "[::1]".toList, some 8443⟩, "/sso/login".toList,
    some "ticket=ST-8".toList, some "top".toList⟩

def outerPage : Address := innerPage.siteRoot

def innerTicket : Ticket := ⟨"ST-8".toList, by decide⟩

theorem redemption_within_one_site :
    read "https://u:p@[::1]:8443/sso/login?ticket=ST-8#top" = .ok innerPage ∧
    read "https://u:p@[0:0:0::1]:8443" = .ok outerPage ∧
    innerPage.IsWeb ∧ outerPage.IsWeb ∧
    innerPage.redemption "../v1/./login?lang=zh" innerTicket =
      outerPage.redemption "../v1/./login?lang=zh" innerTicket ∧
    ¬ HasScheme (cleaned "../v1/./login?lang=zh".toList) ∧
    slashes (cleaned "../v1/./login?lang=zh".toList) < 2 ∧
    ∃ a, innerPage.redemption "../v1/./login?lang=zh" innerTicket = .ok a ∧
      a.scheme = "https".toList ∧ a.authority = innerPage.authority := by
  have hinner : read "https://u:p@[::1]:8443/sso/login?ticket=ST-8#top" = .ok innerPage := by
    decide +kernel
  have houter : read "https://u:p@[0:0:0::1]:8443" = .ok outerPage := by decide +kernel
  have hp : innerPage.IsWeb := isWeb_of_read hinner (.inr rfl)
  have hq : outerPage.IsWeb := isWeb_of_read houter (.inr rfl)
  have hschemeless : ¬ HasScheme (cleaned "../v1/./login?lang=zh".toList) :=
    cutScheme_eq_none_iff.1 (by decide +kernel)
  have hslashes : slashes (cleaned "../v1/./login?lang=zh".toList) < 2 := by decide +kernel
  obtain ⟨hsame, hstays⟩ :=
    redemption_within_site hp hq rfl rfl "../v1/./login?lang=zh" innerTicket
  exact ⟨hinner, houter, hp, hq, hsame, hschemeless, hslashes, hstays hschemeless hslashes⟩

/-! ## Endpoints of the web -/

/-- A scheme of the web and two slashes stand in front. -/
def NamesHost (s : List Char) : Prop := "http://".toList <+: s ∨ "https://".toList <+: s

theorem cutScheme_of_namesHost {s : List Char} (h : NamesHost s) :
    ∃ scheme rest, cutScheme (cleaned s) = some (scheme, rest) ∧ 2 ≤ slashes rest := by
  obtain ⟨behind, rfl⟩ | ⟨behind, rfl⟩ := h
  · obtain ⟨rest, hrest⟩ :=
      cleaned_append (by decide : "http://".toList ≠ []) (by simp) behind
    rw [hrest]
    refine ⟨"http".toList, '/' :: '/' :: rest, rfl, ?_⟩
    simp [slashes]
  · obtain ⟨rest, hrest⟩ :=
      cleaned_append (by decide : "https://".toList ≠ []) (by simp) behind
    rw [hrest]
    refine ⟨"https".toList, '/' :: '/' :: rest, rfl, ?_⟩
    simp [slashes]

/-- What names its host does not need a page. -/
theorem join_of_namesHost {endpoint : String} (h : NamesHost endpoint.toList) (base : Address) :
    base.join endpoint = read endpoint := by
  obtain ⟨scheme, rest, hcut, hslashes⟩ := cutScheme_of_namesHost h
  rw [join, read, resolve_of_cutScheme hcut, readWithScheme_of_slashes hslashes (some base) none,
    resolve, hcut]

/-- From every page that has a root an endpoint that names its host comes to the same address, and
from a page without one it comes to nothing. -/
theorem redemption_of_named_host {endpoint : String} {target : Address}
    (hform : NamesHost endpoint.toList) (hread : read endpoint = .ok target) (page : Address)
    (t : Ticket) :
    (page.isRootless = false →
      page.redemption endpoint t = .ok (target.withPairs (target.otherPairs ++ [t.pair]))) ∧
    (page.isRootless = true → page.redemption endpoint t = .error .rootlessBase) := by
  constructor
  · intro hrooted
    obtain ⟨root, hroot⟩ := exists_join_slash hrooted
    rw [redemption_of_join hroot, join_of_namesHost hform, hread]
    rfl
  · intro hrootless
    exact redemption_of_error (join_slash_of_rootless hrootless) endpoint t

/-- A page without a root, such as an application of its own hands over. -/
def callbackPage : Address :=
  ⟨"myapp".toList, none, "callback".toList, some "ticket=ST-8".toList, none⟩

def hostedEndpoint : Address :=
  ⟨"https".toList, some ⟨[], [], "[::1]".toList, none⟩, "/v1".toList, some "ticket=old".toList,
    none⟩

theorem named_host_from_file :
    NamesHost "https://[::1]/v1?ticket=old".toList ∧
    read "https://[::1]/v1?ticket=old" = .ok hostedEndpoint ∧
    read "file:///C:/login?ticket=ST-8" = .ok
      ⟨"file".toList, some .blank, "/C:/login".toList, some "ticket=ST-8".toList, none⟩ ∧
    Address.redemption
        ⟨"file".toList, some .blank, "/C:/login".toList, some "ticket=ST-8".toList, none⟩
        "https://[::1]/v1?ticket=old" innerTicket =
      .ok { hostedEndpoint with query := some "ticket=ST-8".toList } ∧
    callbackPage.redemption "https://[::1]/v1?ticket=old" innerTicket = .error .rootlessBase := by
  have hform : NamesHost "https://[::1]/v1?ticket=old".toList := .inr (by decide)
  have hread : read "https://[::1]/v1?ticket=old" = .ok hostedEndpoint := by decide +kernel
  have hpairs : hostedEndpoint.withPairs (hostedEndpoint.otherPairs ++ [innerTicket.pair]) =
      { hostedEndpoint with query := some "ticket=ST-8".toList } := by decide +kernel
  refine ⟨hform, hread, by decide +kernel, ?_, ?_⟩
  · rw [← hpairs]
    exact (redemption_of_named_host hform hread _ innerTicket).1 (by decide)
  · exact (redemption_of_named_host hform hread callbackPage innerTicket).2 (by decide)

/-- Not even an endpoint that needs no page is found from a page without a root. -/
theorem callback_spoils_named_host :
    read "myapp:callback?ticket=ST-8" = .ok callbackPage ∧
    callbackPage.ticket? = some innerTicket ∧
    NamesHost "https://[::1]/v1?ticket=old".toList ∧
    read "https://[::1]/v1?ticket=old" = .ok hostedEndpoint ∧
    callbackPage.redemption "https://[::1]/v1?ticket=old" innerTicket = .error .rootlessBase ∧
    innerPage.redemption "https://[::1]/v1?ticket=old" innerTicket =
      .ok { hostedEndpoint with query := some "ticket=ST-8".toList } := by
  refine ⟨?_, ?_, .inr ?_, ?_, ?_, ?_⟩ <;> decide +kernel

end TicketLogin.Address
