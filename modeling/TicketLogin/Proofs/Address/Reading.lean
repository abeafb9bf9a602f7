import TicketLogin.Proofs.Address.Host

/-!
# Where the query of an address comes from

The query of an address that is read is the one that stands in its text, escaped. A text that has
none, read against a base, takes over the query of the base or has none either. In the written form
of an address the query stands where the first question mark opens it, so it is found there again.
-/

namespace TicketLogin

section

variable {ε α β : Type} {b : β}

theorem exists_of_bind_eq_ok {x : Except ε α} {f : α → Except ε β} (h : x >>= f = .ok b) :
    ∃ a, x = .ok a ∧ f a = .ok b := by
  cases x with
  | error e => cases h
  | ok a => exact ⟨a, rfl, h⟩

theorem eq_ok_of_guard {p : Prop} [Decidable p] {e : ε} {f : α → Except ε β} {x : Except ε β}
    (h : (if p then throw e >>= f else x) = .ok b) : x = .ok b := by
  split at h
  · cases h
  · exact h

end

namespace Address

/-- In the written form the first marks are those that open the query and the fragment. -/
structure WellMarked (a : Address) : Prop where
  scheme : Unmarked a.scheme
  authority : ∀ h ∈ a.authority, Unmarked h.text
  path : Unmarked a.path
  query : ∀ q ∈ a.query, '#' ∉ q

theorem WellMarked.unmarked_stem {a : Address} (h : a.WellMarked) : Unmarked a.stem := by
  have hauthority : Unmarked a.authorityText := by
    unfold authorityText
    split
    · next host hhost => exact unmarked_cons.2 ⟨rfl, unmarked_cons.2 ⟨rfl, h.authority host hhost⟩⟩
    · split
      · decide
      · exact unmarked_nil
  simp only [stem, unmarked_append, unmarked_cons]
  exact ⟨h.scheme, rfl, hauthority, h.path⟩

theorem WellMarked.queryOf_text {a : Address} (h : a.WellMarked) : queryOf a.text = a.query := by
  rw [text, queryOf_append h.unmarked_stem]
  have hopen : ∀ fragment : Option (List Char),
      Text.cutAt '#' (marked '#' fragment) = ([], fragment) := by
    intro fragment
    cases fragment <;> rfl
  cases hquery : a.query with
  | none =>
    rw [marked, List.nil_append, queryOf, hopen]
    rfl
  | some q =>
    have hq : '#' ∉ '?' :: q := by
      simp only [List.mem_cons, not_or]
      exact ⟨by decide, h.query q hquery⟩
    rw [marked, queryOf, Text.cutAt_append_left hq, hopen, List.append_nil]
    rfl

/-- An address that has been read from a text, perhaps against a base. -/
structure ReadFrom (base : Option Address) (s : List Char) (a : Address) : Prop where
  wellMarked : a.WellMarked
  query : a.query = (queryOf s).map (Percent.encode (Escapes.inQuery a.kind)) ∨
    (queryOf s = none ∧ ∃ b ∈ base, a.query = b.query)

theorem readFrom_build {base : Option Address} {scheme path s rest : List Char}
    {authority : Option Authority} (hscheme : Unmarked scheme)
    (hauthority : ∀ h ∈ authority, Unmarked h.text) (hpath : Unmarked path)
    (hrest : rest = tailOf s) : ReadFrom base s (build scheme authority path rest) := by
  have hquery : (build scheme authority path rest).query =
      (queryOf s).map (Percent.encode (Escapes.inQuery (kindOf scheme))) := by
    rw [hrest]
    exact query_readTail (kindOf scheme) s
  refine ⟨⟨hscheme, hauthority, hpath, ?_⟩, .inl hquery⟩
  intro q hq hmark
  rw [hquery] at hq
  obtain ⟨raw, _, rfl⟩ := Option.map_eq_some_iff.1 hq
  obtain ⟨_, hkept⟩ | hpercent | hsafe := Percent.mem_encode hmark
  · revert hkept
    cases kindOf scheme <;> decide
  · exact absurd hpercent (by decide)
  · exact absurd hsafe (by decide)

theorem WellMarked.readFrom_withFragment {base : Address} (h : base.WellMarked)
    (fragment : Option (List Char)) {s : List Char} (hs : queryOf s = none) :
    ReadFrom (some base) s { base with fragment } :=
  ⟨⟨h.scheme, h.authority, h.path, h.query⟩, .inr ⟨hs, base, rfl, rfl⟩⟩

theorem ReadFrom.of_tailOf {base : Option Address} {s t : List Char} {a : Address}
    (h : ReadFrom base t a) (htail : tailOf t = tailOf s) : ReadFrom base s a := by
  have hquery : queryOf t = queryOf s := by
    rw [← queryOf_tailOf t, htail, queryOf_tailOf]
  exact ⟨h.wellMarked, hquery ▸ h.query⟩

/-! ## Authorities -/

theorem isMark_of_not_endsAuthority {k : Kind} {c : Char} (h : ¬ endsAuthority k c = true) :
    isMark c = false :=
  Bool.eq_false_iff.2 fun hmark => h <| by
    refine forall_isMark (p := fun c => endsAuthority k c = true) ?_ ?_ c hmark
    · cases k <;> rfl
    · cases k <;> rfl

theorem tailOf_drop_of_prefix {front s : List Char} (hfront : front <+: s) (h : Unmarked front)
    {n : Nat} (hn : n ≤ front.length) : tailOf (s.drop n) = tailOf s := by
  obtain ⟨rest, rfl⟩ := hfront
  apply tailOf_drop
  rw [List.take_append_of_le_length hn]
  exact h.of_subset (List.take_subset _ _)

theorem tailOf_cutUserinfo (k : Kind) (s : List Char) : tailOf (cutUserinfo k s).2 = tailOf s := by
  unfold cutUserinfo
  dsimp only
  split
  · refine tailOf_drop_of_prefix (List.takeWhile_prefix _) ?_ (Nat.sub_le _ _)
    intro c hc
    exact isMark_of_not_endsAuthority (by simpa using List.mem_takeWhile_imp hc)
  · rfl

theorem isPrefix_hostSpan (k : Kind) (inside : Bool) (s : List Char) : hostSpan k inside s <+: s := by
  induction s generalizing inside with
  | nil => exact List.prefix_rfl
  | cons c s ih =>
    rw [hostSpan]
    split
    · exact List.nil_prefix
    · exact List.cons_prefix_cons.2 ⟨rfl, ih _⟩

theorem unmarked_hostSpan (k : Kind) (inside : Bool) (s : List Char) :
    Unmarked (hostSpan k inside s) := by
  induction s generalizing inside with
  | nil => exact unmarked_nil
  | cons c s ih =>
    rw [hostSpan]
    split
    · exact unmarked_nil
    · next hgoes =>
      exact unmarked_cons.2
        ⟨isMark_of_not_endsAuthority fun hends => hgoes (.inl hends), ih _⟩

theorem tailOf_readPort {scheme s rest : List Char} {port : Option Nat}
    (h : readPort scheme s = .ok (port, rest)) : tailOf rest = tailOf s := by
  have hrest : rest = s.dropWhile Char.isDigit := by
    unfold readPort at h
    dsimp only at h
    split at h
    · cases h
    · split at h
      · next hdigits =>
        split at h
        · cases h
          rfl
        · cases h
      · cases h
        rfl
  rw [hrest]
  exact tailOf_dropWhile (forall_isMark (by decide) (by decide)) s

theorem unmarked_userinfo {user password : List Char} (huser : Unmarked user)
    (hpassword : Unmarked password) (host : List Char) (port : Option Nat) :
    Unmarked (Authority.userinfo ⟨user, password, host, port⟩) := by
  unfold Authority.userinfo
  split
  · exact unmarked_nil
  · simp only [unmarked_append]
    refine ⟨⟨huser, ?_⟩, by decide⟩
    split
    · exact unmarked_nil
    · exact unmarked_cons.2 ⟨rfl, hpassword⟩

theorem unmarked_portText (a : Authority) : Unmarked a.portText := by
  unfold Authority.portText
  split
  · exact unmarked_nil
  · exact unmarked_cons.2 ⟨rfl, unmarked_toString _⟩

theorem unmarked_readUserinfo (s : List Char) :
    Unmarked (readUserinfo s).1 ∧ Unmarked (readUserinfo s).2 := by
  have hescaped : ∀ t : List Char, Unmarked (Percent.encode Escapes.inUserinfo t) := fun t =>
    unmarked_encode fun c _ hkept => Bool.eq_false_iff.2 fun hmark => by
      have hc := forall_isMark (p := fun c => Escapes.inUserinfo c = true) (by decide) (by decide)
        c hmark
      rw [hc] at hkept
      cases hkept
  exact ⟨hescaped _, hescaped _⟩

theorem readAuthority_spec {scheme s rest : List Char} {authority : Authority}
    (h : readAuthority scheme s = .ok (authority, rest)) :
    Unmarked authority.text ∧ tailOf rest = tailOf s := by
  unfold readAuthority at h
  dsimp only at h
  have hcut := tailOf_cutUserinfo (kindOf scheme) s
  generalize cutUserinfo (kindOf scheme) s = cut at h hcut
  obtain ⟨info, behind⟩ := cut
  dsimp only at h hcut
  have huserinfo := unmarked_readUserinfo (info.getD [])
  generalize readUserinfo (info.getD []) = userinfo at h huserinfo
  obtain ⟨user, password⟩ := userinfo
  dsimp only at h huserinfo
  replace h := eq_ok_of_guard h
  have hspan := tailOf_drop_of_prefix (isPrefix_hostSpan (kindOf scheme) false behind)
    (unmarked_hostSpan _ _ _) (Nat.le_refl _)
  generalize hostSpan (kindOf scheme) false behind = span at h hspan
  generalize behind.drop span.length = below at h hspan
  replace h := eq_ok_of_guard h
  obtain ⟨host, hhost, h⟩ := exists_of_bind_eq_ok h
  replace h := eq_ok_of_guard h
  have hparts : ∀ port, Unmarked (Authority.text ⟨user, password, host, port⟩) := fun port => by
    simp only [Authority.text, unmarked_append]
    exact ⟨⟨unmarked_userinfo huserinfo.1 huserinfo.2 host port, Host.unmarked_read hhost⟩,
      unmarked_portText _⟩
  split at h
  · next hcolon =>
    obtain ⟨⟨port, left⟩, hport, h⟩ := exists_of_bind_eq_ok h
    cases eq_ok_of_guard h
    obtain ⟨digits, rfl⟩ := List.head?_eq_some_iff.1 hcolon
    refine ⟨hparts port, ?_⟩
    rw [tailOf_readPort hport, ← hcut, ← hspan]
    exact (tailOf_cons rfl digits).symm
  · obtain ⟨⟨port, left⟩, hport, h⟩ := exists_of_bind_eq_ok h
    cases hport
    cases eq_ok_of_guard h
    exact ⟨hparts none, hspan.trans hcut⟩

theorem readFrom_readAfterSlashes {base : Option Address} {scheme s : List Char} {a : Address}
    (hscheme : Unmarked scheme) (h : readAfterSlashes scheme s = .ok a) : ReadFrom base s a := by
  obtain ⟨⟨authority, behind⟩, hauthority, h⟩ := exists_of_bind_eq_ok h
  obtain ⟨hclear, htail⟩ := readAuthority_spec hauthority
  have hpath := Path.unmarked_readAfterHost (kindOf scheme) behind
  have hrest := Path.rest_readAfterHost (kindOf scheme) behind
  dsimp only at h
  cases h
  refine readFrom_build hscheme ?_ hpath (hrest.trans htail)
  rintro host ⟨⟩
  exact hclear

/-! ## References -/

theorem readFrom_path {base : Option Address} {k : Kind} {scheme start s : List Char}
    {authority : Option Authority} (hscheme : Unmarked scheme)
    (hauthority : ∀ h ∈ authority, Unmarked h.text) (hstart : Unmarked start) :
    ReadFrom base s (build scheme authority (Path.read k start s).1 (Path.read k start s).2.2) :=
  readFrom_build hscheme hauthority (Path.unmarked_read hstart s) (Path.rest_read start s)

theorem WellMarked.readFrom_relative {base a : Address} {s : List Char} (hbase : base.WellMarked)
    (h : readRelative base s = .ok a) : ReadFrom (some base) s a := by
  have hslash : Unmarked ['/'] := by decide
  unfold readRelative at h
  dsimp only at h
  split at h
  · cases h
    exact hbase.readFrom_withFragment none rfl
  · cases h
    exact readFrom_build hbase.scheme hbase.authority hbase.path rfl
  · cases h
    exact hbase.readFrom_withFragment _ rfl
  · next c rest _ _ =>
    split at h
    · next hc =>
      have hc : isMark c = false := by obtain rfl | rfl := hc <;> rfl
      split at h
      · next d below =>
        split at h
        · next hd =>
          have hd : isMark d = false := by obtain rfl | rfl := hd <;> rfl
          split at h
          · have htail : tailOf below = tailOf (c :: d :: below) := by
              rw [tailOf_cons hc, tailOf_cons hd]
            exact (readFrom_readAfterSlashes hbase.scheme h).of_tailOf htail
          · refine (readFrom_readAfterSlashes hbase.scheme h).of_tailOf ?_
            exact tailOf_dropWhile (forall_isMark (by decide) (by decide)) _
        · cases h
          exact (readFrom_path hbase.scheme hbase.authority hslash).of_tailOf (tailOf_cons hc _).symm
      · cases h
        exact readFrom_build hbase.scheme hbase.authority hslash (tailOf_cons hc []).symm
    · cases h
      refine readFrom_path hbase.scheme hbase.authority ?_
      split
      · exact hslash
      · exact Path.unmarked_pop hbase.path

theorem unmarked_fileScheme : Unmarked fileScheme := by decide

theorem forall_authority_host {host : List Char} (h : Unmarked host) :
    ∀ a ∈ some { Authority.blank with host }, Unmarked a.text := by
  rintro _ ⟨⟩
  simpa [Authority.text, Authority.userinfo, Authority.portText, Authority.blank] using h

theorem readFrom_filePath {base : Option Address} {host start : List Char} (hhost : Unmarked host)
    (hstart : Unmarked start) (s : List Char) :
    ReadFrom base s
      (buildFile host (Path.read .file start s).1 (Path.read .file start s).2.2) :=
  readFrom_path unmarked_fileScheme (forall_authority_host hhost) hstart

theorem readFrom_readLocalFile (base : Option Address) (s : List Char) :
    ReadFrom base s (readLocalFile s) :=
  readFrom_filePath unmarked_nil (by decide) s

theorem readFrom_readFileHost {base : Option Address} {s : List Char} {a : Address}
    (h : readFileHost s = .ok a) : ReadFrom base s a := by
  have hspan : tailOf (s.drop (s.takeWhile fun c => !endsAuthority .file c).length) = tailOf s :=
    tailOf_drop_of_prefix (List.takeWhile_prefix _)
      (unmarked_takeWhile (forall_isMark (by decide) (by decide)) s) (Nat.le_refl _)
  unfold readFileHost at h
  dsimp only at h
  split at h
  · cases h
    exact readFrom_readLocalFile base s
  · split at h
    · cases h
      exact (readFrom_readLocalFile base _).of_tailOf hspan
    · obtain ⟨host, hhost, h⟩ := exists_of_bind_eq_ok h
      split at h
      · cases h
        exact (readFrom_readLocalFile base _).of_tailOf hspan
      · cases h
        have hclear : Unmarked host := Host.unmarked_readName hhost
        refine readFrom_build unmarked_fileScheme (forall_authority_host ?_)
          (Path.unmarked_readAfterHost _ _) ((Path.rest_readAfterHost _ _).trans hspan)
        split
        · exact unmarked_nil
        · exact hclear

theorem unmarked_hostOf {base : Option Address} (hbase : ∀ b ∈ base, b.WellMarked) :
    Unmarked (hostOf base) := by
  unfold hostOf
  cases h : base.bind (·.authority) with
  | none => exact unmarked_nil
  | some authority =>
    obtain ⟨b, rfl, hauthority⟩ := Option.bind_eq_some_iff.1 h
    have htext := (hbase b rfl).authority authority hauthority
    simp only [Authority.text, unmarked_append] at htext
    exact htext.1.2

/-- What stands for a drive in the path of the base. -/
theorem unmarked_drive {base : Option Address} (hbase : ∀ b ∈ base, b.WellMarked) :
    Unmarked (firstSegment ((base.map (·.path)).getD [])) := by
  have hpath : Unmarked ((base.map (·.path)).getD []) := by
    cases base with
    | none => exact unmarked_nil
    | some b => exact (hbase b rfl).path
  exact hpath.of_subset
    (List.Subset.trans (List.takeWhile_sublist _).subset (List.drop_subset 1 _))

theorem readFrom_readFile {base : Option Address} {s : List Char} {a : Address}
    (hbase : ∀ b ∈ base, b.WellMarked) (h : readFile base s = .ok a) : ReadFrom base s a := by
  have hdrive := unmarked_drive hbase
  have hhost : Unmarked (hostOf base) := unmarked_hostOf hbase
  unfold readFile at h
  dsimp only at h
  split at h
  · next hfirst hsecond =>
    cases s with
    | nil => cases hfirst
    | cons c s =>
      cases s with
      | nil => cases hsecond
      | cons d s =>
        have hc : isMark c = false := isMark_of_slashes (k := .file) hfirst
        have hd : isMark d = false := isMark_of_slashes (k := .file) hsecond
        refine (readFrom_readFileHost h).of_tailOf ?_
        exact tailOf_drop (n := 2) (unmarked_cons.2 ⟨hc, unmarked_cons.2 ⟨hd, unmarked_nil⟩⟩)
  · split at h
    · cases h
      exact readFrom_filePath unmarked_nil unmarked_nil s
    · split at h
      · cases h
        exact readFrom_filePath unmarked_nil (unmarked_cons.2 ⟨rfl, hdrive⟩) s
      · cases h
        exact readFrom_filePath hhost unmarked_nil s
  · split at h
    · cases h
      exact readFrom_readLocalFile none s
    · next b =>
      have hb : b.WellMarked := hbase b rfl
      split at h
      · cases h
        exact hb.readFrom_withFragment none rfl
      · cases h
        exact readFrom_build hb.scheme hb.authority hb.path rfl
      · cases h
        exact hb.readFrom_withFragment _ rfl
      · split at h
        · cases h
          exact readFrom_readLocalFile _ s
        · cases h
          exact readFrom_path hb.scheme hb.authority (Path.unmarked_pop hb.path)

theorem readFrom_readPlain {base : Option Address} {scheme s : List Char} {a : Address}
    (hscheme : Unmarked scheme) (h : readPlain scheme s = .ok a) : ReadFrom base s a := by
  have hnone : ∀ h ∈ (none : Option Authority), Unmarked h.text := fun _ h => by cases h
  unfold readPlain at h
  split at h
  · exact (readFrom_readAfterSlashes hscheme h).of_tailOf rfl
  · next rest _ =>
    cases h
    have hslash : Unmarked ['/'] := by decide
    have hread : ReadFrom base rest (build scheme none (Path.read .plain ['/'] rest).1
        (Path.read .plain ['/'] rest).2.2) :=
      readFrom_path hscheme hnone hslash
    exact hread.of_tailOf rfl
  · cases h
    have hpath : Unmarked (s.takeWhile fun c => c != '?' && c != '#') :=
      unmarked_takeWhile (forall_isMark (by decide) (by decide)) s
    refine readFrom_build hscheme hnone (unmarked_encode fun c hc _ => hpath c hc) ?_
    have hmarks : (fun c => c != '?' && c != '#') = fun c : Char => !isMark c := by
      funext c
      simp [isMark, bne]
    rw [hmarks]
    calc s.drop (s.takeWhile fun c => !isMark c).length
        = ((s.takeWhile fun c => !isMark c) ++ tailOf s).drop
            (s.takeWhile fun c => !isMark c).length := by
          rw [tailOf, List.takeWhile_append_dropWhile]
      _ = tailOf s := List.drop_left

theorem isMark_toLower {c : Char} (h : isSchemeChar c = true) : isMark c.toLower = false := by
  delta Char.toLower
  split
  · next hupper =>
    refine isMark_eq_false (p := Char.isLower) (by decide) (by decide) ?_
    delta Char.isLower
    simp only [Bool.and_eq_true, decide_eq_true_eq]
    simp only [ge_iff_le, UInt32.le_iff_toNat_le, UInt32.toNat_add] at hupper ⊢
    simp at hupper ⊢
    omega
  · exact isMark_eq_false (by decide) (by decide) h

theorem cutScheme_spec {s scheme rest : List Char} (h : cutScheme s = some (scheme, rest)) :
    Unmarked scheme ∧ tailOf rest = tailOf s := by
  unfold cutScheme at h
  split at h
  · next rest' c hdrop _ =>
    split at h
    · cases h
      refine ⟨fun d hd => ?_, ?_⟩
      · obtain ⟨c, hc, rfl⟩ := List.mem_map.1 hd
        exact isMark_toLower (List.mem_takeWhile_imp hc)
      · rw [← tailOf_dropWhile (p := isSchemeChar) (forall_isMark (by decide) (by decide)) s, hdrop]
        exact (tailOf_cons rfl _).symm
    · cases h
  · cases h

theorem ReadFrom.of_filter {base : Option Address} {p : Address → Bool} {s : List Char}
    {a : Address} (h : ReadFrom (base.filter p) s a) : ReadFrom base s a := by
  refine ⟨h.wellMarked, h.query.imp_right ?_⟩
  rintro ⟨hs, b, hb, hquery⟩
  exact ⟨hs, b, (Option.mem_filter_iff.1 hb).1, hquery⟩

theorem readFrom_readWithScheme {base : Option Address} {scheme s : List Char} {a : Address}
    (hbase : ∀ b ∈ base, b.WellMarked) (hscheme : Unmarked scheme)
    (h : readWithScheme base scheme s = .ok a) : ReadFrom base s a := by
  have hslashes : tailOf (s.dropWhile fun c => c == '/' || c == '\\') = tailOf s :=
    tailOf_dropWhile (forall_isMark (by decide) (by decide)) s
  have hsame : ∀ b ∈ base.filter fun b => decide (b.scheme = scheme), b.WellMarked :=
    fun b hb => hbase b (Option.mem_filter_iff.1 hb).1
  unfold readWithScheme at h
  dsimp only at h
  refine ReadFrom.of_filter (p := fun b => decide (b.scheme = scheme)) ?_
  generalize base.filter (fun b => decide (b.scheme = scheme)) = same at h hsame
  cases hkind : kindOf scheme with
  | file =>
    rw [hkind] at h
    exact readFrom_readFile hsame h
  | special =>
    rw [hkind] at h
    cases same with
    | none => exact (readFrom_readAfterSlashes hscheme h).of_tailOf hslashes
    | some b =>
      dsimp only at h
      split at h
      · exact (hsame b rfl).readFrom_relative h
      · exact (readFrom_readAfterSlashes hscheme h).of_tailOf hslashes
  | plain =>
    rw [hkind] at h
    exact readFrom_readPlain hscheme h

/-- Every address that is read is well marked, and its query is the one that stands in the text or,
if none does, that of the base. -/
theorem readFrom_resolve {base : Option Address} {s : List Char} {a : Address}
    (hbase : ∀ b ∈ base, b.WellMarked) (h : resolve base s = .ok a) : ReadFrom base s a := by
  unfold resolve at h
  split at h
  · next scheme rest hcut =>
    obtain ⟨hscheme, htail⟩ := cutScheme_spec hcut
    exact (readFrom_readWithScheme hbase hscheme h).of_tailOf htail
  · unfold readWithoutScheme at h
    split at h
    · cases h
    · cases h
      exact (hbase _ rfl).readFrom_withFragment _ rfl
    · split at h
      · cases h
      · split at h
        · exact readFrom_readFile hbase h
        · exact (hbase _ rfl).readFrom_relative h

end Address

end TicketLogin
