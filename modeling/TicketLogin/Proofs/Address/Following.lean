import TicketLogin.Proofs.Address.Reading
import TicketLogin.Proofs.Address.Segments

/-!
# Links that are followed twice

A link that does not hang on the folder of the page leads to the same address from there, so whoever
follows it again stays. A relative path is read behind the folder of the page, and leads on and on
if it opens a folder itself.
-/

namespace TicketLogin.Address

/-- The link leads to no other address than the one it is followed from. -/
def Rests (a : Address) (route : String) : Prop := ∀ target, a.join route = .ok target → target = a

/-- The slashes of either kind at the front of a text. -/
def slashes (s : List Char) : Nat := (s.takeWhile fun c => c == '/' || c == '\\').length

/-- Neither empty nor with a slash or a mark in front. -/
def isPathRelative (s : List Char) : Bool :=
  s.head?.any fun c => !(c == '/' || c == '\\' || isMark c)

/-- A link that can be followed from everywhere on a site and leads to the same address: it names
what it needs of a scheme, a host and a path, or keeps all of the path of the page. -/
def Anchored (base : Address) (s : List Char) : Prop :=
  match cutScheme s with
  | some (scheme, rest) =>
    kindOf scheme = .plain ∨ 2 ≤ slashes rest ∨
      (kindOf scheme = .special ∧ base.scheme = scheme ∧ isPathRelative rest = false)
  | none => isPathRelative s = false ∧ (base.kind = .file → slashes s ≠ 1)

/-- What is read behind the page, if the page is no file: the link, without a scheme that is the
scheme of the page. -/
def relativePart? (base : Address) (s : List Char) : Option (List Char) :=
  match cutScheme s with
  | some (scheme, rest) =>
    if kindOf scheme = .special ∧ base.scheme = scheme ∧ slashes rest < 2 then some rest else none
  | none => if base.kind = .file ∨ base.isRootless then none else some s

section

variable {base v : Address} {s : List Char}

theorem kind_eq (h : v.scheme = base.scheme) : v.kind = base.kind := congrArg kindOf h

theorem isPathRelative_cons_eq_false {c : Char} {rest : List Char} :
    isPathRelative (c :: rest) = false ↔ (c = '/' ∨ c = '\\') ∨ c = '?' ∨ c = '#' := by
  simp only [isPathRelative, isMark, List.head?_cons, Option.any_some, Bool.not_eq_false',
    Bool.or_eq_true, beq_iff_eq]

theorem scheme_readAfterSlashes {scheme : List Char} (h : readAfterSlashes scheme s = .ok v) :
    v.scheme = scheme := by
  obtain ⟨_, _, h⟩ := exists_of_bind_eq_ok h
  cases h
  rfl

/-- What follows a slash, or two of them, in a text that is read behind a page: a path from the root
of the site, or an authority and all that comes behind it. -/
def readFromRoot (base : Address) (c : Char) : List Char → Except AddressFault Address
  | [] => .ok (build base.scheme base.authority ['/'] [])
  | d :: below =>
    if d = '/' ∨ d = '\\' then
      readAfterSlashes base.scheme (if c = '/' ∧ d = '/' then below
        else (c :: d :: below).dropWhile fun c => c == '/' || c == '\\')
    else
      .ok (build base.scheme base.authority (Path.read base.kind ['/'] (d :: below)).1
        (Path.read base.kind ['/'] (d :: below)).2.2)

theorem readRelative_slash {c : Char} (hc : c = '/' ∨ c = '\\') (rest : List Char) :
    readRelative base (c :: rest) = readFromRoot base c rest := by
  unfold readRelative
  dsimp only
  split
  · next h => cases h
  · next h =>
    obtain ⟨rfl, _⟩ := List.cons.inj h
    exact absurd hc (by decide)
  · next h =>
    obtain ⟨rfl, _⟩ := List.cons.inj h
    exact absurd hc (by decide)
  · next h =>
    obtain ⟨rfl, rfl⟩ := List.cons.inj h
    rw [if_pos hc]
    cases rest with
    | nil => rfl
    | cons d below =>
      dsimp only [readFromRoot]
      split
      · split <;> rfl
      · rfl

theorem readFromRoot_again {c : Char} (h : readFromRoot base c s = .ok v) :
    v.scheme = base.scheme ∧ readFromRoot v c s = .ok v := by
  cases s with
  | nil =>
    cases h
    exact ⟨rfl, rfl⟩
  | cons d below =>
    rw [readFromRoot] at h ⊢
    by_cases hd : d = '/' ∨ d = '\\'
    · rw [if_pos hd] at h ⊢
      have hscheme := scheme_readAfterSlashes h
      rw [hscheme]
      exact ⟨rfl, h⟩
    · rw [if_neg hd] at h ⊢
      cases h
      exact ⟨rfl, rfl⟩

/-- What is no relative path takes over no more than the scheme, the authority and, if it has no
path, the path of the page. -/
theorem readRelative_again (hrel : isPathRelative s = false) (h : readRelative base s = .ok v) :
    v.scheme = base.scheme ∧ readRelative v s = .ok v := by
  cases s with
  | nil =>
    cases h
    exact ⟨rfl, rfl⟩
  | cons c rest =>
    obtain hc | rfl | rfl := isPathRelative_cons_eq_false.1 hrel
    · rw [readRelative_slash hc] at h ⊢
      exact readFromRoot_again h
    · cases h
      exact ⟨rfl, rfl⟩
    · cases h
      exact ⟨rfl, rfl⟩

/-! ## Links that stay -/

theorem resolve_of_cutScheme {scheme rest : List Char} (h : cutScheme s = some (scheme, rest)) :
    resolve (some base) s = readWithScheme (some base) scheme rest := by
  rw [resolve, h]

theorem resolve_of_none (h : cutScheme s = none) :
    resolve (some base) s = readWithoutScheme (some base) s := by
  rw [resolve, h]

theorem readFile_of_slashes (h : 2 ≤ slashes s) (base : Option Address) :
    readFile base s = readFileHost (s.drop 2) := by
  match s with
  | [] => cases h
  | [c] =>
    exfalso
    have hshort := (List.takeWhile_sublist (fun c => c == '/' || c == '\\') (l := [c])).length_le
    exact absurd (Nat.le_trans h hshort) (Nat.not_succ_le_self 1)
  | c :: d :: below =>
    have hboth : (c == '/' || c == '\\') = true ∧ (d == '/' || d == '\\') = true := by
      simp only [slashes, List.takeWhile_cons] at h
      split at h
      · next hc =>
        split at h
        · next hd => exact ⟨hc, hd⟩
        · exact absurd h (Nat.not_succ_le_self 1)
      · exact absurd h (by decide)
    simp only [readFile, List.head?_cons, Option.any_some, List.drop_one, List.tail_cons, hboth.1,
      hboth.2]

/-- With two slashes the page does not matter. -/
theorem readWithScheme_of_slashes {scheme rest : List Char} (h : 2 ≤ slashes rest)
    (first second : Option Address) :
    readWithScheme first scheme rest = readWithScheme second scheme rest := by
  have hspecial : ∀ base : Option Address, kindOf scheme = .special →
      readWithScheme base scheme rest =
        readAfterSlashes scheme (rest.dropWhile fun c => c == '/' || c == '\\') := by
    intro base hkind
    simp only [readWithScheme, hkind]
    split
    · exact if_neg (Nat.not_lt.2 h)
    · rfl
  cases hkind : kindOf scheme with
  | file => simp only [readWithScheme, hkind, readFile_of_slashes h]
  | special => rw [hspecial first hkind, hspecial second hkind]
  | plain => simp only [readWithScheme, hkind]

/-- A scheme that is the scheme of the page adds nothing. -/
theorem readWithScheme_same {scheme rest : List Char} (hkind : kindOf scheme = .special)
    (hscheme : base.scheme = scheme) (hslashes : slashes rest < 2) :
    readWithScheme (some base) scheme rest = readRelative base rest := by
  have hbase : (some base).filter (·.scheme = scheme) = some base := by
    rw [Option.filter_some, if_pos (by simpa using hscheme)]
  simp only [readWithScheme, hkind, hbase]
  exact if_pos hslashes

theorem readWithoutScheme_eq (hfragment : s.head? ≠ some '#') :
    readWithoutScheme (some base) s =
      if base.isRootless then .error .rootlessBase
      else if base.kind = .file then readFile (some base) s
      else readRelative base s := by
  unfold readWithoutScheme
  split
  · next heq => cases heq
  · next heq => exact absurd rfl hfragment
  · next b hb _ =>
    cases hb
    rfl

theorem kind_readFileHost (h : readFileHost s = .ok v) : v.kind = .file := by
  unfold readFileHost at h
  dsimp only at h
  split at h
  · cases h
    rfl
  · split at h
    · cases h
      rfl
    · obtain ⟨host, _, h⟩ := exists_of_bind_eq_ok h
      split at h
      · cases h
        rfl
      · cases h
        rfl

/-- On a page that is a file too, a text stays that names a host or has no path. -/
theorem readFile_again (hrel : isPathRelative s = false) (hslashes : slashes s ≠ 1)
    (hbase : base.kind = .file) (h : readFile (some base) s = .ok v) :
    v.kind = .file ∧ readFile (some v) s = .ok v := by
  by_cases hhost : 2 ≤ slashes s
  · rw [readFile_of_slashes hhost] at h ⊢
    exact ⟨kind_readFileHost h, h⟩
  · have hnone : slashes s = 0 := by omega
    cases s with
    | nil =>
      cases h
      exact ⟨hbase, rfl⟩
    | cons c rest =>
      obtain hc | rfl | rfl := isPathRelative_cons_eq_false.1 hrel
      · obtain rfl | rfl := hc
        · cases hnone
        · cases hnone
      · cases h
        exact ⟨hbase, rfl⟩
      · cases h
        exact ⟨hbase, rfl⟩

/-- Without a scheme a text stays if it stays as what it is read as, a file or a relative link,
unless it leads to an address that has no root. -/
theorem readWithoutScheme_again (hfragment : s.head? ≠ some '#')
    (h : readWithoutScheme (some base) s = .ok v)
    (hfile : base.kind = .file → readFile (some base) s = .ok v →
      v.kind = .file ∧ readFile (some v) s = .ok v)
    (hrelative : readRelative base s = .ok v → v.scheme = base.scheme ∧ readRelative v s = .ok v) :
    readWithoutScheme (some v) s = .ok v ∨
      ∃ fault, readWithoutScheme (some v) s = .error fault := by
  rw [readWithoutScheme_eq hfragment] at h ⊢
  cases hv : v.isRootless with
  | true => exact .inr ⟨_, rfl⟩
  | false =>
    left
    rw [if_neg Bool.false_ne_true]
    split at h
    · cases h
    · split at h
      · next hkind =>
        obtain ⟨hsame, hagain⟩ := hfile hkind h
        rwa [if_pos hsame]
      · next hkind =>
        obtain ⟨hsame, hagain⟩ := hrelative h
        rwa [if_neg (by rwa [kind_eq hsame])]

/-- A special scheme that is the scheme of the page is read as a relative link. -/
theorem readWithScheme_again {scheme rest : List Char} (hspecial : kindOf scheme = .special)
    (hscheme : base.scheme = scheme) (hrel : isPathRelative rest = false)
    (h : readWithScheme (some base) scheme rest = .ok v) :
    readWithScheme (some v) scheme rest = .ok v := by
  by_cases hslashes : slashes rest < 2
  · rw [readWithScheme_same hspecial hscheme hslashes] at h
    obtain ⟨hsame, hagain⟩ := readRelative_again hrel h
    rwa [readWithScheme_same hspecial (hsame.trans hscheme) hslashes]
  · rw [← readWithScheme_of_slashes (Nat.not_lt.1 hslashes) (some base), h]

theorem anchored_again (hanchored : Anchored base s) (h : resolve (some base) s = .ok v) :
    resolve (some v) s = .ok v ∨ ∃ fault, resolve (some v) s = .error fault := by
  unfold Anchored at hanchored
  split at hanchored
  · next scheme rest hcut =>
    left
    rw [resolve_of_cutScheme hcut] at h ⊢
    obtain hplain | hslashes | ⟨hspecial, hscheme, hrel⟩ := hanchored
    · simp only [readWithScheme, hplain] at h ⊢
      exact h
    · rw [← readWithScheme_of_slashes hslashes (some base), h]
    · exact readWithScheme_again hspecial hscheme hrel h
  · next hcut =>
    obtain ⟨hrel, hfile⟩ := hanchored
    rw [resolve_of_none hcut] at h ⊢
    by_cases hfragment : s.head? = some '#'
    · obtain ⟨rest, rfl⟩ := List.head?_eq_some_iff.1 hfragment
      cases h
      exact .inl rfl
    · have hlocal : base.kind = .file → readFile (some base) s = .ok v →
          v.kind = .file ∧ readFile (some v) s = .ok v :=
        fun hkind => readFile_again hrel (hfile hkind) hkind
      exact readWithoutScheme_again hfragment h hlocal (readRelative_again hrel)

/-! ## Relative paths -/

theorem readRelative_path (hrel : isPathRelative s = true) :
    readRelative base s = .ok (build base.scheme base.authority
      (Path.read base.kind (Path.folder base.kind base.path) s).1 (tailOf s)) := by
  unfold readRelative
  dsimp only
  split
  · cases hrel
  · cases hrel
  · cases hrel
  · next c rest _ _ =>
    have hc : ¬ (c = '/' ∨ c = '\\') := fun hc => by
      rw [isPathRelative_cons_eq_false.2 (.inl hc)] at hrel
      cases hrel
    rw [if_neg hc, Path.rest_read]
    rfl

theorem isRootless_eq_false_iff {a : Address} :
    a.isRootless = false ↔ a.authority.isSome = true ∨ ∃ rest, a.path = '/' :: rest := by
  have hprefix : ['/'].isPrefixOf a.path = true ↔ ∃ rest, a.path = '/' :: rest := by
    rw [List.isPrefixOf_iff_prefix]
    constructor
    · rintro ⟨rest, hrest⟩
      exact ⟨rest, hrest.symm⟩
    · rintro ⟨rest, hrest⟩
      exact ⟨rest, hrest.symm⟩
  rw [isRootless, Bool.and_eq_false_iff, Bool.not_eq_false', hprefix, Option.isNone_eq_false_iff]

/-- A page with a root keeps it when a relative path is followed. -/
theorem isRootless_below (hkind : base.kind ≠ .file) (h : base.isRootless = false)
    (path rest : List Char) :
    (build base.scheme base.authority (Path.folder base.kind base.path ++ path) rest).isRootless =
      false := by
  rw [isRootless_eq_false_iff] at h ⊢
  obtain hauthority | ⟨more, hmore⟩ := h
  · exact .inl hauthority
  · right
    have hroot : Path.folder base.kind base.path = '/' :: Path.uptoLastSlash more := by
      rw [hmore]
      exact @Path.folder_append _ ['/'] hkind rfl more
    exact ⟨Path.uptoLastSlash more ++ path, by rw [hroot]; rfl⟩

theorem resolve_of_relativePart? {t : List Char} (h : relativePart? base s = some t) :
    base.kind ≠ .file ∧ resolve (some base) s = readRelative base t := by
  unfold relativePart? at h
  split at h
  · next scheme rest hcut =>
    split at h
    · next hsame =>
      obtain ⟨hkind, hscheme, hslashes⟩ := hsame
      obtain rfl := Option.some.inj h
      refine ⟨?_, ?_⟩
      · rw [kind, hscheme, hkind]
        exact Kind.noConfusion
      · rw [resolve_of_cutScheme hcut, readWithScheme_same hkind hscheme hslashes]
    · cases h
  · next hcut =>
    split at h
    · cases h
    · next hneither =>
      obtain rfl := Option.some.inj h
      obtain ⟨hkind, hrooted⟩ := not_or.1 hneither
      refine ⟨hkind, ?_⟩
      rw [resolve_of_none hcut]
      by_cases hfragment : s.head? = some '#'
      · obtain ⟨rest, rfl⟩ := List.head?_eq_some_iff.1 hfragment
        rfl
      · rw [readWithoutScheme_eq hfragment, if_neg hrooted, if_neg hkind]

theorem exists_resolve_of_relative {t : List Char} (hpart : relativePart? base s = some t)
    (hrel : isPathRelative t = true) : ∃ v, resolve (some base) s = .ok v := by
  rw [(resolve_of_relativePart? hpart).2, readRelative_path hrel]
  exact ⟨_, rfl⟩

theorem relativePart?_again {t : List Char} (h : relativePart? base s = some t)
    (hscheme : v.scheme = base.scheme) (hrooted : base.isRootless = false → v.isRootless = false) :
    relativePart? v s = some t := by
  unfold relativePart? at h ⊢
  cases hcut : cutScheme s with
  | some cut =>
    rw [hcut] at h
    dsimp only at h ⊢
    rwa [hscheme]
  | none =>
    rw [hcut] at h
    dsimp only at h ⊢
    split at h
    · cases h
    · next hneither =>
      obtain ⟨hkind, hroot⟩ := not_or.1 hneither
      have hstill := hrooted (Bool.eq_false_iff.2 hroot)
      rwa [kind_eq hscheme, hstill, if_neg (by simpa using hkind)]

/-- Behind a page without a root a relative path leads nowhere, unless it names the scheme. -/
theorem relativePart?_or_error {t : List Char} (h : relativePart? base s = some t)
    (hrel : isPathRelative t = true) (hscheme : v.scheme = base.scheme) :
    relativePart? v s = some t ∨ ∃ fault, resolve (some v) s = .error fault := by
  cases hv : v.isRootless with
  | false => exact .inl (relativePart?_again h hscheme fun _ => hv)
  | true =>
    unfold relativePart? at h ⊢
    cases hcut : cutScheme s with
    | some cut =>
      rw [hcut] at h
      dsimp only at h ⊢
      rw [hscheme]
      exact .inl h
    | none =>
      right
      rw [hcut] at h
      dsimp only at h
      split at h
      · cases h
      · obtain rfl := Option.some.inj h
        have hfragment : s.head? ≠ some '#' := by
          intro hmark
          obtain ⟨rest, rfl⟩ := List.head?_eq_some_iff.1 hmark
          cases hrel
        rw [resolve_of_none hcut, readWithoutScheme_eq hfragment, if_pos hv]
        exact ⟨_, rfl⟩

/-- From the folder that it started from a relative path leads to where it has led before. -/
theorem relative_again_of_folder {t : List Char} (hpart : relativePart? base s = some t)
    (hrel : isPathRelative t = true) (h : resolve (some base) s = .ok v)
    (hfolder : Path.folder v.kind v.path = Path.folder base.kind base.path) :
    resolve (some v) s = .ok v ∨ ∃ fault, resolve (some v) s = .error fault := by
  obtain ⟨hkind, hresolve⟩ := resolve_of_relativePart? hpart
  rw [hresolve, readRelative_path hrel] at h
  have hv := Except.ok.inj h
  have hscheme : v.scheme = base.scheme := by rw [← hv]; rfl
  have hauthority : v.authority = base.authority := by rw [← hv]; rfl
  obtain hagain | hfails := relativePart?_or_error hpart hrel hscheme
  · left
    rw [(resolve_of_relativePart? hagain).2, readRelative_path hrel, hfolder, hscheme, hauthority,
      kind_eq hscheme, hv]
  · exact .inr hfails

/-- A relative path that never leads up stays where it has led to exactly if it opens no folder. -/
theorem relative_again_iff {t : List Char} (hpart : relativePart? base s = some t)
    (hrel : isPathRelative t = true) (h : resolve (some base) s = .ok v)
    (hflat : ∀ x ∈ Path.segments base.kind t, Path.isDoubleDot x = false) :
    (∀ w, resolve (some v) s = .ok w → w = v) ↔
      ∀ x ∈ (Path.segments base.kind t).dropLast, Path.dot x = true := by
  obtain ⟨hkind, hresolve⟩ := resolve_of_relativePart? hpart
  have hstart := Path.endsWithSlash_folder hkind base.path
  rw [hresolve, readRelative_path hrel] at h
  have hv := Except.ok.inj h
  have hpath : v.path = (Path.read base.kind (Path.folder base.kind base.path) t).1 := by
    rw [← hv]
    rfl
  have hrooted : base.isRootless = false → v.isRootless = false := by
    intro hroot
    rw [← hv, Path.path_read hkind hstart hflat]
    exact isRootless_below hkind hroot _ _
  have hscheme : v.scheme = base.scheme := by rw [← hv]; rfl
  have hauthority : v.authority = base.authority := by rw [← hv]; rfl
  obtain ⟨_, hagain⟩ := resolve_of_relativePart? (relativePart?_again hpart hscheme hrooted)
  rw [hagain, readRelative_path hrel, ← Path.read_folder_iff hkind hstart hflat, ← hpath]
  simp only [Except.ok.injEq, forall_eq', hscheme, hauthority, kind_eq hscheme]
  constructor
  · intro hsame
    exact congrArg Address.path hsame
  · intro hsame
    rw [hsame, hpath, hv]

/-! ## The root of a site -/

theorem read_root_of_drive {drive : List Char} (h : Path.isNormalDrive drive = true) :
    Path.read .file ('/' :: drive) ['/'] = ('/' :: (drive ++ ['/']), false, []) ∧
      firstSegment ('/' :: (drive ++ ['/'])) = drive := by
  match drive, h with
  | [a, b], h =>
    obtain ⟨ha, rfl⟩ : a.isAlpha = true ∧ b = ':' := by simpa [Path.isNormalDrive] using h
    have hslash : a ≠ '/' := by
      rintro rfl
      cases ha
    constructor
    · simp [Path.read, Path.walk, Path.Walk.close, Kind.slashes, Path.isDoubleDot, Path.dot,
        Path.rooted, Path.isDrive, hslash]
    · simp [firstSegment, hslash]

theorem read_root : Path.read .file [] ['/'] = (['/'], false, []) := by decide

theorem readFile_root (base : Address) :
    readFile (some base) ['/'] =
      .ok (if Path.isNormalDrive (firstSegment base.path) then
          buildFile [] ('/' :: (firstSegment base.path ++ ['/'])) []
        else buildFile (hostOf (some base)) ['/'] []) := by
  have hslash : (['/'].head?.any fun c => c == '/' || c == '\\') = true := rfl
  have hend : ((['/'].drop 1).head?.any fun c => c == '/' || c == '\\') = false := rfl
  have hnodrive : ¬ Path.startsWithDrive (['/'].drop 1) = true := by decide
  simp only [readFile, hslash, hend, Option.map_some, Option.getD_some]
  rw [if_neg hnodrive]
  split
  · next hdrive => rw [(read_root_of_drive hdrive).1]
  · rw [read_root]

theorem readFile_root_again (h : readFile (some base) ['/'] = .ok v) :
    v.kind = .file ∧ readFile (some v) ['/'] = .ok v := by
  rw [readFile_root] at h
  obtain rfl := Except.ok.inj h
  refine ⟨by split <;> rfl, ?_⟩
  rw [readFile_root]
  by_cases hdrive : Path.isNormalDrive (firstSegment base.path) = true
  · have hfirst := (read_root_of_drive hdrive).2
    simp only [if_pos hdrive, buildFile, build, hfirst]
  · have hfirst : firstSegment ['/'] = [] := rfl
    simp only [if_neg hdrive, buildFile, build, hfirst]
    rfl

/-- The link to the root stays from everywhere: on a page that is a file it leads to the root of the
drive, or of all drives. -/
theorem root_again (h : resolve (some base) ['/'] = .ok v) :
    resolve (some v) ['/'] = .ok v ∨ ∃ fault, resolve (some v) ['/'] = .error fault := by
  have hcut : cutScheme ['/'] = none := by decide
  rw [resolve_of_none hcut] at h ⊢
  exact readWithoutScheme_again (by decide) h (fun _ => readFile_root_again)
    (readRelative_again (by decide))

end

end TicketLogin.Address
