import TicketLogin.Proofs.Address.Marks

/-!
# Paths by their segments

As long as no segment leads up, a path that is read behind a folder is the folder and what the
segments come to, and that does not hang on the folder. The page stays in its folder exactly if no
segment but the last is more than a dot.
-/

namespace TicketLogin.Address.Path

/-- A character as a path writes it. -/
def written (c : Char) : List Char := if Escapes.inPath c then Percent.encodeChar c else [c]

/-- The segments of the path at the front of a text, as they are written. -/
def segments (k : Kind) : List Char → List (List Char)
  | [] => [[]]
  | c :: rest =>
    if k.slashes c then [] :: segments k rest
    else if isMark c then [[]]
    else (segments k rest).modifyHead (written c ++ ·)

/-- What segments come to behind a folder, if none of them leads up. -/
def below : List (List Char) → List Char
  | [] => []
  | [seg] => if dot seg then [] else seg
  | seg :: more => (if dot seg then [] else seg ++ ['/']) ++ below more

section

variable {k : Kind} {done seg : List Char}

theorem segments_ne_nil (k : Kind) (s : List Char) : segments k s ≠ [] := by
  induction s with
  | nil => exact List.cons_ne_nil _ _
  | cons c rest ih =>
    unfold segments
    split
    · exact List.cons_ne_nil _ _
    · split
      · exact List.cons_ne_nil _ _
      · rwa [Ne, List.modifyHead_eq_nil_iff]

theorem slash_not_mem_written {c : Char} (hc : k.slashes c = false) : '/' ∉ written c := by
  unfold written
  split
  · intro hmem
    obtain h | h := Percent.mem_encodeChar hmem
    · cases h
    · exact absurd h (by decide)
  · intro hmem
    rw [← List.mem_singleton.1 hmem] at hc
    cases k <;> cases hc

theorem slash_not_mem_segments (k : Kind) (s : List Char) : ∀ x ∈ segments k s, '/' ∉ x := by
  induction s with
  | nil => simp [segments]
  | cons c rest ih =>
    unfold segments
    split
    · simpa using ih
    · next hslash =>
      split
      · simp
      · cases hrest : segments k rest with
        | nil => simp
        | cons first more =>
          rw [hrest] at ih
          have hc := slash_not_mem_written (k := k) (Bool.eq_false_iff.2 hslash)
          simp only [List.modifyHead_cons, List.forall_mem_cons, List.mem_append, not_or] at ih ⊢
          exact ⟨⟨hc, ih.1⟩, ih.2⟩

/-! ## Reading by segments -/

theorem withSlash_of_endsWithSlash (h : endsWithSlash done = true) : withSlash done = done := by
  rw [withSlash, if_pos h]

theorem close_eq (hk : k ≠ .file) (hdone : endsWithSlash done = true)
    (hseg : isDoubleDot seg = false) (slash hostless : Bool) :
    Walk.close k slash ⟨done, seg, hostless⟩ =
      ⟨done ++ if dot seg then [] else seg ++ if slash then ['/'] else [], [], hostless⟩ := by
  simp only [Walk.close, hseg, Bool.false_eq_true, if_false, hk, false_and]
  split
  · rw [withSlash_of_endsWithSlash hdone, List.append_nil]
  · rw [List.append_assoc]

theorem push_eq (hk : k ≠ .file) (c : Char) (hostless : Bool) :
    Walk.push k c ⟨done, seg, hostless⟩ = ⟨done, seg ++ written c, hostless⟩ := by
  simp only [Walk.push, hk, false_and, if_false, written]

theorem below_cons {more : List (List Char)} (hmore : more ≠ []) (seg : List Char) :
    below (seg :: more) = (if dot seg then [] else seg ++ ['/']) ++ below more := by
  cases more with
  | nil => exact absurd rfl hmore
  | cons first more => rfl

theorem endsWithSlash_step (hdone : endsWithSlash done = true) (seg : List Char) :
    endsWithSlash (done ++ if dot seg then [] else seg ++ ['/']) = true := by
  split
  · rwa [List.append_nil]
  · simp [endsWithSlash]

theorem modifyHead_nil_append (segs : List (List Char)) : segs.modifyHead ([] ++ ·) = segs := by
  cases segs <;> rfl

/-- The open segment counts as the front of the first segment that is left. -/
theorem done_walk (hk : k ≠ .file) (s : List Char) (hdone : endsWithSlash done = true)
    (hflat : ∀ x ∈ (segments k s).modifyHead (seg ++ ·), isDoubleDot x = false) (hostless : Bool) :
    (walk k ⟨done, seg, hostless⟩ s).1.done =
      done ++ below ((segments k s).modifyHead (seg ++ ·)) := by
  induction s generalizing done seg with
  | nil =>
    have hseg : isDoubleDot seg = false := by simpa [segments] using hflat
    simp [walk, close_eq hk hdone hseg, segments, below]
  | cons c rest ih =>
    simp only [walk, segments] at hflat ⊢
    by_cases hslash : k.slashes c = true
    · simp only [hslash, if_true, List.modifyHead_cons, List.append_nil, List.forall_mem_cons]
        at hflat ⊢
      have hrest := @ih _ [] (endsWithSlash_step hdone seg)
      rw [modifyHead_nil_append] at hrest
      rw [close_eq hk hdone hflat.1, below_cons (segments_ne_nil k rest)]
      simp only [if_true]
      rw [hrest hflat.2, List.append_assoc]
    · by_cases hmark : isMark c = true
      · have hopen : c = '?' ∨ c = '#' := by simpa [isMark] using hmark
        simp only [hslash, hmark, hopen, if_true, Bool.false_eq_true, if_false,
          List.modifyHead_cons, List.append_nil, List.forall_mem_cons] at hflat ⊢
        simp [close_eq hk hdone hflat.1, below]
      · have hclosed : ¬ (c = '?' ∨ c = '#') := by simpa [isMark] using hmark
        have hfront : (seg ++ ·) ∘ (written c ++ ·) = (seg ++ written c ++ ·) := by
          funext x
          exact (List.append_assoc seg (written c) x).symm
        simp only [hslash, hmark, hclosed, Bool.false_eq_true, if_false, List.modifyHead_modifyHead,
          hfront, push_eq hk] at hflat ⊢
        exact ih hdone hflat

theorem path_read (hk : k ≠ .file) {folder s : List Char} (hfolder : endsWithSlash folder = true)
    (hflat : ∀ x ∈ segments k s, isDoubleDot x = false) :
    (read k folder s).1 = folder ++ below (segments k s) := by
  have hdone := @done_walk k folder [] hk s hfolder
  rw [modifyHead_nil_append] at hdone
  rw [read]
  dsimp only
  rw [rooted, if_neg hk]
  exact hdone hflat false

/-! ## The folder of a page -/

/-- The folder that a relative path is read behind. -/
def folder (k : Kind) (path : List Char) : List Char :=
  if pop k path = [] then ['/'] else pop k path

theorem uptoLastSlash_eq_nil_iff (path : List Char) : uptoLastSlash path = [] ↔ '/' ∉ path := by
  rw [uptoLastSlash, List.reverse_eq_nil_iff, List.dropWhile_eq_nil_iff]
  constructor
  · intro h hmem
    exact absurd (h '/' (List.mem_reverse.2 hmem)) (by decide)
  · intro h c hc
    rw [bne_iff_ne]
    rintro rfl
    exact h (List.mem_reverse.1 hc)

theorem reverse_of_endsWithSlash (h : endsWithSlash done = true) :
    ∃ rest, done.reverse = '/' :: rest := by
  rw [endsWithSlash, beq_iff_eq, ← List.head?_reverse, List.head?_eq_some_iff] at h
  exact h

theorem uptoLastSlash_append (hdone : endsWithSlash done = true) (path : List Char) :
    uptoLastSlash (done ++ path) = done ++ uptoLastSlash path := by
  obtain ⟨rest, hrest⟩ := reverse_of_endsWithSlash hdone
  have hstop : done.reverse.dropWhile (· != '/') = done.reverse := by
    rw [hrest]
    exact List.dropWhile_cons_of_neg (by decide)
  rw [uptoLastSlash, List.reverse_append, List.dropWhile_append, hstop]
  split
  · next hnil =>
    rw [uptoLastSlash, List.isEmpty_iff.1 hnil, List.reverse_reverse, List.reverse_nil,
      List.append_nil]
  · rw [List.reverse_append, List.reverse_reverse, uptoLastSlash]

theorem endsWithSlash_uptoLastSlash {path : List Char} (h : uptoLastSlash path ≠ []) :
    endsWithSlash (uptoLastSlash path) = true := by
  rw [uptoLastSlash, Ne, List.reverse_eq_nil_iff] at h
  have hhead := List.head?_dropWhile_not (· != '/') path.reverse
  rw [endsWithSlash, uptoLastSlash, List.getLast?_reverse]
  cases hdrop : path.reverse.dropWhile (· != '/') with
  | nil => exact absurd hdrop h
  | cons c rest =>
    rw [hdrop] at hhead
    simpa using hhead

theorem pop_eq (hk : k ≠ .file) (path : List Char) : pop k path = uptoLastSlash path := by
  rw [pop, if_neg fun h => hk h.1]

theorem endsWithSlash_folder (hk : k ≠ .file) (path : List Char) :
    endsWithSlash (folder k path) = true := by
  rw [folder, pop_eq hk]
  split
  · rfl
  · next hsome => exact endsWithSlash_uptoLastSlash hsome

theorem folder_append (hk : k ≠ .file) (hdone : endsWithSlash done = true) (path : List Char) :
    folder k (done ++ path) = done ++ uptoLastSlash path := by
  have hsome : done ≠ [] := by
    rintro rfl
    cases hdone
  rw [folder, pop_eq hk, uptoLastSlash_append hdone,
    if_neg fun h => hsome (List.append_eq_nil_iff.1 h).1]

/-- No slash is added exactly if all segments but the last are dots. -/
theorem slash_not_mem_below_iff {segs : List (List Char)} (hclean : ∀ x ∈ segs, '/' ∉ x) :
    '/' ∉ below segs ↔ ∀ x ∈ segs.dropLast, dot x = true := by
  induction segs with
  | nil => simp [below]
  | cons seg more ih =>
    obtain ⟨hseg, hmore⟩ := List.forall_mem_cons.1 hclean
    cases more with
    | nil =>
      simp only [below, List.dropLast_singleton, List.not_mem_nil, false_implies, implies_true,
        iff_true]
      split
      · exact List.not_mem_nil
      · exact hseg
    | cons first more =>
      rw [below_cons (List.cons_ne_nil _ _), List.mem_append, not_or, ih hmore,
        List.dropLast_cons_of_ne_nil (List.cons_ne_nil _ _), List.forall_mem_cons]
      refine and_congr_left fun _ => ?_
      cases dot seg <;> simp

/-- A page moves on from folder to folder each time that a relative path is followed, unless the
path opens no folder. -/
theorem read_folder_iff (hk : k ≠ .file) {start s : List Char} (hstart : endsWithSlash start = true)
    (hflat : ∀ x ∈ segments k s, isDoubleDot x = false) :
    (read k (folder k (read k start s).1) s).1 = (read k start s).1 ↔
      ∀ x ∈ (segments k s).dropLast, dot x = true := by
  have hfolder := endsWithSlash_folder hk (start ++ below (segments k s))
  rw [path_read hk hstart hflat, path_read hk hfolder hflat, folder_append hk hstart,
    List.append_assoc, List.append_cancel_left_eq, List.append_left_eq_self,
    uptoLastSlash_eq_nil_iff, slash_not_mem_below_iff (slash_not_mem_segments k s)]

end

end TicketLogin.Address.Path
