import TicketLogin.Disk
import TicketLogin.Proofs.Address.Pairs

/-!
# The steps of a path

A path of a file in a folder takes the steps of the folder and one more, and its parent takes those
of the folder. How the folder is written does not matter: with slashes at its end, with single dots,
from the root or not.
-/

namespace TicketLogin.Disk

def names (path : List Char) : List String := (Text.splitOn '/' path).map String.ofList

def isStep (name : String) : Bool := name ≠ "" ∧ name ≠ "."

/-- The steps among names. The name of the root is none in the first place. -/
def stepsOf (names : List String) : List String :=
  (if names.head? = some rootName then names.drop 1 else names).filter isStep

theorem steps_eq (path : String) : steps path = stepsOf (names path.toList) := rfl

theorem names_append (path rest : List Char) :
    names (path ++ '/' :: rest) = names path ++ names rest := by
  rw [names, Text.splitOn_append_sep, List.map_append]
  rfl

theorem names_ne_nil (path : List Char) : names path ≠ [] := by
  intro h
  exact Text.splitOn_ne_nil '/' path (List.map_eq_nil_iff.1 h)

theorem stepsOf_append {names : List String} (h : names ≠ []) (more : List String) :
    stepsOf (names ++ more) = stepsOf names ++ more.filter isStep := by
  cases names with
  | nil => exact absurd rfl h
  | cons name names =>
    simp only [stepsOf, List.cons_append, List.head?_cons, List.drop_succ_cons, List.drop_zero]
    split
    · rw [List.filter_append]
    · rw [← List.cons_append, List.filter_append]

theorem stepsOf_names_append (path rest : List Char) :
    stepsOf (names (path ++ '/' :: rest)) = stepsOf (names path) ++ (names rest).filter isStep := by
  rw [names_append, stepsOf_append (names_ne_nil path)]

theorem stepsOf_drop (path : List Char) :
    stepsOf (names (trimEnd.drop path).reverse) = stepsOf (names path.reverse) := by
  induction path using trimEnd.drop.induct with
  | case1 c rest ih =>
    rw [trimEnd.drop, ih, List.reverse_cons (a := '/'), stepsOf_names_append]
    exact (List.append_nil _).symm
  | case2 c rest ih =>
    have hdot : ('.' :: '/' :: c :: rest).reverse = (c :: rest).reverse ++ ['/', '.'] := by
      simp
    rw [trimEnd.drop, ih, hdot, stepsOf_names_append]
    exact (List.append_nil _).symm
  | case3 path hslash hdot =>
    rw [trimEnd.drop]
    · exact hslash
    · exact hdot

theorem stepsOf_trimEnd (path : List Char) :
    stepsOf (names (trimEnd path)) = stepsOf (names path) := by
  rw [trimEnd, stepsOf_drop, List.reverse_reverse]

/-- A name that a file of a folder may have. -/
structure IsName (name : String) : Prop where
  whole : '/' ∉ name.toList
  step : isStep name = true
  inner : name ≠ rootName

variable {name : String}

theorem names_of_whole (h : '/' ∉ name.toList) : names name.toList = [name] := by
  rw [names, Text.splitOn_of_not_mem h, List.map_singleton, String.ofList_toList]

theorem IsName.names_eq (h : IsName name) : names name.toList = [name] := names_of_whole h.whole

theorem IsName.steps_eq (h : IsName name) : steps name = [name] := by
  have hinner : some name ≠ some rootName := fun heq => h.inner (Option.some.inj heq)
  rw [Disk.steps_eq, h.names_eq, stepsOf, List.head?_singleton, if_neg hinner,
    List.filter_cons_of_pos h.step, List.filter_nil]

/-- A file in a folder that has a name is written with one slash between the two. -/
theorem child_split {home : String} (hhome : home ≠ "") (name : String) :
    ∃ folder, (child home name).toList = folder ++ '/' :: name.toList ∧
      stepsOf (names folder) = steps home := by
  rw [child, if_neg hhome]
  split
  · next hlast =>
    obtain ⟨folder, hfolder⟩ := List.getLast?_eq_some_iff.1 hlast
    refine ⟨folder, ?_, ?_⟩
    · rw [String.toList_append, hfolder, List.append_assoc, List.singleton_append]
    · rw [Disk.steps_eq, hfolder, stepsOf_names_append]
      exact (List.append_nil _).symm
  · refine ⟨home.toList, ?_, rfl⟩
    rw [String.toList_append, String.toList_append, List.append_assoc]
    rfl

theorem steps_child (h : IsName name) (home : String) :
    steps (child home name) = steps home ++ [name] := by
  by_cases hhome : home = ""
  · subst hhome
    rw [child, if_pos rfl, h.steps_eq]
    rfl
  · obtain ⟨folder, hpath, hsteps⟩ := child_split hhome name
    rw [Disk.steps_eq, hpath, stepsOf_names_append, hsteps, h.names_eq,
      List.filter_cons_of_pos h.step, List.filter_nil]

theorem beforeName_split {name : List Char} (h : '/' ∉ name) (folder : List Char) :
    beforeName (folder ++ '/' :: name) = folder ++ ['/'] := by
  have hname : ∀ c ∈ name.reverse, decide (c ≠ '/') = true := by
    intro c hc
    refine decide_eq_true ?_
    rintro rfl
    exact h (List.mem_reverse.1 hc)
  rw [beforeName, List.reverse_append, List.reverse_cons, List.append_assoc,
    List.dropWhile_append_of_pos hname]
  simp

theorem beforeName_of_whole {path : List Char} (h : '/' ∉ path) : beforeName path = [] := by
  rw [beforeName, List.reverse_eq_nil_iff, List.dropWhile_eq_nil_iff]
  intro c hc
  refine decide_eq_true ?_
  rintro rfl
  exact h (List.mem_reverse.1 hc)

theorem trimEnd_of_whole {path : List Char} (h : '/' ∉ path) : trimEnd path = path := by
  have hreverse : '/' ∉ path.reverse := fun hslash => h (List.mem_reverse.1 hslash)
  rw [trimEnd, trimEnd.drop, List.reverse_reverse]
  · rintro c rest heq
    rw [heq] at hreverse
    exact hreverse List.mem_cons_self
  · rintro c rest heq
    rw [heq] at hreverse
    exact hreverse (List.mem_cons_of_mem _ List.mem_cons_self)

theorem steps_parent (path : String) :
    steps (parent path) = stepsOf (names (beforeName (trimEnd path.toList))) := by
  rw [parent, Disk.steps_eq, String.toList_ofList, stepsOf_trimEnd]

/-- Behind the first character no slash is left at the end, and no dot behind a slash. -/
theorem drop_ne (path : List Char) (c : Char) (rest : List Char) :
    trimEnd.drop path ≠ '/' :: c :: rest ∧ trimEnd.drop path ≠ '.' :: '/' :: c :: rest := by
  induction path using trimEnd.drop.induct with
  | case1 c' rest' ih =>
    rw [trimEnd.drop]
    exact ih
  | case2 c' rest' ih =>
    rw [trimEnd.drop]
    exact ih
  | case3 path hslash hdot =>
    rw [trimEnd.drop]
    · exact ⟨hslash c rest, hdot c rest⟩
    · exact hslash
    · exact hdot

theorem trimEnd_ne_concat {path front back : List Char} (hback : back = [] ∨ back = ['.'])
    (h : trimEnd path = front ++ '/' :: back) : front = [] := by
  have hdrop : trimEnd.drop path.reverse = back.reverse ++ '/' :: front.reverse := by
    rw [← List.reverse_inj, ← trimEnd, h]
    simp
  refine List.reverse_eq_nil_iff.1 ?_
  cases hfront : front.reverse with
  | nil => rfl
  | cons c rest =>
    rw [hfront] at hdrop
    obtain ⟨hslash, hdot⟩ := drop_ne path.reverse c rest
    obtain rfl | rfl := hback
    · exact absurd hdrop hslash
    · exact absurd hdrop hdot

theorem not_isStep_iff {name : List Char} :
    ¬ isStep (String.ofList name) = true ↔ name = [] ∨ name = ['.'] := by
  have hempty : String.ofList name = "" ↔ name = [] := String.ofList_inj
  have hdot : String.ofList name = "." ↔ name = ['.'] := String.ofList_inj
  simp [isStep, hempty, hdot, imp_iff_not_or]

/-- A path leads to the root, or takes one step more than its parent. -/
theorem steps_eq_nil_or_concat (path : String) :
    steps path = [] ∨ ∃ name, steps path = steps (parent path) ++ [name] := by
  rw [steps_parent, Disk.steps_eq, ← stepsOf_trimEnd]
  generalize htrimmed : trimEnd path.toList = trimmed
  by_cases hslash : '/' ∈ trimmed
  · obtain ⟨back, front, hreverse, hback⟩ :=
      List.eq_append_cons_of_mem (List.mem_reverse.2 hslash)
    have hwhole : '/' ∉ back.reverse := fun h => hback (List.mem_reverse.1 h)
    have hpath : trimmed = front.reverse ++ '/' :: back.reverse := by
      rw [← trimmed.reverse_reverse, hreverse]
      simp
    have hbefore : stepsOf (names (beforeName trimmed)) = stepsOf (names front.reverse) := by
      rw [hpath, beforeName_split hwhole, stepsOf_names_append]
      exact List.append_nil _
    have hlast : names back.reverse = [String.ofList back.reverse] := by
      rw [names, Text.splitOn_of_not_mem hwhole, List.map_singleton]
    rw [hbefore, hpath, stepsOf_names_append, hlast]
    by_cases hstep : isStep (String.ofList back.reverse) = true
    · exact .inr ⟨_, by rw [List.filter_cons_of_pos hstep, List.filter_nil]⟩
    · have hfront := trimEnd_ne_concat (not_isStep_iff.1 hstep) (htrimmed.trans hpath)
      rw [hfront, List.filter_cons_of_neg hstep]
      exact .inl rfl
  · have hwhole : names trimmed = [String.ofList trimmed] := by
      rw [names, Text.splitOn_of_not_mem hslash, List.map_singleton]
    rw [beforeName_of_whole hslash, hwhole, stepsOf]
    split
    · exact .inl rfl
    · by_cases hstep : isStep (String.ofList trimmed) = true
      · exact .inr ⟨_, List.filter_cons_of_pos hstep⟩
      · exact .inl (List.filter_cons_of_neg hstep)

example : parent "<TMP>/state/./" = "<TMP>" := by decide +kernel

theorem trimEnd_name (h : IsName name) (folder : List Char) :
    trimEnd (folder ++ '/' :: name.toList) = folder ++ '/' :: name.toList := by
  have hwhole : '/' ∉ name.toList.reverse := fun hslash => h.whole (List.mem_reverse.1 hslash)
  have hstep : name ≠ "" ∧ name ≠ "." := of_decide_eq_true h.step
  have hreverse : (folder ++ '/' :: name.toList).reverse =
      name.toList.reverse ++ '/' :: folder.reverse := by simp
  rw [trimEnd, hreverse]
  cases hname : name.toList.reverse with
  | nil => exact absurd (String.toList_eq_nil_iff.1 (List.reverse_eq_nil_iff.1 hname)) hstep.1
  | cons c rest =>
    rw [hname] at hwhole
    obtain ⟨hc, hrest⟩ := not_or.1 fun hmem => hwhole (List.mem_cons.2 hmem)
    rw [trimEnd.drop, ← hname, ← hreverse, List.reverse_reverse]
    · rintro c' rest' heq
      exact hc (List.cons.inj heq).1.symm
    · rintro c' rest' heq
      obtain rfl := (List.cons.inj heq).1
      cases rest with
      | nil =>
        refine hstep.2 (String.toList_inj.1 ?_)
        rw [← name.toList.reverse_reverse, hname]
        rfl
      | cons c'' rest =>
        have hslash : c'' = '/' := (List.cons.inj (List.cons.inj heq).2).1
        exact hrest (hslash ▸ List.mem_cons_self)

theorem steps_parent_child (h : IsName name) (home : String) :
    steps (parent (child home name)) = steps home := by
  rw [steps_parent]
  by_cases hhome : home = ""
  · subst hhome
    rw [child, if_pos rfl, trimEnd_of_whole h.whole, beforeName_of_whole h.whole]
    rfl
  · obtain ⟨folder, hpath, hsteps⟩ := child_split hhome name
    rw [hpath, trimEnd_name h, beforeName_split h.whole, stepsOf_names_append, ← hsteps]
    exact List.append_nil _

end TicketLogin.Disk
