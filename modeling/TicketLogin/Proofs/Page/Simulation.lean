import TicketLogin.Proofs.Page.Invariant

/-!
# Runs of a browser are runs of its scene

A whole pass, with what interrupts it after its reads, is a run of moves: its own sections, and
between them the moves of the interruptions. Hence each event of a browser is a run of moves, and so
is each run of events; what holds in every scene holds in every browser.
-/

namespace TicketLogin

namespace Browser

theorem exchangePass_eq (b : Browser) (i : Nat) (atRead : Interruption) (answer : Option Answer) :
    b.exchangePass i atRead answer =
      if (b.surface i).phase.isTerminal || (b.surface i).attempted then
        ⟨b, .done (.exchanged (b.surface i).phase), none⟩
      else
        let ended := (atRead b).1.endExchange i answer (b.surface i).phase b.store.hasSession
        ⟨ended.1, ended.2, (atRead b).2⟩ := by
  simp only [exchangePass, endExchange]
  split
  · rfl
  · split
    · rfl
    · cases (atRead b).1.history.location.ticket? with
      | none => rfl
      | some ticket =>
        dsimp only
        split <;> rfl

end Browser

namespace Scene

/-- An interruption that passes of one surface bring about, within whatever passes of it. -/
def Realizes (i : Nat) (f : Interruption) : Prop :=
  ∀ b passes, (⟨b, passes⟩ : Scene).admits i = true →
    ∃ moves, (⟨b, passes⟩ : Scene).run moves = ⟨(f b).1, passes⟩

theorem admits_iff {b : Browser} {passes : List OpenPass} {i : Nat} :
    (⟨b, passes⟩ : Scene).admits i = true ↔
      i < b.surfaces.length ∧ ∀ p ∈ passes, p.surface = i := by
  simp [admits]

theorem sound_of_admits {s : Scene} {i : Nat} (h : s.admits i = true) : s.Sound := by
  obtain ⟨hi, hall⟩ := admits_iff.1 h
  refine ⟨fun p hp => ?_, fun p hp q hq => ?_⟩
  · rwa [hall p hp]
  · rw [hall p hp, hall q hq]

theorem realizes_uninterrupted (i : Nat) : Realizes i Browser.uninterrupted :=
  fun _ _ _ => ⟨[], rfl⟩

theorem Realizes.stays {i : Nat} {f : Interruption} (hf : Realizes i f) {b : Browser}
    {passes : List OpenPass} (h : (⟨b, passes⟩ : Scene).admits i = true) :
    (⟨(f b).1, passes⟩ : Scene).admits i = true ∧ (f b).1.kind = b.kind := by
  obtain ⟨moves, hrun⟩ := hf b passes h
  have hlength := (Browser.kept_length b.surfaces.length).run (sound_of_admits h) moves
    (Nat.le_refl _)
  have hpage := (Browser.kept_page b.kind b.landing).run (sound_of_admits h) moves ⟨rfl, rfl⟩
  rw [hrun] at hlength hpage
  obtain ⟨hi, hall⟩ := admits_iff.1 h
  exact ⟨admits_iff.2 ⟨Nat.lt_of_lt_of_le hi hlength, hall⟩, hpage.1⟩

theorem admits_cons {b : Browser} {passes : List OpenPass} {i : Nat} (answer : Option Answer)
    (rest : Rest) (h : (⟨b, passes⟩ : Scene).admits i = true) :
    (⟨b, ⟨i, answer, rest⟩ :: passes⟩ : Scene).admits i = true := by
  obtain ⟨hi, hall⟩ := admits_iff.1 h
  refine admits_iff.2 ⟨hi, ?_⟩
  rintro p (_ | ⟨_, hp⟩)
  · rfl
  · exact hall p hp

/-- Some moves lead to a scene, and the last of them reports how a pass of a surface ended. -/
def Ends (s : Scene) (i : Nat) (t : Scene) (ending : Ending) : Prop :=
  ∃ moves last, (s.run moves).subject? last = some i ∧
    (s.run moves).step last = (t, .ended ending none)

theorem Ends.exists_run {s t : Scene} {i : Nat} {ending : Ending} (h : s.Ends i t ending) :
    ∃ moves, s.run moves = t := by
  obtain ⟨moves, last, _, hlast⟩ := h
  refine ⟨moves ++ [last], ?_⟩
  rw [run_append, run_cons, hlast]
  rfl

/-- A pass that has come to rest is interrupted, and goes on with its next section. -/
theorem exists_run_rest {s : Scene} {m : Move} {i : Nat} {f : Interruption} (hf : Realizes i f)
    {b : Browser} {passes : List OpenPass} {answer : Option Answer} {rest : Rest}
    (h : (⟨b, passes⟩ : Scene).admits i = true)
    (hm : s.step m = follow b passes i answer (.resting rest)) :
    ∃ moves, (s.run moves).subject? .resume = some i ∧
      (s.run moves).step .resume = follow ((f b).1.resume i answer rest).1 passes i answer
        ((f b).1.resume i answer rest).2 := by
  obtain ⟨moves, hrun⟩ := hf b _ (admits_cons answer rest h)
  have hall : s.run (m :: moves) = ⟨(f b).1, ⟨i, answer, rest⟩ :: passes⟩ := by
    rw [run_cons, hm]
    exact hrun
  refine ⟨m :: moves, ?_, ?_⟩
  · rw [hall]
    rfl
  · rw [hall]
    rfl

theorem ends_exchange {s : Scene} {m : Move} {i : Nat} {f : Interruption} (hf : Realizes i f)
    {b : Browser} {passes : List OpenPass} {answer : Option Answer}
    (h : (⟨b, passes⟩ : Scene).admits i = true) (hsubject : s.subject? m = some i)
    (hm : s.step m = follow b passes i answer (b.beginExchange i)) :
    s.Ends i ⟨(b.exchangePass i f answer).browser, passes⟩ (b.exchangePass i f answer).ending := by
  rw [b.exchangePass_eq]
  by_cases hover : ((b.surface i).phase.isTerminal || (b.surface i).attempted) = true
  · rw [Browser.beginExchange, if_pos hover] at hm
    rw [if_pos hover]
    exact ⟨[], m, hsubject, hm⟩
  · rw [Browser.beginExchange, if_neg hover] at hm
    obtain ⟨moves, hsubject, hrun⟩ := exists_run_rest hf h hm
    rw [if_neg hover]
    exact ⟨moves, .resume, hsubject, hrun⟩

/-- A whole pass is a run of moves that leaves the passes around it as they were, and its last move
reports its ending. -/
theorem ends_pass {i : Nat} {first second : Interruption} (hf : Realizes i first)
    (hs : Realizes i second) {b : Browser} {passes : List OpenPass} (answer : Option Answer)
    (h : (⟨b, passes⟩ : Scene).admits i = true) :
    (⟨b, passes⟩ : Scene).Ends i ⟨(b.pass i first second answer).browser, passes⟩
      (b.pass i first second answer).ending := by
  have henter : (⟨b, passes⟩ : Scene).step (.enter i answer) =
      follow b passes i answer (b.enter i) := by
    rw [step, if_pos h]
  obtain ⟨hstays, hkind⟩ := hf.stays h
  cases hb : b.kind with
  | exchange =>
    simp only [Browser.enter, hb] at henter
    simp only [Browser.pass, hb]
    exact ends_exchange hf h rfl henter
  | guard =>
    simp only [Browser.enter, hb] at henter
    obtain ⟨moves, hsubject, hrun⟩ := exists_run_rest hf h henter
    simp only [Browser.resume, hkind, hb, reduceCtorEq, if_false] at hrun
    simp only [Browser.pass, hb]
    exact ⟨moves, .resume, hsubject, hrun⟩
  | page =>
    simp only [Browser.enter, hb] at henter
    obtain ⟨moves, hsubject, hrun⟩ := exists_run_rest hf h henter
    simp only [Browser.resume, hkind, hb, if_true] at hrun
    cases hfound : b.store.hasSession with
    | true =>
      simp only [hfound, if_true] at hrun
      simp only [Browser.pass, Browser.guardPass, hb, hfound]
      exact ⟨moves, .resume, hsubject, hrun⟩
    | false =>
      simp only [hfound, Bool.false_eq_true, if_false] at hrun
      obtain ⟨more, last, hlast, hmore⟩ := ends_exchange hs hstays hsubject hrun
      simp only [Browser.pass, Browser.guardPass, hb, hfound, Bool.false_eq_true, if_false]
      refine ⟨moves ++ more, last, ?_, ?_⟩
      · rw [run_append]
        exact hlast
      · rw [run_append]
        exact hmore

theorem realizes_simplePass (i : Nat) (answer : Option Answer) :
    Realizes i fun b => ((b.simplePass i answer).1, some (b.simplePass i answer).2) :=
  fun _ _ h => (ends_pass (realizes_uninterrupted i) (realizes_uninterrupted i) answer h).exists_run

theorem Realizes.ite {c : Prop} [Decidable c] {i : Nat} {f g : Interruption} (hf : Realizes i f)
    (hg : Realizes i g) : Realizes i (if c then f else g) := by
  split
  · exact hf
  · exact hg

theorem admits_calm {b : Browser} (h : b.surfaces ≠ []) : (calm b).admits b.current = true := by
  refine admits_iff.2 ⟨?_, fun _ hp => absurd hp List.not_mem_nil⟩
  have := List.length_pos_iff.2 h
  simp only [Browser.current]
  omega

theorem ends_render {b : Browser} (h : b.surfaces ≠ []) (answer : Option Answer)
    (nested : Option Nested) :
    (calm b).Ends b.current (calm (b.render answer nested).browser) (b.render answer nested).ending := by
  have hadmits := admits_calm h
  have hquiet := realizes_uninterrupted b.current
  cases nested with
  | none => exact ends_pass hquiet hquiet answer hadmits
  | some nested =>
    have hinner := realizes_simplePass b.current nested.answer
    exact ends_pass (hinner.ite hquiet) (hinner.ite hquiet) answer hadmits

theorem exists_run_step {b : Browser} (h : b.surfaces ≠ []) (e : Event) :
    ∃ moves, (calm b).run moves = calm (b.step e).1 := by
  by_cases he : e.isRender = true
  · cases e with
    | render answer nested => exact (ends_render h answer nested).exists_run
    | _ => cases he
  · refine ⟨[.outside e], ?_⟩
    simp only [run_cons, run_nil, step, calm, List.isEmpty_nil, Bool.true_and, Bool.not_eq_true',
      Bool.not_eq_true] at he ⊢
    rw [if_pos he]

theorem surfaces_step {b : Browser} (h : b.surfaces ≠ []) (e : Event) :
    (b.step e).1.surfaces ≠ [] := by
  obtain ⟨moves, hmoves⟩ := exists_run_step h e
  have hlength := (Browser.kept_length b.surfaces.length).run (sound_calm b) moves (Nat.le_refl _)
  rw [hmoves] at hlength
  exact List.length_pos_iff.1 (Nat.lt_of_lt_of_le (List.length_pos_iff.2 h) hlength)

/-- Whatever a run of events makes of a browser, some moves make of its scene. -/
theorem exists_run_eq {b : Browser} (h : b.surfaces ≠ []) (events : List Event) :
    ∃ moves, (calm b).run moves = calm (b.run events) := by
  induction events generalizing b with
  | nil => exact ⟨[], rfl⟩
  | cons e events ih =>
    obtain ⟨moves, hmoves⟩ := exists_run_step h e
    obtain ⟨more, hmore⟩ := ih (surfaces_step h e)
    refine ⟨moves ++ more, ?_⟩
    rw [run_append, hmoves, hmore]
    rfl

end Scene

theorem Browser.run_append (b : Browser) (first second : List Event) :
    b.run (first ++ second) = (b.run first).run second := List.foldl_append ..

theorem Browser.surfaces_run {b : Browser} (h : b.surfaces ≠ []) (events : List Event) :
    (b.run events).surfaces ≠ [] := by
  induction events generalizing b with
  | nil => exact h
  | cons e events ih => exact ih (Scene.surfaces_step h e)

theorem Browser.Kept.events {P : Browser → Prop} (h : Browser.Kept P) {b : Browser}
    (hb : b.surfaces ≠ []) (events : List Event) (hp : P b) : P (b.run events) := by
  obtain ⟨moves, hrun⟩ := Scene.exists_run_eq hb events
  have hkept := h.run (Scene.sound_calm b) moves hp
  rwa [hrun] at hkept

end TicketLogin
