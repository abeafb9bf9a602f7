import TicketLogin.Proofs.Page.Scene

/-!
# What every run keeps

A property of browsers that each operation keeps holds throughout every run of a scene. The passes
under way always belong to one surface, and that surface is there.
-/

namespace TicketLogin

/-- A property that no operation takes away. Of a call that is asked for it may be assumed that the
surface is there, has not attempted, and finds the ticket in the current address; of one that is
answered or cancelled, that it was pending. -/
structure Browser.Kept (P : Browser → Prop) : Prop where
  navigate : ∀ b route, P b → P (b.navigate route)
  beginCall : ∀ b i ticket, i < b.surfaces.length → (b.surface i).attempted = false →
    b.history.location.ticket? = some ticket → P b → P (b.beginCall i ticket)
  answerCall : ∀ b n c answer, b.pending? n = some c → P b → P (b.answerCall n c.surface answer).1
  mount : ∀ b : Browser, P b → P { b with surfaces := b.surfaces ++ [.fresh] }
  unmount : ∀ b i, P b → P (b.updateSurface i fun s => { s with mounted := false })
  cancel : ∀ b n c, b.pending? n = some c → P b → P (b.setStatus n .cancelled)
  store : ∀ b store, P b → P { b with store }
  replace : ∀ b address, P b → P { b with history := b.history.replace address }

namespace Browser.Kept

variable {P : Browser → Prop} (h : Browser.Kept P)

include h

theorem leave {b : Browser} (hb : P b) : P b.leave := by
  rcases b.leave_eq with e | e
  · rwa [e]
  · rw [e]
    exact h.navigate b b.landing hb

theorem redeem {b : Browser} {i : Nat} {ticket : Ticket} (answer : Option Answer)
    (hi : i < b.surfaces.length) (hfree : (b.surface i).attempted = false)
    (ht : b.history.location.ticket? = some ticket) (hb : P b) : P (b.redeem i ticket answer).1 := by
  have hbegun := h.beginCall b i ticket hi hfree ht hb
  cases answer with
  | none => exact hbegun
  | some answer => exact h.answerCall _ _ _ answer (b.pending?_beginCall i ticket) hbegun

theorem resume {b : Browser} {i : Nat} (answer : Option Answer) (rest : Rest)
    (hi : i < b.surfaces.length) (hb : P b) : P (b.resume i answer rest).1 := by
  obtain heq | ⟨_, heq⟩ | ⟨_, ticket, _, ht, hfree, heq⟩ := b.resume_cases i answer rest
  · rwa [heq]
  · rw [heq]
    exact h.leave hb
  · rw [heq]
    exact h.redeem answer hi hfree ht hb

theorem outside {b : Browser} {e : Event} (he : e.isRender = false) (hb : P b) :
    P (b.step e).1 := by
  cases e with
  | render => simp [Event.isRender] at he
  | mount => exact h.mount b hb
  | unmount => exact h.unmount b _ hb
  | respond n answer =>
    simp only [Browser.step]
    split
    · exact hb
    · next c hc => exact h.answerCall b n c answer hc hb
  | cancel n =>
    simp only [Browser.step]
    split
    · exact hb
    · next c hc => exact h.cancel b n c hc hb
  | fault => exact h.store b _ hb
  | persist => exact h.store b _ hb
  | read => exact hb
  | clear => exact h.store b _ hb
  | «exists» => exact hb
  | navigate route => exact h.navigate b route hb
  | replace address => exact h.replace b address hb

end Browser.Kept

namespace Scene

/-- The passes under way belong to one surface that is there. -/
structure Sound (s : Scene) : Prop where
  present : ∀ p ∈ s.passes, p.surface < s.browser.surfaces.length
  alike : ∀ p ∈ s.passes, ∀ q ∈ s.passes, p.surface = q.surface

theorem sound_calm (b : Browser) : (calm b).Sound :=
  ⟨fun _ h => absurd h List.not_mem_nil, fun _ h => absurd h List.not_mem_nil⟩

theorem browser_follow (b : Browser) (passes : List OpenPass) (i : Nat) (answer : Option Answer)
    (progress : Progress) : (follow b passes i answer progress).1.browser = b := by
  cases progress <;> rfl

end Scene

theorem Browser.Kept.scene {P : Browser → Prop} (h : Browser.Kept P) {s : Scene} (hs : s.Sound)
    (m : Move) (hb : P s.browser) : P (s.step m).1.browser := by
  obtain ⟨b, passes⟩ := s
  cases m with
  | enter i answer =>
    simp only [Scene.step]
    split
    · rwa [Scene.browser_follow]
    · exact hb
  | resume =>
    cases passes with
    | nil => exact hb
    | cons p passes =>
      simp only [Scene.step]
      rw [Scene.browser_follow]
      exact h.resume p.answer p.rest (hs.present p List.mem_cons_self) hb
  | unmount i =>
    simp only [Scene.step]
    split
    · exact h.unmount b i hb
    · exact hb
  | outside e =>
    simp only [Scene.step]
    split
    · next he =>
      simp only [Bool.and_eq_true, Bool.not_eq_true'] at he
      exact h.outside he.2 hb
    · exact hb

theorem Browser.kept_length (n : Nat) : Browser.Kept fun b => n ≤ b.surfaces.length where
  navigate _ _ hb := hb
  beginCall b i ticket _ _ _ hb := by rwa [b.length_beginCall]
  answerCall b k c answer _ hb := by
    rwa [length_eq_of_frame (b.frame_answerCall k c.surface answer)]
  mount b hb := by simp only [List.length_append]; omega
  unmount b i hb := by rwa [b.length_updateSurface]
  cancel _ _ _ _ hb := hb
  store _ _ hb := hb
  replace _ _ hb := hb

theorem Browser.kept_page (kind : SurfaceKind) (landing : String) :
    Browser.Kept fun b => b.kind = kind ∧ b.landing = landing where
  navigate _ _ hb := hb
  beginCall _ _ _ _ _ _ hb := hb
  answerCall b n c answer _ hb := by
    have h := b.frame_answerCall n c.surface answer
    exact ⟨(congrArg (·.1) h).trans hb.1, (congrArg (·.2.1) h).trans hb.2⟩
  mount _ hb := hb
  unmount _ _ hb := hb
  cancel _ _ _ _ hb := hb
  store _ _ hb := hb
  replace _ _ hb := hb

namespace Scene

theorem Sound.step {s : Scene} (hs : s.Sound) (m : Move) : (s.step m).1.Sound := by
  have hlength := (Browser.kept_length _).scene hs m (Nat.le_refl _)
  cases m with
  | enter i answer =>
    simp only [Scene.step] at hlength ⊢
    split
    · next hadmits =>
      simp only [admits, Bool.and_eq_true, decide_eq_true_eq, List.all_eq_true] at hadmits
      obtain ⟨hi, hall⟩ := hadmits
      cases s.browser.enter i with
      | finished ending => exact ⟨hs.present, hs.alike⟩
      | resting rest =>
        refine ⟨?_, ?_⟩
        · rintro p (_ | ⟨_, hp⟩)
          · exact hi
          · exact hs.present p hp
        · rintro p (_ | ⟨_, hp⟩) q (_ | ⟨_, hq⟩)
          · rfl
          · exact (hall q hq).symm
          · exact hall p hp
          · exact hs.alike p hp q hq
    · exact hs
  | resume =>
    obtain ⟨b, passes⟩ := s
    cases passes with
    | nil => exact hs
    | cons p passes =>
      simp only [Scene.step, browser_follow] at hlength ⊢
      have hpresent : ∀ q ∈ p :: passes, q.surface <
          (b.resume p.surface p.answer p.rest).1.surfaces.length :=
        fun q hq => Nat.lt_of_lt_of_le (hs.present q hq) hlength
      cases (b.resume p.surface p.answer p.rest).2 with
      | finished ending =>
        exact ⟨fun q hq => hpresent q (List.mem_cons_of_mem _ hq),
          fun q hq r hr => hs.alike q (List.mem_cons_of_mem _ hq) r (List.mem_cons_of_mem _ hr)⟩
      | resting rest =>
        refine ⟨?_, ?_⟩
        · rintro q (_ | ⟨_, hq⟩)
          · exact hpresent p List.mem_cons_self
          · exact hpresent q (List.mem_cons_of_mem _ hq)
        · rintro q (_ | ⟨_, hq⟩) r (_ | ⟨_, hr⟩)
          · rfl
          · exact hs.alike p List.mem_cons_self r (List.mem_cons_of_mem _ hr)
          · exact hs.alike q (List.mem_cons_of_mem _ hq) p List.mem_cons_self
          · exact hs.alike q (List.mem_cons_of_mem _ hq) r (List.mem_cons_of_mem _ hr)
  | unmount i =>
    simp only [Scene.step]
    split
    · exact sound_calm _
    · exact hs
  | outside e =>
    simp only [Scene.step]
    split
    · exact sound_calm _
    · exact hs

/-- What is true of a pass when it comes to rest, and what no section of the pass above it takes
away, is true of all passes under way. Nothing else happens while there are any. -/
theorem forall_passes_step {Q : Browser → Nat → Rest → Prop} {s : Scene}
    (hs : ∀ p ∈ s.passes, Q s.browser p.surface p.rest)
    (henter : ∀ i rest, s.browser.enter i = .resting rest → Q s.browser i rest)
    (hresume : ∀ (p : OpenPass) rest, (s.browser.resume p.surface p.answer p.rest).2 = .resting rest →
      Q (s.browser.resume p.surface p.answer p.rest).1 p.surface rest)
    (hbelow : ∀ p passes, s.passes = p :: passes → ∀ q ∈ passes, Q s.browser q.surface q.rest →
      Q (s.browser.resume p.surface p.answer p.rest).1 q.surface q.rest)
    (m : Move) : ∀ p ∈ (s.step m).1.passes, Q (s.step m).1.browser p.surface p.rest := by
  obtain ⟨b, passes⟩ := s
  cases m with
  | enter i answer =>
    simp only [Scene.step]
    split
    · cases hnext : b.enter i with
      | finished ending => exact hs
      | resting rest =>
        rintro q (_ | ⟨_, hq⟩)
        · exact henter i rest hnext
        · exact hs q hq
    · exact hs
  | resume =>
    cases passes with
    | nil => exact hs
    | cons p passes =>
      simp only [Scene.step]
      have hrest : ∀ q ∈ passes, Q (b.resume p.surface p.answer p.rest).1 q.surface q.rest :=
        fun q hq => hbelow p passes rfl q hq (hs q (List.mem_cons_of_mem _ hq))
      cases hnext : (b.resume p.surface p.answer p.rest).2 with
      | finished ending => exact hrest
      | resting rest =>
        rintro q (_ | ⟨_, hq⟩)
        · exact hresume p rest hnext
        · exact hrest q hq
  | unmount i =>
    simp only [Scene.step]
    split
    · exact fun _ hp => absurd hp List.not_mem_nil
    · exact hs
  | outside e =>
    simp only [Scene.step]
    split
    · exact fun _ hp => absurd hp List.not_mem_nil
    · exact hs

theorem Sound.run {s : Scene} (hs : s.Sound) (moves : List Move) : (s.run moves).Sound := by
  induction moves generalizing s with
  | nil => exact hs
  | cons m moves ih => exact ih (hs.step m)

end Scene

theorem Browser.Kept.run {P : Browser → Prop} (h : Browser.Kept P) {s : Scene} (hs : s.Sound)
    (moves : List Move) (hb : P s.browser) : P (s.run moves).browser := by
  induction moves generalizing s with
  | nil => exact hb
  | cons m moves ih => exact ih (hs.step m) (h.scene hs m hb)

end TicketLogin
