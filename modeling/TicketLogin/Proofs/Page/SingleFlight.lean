import TicketLogin.Proofs.Page.Simulation

/-!
# Who asks for a redemption

A surface asks once at most, and it has asked exactly when it has attempted, which it never takes
back. It asks only where no session is to be seen: between the read of a pass and the attempt that
follows it only passes of the same surface run, and one of them that changed the store has made the
attempt before.
-/

namespace TicketLogin

namespace Browser

def callsOf (b : Browser) (i : Nat) : List Call := b.calls.filter (·.surface = i)

def callers (b : Browser) : List Nat := b.calls.map (·.surface)

theorem length_callsOf (b : Browser) (i : Nat) : (b.callsOf i).length = b.callers.count i := by
  simp only [callsOf, callers, List.count, List.countP_map, ← List.countP_eq_length_filter]
  congr 1

theorem callers_setStatus (b : Browser) (n : Nat) (status : CallStatus) :
    (b.setStatus n status).callers = b.callers := by
  apply List.ext_getElem?
  intro k
  simp only [callers, setStatus, List.getElem?_map, List.getElem?_modify]
  cases b.calls[k]? with
  | none => rfl
  | some c => by_cases hk : n = k <;> simp [hk]

theorem callers_answerCall (b : Browser) (n i : Nat) (answer : Answer) :
    (b.answerCall n i answer).1.callers = b.callers := by
  rw [callers, calls_answerCall]
  exact b.callers_setStatus n .answered

structure Accounted (b : Browser) : Prop where
  known : ∀ i ∈ b.callers, i < b.surfaces.length
  once : ∀ i, b.callers.count i = (b.surface i).attempted.toNat

theorem kept_accounted : Kept Accounted where
  navigate _ _ hb := ⟨hb.known, hb.once⟩
  beginCall b i ticket hi hfree _ hb := by
    have hcallers : (b.beginCall i ticket).callers = b.callers ++ [i] := by
      simp [callers, calls_beginCall]
    refine ⟨fun j hj => ?_, fun j => ?_⟩
    · rw [length_beginCall]
      rw [hcallers] at hj
      rcases List.mem_append.1 hj with hj | hj
      · exact hb.known j hj
      · rwa [List.mem_singleton.1 hj]
    · rw [hcallers, List.count_append, hb.once, attempted_beginCall]
      -- the one that asks had not attempted and so had not asked
      by_cases hij : i = j
      · subst hij
        simp [hi, hfree]
      · simp [hij]
  answerCall b n c answer _ hb := by
    have hframe := b.frame_answerCall n c.surface answer
    have hcallers := b.callers_answerCall n c.surface answer
    refine ⟨fun j hj => ?_, fun j => ?_⟩
    · rw [length_eq_of_frame hframe]
      exact hb.known j (hcallers ▸ hj)
    · rw [hcallers, (flags_eq_of_frame hframe j).1]
      exact hb.once j
  mount b hb := by
    refine ⟨fun j hj => ?_, fun j => ?_⟩
    · have := hb.known j hj
      simp only [List.length_append]
      omega
    · rw [surface_mount]
      exact hb.once j
  unmount b i hb := by
    refine ⟨fun j hj => ?_, fun j => ?_⟩
    · rw [length_updateSurface]
      exact hb.known j hj
    · change b.callers.count j = _
      rw [hb.once, surface_updateSurface]
      split <;> rfl
  cancel b n _ _ hb := by
    have hcallers := b.callers_setStatus n .cancelled
    exact ⟨fun j hj => hb.known j (hcallers ▸ hj), fun j => hcallers ▸ hb.once j⟩
  store _ _ hb := ⟨hb.known, hb.once⟩
  replace _ _ hb := ⟨hb.known, hb.once⟩

theorem accounted_load (kind : SurfaceKind) (landing : String) (store : Store) (start : Address) :
    (load kind landing store start).Accounted := by
  refine ⟨fun _ h => absurd h List.not_mem_nil, fun i => ?_⟩
  cases i <;> rfl

theorem kept_attempted (i : Nat) : Kept fun b => (b.surface i).attempted = true where
  navigate _ _ hb := hb
  beginCall b j ticket _ _ _ hb := by
    rw [attempted_beginCall]
    split
    · rfl
    · exact hb
  answerCall b n c answer _ hb :=
    (flags_eq_of_frame (b.frame_answerCall n c.surface answer) i).1.trans hb
  mount b hb := by
    rw [surface_mount]
    exact hb
  unmount b j hb := by
    rw [surface_updateSurface]
    split <;> exact hb
  cancel _ _ _ _ hb := hb
  store _ _ hb := hb
  replace _ _ hb := hb

end Browser

/-- A surface has asked at most once, has asked exactly if it has attempted, and has attempted later
if it has now. -/
def AsksOnce (b later : Browser) (i : Nat) : Prop :=
  (b.callsOf i).length ≤ 1 ∧
  ((b.callsOf i).length = 1 ↔ (b.surface i).attempted = true) ∧
  ((b.surface i).attempted = true → (later.surface i).attempted = true)

theorem Browser.Accounted.asksOnce {b later : Browser} (hb : b.Accounted) {i : Nat}
    (hlater : (b.surface i).attempted = true → (later.surface i).attempted = true) :
    AsksOnce b later i := by
  have hcount := hb.once i
  rw [← b.length_callsOf] at hcount
  refine ⟨?_, ?_, hlater⟩
  · rw [hcount]
    exact Bool.toNat_le _
  · rw [hcount]
    exact Bool.toNat_eq_one

theorem Browser.surfaces_load (kind : SurfaceKind) (landing : String) (store : Store)
    (start : Address) : (Browser.load kind landing store start).surfaces ≠ [] :=
  List.cons_ne_nil _ _

/-- However passes are woven into each other and whatever else happens between them, each surface
asks once at most; and so it does in every run of events. -/
theorem single_flight (kind : SurfaceKind) (landing : String) (store : Store) (start : Address)
    (i : Nat) :
    (∀ moves more : List Move,
      AsksOnce ((Scene.load kind landing store start).run moves).browser
        ((Scene.load kind landing store start).run (moves ++ more)).browser i) ∧
    ∀ events more : List Event,
      AsksOnce ((Browser.load kind landing store start).run events)
        ((Browser.load kind landing store start).run (events ++ more)) i := by
  have hload := Browser.accounted_load kind landing store start
  constructor
  · intro moves more
    have hsound := Scene.sound_calm (Browser.load kind landing store start)
    refine (Browser.kept_accounted.run hsound moves hload).asksOnce ?_
    intro hattempted
    rw [Scene.run_append]
    exact (Browser.kept_attempted i).run (hsound.run moves) more hattempted
  · intro events more
    have hsome := Browser.surfaces_load kind landing store start
    refine (Browser.kept_accounted.events hsome events hload).asksOnce ?_
    intro hattempted
    rw [Browser.run, List.foldl_append]
    exact (Browser.kept_attempted i).events (Browser.surfaces_run hsome events) more hattempted

/-! ## What a pass has read is still so -/

def Rest.found : Rest → Bool
  | .guard found => found
  | .exchange _ found => found

theorem Browser.found_beginExchange {b : Browser} {i : Nat} {rest : Rest}
    (h : b.beginExchange i = .resting rest) : rest.found = b.store.hasSession := by
  simp only [beginExchange] at h
  split at h
  · cases h
  · cases h
    rfl

theorem Browser.found_enter {b : Browser} {i : Nat} {rest : Rest} (h : b.enter i = .resting rest) :
    rest.found = b.store.hasSession := by
  unfold enter at h
  split at h
  · exact found_beginExchange h
  · cases h
    rfl

theorem Browser.attempted_redeem {b : Browser} {i : Nat} (hi : i < b.surfaces.length)
    (ticket : Ticket) (answer : Option Answer) :
    ((b.redeem i ticket answer).1.surface i).attempted = true := by
  have hbegun : ((b.beginCall i ticket).surface i).attempted = true := by
    rw [attempted_beginCall, if_pos ⟨rfl, hi⟩]
  cases answer with
  | none => exact hbegun
  | some answer =>
    have hframe := (b.beginCall i ticket).frame_answerCall b.calls.length i answer
    exact (flags_eq_of_frame hframe i).1.trans hbegun

theorem Browser.resume_quiet {b : Browser} {i : Nat} (hi : i < b.surfaces.length)
    (answer : Option Answer) (rest : Rest)
    (hfree : ((b.resume i answer rest).1.surface i).attempted = false) :
    (b.resume i answer rest).1.store = b.store ∧
      (b.resume i answer rest).1.surfaces = b.surfaces := by
  obtain heq | ⟨_, heq⟩ | ⟨_, ticket, _, _, _, heq⟩ := b.resume_cases i answer rest
  · rw [heq]
    exact ⟨rfl, rfl⟩
  · rw [heq]
    exact ⟨b.store_leave, b.surfaces_leave⟩
  · rw [heq, attempted_redeem hi] at hfree
    cases hfree

theorem Browser.found_resume {b : Browser} {i : Nat} {answer : Option Answer} {rest next : Rest}
    (h : (b.resume i answer rest).2 = .resting next) :
    next.found = (b.resume i answer rest).1.store.hasSession := by
  cases rest with
  | exchange phase found => cases h
  | guard found =>
    by_cases hkind : b.kind = .page
    · cases found with
      | true => simp [resume, hkind] at h
      | false =>
        simp only [resume, hkind, if_true, Bool.false_eq_true, if_false] at h ⊢
        exact found_beginExchange h
    · simp [resume, hkind] at h

namespace Scene

/-- As long as its surface has not attempted, a pass under way has read what is still so. -/
def ReadsHold (s : Scene) : Prop :=
  ∀ p ∈ s.passes, (s.browser.surface p.surface).attempted = false →
    p.rest.found = s.browser.store.hasSession

theorem ReadsHold.step {s : Scene} (hsound : s.Sound) (hs : s.ReadsHold) (m : Move) :
    (s.step m).1.ReadsHold := by
  apply forall_passes_step (Q := fun b i rest =>
    (b.surface i).attempted = false → rest.found = b.store.hasSession) hs
  · intro i rest hnext _
    exact Browser.found_enter hnext
  · intro p rest hnext _
    exact Browser.found_resume hnext
  · -- all the other passes are of the same surface, so they have read the same store
    intro p passes hpasses q hq hread hfree
    have hp : p ∈ s.passes := hpasses ▸ List.mem_cons_self
    have hqp := hsound.alike q (hpasses ▸ List.mem_cons_of_mem _ hq) p hp
    obtain ⟨hstore, hsurfaces⟩ :=
      Browser.resume_quiet (hsound.present p hp) p.answer p.rest (hqp ▸ hfree)
    rw [hstore]
    apply hread
    simpa only [Browser.surface, hsurfaces] using hfree

theorem ReadsHold.run {s : Scene} (hsound : s.Sound) (hs : s.ReadsHold) (moves : List Move) :
    (s.run moves).ReadsHold := by
  induction moves generalizing s with
  | nil => exact hs
  | cons m moves ih => exact ih (hsound.step m) (hs.step hsound m)

theorem length_calls_outside (b : Browser) {e : Event} (he : e.isRender = false) :
    (b.step e).1.calls.length = b.calls.length := by
  cases e with
  | render => cases he
  | respond n answer =>
    simp only [Browser.step]
    split
    · rfl
    · rw [Browser.calls_answerCall, Browser.length_setStatus]
  | cancel n =>
    simp only [Browser.step]
    split
    · rfl
    · rw [Browser.length_setStatus]
  | _ => rfl

/-- A move asks for no redemption, or it is a section of an exchange that has read that there is no
session and takes the attempt. -/
theorem calls_step (s : Scene) (m : Move) :
    (s.step m).1.browser.calls.length = s.browser.calls.length ∨
    ∃ p passes ticket status, s.passes = p :: passes ∧ p.rest.found = false ∧
      (s.browser.surface p.surface).attempted = false ∧
      s.browser.history.location.ticket? = some ticket ∧
      (s.step m).1.browser.calls =
        s.browser.calls ++ [⟨p.surface, ticket, s.browser.history.location, status⟩] := by
  obtain ⟨b, passes⟩ := s
  cases m with
  | enter i answer =>
    simp only [Scene.step]
    split
    · rw [browser_follow]
      exact .inl rfl
    · exact .inl rfl
  | resume =>
    cases passes with
    | nil => exact .inl rfl
    | cons p passes =>
      simp only [Scene.step, browser_follow]
      obtain heq | ⟨_, heq⟩ | ⟨phase, ticket, hrest, ht, hfree, heq⟩ :=
        b.resume_cases p.surface p.answer p.rest
      · exact .inl (by rw [heq])
      · left
        rw [heq, b.calls_leave]
      · obtain ⟨status, hcalls⟩ := b.calls_redeem p.surface ticket p.answer
        refine .inr ⟨p, passes, ticket, status, rfl, ?_, hfree, ht, ?_⟩
        · rw [hrest]
          rfl
        · rw [heq, hcalls]
  | unmount i =>
    simp only [Scene.step]
    split <;> exact .inl rfl
  | outside e =>
    simp only [Scene.step]
    split
    · next he =>
      simp only [Bool.and_eq_true, Bool.not_eq_true'] at he
      exact .inl (length_calls_outside b he.2)
    · exact .inl rfl

/-- Every one of the moves is made while more than `n` passes are under way. -/
def Within (n : Nat) : Scene → List Move → Prop
  | _, [] => True
  | s, m :: moves => n < s.passes.length ∧ Within n (s.step m).1 moves

/-- A pass that saw a session, and those woven into it, ask for nothing and leave the store alone. -/
structure SignedIn (b : Browser) (passes : List OpenPass) (s : Scene) : Prop where
  calls : s.browser.calls = b.calls
  visible : s.browser.store.hasSession = true
  above : ∃ upper, s.passes = upper ++ passes ∧ ∀ p ∈ upper, p.rest.found = true

theorem resume_of_found (b : Browser) (i : Nat) (answer : Option Answer) {rest : Rest}
    (h : rest.found = true) :
    (b.resume i answer rest).1.calls = b.calls ∧ (b.resume i answer rest).1.store = b.store ∧
      ∃ ending, (b.resume i answer rest).2 = .finished ending := by
  cases rest with
  | guard found =>
    cases h
    by_cases hkind : b.kind = .page
    · simp only [Browser.resume, if_pos hkind, if_true]
      exact ⟨b.calls_leave, b.store_leave, _, rfl⟩
    · simp only [Browser.resume, if_neg hkind, if_true]
      exact ⟨b.calls_leave, b.store_leave, _, rfl⟩
  | exchange phase found =>
    cases h
    exact ⟨rfl, rfl, _, rfl⟩

theorem SignedIn.step {b : Browser} {passes : List OpenPass} {s : Scene} (h : SignedIn b passes s)
    (hopen : passes.length < s.passes.length) (m : Move) : SignedIn b passes (s.step m).1 := by
  obtain ⟨c, all⟩ := s
  obtain ⟨hcalls, hvisible, upper, rfl, hupper⟩ := h
  cases upper with
  | nil => exact absurd hopen (Nat.lt_irrefl _)
  | cons p upper =>
    cases m with
    | enter i answer =>
      simp only [Scene.step]
      split
      · cases hnext : c.enter i with
        | finished ending => exact ⟨hcalls, hvisible, p :: upper, rfl, hupper⟩
        | resting rest =>
          refine ⟨hcalls, hvisible, ⟨i, answer, rest⟩ :: p :: upper, rfl, ?_⟩
          rintro q (_ | ⟨_, hq⟩)
          · exact (Browser.found_enter hnext).trans hvisible
          · exact hupper q hq
      · exact ⟨hcalls, hvisible, p :: upper, rfl, hupper⟩
    | resume =>
      obtain ⟨hc, hstore, ending, hover⟩ :=
        resume_of_found c p.surface p.answer (hupper p List.mem_cons_self)
      simp only [Scene.step, List.cons_append, hover]
      exact ⟨hc.trans hcalls, hstore ▸ hvisible, upper, rfl,
        fun q hq => hupper q (List.mem_cons_of_mem _ hq)⟩
    | unmount i => exact ⟨hcalls, hvisible, p :: upper, rfl, hupper⟩
    | outside e => exact ⟨hcalls, hvisible, p :: upper, rfl, hupper⟩

theorem SignedIn.run {b : Browser} {passes : List OpenPass} {s : Scene} (h : SignedIn b passes s)
    {moves : List Move} (hwithin : Within passes.length s moves) :
    SignedIn b passes (s.run moves) := by
  induction moves generalizing s with
  | nil => exact h
  | cons m moves ih => exact ih (h.step hwithin.1 m) hwithin.2

theorem signedIn_enter {s : Scene} (hvisible : s.browser.store.hasSession = true) (i : Nat)
    (answer : Option Answer) :
    SignedIn s.browser s.passes (s.step (.enter i answer)).1 := by
  simp only [Scene.step]
  split
  · cases hnext : s.browser.enter i with
    | finished ending => exact ⟨rfl, hvisible, [], rfl, fun _ hp => absurd hp List.not_mem_nil⟩
    | resting rest =>
      refine ⟨rfl, hvisible, [⟨i, answer, rest⟩], rfl, fun p hp => ?_⟩
      rw [List.mem_singleton.1 hp]
      exact (Browser.found_enter hnext).trans hvisible
  · exact ⟨rfl, hvisible, [], rfl, fun _ hp => absurd hp List.not_mem_nil⟩

end Scene

namespace Browser

theorem calls_pass_of_session {b : Browser} (h : b.store.hasSession = true) (i : Nat)
    {first second : Interruption} (hfirst : (first b).1.calls = b.calls) (answer : Option Answer) :
    (b.pass i first second answer).browser.calls = b.calls := by
  cases hkind : b.kind with
  | exchange =>
    simp only [pass, hkind, exchangePass_eq]
    split
    · rfl
    · simpa only [endExchange, h, if_true] using hfirst
  | guard =>
    simp only [pass, hkind, guardPass, h, if_true]
    exact (first b).1.calls_leave.trans hfirst
  | page =>
    simp only [pass, hkind, guardPass, h, if_true]
    exact (first b).1.calls_leave.trans hfirst

/-- A whole pass that starts in sight of a session asks for nothing, interrupted or not. -/
theorem calls_render_of_session {b : Browser} (h : b.store.hasSession = true)
    (answer : Option Answer) (nested : Option Nested) :
    (b.render answer nested).browser.calls = b.calls := by
  have hquiet : (uninterrupted b).1.calls = b.calls := rfl
  cases nested with
  | none =>
    simp only [render, simplePass]
    exact calls_pass_of_session h _ hquiet answer
  | some nested =>
    by_cases hread : nested.read = 1
    · simp only [render, nestedPass, simplePass, if_pos hread]
      exact calls_pass_of_session h _ (calls_pass_of_session h _ hquiet nested.answer) answer
    · simp only [render, nestedPass, if_neg hread]
      exact calls_pass_of_session h _ hquiet answer

end Browser

/-- A redemption is asked for with no session to be seen, and for the ticket of the page that the
browser is on. A pass that starts in sight of a session, be it woven of moves or whole, asks for
none, and neither do the passes within it. -/
theorem asks_out_of_session (kind : SurfaceKind) (landing : String) (store : Store)
    (start : Address) (moves : List Move) :
    let s := (Scene.load kind landing store start).run moves
    (∀ m, ∀ c ∈ (s.step m).1.browser.calls.drop s.browser.calls.length,
      s.browser.store.hasSession = false ∧ c.page = s.browser.history.location ∧
      s.browser.history.location.ticket? = some c.ticket ∧ c.ticket.value ≠ []) ∧
    (∀ i answer more, s.browser.store.hasSession = true →
      Scene.Within s.passes.length (s.step (.enter i answer)).1 more →
      ((s.step (.enter i answer)).1.run more).browser.calls = s.browser.calls) ∧
    ∀ answer nested, s.browser.store.hasSession = true →
      (s.browser.render answer nested).browser.calls = s.browser.calls := by
  intro s
  have hsound := (Scene.sound_calm (.load kind landing store start)).run moves
  have hreads : s.ReadsHold := Scene.ReadsHold.run
    (Scene.sound_calm _) (fun _ hp => absurd hp List.not_mem_nil) moves
  refine ⟨fun m c hc => ?_, fun i answer more hvisible hwithin => ?_, fun answer nested hvisible => ?_⟩
  · obtain hsame | ⟨p, passes, ticket, status, hpasses, hfound, hfree, ht, hcalls⟩ := s.calls_step m
    · rw [List.drop_of_length_le (Nat.le_of_eq hsame)] at hc
      exact absurd hc List.not_mem_nil
    · rw [hcalls, List.drop_left, List.mem_singleton] at hc
      subst hc
      have hp : p ∈ s.passes := hpasses ▸ List.mem_cons_self
      exact ⟨(hreads p hp hfree).symm.trans hfound, rfl, ht, ticket.value_ne_nil⟩
  · exact ((Scene.signedIn_enter hvisible i answer).run hwithin).calls
  · exact Browser.calls_render_of_session hvisible answer nested

end TicketLogin
