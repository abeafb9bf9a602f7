import Mathlib.Logic.Relation
import TicketLogin.Proofs.Page.SingleFlight

/-!
# Phases go forward

A surface waits, has found a ticket, exchanges it, and has succeeded or failed. It takes these steps
in this order only, takes the first two at once, and none of them before it has attempted. As long
as it is there it exchanges exactly while its call is pending.
-/

namespace TicketLogin

namespace Phase

inductive Next : Phase → Phase → Prop
  | found : Next .idle .ticketPending
  | asked : Next .ticketPending .exchanging
  | granted : Next .exchanging .succeeded
  | refused : Next .exchanging .failed

/-- Any number of steps forward. -/
def Leads : Phase → Phase → Prop := Relation.ReflTransGen Next

theorem leads_exchanging : Leads .idle .exchanging :=
  (Relation.ReflTransGen.single .found).tail .asked

theorem leads_of_isTerminal {p : Phase} (h : p.isTerminal = true) : Leads .exchanging p := by
  cases p with
  | succeeded => exact .single .granted
  | failed => exact .single .refused
  | _ => cases h

theorem Leads.eq_of_isTerminal {p q : Phase} (h : Leads p q) (hp : p.isTerminal = true) : q = p := by
  obtain heq | ⟨r, hnext, _⟩ := Relation.ReflTransGen.cases_head h
  · exact heq.symm
  · cases hnext <;> cases hp

end Phase

namespace Surface

/-- A surface that asks for a redemption. -/
def begun (s : Surface) : Surface :=
  ({ s with attempted := true }.advance .ticketPending).advance .exchanging

theorem begun_eq (s : Surface) :
    s.begun = { s with attempted := true, phase := if s.mounted then .exchanging else s.phase } := by
  obtain ⟨attempted, mounted, phase⟩ := s
  cases mounted <;> rfl

/-- Without an attempt nothing has happened, and with one something has, as far as a surface that is
there can show it. -/
structure Orderly (s : Surface) : Prop where
  idle : s.attempted = false → s.phase = .idle
  settled : s.phase ≠ .ticketPending
  busy : s.attempted = true → s.mounted = true → s.phase ≠ .idle

theorem orderly_fresh : fresh.Orderly := by
  constructor
  · exact fun _ => rfl
  · exact Phase.noConfusion
  · exact Bool.noConfusion

theorem Orderly.begun {s : Surface} (h : s.Orderly) : s.begun.Orderly := by
  rw [begun_eq]
  constructor
  · exact Bool.noConfusion
  · dsimp only
    split
    · exact Phase.noConfusion
    · exact h.settled
  · intro _ hmounted
    have hmounted : s.mounted = true := hmounted
    dsimp only
    rw [if_pos hmounted]
    exact Phase.noConfusion

theorem Orderly.ended {s : Surface} (h : s.Orderly) (hattempted : s.attempted = true) {p : Phase}
    (hp : p.isTerminal = true) : (s.advance p).Orderly := by
  constructor
  · intro hfree
    rw [attempted_advance, hattempted] at hfree
    cases hfree
  · rw [phase_advance]
    split
    · rintro rfl
      cases hp
    · exact h.settled
  · intro _ hmounted
    rw [mounted_advance] at hmounted
    rw [phase_advance, if_pos hmounted]
    rintro rfl
    cases hp

theorem Orderly.gone {s : Surface} (h : s.Orderly) : { s with mounted := false }.Orderly :=
  ⟨h.idle, h.settled, fun _ hmounted => Bool.noConfusion hmounted⟩

theorem Orderly.leads_begun {s : Surface} (h : s.Orderly) (hfree : s.attempted = false) :
    s.phase.Leads s.begun.phase := by
  rw [begun_eq, h.idle hfree]
  dsimp only
  split
  · exact Phase.leads_exchanging
  · exact .refl

end Surface

/-- While a call is pending its surface exchanges, and once it is answered the exchange is over, as
far as the surface is there. -/
structure Call.Fits (c : Call) (s : Surface) : Prop where
  pending : c.status = .pending → s.mounted = true → s.phase = .exchanging
  answered : c.status = .answered → s.mounted = true → s.phase.isTerminal = true

namespace Call

theorem fits_begun {c : Call} (s : Surface) (hc : c.status = .pending) : c.Fits s.begun := by
  rw [Surface.begun_eq]
  constructor
  · intro _ hmounted
    have hmounted : s.mounted = true := hmounted
    dsimp only
    rw [if_pos hmounted]
  · intro hanswered
    rw [hc] at hanswered
    cases hanswered

theorem fits_ended {c : Call} (s : Surface) (hc : c.status = .answered) {p : Phase}
    (hp : p.isTerminal = true) : c.Fits (s.advance p) := by
  constructor
  · intro hpending
    rw [hc] at hpending
    cases hpending
  · intro _ hmounted
    rw [Surface.mounted_advance] at hmounted
    rw [Surface.phase_advance, if_pos hmounted]
    exact hp

theorem Fits.gone {c : Call} {s : Surface} : c.Fits { s with mounted := false } :=
  ⟨fun _ hmounted => Bool.noConfusion hmounted, fun _ hmounted => Bool.noConfusion hmounted⟩

theorem Fits.leads_ended {c : Call} {s : Surface} (h : c.Fits s) (hc : c.status = .pending)
    {p : Phase} (hp : p.isTerminal = true) : s.phase.Leads (s.advance p).phase := by
  rw [Surface.phase_advance]
  split
  · next hmounted =>
    rw [h.pending hc hmounted]
    exact Phase.leads_of_isTerminal hp
  · exact .refl

end Call

namespace Browser

/-! ## Phases and operations -/

theorem isTerminal_complete (b : Browser) (i : Nat) (answer : Answer) :
    (b.complete i answer).2.isTerminal = true := by
  obtain ⟨store, failure, h⟩ | ⟨store, h⟩ := b.complete_cases i answer <;> rw [h] <;> rfl

theorem surfaces_advance_of_gone {b : Browser} {i : Nat} (h : (b.surface i).mounted = false)
    (phase : Phase) : (b.advance i phase).surfaces = b.surfaces := by
  apply List.ext_getElem?
  intro j
  simp only [advance, updateSurface, List.getElem?_modify]
  by_cases hij : i = j
  · subst hij
    simp only [surface, List.getD_eq_getElem?_getD] at h
    cases hs : b.surfaces[i]? with
    | none => rfl
    | some s =>
      rw [hs] at h
      simp only [Option.getD_some] at h
      simp [Surface.advance, h]
  · simp [hij]

/-- The answer moves its surface on to the end that it reports, if the surface is still there. -/
theorem surfaces_complete (b : Browser) (i : Nat) (answer : Answer) :
    (b.complete i answer).1.surfaces = (b.advance i (b.complete i answer).2).surfaces := by
  cases hmounted : (b.surface i).mounted with
  | true =>
    obtain ⟨store, failure, h⟩ | ⟨store, h⟩ := b.complete_cases i answer <;>
      rw [h, hmounted] <;> rfl
  | false =>
    rw [surfaces_advance_of_gone hmounted]
    obtain ⟨store, failure, h⟩ | ⟨store, h⟩ := b.complete_cases i answer <;>
      rw [h, hmounted] <;> rfl

theorem surface_answerCall (b : Browser) (n i j : Nat) (answer : Answer) :
    (b.answerCall n i answer).1.surface j =
      if i = j ∧ j < b.surfaces.length then (b.surface j).advance (b.answerCall n i answer).2
      else b.surface j := by
  have hsurfaces := (b.setStatus n .answered).surfaces_complete i answer
  rw [← b.surface_updateSurface i j (·.advance (b.answerCall n i answer).2)]
  exact congrArg (·.getD j .fresh) hsurfaces

theorem surface_beginCall {b : Browser} {i : Nat} (hi : i < b.surfaces.length) (ticket : Ticket)
    (j : Nat) :
    (b.beginCall i ticket).surface j = if i = j then (b.surface j).begun else b.surface j := by
  change (((b.updateSurface i fun s => { s with attempted := true }).advance i
    .ticketPending).advance i .exchanging).surface j = _
  by_cases hij : i = j
  · subst hij
    simp only [advance, surface_updateSurface, length_updateSurface, hi, and_self, if_true]
    rfl
  · simp only [advance, surface_updateSurface, hij, false_and, if_false]

/-! ## Each phase has its calls -/

theorem mem_calls_setStatus {b : Browser} {n : Nat} {c d : Call} {status : CallStatus}
    (hc : b.calls[n]? = some c) (hd : d ∈ (b.setStatus n status).calls) :
    d = { c with status } ∨ ∃ k, k ≠ n ∧ b.calls[k]? = some d := by
  obtain ⟨k, hk⟩ := List.mem_iff_getElem?.1 hd
  simp only [setStatus, List.getElem?_modify] at hk
  by_cases hkn : n = k
  · left
    subst hkn
    rw [hc] at hk
    simp only [if_true] at hk
    exact (Option.some.inj hk).symm
  · right
    refine ⟨k, fun h => hkn h.symm, ?_⟩
    simpa [hkn] using hk

theorem Accounted.surface_ne {b : Browser} (hb : b.Accounted) {k n : Nat} {c d : Call}
    (hkn : k ≠ n) (hd : b.calls[k]? = some d) (hc : b.calls[n]? = some c) :
    d.surface ≠ c.surface := by
  intro hsame
  have hnodup : b.callers.Nodup := by
    rw [List.nodup_iff_count]
    intro i
    rw [hb.once i]
    exact Bool.toNat_le _
  have hk : b.callers[k]? = some d.surface := by rw [callers, List.getElem?_map, hd]; rfl
  have hn : b.callers[n]? = some c.surface := by rw [callers, List.getElem?_map, hc]; rfl
  have hlt : k < b.callers.length := (List.getElem?_eq_some_iff.1 hk).1
  have hsome : b.callers[k]? = b.callers[n]? := by rw [hk, hn, hsame]
  exact hkn ((List.getElem?_inj hlt hnodup).1 hsome)

theorem Accounted.attempted_of_mem {b : Browser} (hb : b.Accounted) {c : Call} (hc : c ∈ b.calls) :
    (b.surface c.surface).attempted = true := by
  have hcount : 0 < b.callers.count c.surface := List.count_pos_iff.2 (List.mem_map_of_mem hc)
  rw [hb.once] at hcount
  cases hfree : (b.surface c.surface).attempted with
  | true => rfl
  | false =>
    rw [hfree] at hcount
    cases hcount

theorem calls_of_pending? {b : Browser} {n : Nat} {c : Call} (h : b.pending? n = some c) :
    b.calls[n]? = some c ∧ c.status = .pending := by
  obtain ⟨hc, hstatus⟩ := Option.filter_eq_some_iff.1 h
  exact ⟨hc, of_decide_eq_true hstatus⟩

/-- Every surface is in order, and every call is where the phase of its surface says. -/
structure Phased (b : Browser) : Prop where
  orderly : ∀ i, (b.surface i).Orderly
  fitting : ∀ c ∈ b.calls, c.Fits (b.surface c.surface)

theorem Phased.leads_beginCall {b : Browser} (hp : b.Phased) {i : Nat}
    (hi : i < b.surfaces.length) (hfree : (b.surface i).attempted = false) (ticket : Ticket) (j : Nat) :
    (b.surface j).phase.Leads ((b.beginCall i ticket).surface j).phase := by
  rw [surface_beginCall hi]
  split
  · next hij =>
    subst hij
    exact (hp.orderly i).leads_begun hfree
  · exact .refl

section

variable {b : Browser} (hb : b.Accounted) (hp : b.Phased)

include hb

theorem surface_answerCall_of_pending {n : Nat} {c : Call} (hpending : b.pending? n = some c)
    (answer : Answer) (j : Nat) :
    (b.answerCall n c.surface answer).1.surface j =
      if c.surface = j then (b.surface j).advance (b.answerCall n c.surface answer).2
      else b.surface j := by
  have hmem : c ∈ b.calls := List.mem_of_getElem? (calls_of_pending? hpending).1
  have hknown : c.surface < b.surfaces.length := hb.known _ (List.mem_map_of_mem hmem)
  rw [surface_answerCall]
  by_cases hj : c.surface = j
  · subst hj
    rw [if_pos ⟨rfl, hknown⟩, if_pos rfl]
  · rw [if_neg fun h => hj h.1, if_neg hj]

include hp

theorem Phased.beginCall {i : Nat} (hi : i < b.surfaces.length)
    (hfree : (b.surface i).attempted = false) (ticket : Ticket) :
    (b.beginCall i ticket).Phased := by
  constructor
  · intro j
    rw [surface_beginCall hi]
    split
    · exact (hp.orderly j).begun
    · exact hp.orderly j
  · intro c hc
    rw [calls_beginCall] at hc
    rw [surface_beginCall hi]
    rcases List.mem_append.1 hc with hold | hnew
    · have hne : i ≠ c.surface := by
        rintro rfl
        rw [hb.attempted_of_mem hold] at hfree
        cases hfree
      rw [if_neg hne]
      exact hp.fitting c hold
    · rw [List.mem_singleton.1 hnew, if_pos rfl]
      exact Call.fits_begun _ rfl

theorem Phased.answerCall {n : Nat} {c : Call} (hpending : b.pending? n = some c)
    (answer : Answer) : (b.answerCall n c.surface answer).1.Phased := by
  obtain ⟨hc, hstatus⟩ := calls_of_pending? hpending
  have hmem : c ∈ b.calls := List.mem_of_getElem? hc
  have hend : (b.answerCall n c.surface answer).2.isTerminal = true :=
    (b.setStatus n .answered).isTerminal_complete c.surface answer
  constructor
  · intro j
    rw [surface_answerCall_of_pending hb hpending]
    split
    · next hj =>
      subst hj
      exact (hp.orderly _).ended (hb.attempted_of_mem hmem) hend
    · exact hp.orderly j
  · intro d hd
    rw [calls_answerCall] at hd
    rw [surface_answerCall_of_pending hb hpending]
    obtain rfl | ⟨k, hkn, hk⟩ := mem_calls_setStatus hc hd
    · rw [if_pos rfl]
      exact Call.fits_ended _ rfl hend
    · -- every other call is of another surface
      rw [if_neg (hb.surface_ne hkn hk hc).symm]
      exact hp.fitting d (List.mem_of_getElem? hk)

theorem Phased.leads_answerCall {n : Nat} {c : Call} (hpending : b.pending? n = some c)
    (answer : Answer) (j : Nat) :
    (b.surface j).phase.Leads ((b.answerCall n c.surface answer).1.surface j).phase := by
  obtain ⟨hc, hstatus⟩ := calls_of_pending? hpending
  rw [surface_answerCall_of_pending hb hpending]
  split
  · next hj =>
    subst hj
    have hend : (b.answerCall n c.surface answer).2.isTerminal = true :=
      (b.setStatus n .answered).isTerminal_complete c.surface answer
    exact (hp.fitting c (List.mem_of_getElem? hc)).leads_ended hstatus hend
  · exact .refl

end

theorem surface_unmount (b : Browser) (i j : Nat) :
    (b.updateSurface i fun s => { s with mounted := false }).surface j = b.surface j ∨
    (b.updateSurface i fun s => { s with mounted := false }).surface j =
      { b.surface j with mounted := false } := by
  rw [surface_updateSurface]
  split
  · exact .inr rfl
  · exact .inl rfl

theorem kept_phased : Kept fun b => b.Accounted ∧ b.Phased where
  navigate b route h := ⟨kept_accounted.navigate b route h.1, h.2.orderly, h.2.fitting⟩
  beginCall b i ticket hi hfree ht h :=
    ⟨kept_accounted.beginCall b i ticket hi hfree ht h.1, h.2.beginCall h.1 hi hfree ticket⟩
  answerCall b n c answer hpending h :=
    ⟨kept_accounted.answerCall b n c answer hpending h.1, h.2.answerCall h.1 hpending answer⟩
  mount b h := by
    refine ⟨kept_accounted.mount b h.1, fun j => ?_, fun c hc => ?_⟩
    · rw [surface_mount]
      exact h.2.orderly j
    · rw [surface_mount]
      exact h.2.fitting c hc
  unmount b i h := by
    refine ⟨kept_accounted.unmount b i h.1, fun j => ?_, fun c hc => ?_⟩
    · rcases b.surface_unmount i j with heq | heq <;> rw [heq]
      · exact h.2.orderly j
      · exact (h.2.orderly j).gone
    · rcases b.surface_unmount i c.surface with heq | heq <;> rw [heq]
      · exact h.2.fitting c hc
      · exact Call.Fits.gone
  cancel b n c hpending h := by
    refine ⟨kept_accounted.cancel b n c hpending h.1, h.2.orderly, fun d hd => ?_⟩
    obtain rfl | ⟨k, _, hk⟩ := mem_calls_setStatus (calls_of_pending? hpending).1 hd
    · exact ⟨CallStatus.noConfusion, CallStatus.noConfusion⟩
    · exact h.2.fitting d (List.mem_of_getElem? hk)
  store b store h := ⟨kept_accounted.store b store h.1, h.2.orderly, h.2.fitting⟩
  replace b address h := ⟨kept_accounted.replace b address h.1, h.2.orderly, h.2.fitting⟩

theorem kept_leads (p : Phase) (i : Nat) :
    Kept fun b => (b.Accounted ∧ b.Phased) ∧ p.Leads (b.surface i).phase where
  navigate b route h := ⟨kept_phased.navigate b route h.1, h.2⟩
  beginCall b j ticket hj hfree ht h :=
    ⟨kept_phased.beginCall b j ticket hj hfree ht h.1,
      h.2.trans (h.1.2.leads_beginCall hj hfree ticket i)⟩
  answerCall b n c answer hpending h :=
    ⟨kept_phased.answerCall b n c answer hpending h.1,
      h.2.trans (h.1.2.leads_answerCall h.1.1 hpending answer i)⟩
  mount b h := by
    refine ⟨kept_phased.mount b h.1, ?_⟩
    rw [surface_mount]
    exact h.2
  unmount b j h := by
    refine ⟨kept_phased.unmount b j h.1, ?_⟩
    rcases b.surface_unmount j i with heq | heq <;> rw [heq] <;> exact h.2
  cancel b n c hpending h := ⟨kept_phased.cancel b n c hpending h.1, h.2⟩
  store b store h := ⟨kept_phased.store b store h.1, h.2⟩
  replace b address h := ⟨kept_phased.replace b address h.1, h.2⟩

theorem phased_load (kind : SurfaceKind) (landing : String) (store : Store) (start : Address) :
    (load kind landing store start).Accounted ∧ (load kind landing store start).Phased := by
  refine ⟨accounted_load kind landing store start, fun i => ?_, fun _ hc => ?_⟩
  · have hfresh : (load kind landing store start).surface i = .fresh := by cases i <;> rfl
    rw [hfresh]
    exact Surface.orderly_fresh
  · exact absurd hc List.not_mem_nil

/-- A surface that is there and whose call was not cancelled exchanges exactly while its one call
is pending. -/
theorem Phased.isLoading_iff {b : Browser} (hb : b.Accounted) (hp : b.Phased) {i : Nat}
    (hmounted : (b.surface i).mounted = true)
    (hkept : ∀ c ∈ b.callsOf i, c.status ≠ .cancelled) :
    (b.surface i).isLoading = true ↔
      ((b.callsOf i).filter (·.status = .pending)).length = 1 := by
  have hlength : (b.callsOf i).length = (b.surface i).attempted.toNat := by
    rw [length_callsOf, hb.once]
  cases hcalls : b.callsOf i with
  | nil =>
    rw [hcalls] at hlength
    have hfree : (b.surface i).attempted = false := Bool.toNat_eq_zero.1 hlength.symm
    rw [Surface.isLoading, (hp.orderly i).idle hfree]
    exact ⟨fun h => Bool.noConfusion h, fun h => Nat.noConfusion h⟩
  | cons c rest =>
    have hmem : c ∈ b.callsOf i := hcalls ▸ List.mem_cons_self
    obtain ⟨hc, hsurface⟩ := List.mem_filter.1 hmem
    have hfits : c.Fits (b.surface i) := of_decide_eq_true hsurface ▸ hp.fitting c hc
    have hone : (c :: rest).length ≤ 1 := by
      rw [← hcalls, hlength]
      exact Bool.toNat_le _
    obtain rfl : rest = [] := List.length_eq_zero_iff.1 (Nat.le_zero.1 (Nat.le_of_succ_le_succ hone))
    cases hstatus : c.status with
    | pending => simp [Surface.isLoading, hfits.pending hstatus hmounted, hstatus]
    | answered =>
      have hend := hfits.answered hstatus hmounted
      have hover : (b.surface i).phase ≠ .exchanging := by
        intro h
        rw [h] at hend
        cases hend
      simp [Surface.isLoading, hover, hstatus]
    | cancelled => exact absurd hstatus (hkept c hmem)

end Browser

/-- The phase of a surface leads to its phases later on, waits without an attempt, stays once it is
an end, and tells whether the one call of the surface is pending. -/
def PhaseInOrder (b later : Browser) (i : Nat) : Prop :=
  (b.surface i).phase.Leads (later.surface i).phase ∧
  (b.surface i).phase ≠ .ticketPending ∧
  ((b.surface i).attempted = false → (b.surface i).phase = .idle) ∧
  ((b.surface i).phase.isTerminal = true → (later.surface i).phase = (b.surface i).phase) ∧
  ((b.surface i).mounted = true → (∀ c ∈ b.callsOf i, c.status ≠ .cancelled) →
    ((b.surface i).isLoading = true ↔
      ((b.callsOf i).filter (·.status = .pending)).length = 1))

theorem Browser.Phased.phaseInOrder {b later : Browser} (hb : b.Accounted) (hp : b.Phased) {i : Nat}
    (hleads : (b.surface i).phase.Leads (later.surface i).phase) : PhaseInOrder b later i := by
  refine ⟨hleads, (hp.orderly i).settled, (hp.orderly i).idle, ?_, ?_⟩
  · exact hleads.eq_of_isTerminal
  · exact hp.isLoading_iff hb

/-- However passes are woven into each other and whatever else happens between them, phases go
forward. -/
theorem phases_in_order (kind : SurfaceKind) (landing : String) (store : Store) (start : Address)
    (i : Nat) :
    (∀ moves more : List Move,
      PhaseInOrder ((Scene.load kind landing store start).run moves).browser
        ((Scene.load kind landing store start).run (moves ++ more)).browser i) ∧
    ∀ events more : List Event,
      PhaseInOrder ((Browser.load kind landing store start).run events)
        ((Browser.load kind landing store start).run (events ++ more)) i := by
  have hload := Browser.phased_load kind landing store start
  constructor
  · intro moves more
    have hsound := Scene.sound_calm (Browser.load kind landing store start)
    have hphased := Browser.kept_phased.run hsound moves hload
    have hlater := (Browser.kept_leads _ i).run (hsound.run moves) more ⟨hphased, .refl⟩
    rw [Scene.run_append]
    exact hphased.2.phaseInOrder hphased.1 hlater.2
  · intro events more
    have hsome := Browser.surfaces_load kind landing store start
    have hphased := Browser.kept_phased.events hsome events hload
    have hlater := (Browser.kept_leads _ i).events (Browser.surfaces_run hsome events) more
      ⟨hphased, .refl⟩
    rw [Browser.run_append]
    exact hphased.2.phaseInOrder hphased.1 hlater.2

end TicketLogin
