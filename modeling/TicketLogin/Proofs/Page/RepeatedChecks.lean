import TicketLogin.Proofs.Address.Following
import TicketLogin.Proofs.Page.Scene

/-!
# Checks that are repeated

A check of the guard that finds a session goes to the landing route unless that leads to where the
browser is. So checks come to rest exactly where the landing route leads nowhere else. An anchored
route rests after one check; a path that opens a folder is pushed again by every check.
-/

namespace TicketLogin

theorem Address.rests_of_again {a : Address} {route : String}
    (h : a.join route = .ok a ∨ ∃ fault, a.join route = .error fault) : a.Rests route := by
  intro target htarget
  obtain hsame | ⟨fault, hfails⟩ := h
  · exact (Except.ok.inj (hsame.symm.trans htarget)).symm
  · rw [hfails] at htarget
    cases htarget

namespace Browser

/-- Any number of renders, interrupted or not, leave the history as it is. -/
def ChecksRest (b : Browser) : Prop :=
  ∀ renders : List Event, (∀ e ∈ renders, e.isRender = true) → (b.run renders).history = b.history

variable {b : Browser}

theorem leave_of_error {fault : AddressFault}
    (h : b.history.location.join b.landing = .error fault) :
    b.leave = b := by
  rw [leave, h]
  dsimp only
  rw [navigate, History.navigate, h]

theorem leave_of_rests (h : b.history.location.Rests b.landing) : b.leave = b := by
  cases hjoin : b.history.location.join b.landing with
  | error fault => exact leave_of_error hjoin
  | ok target =>
    rw [leave, hjoin]
    exact if_pos (h target hjoin)

theorem location_leave {target : Address} (h : b.history.location.join b.landing = .ok target) :
    b.leave.history.location = target := by
  rw [leave, h]
  dsimp only
  split
  · next hsame => exact hsame.symm
  · rw [navigate, History.navigate, h]
    exact History.location_visit ..

theorem rests_of_leave (h : b.leave.history = b.history) : b.history.location.Rests b.landing := by
  intro target htarget
  rw [← location_leave htarget, h]

/-! ## Renders in sight of a session -/

/-- The surfaces of the page have a guard, and the guard finds a session. -/
structure SignedIn (b : Browser) : Prop where
  guarded : b.kind ≠ .exchange
  visible : b.store.hasSession = true

theorem SignedIn.leave (h : b.SignedIn) : b.leave.SignedIn := by
  obtain ⟨history, heq⟩ := b.leave_eq_with
  rw [heq]
  exact ⟨h.guarded, h.visible⟩

theorem landing_leave (b : Browser) : b.leave.landing = b.landing := by
  obtain ⟨history, heq⟩ := b.leave_eq_with
  rw [heq]

theorem SignedIn.pass (h : b.SignedIn) (i : Nat) (first second : Interruption)
    (answer : Option Answer) : (b.pass i first second answer).browser = (first b).1.leave := by
  cases hkind : b.kind with
  | exchange => exact absurd hkind h.guarded
  | guard => simp only [Browser.pass, hkind, guardPass, h.visible, if_true]
  | page => simp only [Browser.pass, hkind, guardPass, h.visible, if_true]

theorem SignedIn.simplePass (h : b.SignedIn) (i : Nat) (answer : Option Answer) :
    (b.simplePass i answer).1 = b.leave := h.pass i uninterrupted uninterrupted answer

theorem SignedIn.render (h : b.SignedIn) (answer : Option Answer) (nested : Option Nested) :
    (b.step (.render answer nested)).1 = b.leave ∨
      (b.step (.render answer nested)).1 = b.leave.leave := by
  cases nested with
  | none => exact .inl (h.simplePass b.current answer)
  | some nested =>
    simp only [step, Browser.render, nestedPass, h.pass]
    split
    · right
      rw [h.simplePass]
    · exact .inl rfl

theorem SignedIn.run_of_rests (h : b.SignedIn) (hrests : b.history.location.Rests b.landing)
    {renders : List Event} (hrenders : ∀ e ∈ renders, e.isRender = true) : b.run renders = b := by
  induction renders with
  | nil => rfl
  | cons e renders ih =>
    obtain ⟨answer, nested, rfl⟩ := Event.eq_render (hrenders e List.mem_cons_self)
    have hstep : (b.step (.render answer nested)).1 = b := by
      obtain heq | heq := h.render answer nested
      · rw [heq, leave_of_rests hrests]
      · rw [heq, leave_of_rests hrests, leave_of_rests hrests]
    rw [Browser.run, List.foldl_cons, hstep]
    exact ih fun d hd => hrenders d (List.mem_cons_of_mem _ hd)

theorem SignedIn.checksRest_iff (h : b.SignedIn) :
    b.ChecksRest ↔ b.history.location.Rests b.landing := by
  constructor
  · intro hall
    have hone := hall [.render none none] fun e he => by rw [List.mem_singleton.1 he]; rfl
    apply rests_of_leave
    rw [← h.simplePass b.current none]
    exact hone
  · intro hrests renders hrenders
    rw [h.run_of_rests hrests hrenders]

theorem SignedIn.checksRest_of_again (h : b.SignedIn)
    (hagain : ∀ v, b.history.location.join b.landing = .ok v → v.Rests b.landing) :
    b.leave.ChecksRest := by
  rw [h.leave.checksRest_iff, landing_leave]
  cases hjoin : b.history.location.join b.landing with
  | error fault =>
    rw [leave_of_error hjoin]
    exact Address.rests_of_again (.inr ⟨fault, hjoin⟩)
  | ok v =>
    rw [location_leave hjoin]
    exact hagain v hjoin

/-! ## By the kind of the route -/

theorem SignedIn.checksRest_of_error (h : b.SignedIn) {fault : AddressFault}
    (hfails : b.history.location.join b.landing = .error fault) : b.leave.ChecksRest := by
  apply h.checksRest_of_again
  intro v hv
  rw [hfails] at hv
  cases hv

theorem SignedIn.checksRest_of_anchored (h : b.SignedIn)
    (hanchored : b.history.location.Anchored (Address.cleaned b.landing.toList)) :
    b.leave.ChecksRest := by
  apply h.checksRest_of_again
  intro v hv
  exact Address.rests_of_again (Address.anchored_again hanchored hv)

theorem SignedIn.checksRest_of_root (h : b.SignedIn)
    (hroot : Address.cleaned b.landing.toList = ['/']) : b.leave.ChecksRest := by
  have hjoin : ∀ a : Address, a.join b.landing = Address.resolve (some a) ['/'] := by
    intro a
    rw [← hroot]
    rfl
  apply h.checksRest_of_again
  intro v hv
  apply Address.rests_of_again
  rw [hjoin] at hv ⊢
  exact Address.root_again hv

section

variable {path : List Char}
  (hpart : b.history.location.relativePart? (Address.cleaned b.landing.toList) = some path)
  (hrel : Address.isPathRelative path = true)

include hpart hrel

/-- A relative path that leads back to the folder it starts from leads to the same place again. -/
theorem SignedIn.checksRest_of_folder (h : b.SignedIn)
    (hfolder : Address.Path.folder b.leave.history.location.kind b.leave.history.location.path =
      Address.Path.folder b.history.location.kind b.history.location.path) :
    b.leave.ChecksRest := by
  obtain ⟨v, hv⟩ := Address.exists_resolve_of_relative hpart hrel
  rw [location_leave hv] at hfolder
  apply h.checksRest_of_again
  intro w hw
  obtain rfl : w = v := Except.ok.inj (hw.symm.trans hv)
  exact Address.rests_of_again (Address.relative_again_of_folder hpart hrel hv hfolder)

theorem SignedIn.checksRest_iff_of_relative (h : b.SignedIn)
    (hflat : ∀ x ∈ Address.Path.segments b.history.location.kind path,
      Address.Path.isDoubleDot x = false) :
    b.leave.ChecksRest ↔
      ∀ x ∈ (Address.Path.segments b.history.location.kind path).dropLast,
        Address.Path.dot x = true := by
  obtain ⟨v, hv⟩ := Address.exists_resolve_of_relative hpart hrel
  rw [h.leave.checksRest_iff, landing_leave, location_leave hv]
  exact Address.relative_again_iff hpart hrel hv hflat

end

end Browser

/-- After one check that finds a session, what further checks do to the history hangs on the landing
route alone. They leave it as it is exactly if the route does not lead on from where the browser is
now. By the kind of the route, they do if it leads nowhere, is anchored or is the root; for a
relative path, if it leads back to the same folder, and if no segment leads up, exactly if it opens
no folder. -/
theorem repeated_checks_rest_iff (b : Browser) (hkind : b.kind ≠ .exchange)
    (hsession : b.store.hasSession = true) :
    let checked := (b.step (.render none none)).1
    let page := b.history.location
    let link := Address.cleaned b.landing.toList
    (checked.ChecksRest ↔ checked.history.location.Rests b.landing) ∧
    ((∃ fault, page.join b.landing = .error fault) → checked.ChecksRest) ∧
    (page.Anchored link ∨ link = ['/'] → checked.ChecksRest) ∧
    ∀ path, page.relativePart? link = some path → Address.isPathRelative path = true →
      let now := checked.history.location
      (Address.Path.folder now.kind now.path = Address.Path.folder page.kind page.path →
        checked.ChecksRest) ∧
      ((∀ x ∈ Address.Path.segments page.kind path, Address.Path.isDoubleDot x = false) →
        (checked.ChecksRest ↔
          ∀ x ∈ (Address.Path.segments page.kind path).dropLast, Address.Path.dot x = true)) := by
  intro checked page link
  have hsigned : b.SignedIn := ⟨hkind, hsession⟩
  have hchecked : checked = b.leave := hsigned.simplePass b.current none
  rw [hchecked]
  refine ⟨?_, ?_, ?_, ?_⟩
  · rw [hsigned.leave.checksRest_iff, Browser.landing_leave]
  · rintro ⟨fault, hfails⟩
    exact hsigned.checksRest_of_error hfails
  · rintro (hanchored | hroot)
    · exact hsigned.checksRest_of_anchored hanchored
    · exact hsigned.checksRest_of_root hroot
  · intro path hpart hrel now
    exact ⟨hsigned.checksRest_of_folder hpart hrel, hsigned.checksRest_iff_of_relative hpart hrel⟩

/-- A user who is signed in opens the login page, and the landing route opens a folder. -/
def drifting : Browser :=
  .load .guard "home/" (.ofMedium (.memory (Items.empty.putSession ⟨"T", "T", .blank⟩)))
    ⟨"https".toList, some ⟨[], [], "app.example".toList, none⟩, "/login".toList, none, none⟩

theorem drifting_never_rests :
    drifting.kind ≠ .exchange ∧ drifting.store.hasSession = true ∧
      ¬ (drifting.step (.render none none)).1.ChecksRest := by
  have hkind : drifting.kind ≠ .exchange := by decide
  have hsession : drifting.store.hasSession = true := by decide +kernel
  have hpart : drifting.history.location.relativePart? (Address.cleaned drifting.landing.toList) =
      some "home/".toList := by
    decide +kernel
  have hflat : ∀ x ∈ Address.Path.segments drifting.history.location.kind "home/".toList,
      Address.Path.isDoubleDot x = false := by
    decide +kernel
  obtain ⟨_, _, _, hpath⟩ := repeated_checks_rest_iff drifting hkind hsession
  refine ⟨hkind, hsession, ?_⟩
  rw [(hpath _ hpart (by decide)).2 hflat]
  decide +kernel

/-- Each check of the guard adds an entry: `/login`, `/home/`, `/home/home/`, and so on. -/
theorem checks_grow_history :
    ¬ ∀ b : Browser, b.kind ≠ .exchange → b.store.hasSession = true →
      (b.step (.render none none)).1.ChecksRest := by
  intro hclaim
  have hkind : drifting.kind ≠ .exchange := by decide
  have hsession : drifting.store.hasSession = true := by decide +kernel
  have hrenders : ∀ e ∈ [Event.render none none], e.isRender = true := by
    intro e he
    rw [List.mem_singleton.1 he]
    rfl
  have hstays := hclaim drifting hkind hsession [.render none none] hrenders
  exact absurd hstays (by decide +kernel)

end TicketLogin
