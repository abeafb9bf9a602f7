import TicketLogin.Proofs.Page.Completion

/-!
# What the notices tell

The user is told of each exchange that fails in sight, once and in the order in which the exchanges
are completed. Nothing else leaves a notice, so of one page load there is one at most.
-/

namespace TicketLogin

/-- The notices are those of these completed exchanges. Each surface has as many of them as it has
answered calls, and one at most. -/
structure Browser.Tells (b : Browser) (ledger : List Completion) : Prop where
  notices : b.notices = ledger.filterMap Completion.notice?
  answered : ∀ i, (ledger.filter (·.surface = i)).length =
    ((b.callsOf i).filter (·.status = .answered)).length
  once : ∀ i, (ledger.filter (·.surface = i)).length ≤ 1

theorem Browser.Completes.tells {kind : SurfaceKind} {landing : String} {store : Store}
    {start : Address} {b : Browser} {ledger : List Completion} (hb : b.Accounted)
    (h : (Browser.load kind landing store start).Completes b ledger) : b.Tells ledger := by
  have hanswered : ∀ i, (ledger.filter (·.surface = i)).length =
      ((b.callsOf i).filter (·.status = .answered)).length := by
    intro i
    have hfirst : (Browser.load kind landing store start).answeredOf i = 0 := rfl
    rw [← b.answeredOf_eq, h.answered, hfirst, Nat.zero_add]
  refine ⟨h.notices, hanswered, fun i => ?_⟩
  calc (ledger.filter (·.surface = i)).length
      = ((b.callsOf i).filter (·.status = .answered)).length := hanswered i
    _ ≤ (b.callsOf i).length := List.length_filter_le _ _
    _ = (b.surface i).attempted.toNat := by rw [b.length_callsOf, hb.once]
    _ ≤ 1 := Bool.toNat_le _

/-- Whatever a run does, the notices tell of the exchanges that it completes and of nothing else. -/
theorem notices_of_completions (kind : SurfaceKind) (landing : String) (store : Store)
    (start : Address) :
    (∀ moves : List Move,
      let s := Scene.load kind landing store start
      (s.run moves).browser.Tells (s.ledger moves)) ∧
    ∀ events : List Event,
      let b := Browser.load kind landing store start
      (b.run events).Tells (b.ledger events) := by
  have hload := Browser.accounted_load kind landing store start
  constructor
  · intro moves s
    have hrun := Browser.kept_accounted.run (Scene.sound_calm _) moves hload
    exact (s.completes_run moves).tells hrun
  · intro events b
    have hsome := Browser.surfaces_load kind landing store start
    have hrun := Browser.kept_accounted.events hsome events hload
    exact (Browser.completes_run hsome events).tells hrun

end TicketLogin
