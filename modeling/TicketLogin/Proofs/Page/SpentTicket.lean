import TicketLogin.Proofs.Page.Invariant
import TicketLogin.Proofs.History

/-!
# Where a spent ticket stays

An exchange that succeeds takes the ticket out of the entry that is current at that moment. What
lies behind is never touched, so a ticket is still addressable afterwards exactly if it was left
behind before, or if the landing route brings it up again.
-/

namespace TicketLogin

namespace Browser

theorem call_of_setStatus {b : Browser} {k n : Nat} {status : CallStatus} {c d : Call}
    (hd : b.calls[k]? = some d) (hc : (b.setStatus k status).calls[n]? = some c)
    (hne : (b.setStatus k status).calls[n]? ≠ b.calls[n]?) : c = { d with status } := by
  simp only [setStatus, List.getElem?_modify] at hc hne
  by_cases hk : k = n
  · rw [← hk, hd] at hc
    simp only [if_true] at hc
    exact (Option.some.inj hc).symm
  · simp [hk] at hne

/-- The call that a redemption adds is one of the surface that redeems. -/
theorem surface_of_redeem {b : Browser} {i n : Nat} {ticket : Ticket} {answer : Option Answer}
    {c : Call} (hc : (b.redeem i ticket answer).1.calls[n]? = some c)
    (hne : (b.redeem i ticket answer).1.calls[n]? ≠ b.calls[n]?) : c.surface = i := by
  obtain ⟨status, hcalls⟩ := b.calls_redeem i ticket answer
  rw [hcalls] at hc hne
  rcases Nat.lt_trichotomy n b.calls.length with hn | hn | hn
  · exact absurd (List.getElem?_append_left hn) hne
  · rw [hn, List.getElem?_concat_length, Option.some.injEq] at hc
    rw [← hc]
  · rw [List.getElem?_eq_none (by rw [List.length_append]; exact hn)] at hc
    cases hc

def settled (b : Browser) (i : Nat) : History :=
  if (b.surface i).mounted then b.history.stripTicket.navigate b.landing else b.history.stripTicket

theorem history_complete (b : Browser) (i : Nat) (answer : Answer) :
    ((b.complete i answer).2 = .failed ∧ (b.complete i answer).1.history = b.history) ∨
    ((b.complete i answer).2 = .succeeded ∧ (b.complete i answer).1.history = b.settled i) := by
  obtain ⟨store, failure, h⟩ | ⟨store, h⟩ := b.complete_cases i answer
  · left
    rw [h, fail]
    split <;> exact ⟨rfl, rfl⟩
  · right
    rw [h, succeed, settled]
    split <;> exact ⟨rfl, rfl⟩

theorem history_redeem {b : Browser} {i : Nat} {ticket : Ticket} {answer : Option Answer}
    (h : (b.redeem i ticket answer).2 = .done (.exchanged .succeeded)) :
    (b.redeem i ticket answer).1.history = b.settled i := by
  cases answer with
  | none => cases h
  | some answer =>
    obtain ⟨hphase, _⟩ | ⟨_, hhistory⟩ :=
      ((b.beginCall i ticket).setStatus b.calls.length .answered).history_complete i answer
    · simp [redeem_some, answerCall, hphase] at h
    · have hmounted := b.mounted_beginCall i i ticket
      simp only [surface] at hmounted
      rw [redeem_some, answerCall, hhistory]
      simp only [settled, surface, setStatus, hmounted]
      rfl

/-! ## Nothing behind the current entry changes -/

/-- What following a route and replacing an entry keep of a history, every operation keeps. -/
theorem kept_history {P : History → Prop} (hnavigate : ∀ h route, P h → P (h.navigate route))
    (hreplace : ∀ h a, P h → P (h.replace a)) : Kept fun b => P b.history where
  navigate b route hb := hnavigate b.history route hb
  beginCall _ _ _ _ _ _ hb := hb
  answerCall b n c answer _ hb := by
    have hstrip : P b.history.stripTicket := hreplace b.history _ hb
    obtain ⟨_, h⟩ | ⟨_, h⟩ := (b.setStatus n .answered).history_complete c.surface answer
    · rw [answerCall, h]
      exact hb
    · rw [answerCall, h, settled]
      split
      · exact hnavigate _ _ hstrip
      · exact hstrip
  mount _ hb := hb
  unmount _ _ hb := hb
  cancel _ _ _ _ hb := hb
  store _ _ hb := hb
  replace b address hb := hreplace b.history address hb

theorem kept_atEnd : Kept fun b => b.history.AtEnd :=
  kept_history (fun _ route h => History.atEnd_navigate h route)
    (fun _ a h => History.atEnd_replace h a)

theorem kept_behind (entries : List Address) : Kept fun b => entries <+: b.history.behind := by
  apply kept_history (P := fun h => entries <+: h.behind)
  · intro h route hprefix
    exact hprefix.trans (h.behind_prefix_navigate route)
  · intro h a hprefix
    rwa [h.behind_replace]

end Browser

namespace Scene

/-- The entries that a move leaves behind, as they stay from then on. -/
def leftBy (s : Scene) (m : Move) : List Address :=
  (s.step m).1.browser.history.behind.drop s.browser.history.index

theorem behind_step {s : Scene} (hs : s.Sound) (m : Move) :
    (s.step m).1.browser.history.behind = s.browser.history.behind ++ s.leftBy m := by
  have hprefix := (Browser.kept_behind _).scene hs m List.prefix_rfl
  rw [leftBy, ← s.browser.history.length_behind]
  exact (List.prefix_iff_eq_append.1 hprefix).symm

/-- What lies behind after a run lay there before it or was left there by one of the moves. -/
theorem mem_behind_run {s : Scene} (hs : s.Sound) (moves : List Move) (a : Address) :
    a ∈ (s.run moves).browser.history.behind ↔
      a ∈ s.browser.history.behind ∨
        ∃ first m rest, moves = first ++ m :: rest ∧ a ∈ (s.run first).leftBy m := by
  induction moves generalizing s with
  | nil => simp
  | cons m moves ih =>
    rw [run_cons, ih (hs.step m), behind_step hs, List.mem_append, or_assoc]
    refine or_congr_right ⟨?_, ?_⟩
    · rintro (hleft | ⟨first, k, rest, rfl, hleft⟩)
      · exact ⟨[], m, moves, rfl, hleft⟩
      · exact ⟨m :: first, k, rest, rfl, hleft⟩
    · rintro ⟨first, k, rest, heq, hleft⟩
      cases first with
      | nil =>
        obtain ⟨rfl, rfl⟩ := List.cons.inj heq
        exact .inl hleft
      | cons _ first =>
        obtain ⟨rfl, rfl⟩ := List.cons.inj heq
        exact .inr ⟨first, k, rest, rfl, hleft⟩

/-! ## The move that ends an exchange -/

/-- The move answers the call with this number, and the exchange that waited for it succeeds. -/
structure Redeems (s : Scene) (m : Move) (n : Nat) (c : Call) : Prop where
  call : (s.step m).1.browser.calls[n]? = some c
  answered : c.status = .answered
  unanswered : ∀ d ∈ s.browser.calls[n]?, d.status ≠ .answered
  succeeded : (s.step m).2.isSuccess = true

theorem Redeems.calls_ne {s : Scene} {m : Move} {n : Nat} {c : Call} (h : s.Redeems m n c) :
    (s.step m).1.browser.calls[n]? ≠ s.browser.calls[n]? :=
  fun heq => h.unanswered c (heq.symm.trans h.call) h.answered

theorem Redeems.history_outside {b : Browser} {e : Event} {n : Nat} {c : Call}
    (he : e.isRender = false) (h : (calm b).Redeems (.outside e) n c) :
    (b.step e).1.history = b.settled c.surface := by
  have hcall := h.call
  have hne := h.calls_ne
  have hreport := h.succeeded
  simp only [step, calm, List.isEmpty_nil, he, Bool.not_false, Bool.and_self, if_true]
    at hcall hne hreport
  cases e with
  | render => cases he
  | respond k answer =>
    simp only [Browser.step] at hcall hne hreport ⊢
    cases hpending : b.pending? k with
    | none =>
      rw [hpending] at hne
      exact absurd rfl hne
    | some d =>
      simp only [hpending, Browser.calls_answerCall] at hcall hne hreport ⊢
      obtain ⟨hd, _⟩ := Option.filter_eq_some_iff.1 hpending
      -- no other call changes, so it is this one that is answered
      have hc := Browser.call_of_setStatus hd hcall hne
      obtain ⟨hphase, _⟩ | ⟨_, hhistory⟩ := (b.setStatus k .answered).history_complete d.surface answer
      · rw [Browser.answerCall, hphase] at hreport
        cases hreport
      · rw [Browser.answerCall, hhistory, hc]
        rfl
  | cancel k =>
    simp only [Browser.step] at hcall hne
    cases hpending : b.pending? k with
    | none =>
      rw [hpending] at hne
      exact absurd rfl hne
    | some d =>
      simp only [hpending] at hcall hne
      obtain ⟨hd, _⟩ := Option.filter_eq_some_iff.1 hpending
      have hstatus := h.answered
      rw [Browser.call_of_setStatus hd hcall hne] at hstatus
      cases hstatus
  | _ => exact absurd rfl hne

theorem Redeems.history {s : Scene} {m : Move} {n : Nat} {c : Call} (h : s.Redeems m n c) :
    (s.step m).1.browser.history = s.browser.settled c.surface := by
  obtain ⟨b, passes⟩ := s
  have hne := h.calls_ne
  cases m with
  | enter i answer =>
    simp only [step] at hne
    split at hne
    · rw [browser_follow] at hne
      exact absurd rfl hne
    · exact absurd rfl hne
  | unmount i =>
    simp only [step] at hne
    split at hne <;> exact absurd rfl hne
  | outside e =>
    cases passes with
    | cons p passes => exact absurd rfl hne
    | nil =>
      cases he : e.isRender with
      | true =>
        simp only [step, he, Bool.not_true, Bool.and_false, Bool.false_eq_true, if_false] at hne
        exact absurd rfl hne
      | false =>
        have hhistory := Redeems.history_outside he h
        simp only [step, List.isEmpty_nil, he, Bool.not_false, Bool.and_self, if_true]
        exact hhistory
  | resume =>
    cases passes with
    | nil => exact absurd rfl hne
    | cons p passes =>
      have hcall := h.call
      have hreport := h.succeeded
      simp only [step] at hcall hreport hne ⊢
      rw [browser_follow] at hcall hne ⊢
      obtain heq | ⟨_, heq⟩ | ⟨_, ticket, _, _, _, heq⟩ := b.resume_cases p.surface p.answer p.rest
      · rw [heq] at hne
        exact absurd rfl hne
      · rw [heq, b.calls_leave] at hne
        exact absurd rfl hne
      · rw [heq] at hcall hreport hne ⊢
        rw [Browser.surface_of_redeem hcall hne]
        exact Browser.history_redeem (Report.isSuccess_ended hreport)

/-- When an exchange has succeeded, its ticket is still addressable in three cases only: it lay
behind at some earlier moment, such as when the redemption was asked for; a move since then left it
behind; or the landing route leads to it. -/
theorem spent_ticket_addressable_iff (kind : SurfaceKind) (landing : String) (store : Store)
    (start : Address) (before moves : List Move) (last : Move) (n : Nat) (c : Call)
    (hdone : (((load kind landing store start).run before).run moves).Redeems last n c) :
    let s := (load kind landing store start).run before
    let t := s.run moves
    (t.step last).1.browser.history.Carries c.ticket ↔
      (∃ a ∈ s.browser.history.behind, a.Carries c.ticket) ∨
      (∃ first m rest, moves = first ++ m :: rest ∧
        ∃ a ∈ (s.run first).leftBy m, a.Carries c.ticket) ∨
      ((t.browser.surface c.surface).mounted = true ∧
        (t.browser.history.stripTicket.navigate landing).location.Carries c.ticket) := by
  intro s t
  have hsound : s.Sound := (sound_calm _).run before
  have hend : t.browser.history.AtEnd :=
    Browser.kept_atEnd.run hsound moves (Browser.kept_atEnd.run (sound_calm _) before
      (History.atEnd_start start))
  have hpage := (Browser.kept_page kind landing).run hsound moves
    ((Browser.kept_page kind landing).run (sound_calm _) before ⟨rfl, rfl⟩)
  have hbehind : (∃ a ∈ t.browser.history.behind, a.Carries c.ticket) ↔
      (∃ a ∈ s.browser.history.behind, a.Carries c.ticket) ∨
      ∃ first m rest, moves = first ++ m :: rest ∧
        ∃ a ∈ (s.run first).leftBy m, a.Carries c.ticket := by
    simp only [t, mem_behind_run hsound moves]
    constructor
    · rintro ⟨a, ha | ⟨first, m, rest, heq, ha⟩, hc⟩
      · exact .inl ⟨a, ha, hc⟩
      · exact .inr ⟨first, m, rest, heq, a, ha, hc⟩
    · rintro (⟨a, ha, hc⟩ | ⟨first, m, rest, heq, a, ha, hc⟩)
      · exact ⟨a, .inl ha, hc⟩
      · exact ⟨a, .inr ⟨first, m, rest, heq, ha⟩, hc⟩
  rw [← or_assoc, ← hbehind, hdone.history, Browser.settled, hpage.2]
  cases (t.browser.surface c.surface).mounted with
  | true =>
    rw [if_pos rfl, History.stripTicket_navigate_carries_iff hend]
    simp
  | false =>
    rw [if_neg Bool.false_ne_true, History.stripTicket_carries_iff hend]
    simp

def ticketPage : Address :=
  ⟨"https".toList, some ⟨[], [], "app.example".toList, none⟩, "/login".toList,
    some "ticket=ST-1".toList, none⟩

def ticketCall (status : CallStatus) : Call := ⟨0, ⟨"ST-1".toList, by decide⟩, ticketPage, status⟩

def workingStore : Store := ⟨.memory .empty, false, false, false⟩

def waiting : Scene :=
  (load .exchange "/" workingStore ticketPage).run [.enter 0 none, .resume]

def goElsewhere : Move := .outside (.navigate "/other")

def grantAccess : Move := .outside (.respond 0 (.ok ⟨"T", "T", none, none, none⟩))

def elsewhere : Scene := waiting.run [goElsewhere]

theorem redeems_elsewhere : elsewhere.Redeems grantAccess 0 (ticketCall .answered) := by
  constructor <;> decide +kernel

theorem left_ticket_addressable_iff :
    elsewhere.Redeems grantAccess 0 (ticketCall .answered) ∧
    let s := (load .exchange "/" workingStore ticketPage).run [.enter 0 none, .resume]
    let t := s.run [goElsewhere]
    ((t.step grantAccess).1.browser.history.Carries (ticketCall .answered).ticket ↔
      (∃ a ∈ s.browser.history.behind, a.Carries (ticketCall .answered).ticket) ∨
      (∃ first m rest, [goElsewhere] = first ++ m :: rest ∧
        ∃ a ∈ (s.run first).leftBy m, a.Carries (ticketCall .answered).ticket) ∨
      ((t.browser.surface (ticketCall .answered).surface).mounted = true ∧
        (t.browser.history.stripTicket.navigate "/").location.Carries
          (ticketCall .answered).ticket)) :=
  ⟨redeems_elsewhere, spent_ticket_addressable_iff .exchange "/" workingStore ticketPage
    [.enter 0 none, .resume] [goElsewhere] grantAccess 0 (ticketCall .answered) redeems_elsewhere⟩

/-- The move brings an entry that carries the ticket to a place where there was none. -/
def Introduces (s : Scene) (m : Move) (t : Ticket) : Prop :=
  ∃ k < (s.step m).1.browser.history.entries.length,
    ∃ a ∈ (s.step m).1.browser.history.entries[k]?,
      a.Carries t ∧ s.browser.history.entries[k]? ≠ some a

instance (s : Scene) (m : Move) (t : Ticket) : Decidable (s.Introduces m t) := by
  unfold Introduces
  infer_instance

/-- Whoever goes elsewhere before the answer arrives leaves the ticket in the history, although
nothing after the call brings it there. -/
theorem ticket_stays_behind :
    waiting.browser.calls = [ticketCall .pending] ∧
    ¬ waiting.Introduces goElsewhere (ticketCall .pending).ticket ∧
    ¬ elsewhere.Introduces grantAccess (ticketCall .pending).ticket ∧
    elsewhere.Redeems grantAccess 0 (ticketCall .answered) ∧
    (elsewhere.step grantAccess).1.browser.history.Carries (ticketCall .pending).ticket := by
  refine ⟨?_, ?_, ?_, redeems_elsewhere, ?_⟩
  · decide +kernel
  · decide +kernel
  · decide +kernel
  · decide +kernel

end Scene

end TicketLogin
