import TicketLogin.Page.Event

/-!
# What the operations of a browser leave alone

Each operation changes a few parts of a browser. For every operation that a pass is made of, and for
every part that a later argument follows, one lemma says what becomes of the part.
-/

namespace TicketLogin

namespace Surface

@[simp] theorem attempted_advance (s : Surface) (phase : Phase) :
    (s.advance phase).attempted = s.attempted := by
  unfold advance
  split <;> rfl

@[simp] theorem mounted_advance (s : Surface) (phase : Phase) :
    (s.advance phase).mounted = s.mounted := by
  unfold advance
  split <;> rfl

theorem phase_advance (s : Surface) (phase : Phase) :
    (s.advance phase).phase = if s.mounted = true then phase else s.phase := by
  unfold advance
  split <;> rfl

end Surface

namespace Browser

/-! ## Surfaces -/

theorem surface_updateSurface (b : Browser) (i j : Nat) (f : Surface → Surface) :
    (b.updateSurface i f).surface j =
      if i = j ∧ j < b.surfaces.length then f (b.surface j) else b.surface j := by
  simp only [surface, updateSurface, List.getD_eq_getElem?_getD, List.getElem?_modify]
  by_cases hj : j < b.surfaces.length
  · by_cases hij : i = j <;> simp [hij, hj]
  · simp [hj]

@[simp] theorem length_updateSurface (b : Browser) (i : Nat) (f : Surface → Surface) :
    (b.updateSurface i f).surfaces.length = b.surfaces.length := by
  simp [updateSurface]

theorem surface_of_length_le {b : Browser} {i : Nat} (h : b.surfaces.length ≤ i) :
    b.surface i = .fresh := by
  simp [surface, List.getElem?_eq_none h]

/-- A surface that comes is fresh, as it was taken to be before. -/
theorem surface_mount (b : Browser) (i : Nat) :
    surface { b with surfaces := b.surfaces ++ [.fresh] } i = b.surface i := by
  rcases Nat.lt_trichotomy i b.surfaces.length with hi | hi | hi
  · simp [surface, List.getElem?_append_left hi]
  · simp [surface, hi]
  · rw [surface_of_length_le (Nat.le_of_lt hi), surface_of_length_le]
    rw [List.length_append]
    exact hi

@[simp] theorem length_advance (b : Browser) (i : Nat) (phase : Phase) :
    (b.advance i phase).surfaces.length = b.surfaces.length := length_updateSurface ..

/-! ## Ends of an exchange -/

theorem complete_error (b : Browser) (i : Nat) (failure : RedemptionFailure) :
    b.complete i (.error failure) = (b.fail i (b.surface i).mounted failure, .failed) := rfl

theorem complete_ok {b : Browser} {g : Grant} (i : Nat)
    (h : (b.store.persist g.session).2 = .ok ()) :
    b.complete i (.ok g) =
      (({ b with store := (b.store.persist g.session).1 }).succeed i (b.surface i).mounted,
        .succeeded) := by
  simp only [complete, h]

theorem complete_ok_of_fault {b : Browser} {g : Grant} {fault : StoreFault} (i : Nat)
    (h : (b.store.persist g.session).2 = .error fault) :
    b.complete i (.ok g) =
      (({ b with store := (b.store.persist g.session).1 }).fail i (b.surface i).mounted
        (.persistence fault.chain), .failed) := by
  simp only [complete, h]

theorem complete_cases (b : Browser) (i : Nat) (answer : Answer) :
    (∃ store failure, b.complete i answer =
      (({ b with store }).fail i (b.surface i).mounted failure, .failed)) ∨
    ∃ store, b.complete i answer = (({ b with store }).succeed i (b.surface i).mounted, .succeeded) := by
  cases answer with
  | error failure => exact .inl ⟨b.store, failure, rfl⟩
  | ok g =>
    cases h : (b.store.persist g.session).2 with
    | ok => exact .inr ⟨_, complete_ok i h⟩
    | error fault => exact .inl ⟨_, _, complete_ok_of_fault i h⟩

/-- What no redemption changes once it is asked for: the page, and of each surface whether it has
attempted and whether it is still there. -/
def frame (b : Browser) : SurfaceKind × String × List (Bool × Bool) :=
  (b.kind, b.landing, b.surfaces.map fun s => (s.attempted, s.mounted))

theorem frame_advance (b : Browser) (i : Nat) (phase : Phase) :
    (b.advance i phase).frame = b.frame := by
  have h : (b.advance i phase).surfaces.map (fun s => (s.attempted, s.mounted)) =
      b.surfaces.map fun s => (s.attempted, s.mounted) := by
    apply List.ext_getElem?
    intro j
    simp only [advance, updateSurface, List.getElem?_map, List.getElem?_modify]
    cases b.surfaces[j]? with
    | none => rfl
    | some s => by_cases hij : i = j <;> simp [hij]
  simp only [frame, h]
  rfl

theorem frame_complete (b : Browser) (i : Nat) (answer : Answer) :
    (b.complete i answer).1.frame = b.frame := by
  obtain ⟨store, failure, h⟩ | ⟨store, h⟩ := b.complete_cases i answer
  · rw [h, fail]
    split
    · exact frame_advance b i .failed
    · rfl
  · rw [h, succeed]
    split
    · exact frame_advance b i .succeeded
    · rfl

theorem calls_complete (b : Browser) (i : Nat) (answer : Answer) :
    (b.complete i answer).1.calls = b.calls := by
  obtain ⟨store, failure, h⟩ | ⟨store, h⟩ := b.complete_cases i answer
  · rw [h, fail]
    split <;> rfl
  · rw [h, succeed]
    split <;> rfl

theorem frame_answerCall (b : Browser) (n i : Nat) (answer : Answer) :
    (b.answerCall n i answer).1.frame = b.frame :=
  frame_complete (b.setStatus n .answered) i answer

theorem calls_answerCall (b : Browser) (n i : Nat) (answer : Answer) :
    (b.answerCall n i answer).1.calls = (b.setStatus n .answered).calls :=
  calls_complete (b.setStatus n .answered) i answer

theorem length_eq_of_frame {b b' : Browser} (h : b'.frame = b.frame) :
    b'.surfaces.length = b.surfaces.length := by
  have h := congrArg (fun f => f.2.2.length) h
  simpa [frame] using h

theorem flags_eq_of_frame {b b' : Browser} (h : b'.frame = b.frame) (j : Nat) :
    (b'.surface j).attempted = (b.surface j).attempted ∧
      (b'.surface j).mounted = (b.surface j).mounted := by
  have h := congrArg (fun f => f.2.2.getD j (false, true)) h
  simp only [frame, List.getD_eq_getElem?_getD, List.getElem?_map] at h
  simp only [surface, List.getD_eq_getElem?_getD]
  cases hb : b.surfaces[j]? <;> cases hb' : b'.surfaces[j]? <;> simp_all [Surface.fresh]

theorem frame_beginCall (b : Browser) (i : Nat) (ticket : Ticket) :
    (b.beginCall i ticket).frame =
      (b.updateSurface i fun s => { s with attempted := true }).frame := by
  generalize htaken : (b.updateSurface i fun s => { s with attempted := true }) = taken
  change (((b.updateSurface i fun s => { s with attempted := true }).advance i
    .ticketPending).advance i .exchanging).frame = _
  rw [htaken, frame_advance, frame_advance]

theorem attempted_beginCall (b : Browser) (i j : Nat) (ticket : Ticket) :
    ((b.beginCall i ticket).surface j).attempted =
      if i = j ∧ j < b.surfaces.length then true else (b.surface j).attempted := by
  rw [(flags_eq_of_frame (b.frame_beginCall i ticket) j).1, surface_updateSurface]
  split <;> rfl

theorem mounted_beginCall (b : Browser) (i j : Nat) (ticket : Ticket) :
    ((b.beginCall i ticket).surface j).mounted = (b.surface j).mounted := by
  rw [(flags_eq_of_frame (b.frame_beginCall i ticket) j).2, surface_updateSurface]
  split <;> rfl

theorem length_beginCall (b : Browser) (i : Nat) (ticket : Ticket) :
    (b.beginCall i ticket).surfaces.length = b.surfaces.length := by
  simp [beginCall]

theorem calls_beginCall (b : Browser) (i : Nat) (ticket : Ticket) :
    (b.beginCall i ticket).calls = b.calls ++ [⟨i, ticket, b.history.location, .pending⟩] := rfl

theorem store_beginCall (b : Browser) (i : Nat) (ticket : Ticket) :
    (b.beginCall i ticket).store = b.store := rfl

theorem notices_beginCall (b : Browser) (i : Nat) (ticket : Ticket) :
    (b.beginCall i ticket).notices = b.notices := rfl

theorem history_beginCall (b : Browser) (i : Nat) (ticket : Ticket) :
    (b.beginCall i ticket).history = b.history := rfl

theorem landing_beginCall (b : Browser) (i : Nat) (ticket : Ticket) :
    (b.beginCall i ticket).landing = b.landing := rfl

theorem store_setStatus (b : Browser) (n : Nat) (status : CallStatus) :
    (b.setStatus n status).store = b.store := rfl

theorem notices_setStatus (b : Browser) (n : Nat) (status : CallStatus) :
    (b.setStatus n status).notices = b.notices := rfl

theorem history_setStatus (b : Browser) (n : Nat) (status : CallStatus) :
    (b.setStatus n status).history = b.history := rfl

theorem landing_setStatus (b : Browser) (n : Nat) (status : CallStatus) :
    (b.setStatus n status).landing = b.landing := rfl

theorem pending?_beginCall (b : Browser) (i : Nat) (ticket : Ticket) :
    (b.beginCall i ticket).pending? b.calls.length =
      some ⟨i, ticket, b.history.location, .pending⟩ := by
  rw [pending?, calls_beginCall, List.getElem?_concat_length]
  rfl

theorem length_setStatus (b : Browser) (n : Nat) (status : CallStatus) :
    (b.setStatus n status).calls.length = b.calls.length := by
  simp [setStatus]

theorem calls_redeem (b : Browser) (i : Nat) (ticket : Ticket) (answer : Option Answer) :
    ∃ status, (b.redeem i ticket answer).1.calls =
      b.calls ++ [⟨i, ticket, b.history.location, status⟩] := by
  cases answer with
  | none => exact ⟨.pending, rfl⟩
  | some answer =>
    refine ⟨.answered, ?_⟩
    change ((b.beginCall i ticket).answerCall b.calls.length i answer).1.calls = _
    rw [calls_answerCall, setStatus, calls_beginCall]
    apply List.ext_getElem?
    intro k
    rw [List.getElem?_modify]
    rcases Nat.lt_trichotomy k b.calls.length with hk | hk | hk
    · simp [List.getElem?_append_left hk, Nat.ne_of_gt hk]
    · simp [hk]
    · simp [Nat.ne_of_lt hk, List.getElem?_append_right (Nat.le_of_lt hk),
        Nat.sub_ne_zero_of_lt hk]

theorem leave_eq (b : Browser) : b.leave = b ∨ b.leave = b.navigate b.landing := by
  unfold leave
  split
  · split
    · exact .inl rfl
    · exact .inr rfl
  · exact .inr rfl

theorem leave_eq_with (b : Browser) : ∃ history, b.leave = { b with history } := by
  rcases b.leave_eq with h | h
  · exact ⟨b.history, h⟩
  · exact ⟨b.history.navigate b.landing, h⟩

theorem store_leave (b : Browser) : b.leave.store = b.store := by
  obtain ⟨_, h⟩ := b.leave_eq_with
  rw [h]

theorem surfaces_leave (b : Browser) : b.leave.surfaces = b.surfaces := by
  obtain ⟨_, h⟩ := b.leave_eq_with
  rw [h]

theorem calls_leave (b : Browser) : b.leave.calls = b.calls := by
  obtain ⟨_, h⟩ := b.leave_eq_with
  rw [h]

theorem redeem_some (b : Browser) (i : Nat) (ticket : Ticket) (answer : Answer) :
    b.redeem i ticket (some answer) =
      let ended := (b.beginCall i ticket).answerCall b.calls.length i answer
      (ended.1, .done (.exchanged ended.2)) := rfl

end Browser

end TicketLogin
