import TicketLogin.Proofs.Session.RoundTrip

/-!
# A file answers as memory does

A medium is asked to save, to read, to clear, and whether there is a session. As long as a file lets
itself be written, it gives the replies that memory gives with the same items, and holds the same
items afterwards. Items of other writers stay throughout.
-/

namespace TicketLogin

/-- The file could not be written. -/
def StoreFault.isWriteFault : StoreFault → Bool
  | .noFolder _ _ | .noReplacement _ _ => true
  | _ => false

inductive Request
  | persist (s : Session)
  | read
  | clear
  | exists

inductive Reply
  | saved
  | session (s : Option Session)
  | flag (b : Bool)
  | refused (fault : StoreFault)
  deriving DecidableEq

namespace Reply

def of {α : Type} (wrap : α → Reply) : Except StoreFault α → Reply
  | .ok a => wrap a
  | .error fault => .refused fault

def isWriteFault : Reply → Bool
  | .refused fault => fault.isWriteFault
  | _ => false

end Reply

namespace Items

/-- What the items are once a request has been answered. -/
def after (items : Items) : Request → Items
  | .persist s => items.putSession s
  | .clear => if items.hasSessionItem then items.dropSession else items
  | _ => items

theorem get?_after {name : String} (hname : name ∉ Session.itemNames) (items : Items)
    (r : Request) : (items.after r).get? name = items.get? name := by
  cases r with
  | persist s => exact get?_putSession hname items s
  | clear =>
    rw [after]
    split
    · rw [dropSession, get?_eraseAll, if_neg hname]
    · rfl
  | read => rfl
  | «exists» => rfl

theorem get?_foldl_after {name : String} (hname : name ∉ Session.itemNames) (items : Items)
    (requests : List Request) : (requests.foldl after items).get? name = items.get? name := by
  induction requests generalizing items with
  | nil => rfl
  | cons r requests ih => rw [List.foldl_cons, ih, get?_after hname]

end Items

theorem SessionFile.isWriteFault_of_save {f : SessionFile} {items : Items} {fault : StoreFault}
    (h : (f.save items).2 = .error fault) : fault.isWriteFault = true := by
  unfold save at h
  split at h
  · cases h
    rfl
  · split at h
    · cases h
      rfl
    · cases h

namespace Medium

def answer (m : Medium) : Request → Medium × Reply
  | .persist s => ((m.persist s).1, .of (fun _ => .saved) (m.persist s).2)
  | .read => (m, .of .session m.read)
  | .clear => (m.clear.1, .of .flag m.clear.2)
  | .exists => (m, .flag m.hasSession)

def serve (m : Medium) : List Request → Medium × List Reply
  | [] => (m, [])
  | r :: requests =>
    let rest := (m.answer r).1.serve requests
    (rest.1, (m.answer r).2 :: rest.2)

theorem save_cases (m : Medium) (items : Items) :
    (∃ fault, (m.save items).2 = .error fault ∧ fault.isWriteFault = true) ∨
    (m.save items).2 = .ok () ∧ (m.save items).1.load = .ok items := by
  cases hsave : (m.save items).2 with
  | ok =>
    right
    exact ⟨rfl, load_of_save hsave⟩
  | error fault =>
    left
    refine ⟨fault, rfl, ?_⟩
    cases m with
    | memory held => cases hsave
    | file f =>
      simp only [save_file] at hsave
      exact SessionFile.isWriteFault_of_save hsave

theorem memory_answer (items : Items) (r : Request) :
    ((memory items).answer r).1 = memory (items.after r) := by
  cases r with
  | clear =>
    simp only [answer, clear, load, Items.after]
    split <;> rfl
  | _ => rfl

theorem memory_serve (items : Items) (requests : List Request) :
    ((memory items).serve requests).1 = memory (requests.foldl Items.after items) := by
  induction requests generalizing items with
  | nil => rfl
  | cons r requests ih =>
    rw [serve, memory_answer]
    exact ih (items.after r)

section

variable {m : Medium} {items : Items}

theorem read_of_load (hload : m.load = .ok items) : m.read = (memory items).read := by
  rw [read, read, hload, load]

theorem clear_of_load (hload : m.load = .ok items) :
    m.clear =
      if items.hasSessionItem then
        ((m.save items.dropSession).1,
          (m.save items.dropSession).2.map fun _ => items.authorization?.isSome)
      else (m, .ok items.authorization?.isSome) := by
  simp only [clear, hload]

/-- One request: the file could not be written, or all is as in memory. -/
theorem answer_cases (hload : m.load = .ok items) (r : Request) :
    (m.answer r).2.isWriteFault = true ∨
    (m.answer r).2 = ((memory items).answer r).2 ∧ (m.answer r).1.load = .ok (items.after r) := by
  cases r with
  | persist s =>
    have hpersist : m.persist s = m.save (items.putSession s) := by rw [Medium.persist, hload]; rfl
    rw [answer, hpersist]
    obtain ⟨fault, hfault, hwrite⟩ | ⟨hok, hnow⟩ := m.save_cases (items.putSession s)
    · left
      rw [hfault]
      exact hwrite
    · right
      rw [hok]
      exact ⟨rfl, hnow⟩
  | read =>
    right
    rw [answer, read_of_load hload]
    exact ⟨rfl, hload⟩
  | «exists» =>
    right
    rw [answer, hasSession, read_of_load hload]
    exact ⟨rfl, hload⟩
  | clear =>
    have hmemory : (memory items).load = .ok items := rfl
    rw [answer, answer, clear_of_load hload, clear_of_load hmemory, Items.after]
    cases items.hasSessionItem with
    | false =>
      right
      exact ⟨rfl, hload⟩
    | true =>
      simp only [if_true]
      obtain ⟨fault, hfault, hwrite⟩ | ⟨hok, hnow⟩ := m.save_cases items.dropSession
      · left
        rw [hfault]
        exact hwrite
      · right
        rw [hok]
        exact ⟨rfl, hnow⟩

theorem serve_of_load (hload : m.load = .ok items) {requests : List Request}
    (hwritten : ∀ reply ∈ (m.serve requests).2, reply.isWriteFault = false) :
    (m.serve requests).2 = ((memory items).serve requests).2 ∧
    (m.serve requests).1.load = .ok (requests.foldl Items.after items) := by
  induction requests generalizing m items with
  | nil => exact ⟨rfl, hload⟩
  | cons r requests ih =>
    rw [serve] at hwritten
    obtain ⟨hfirst, hrest⟩ := List.forall_mem_cons.1 hwritten
    obtain hfault | ⟨hreply, hnow⟩ := answer_cases hload r
    · rw [hfirst] at hfault
      cases hfault
    · obtain ⟨hreplies, hend⟩ := ih hnow hrest
      rw [serve, serve, memory_answer, hreply, hreplies]
      exact ⟨rfl, hend⟩

/-- A medium that lets itself be written goes on doing so. -/
theorem Holds.answer (h : m.Holds items) (r : Request) :
    (m.answer r).2.isWriteFault = false ∧ (m.answer r).1.Holds (items.after r) := by
  cases r with
  | persist s =>
    obtain ⟨m', hpersist, hnow⟩ := h.persist s
    rw [Medium.answer, hpersist]
    exact ⟨rfl, hnow⟩
  | clear =>
    obtain ⟨m', hclear, hnow⟩ := h.clear
    rw [Medium.answer, hclear]
    exact ⟨rfl, hnow⟩
  | «exists» => exact ⟨rfl, h⟩
  | read =>
    refine ⟨?_, h⟩
    have hread : m.read = items.session? := read_of_load h.load
    rw [Medium.answer, hread, Items.session?]
    split
    · rfl
    · split <;> rfl

theorem Holds.serve (h : m.Holds items) (requests : List Request) :
    ∀ reply ∈ (m.serve requests).2, reply.isWriteFault = false := by
  induction requests generalizing m items with
  | nil => exact fun _ hreply => absurd hreply List.not_mem_nil
  | cons r requests ih =>
    obtain ⟨hfirst, hnow⟩ := h.answer r
    rw [Medium.serve]
    exact List.forall_mem_cons.2 ⟨hfirst, ih hnow⟩

end

/-- A file that holds some items, or none because there is no file, cannot be told from memory that
holds them. What is asked is any number of requests, so the items agree after each of them. -/
theorem file_refines_memory {f : SessionFile} {items : Items} (hload : f.load = .ok items)
    (requests : List Request) :
    (f.Writable → ∀ reply ∈ ((file f).serve requests).2, reply.isWriteFault = false) ∧
    ((∀ reply ∈ ((file f).serve requests).2, reply.isWriteFault = false) →
      ((file f).serve requests).2 = ((memory items).serve requests).2 ∧
      ∃ held, ((memory items).serve requests).1 = memory held ∧
        ((file f).serve requests).1.load = .ok held ∧
        ∀ name ∉ Session.itemNames, held.get? name = items.get? name) := by
  constructor
  · intro hwritable
    have hholds : (file f).Holds items := ⟨hload, hwritable⟩
    exact hholds.serve requests
  · intro hwritten
    obtain ⟨hreplies, hend⟩ := serve_of_load (m := file f) hload hwritten
    refine ⟨hreplies, requests.foldl Items.after items, memory_serve items requests, hend, ?_⟩
    intro name hname
    exact Items.get?_foldl_after hname items requests

/-- A session whose identity cannot be read, beside an item of someone else. -/
def sharedItems : Items :=
  .ofFields [("Authorization", "A"), ("theme", "dark"), ("userInfo", "no identity")]

def sharedFile : SessionFile :=
  ⟨"<TMP>/session.json",
    Disk.empty.put ["session.json"] (.file (Utf8.encode sharedItems.text) Disk.privateMode)⟩

def sharedRequests : List Request :=
  [.read, .exists, .persist ⟨"B", "T", ⟨some "a", "\"é\"", ""⟩⟩, .read, .clear, .clear, .exists]

theorem file_refines_memory_shared :
    sharedFile.load = .ok sharedItems ∧ sharedFile.Writable ∧
    ((file sharedFile).serve sharedRequests).2 = ((memory sharedItems).serve sharedRequests).2 ∧
    ∃ held, ((memory sharedItems).serve sharedRequests).1 = memory held ∧
      ((file sharedFile).serve sharedRequests).1.load = .ok held ∧
      ∀ name ∉ Session.itemNames, held.get? name = sharedItems.get? name := by
  have haccepts : Disk.empty.Accepts "<TMP>/session.json" ["session.json"] := by
    constructor
    · rfl
    · decide
  have hload : sharedFile.load = .ok sharedItems :=
    SessionFile.load_put haccepts sharedItems Disk.privateMode
  have hsave : (sharedFile.save .empty).2 = .ok () := rfl
  have hwritable : sharedFile.Writable := SessionFile.writable_of_save hsave
  obtain ⟨hwritten, hsame⟩ := file_refines_memory hload sharedRequests
  exact ⟨hload, hwritable, hsame (hwritten hwritable)⟩

end Medium

end TicketLogin
