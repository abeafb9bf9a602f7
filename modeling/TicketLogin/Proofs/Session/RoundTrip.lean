import TicketLogin.Proofs.Session.Store

/-!
# A saved session reads back

The identity is a record inside a text of a record, so it is quoted twice on its way to a file and
unquoted twice on its way back. Whatever a medium held before, a session that was saved is the one
that is read, unless its authorization value is empty: then there is no session.
-/

namespace TicketLogin

namespace Identity

theorem text_ne_empty (i : Identity) : i.text ≠ "" := by
  intro h
  have hchars : i.text.toList = [] := by rw [h]; rfl
  rw [text, String.toList_ofList] at hchars
  exact List.cons_ne_nil _ _ hchars

/-- The fields of an identity are read as that identity, an avatar that was left out as none. -/
theorem ofFields?_fields (i : Identity) :
    ofFields? (i.fields.map fun f => (f.1, .text f.2)) = some i := by
  obtain ⟨avatar, name, email⟩ := i
  cases avatar with
  | none => rfl
  | some a => rfl

theorem read?_text (i : Identity) : read? i.text = some i := by
  have hparse := Json.Value.parse_compact i.fields
  simp only [read?, text, String.toList_ofList, hparse, ofFields?_fields]

end Identity

namespace Items

variable {items : Items} {s : Session}

theorem authorization?_of_holds (h : items.Holds (some s)) :
    items.authorization? = if s.authorization = "" then none else some s.authorization := by
  have hget : items.get? Session.authorizationName = some s.authorization :=
    h (Session.authorizationName, s.authorization) (by simp [Session.toFields])
  rw [authorization?, hget]
  by_cases hempty : s.authorization = ""
  · rw [if_pos hempty, Option.filter_some, if_neg (by simpa using hempty)]
  · rw [if_neg hempty, Option.filter_some, if_pos (by simpa using hempty)]

theorem identity?_of_holds (h : items.Holds (some s)) : items.identity? = some s.identity := by
  have hget : items.get? Session.identityName = some s.identity.text :=
    h (Session.identityName, s.identity.text) (by simp [Session.toFields])
  rw [identity?, hget]
  simp only [if_neg s.identity.text_ne_empty, Identity.read?_text]

/-- Items that hold a session are read as that session, or as none if nobody is authorized. -/
theorem session?_of_holds (h : items.Holds (some s)) :
    items.session? = .ok (if s.authorization = "" then none else some s) := by
  have htoken : items.get? Session.tokenName = some s.accessToken :=
    h (Session.tokenName, s.accessToken) (by simp [Session.toFields])
  rw [session?, authorization?_of_holds h]
  by_cases hempty : s.authorization = ""
  · rw [if_pos hempty, if_pos hempty]
  · rw [if_neg hempty, if_neg hempty, identity?_of_holds h, htoken]
    rfl

theorem authorization?_of_holds_none (h : items.Holds none) : items.authorization? = none := by
  rw [authorization?, h Session.authorizationName List.mem_cons_self]
  rfl

theorem session?_of_holds_none (h : items.Holds none) : items.session? = .ok none := by
  rw [session?, authorization?_of_holds_none h]

end Items

namespace Medium

theorem save_file (f : SessionFile) (items : Items) :
    (Medium.file f).save items = (.file (f.save items).1, (f.save items).2) := by
  rw [Medium.save]

theorem load_of_save {m : Medium} {items : Items} (h : (m.save items).2 = .ok ()) :
    (m.save items).1.load = .ok items := by
  cases m with
  | memory held => rfl
  | file f =>
    simp only [save_file] at h ⊢
    have hwritable : f.Writable := SessionFile.writable_of_save h
    obtain ⟨f', hsave, hload, _⟩ := hwritable.save items
    rw [hsave]
    exact hload

/-- What was there before does not matter, be it items of others, an older session, or bytes that
are no items at all. -/
theorem read_after_persist (m : Medium) (s : Session) (hsaved : (m.persist s).2 = .ok ()) :
    (m.persist s).1.read = .ok (if s.authorization = "" then none else some s) ∧
    ((m.persist s).1.hasSession = true ↔ s.authorization ≠ "") := by
  generalize hitems : (m.load.toOption.getD .empty).putSession s = items
  have hpersist : m.persist s = m.save items := by rw [Medium.persist, hitems]
  have hholds : items.Holds (some s) := hitems ▸ Items.holds_putSession _ s
  rw [hpersist] at hsaved ⊢
  have hread : (m.save items).1.read = .ok (if s.authorization = "" then none else some s) := by
    rw [Medium.read, load_of_save hsaved]
    exact Items.session?_of_holds hholds
  refine ⟨hread, ?_⟩
  rw [hasSession, hread]
  by_cases hempty : s.authorization = ""
  · simp [hempty]
  · simp [hempty]

def garbledFile : SessionFile :=
  ⟨"<TMP>/state/session.json",
    ⟨[(["state"], .folder), (["state", "session.json"], .file [0xFF, 0x7B, 0x22] 0o644)]⟩⟩

def quotedSession : Session :=
  ⟨"Bearer \"a\\b\"", "τ\n\x01😀", none, "Ann \\u0041", "\"\"@app.example"⟩

theorem read_after_persist_garbled :
    ((Medium.file garbledFile).persist quotedSession).2 = .ok () ∧
    ((Medium.file garbledFile).persist quotedSession).1.read =
      .ok (if quotedSession.authorization = "" then none else some quotedSession) ∧
    (((Medium.file garbledFile).persist quotedSession).1.hasSession = true ↔
      quotedSession.authorization ≠ "") := by
  have hsave : (garbledFile.save .empty).2 = .ok () := rfl
  have hsaved : ((Medium.file garbledFile).persist quotedSession).2 = .ok () := by
    have hwritable : garbledFile.Writable := SessionFile.writable_of_save hsave
    simp only [persist, save_file]
    exact hwritable _
  exact ⟨hsaved, read_after_persist _ _ hsaved⟩

end Medium

end TicketLogin
