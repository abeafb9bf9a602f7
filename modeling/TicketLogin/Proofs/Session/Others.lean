import Mathlib.Data.List.Induction
import TicketLogin.Proofs.Session.Persist

/-!
# What other writers keep in the file

A session is saved into the items that were read, and a record is read only if all of its values are
texts. Then the fields of others are as they were. Of any other record nothing is read, and what
others kept in it is gone once a session is saved, their texts included.
-/

namespace TicketLogin

theorem Json.Value.lookup_concat (name : String) (fields : List (String × Value))
    (f : String × Value) :
    lookup name (fields ++ [f]) = if f.1 = name then some f.2 else lookup name fields := by
  rw [lookup, List.reverse_append, List.reverse_singleton, List.singleton_append, List.find?_cons]
  by_cases h : f.1 = name
  · simp only [h, decide_true, if_true, Option.map_some]
  · simp only [h, decide_false, if_false, lookup]

/-- The value of a name that is there, if only under several values. -/
theorem Json.Value.exists_lookup {fields : List (String × Value)} {f : String × Value}
    (hf : f ∈ fields) : ∃ v, lookup f.1 fields = some v := by
  have hfound : (fields.reverse.find? fun g => g.1 = f.1).isSome = true := by
    rw [List.find?_isSome]
    exact ⟨f, List.mem_reverse.2 hf, decide_eq_true rfl⟩
  obtain ⟨g, hg⟩ := Option.isSome_iff_exists.1 hfound
  exact ⟨g.2, by rw [lookup, hg, Option.map_some]⟩

theorem Json.Value.mem_of_lookup {fields : List (String × Value)} {name : String} {v : Value}
    (h : lookup name fields = some v) : (name, v) ∈ fields := by
  obtain ⟨f, hfind, rfl⟩ := Option.map_eq_some_iff.1 h
  obtain rfl : f.1 = name := by simpa using List.find?_some hfind
  exact List.mem_reverse.1 (List.mem_of_find?_eq_some hfind)

theorem Json.Value.eq_text_of_text? {v : Value} {s : String} (h : v.text? = some s) :
    v = .text s := by
  cases v with
  | text t => exact congrArg Value.text (Option.some.inj h)
  | _ => cases h

/-- The fields of a text that is a record. -/
def Json.Value.record? (s : List Char) : Option (List (String × Value)) :=
  match parse s with
  | some (.record fields) => some fields
  | _ => none

namespace Items

theorem parse?_eq (s : List Char) :
    parse? s = (Json.Value.record? s).bind fun fields => (textFields? fields).map ofFields := by
  unfold parse? Json.Value.record?
  cases Json.Value.parse s with
  | none => rfl
  | some v => cases v <;> rfl

def AllTexts (fields : List (String × Json.Value)) : Prop :=
  ∀ f ∈ fields, ∃ text, f.2 = .text text

theorem textFields?_of_allTexts {fields : List (String × Json.Value)} (h : AllTexts fields) :
    ∃ texts, textFields? fields = some texts ∧
      fields = texts.map fun f => (f.1, .text f.2) := by
  induction fields with
  | nil => exact ⟨[], rfl, rfl⟩
  | cons f fields ih =>
    obtain ⟨name, v⟩ := f
    obtain ⟨text, rfl⟩ : ∃ text, v = .text text := h _ List.mem_cons_self
    obtain ⟨texts, hread, rfl⟩ := ih fun g hg => h g (List.mem_cons_of_mem _ hg)
    refine ⟨(name, text) :: texts, ?_, rfl⟩
    rw [textFields?, hread, Option.map_some]

theorem allTexts_of_textFields? {fields : List (String × Json.Value)}
    {texts : List (String × String)} (h : textFields? fields = some texts) : AllTexts fields := by
  induction fields generalizing texts with
  | nil =>
    intro f hf
    exact absurd hf List.not_mem_nil
  | cons f fields ih =>
    obtain ⟨name, v⟩ := f
    cases v with
    | text text =>
      obtain ⟨more, hmore, rfl⟩ := Option.map_eq_some_iff.1 h
      intro g hg
      rcases List.mem_cons.1 hg with rfl | hg
      · exact ⟨text, rfl⟩
      · exact ih hmore g hg
    | _ => cases h

/-- A record of texts says of each name what the items made of it say. -/
theorem lookup_texts (name : String) (texts : List (String × String)) :
    Json.Value.lookup name (texts.map fun f => (f.1, .text f.2)) =
      ((ofFields texts).get? name).map .text := by
  induction texts using List.reverseRecOn with
  | nil => rfl
  | append_singleton texts f ih =>
    have hlast : ofFields (texts ++ [f]) = (ofFields texts).insert f.1 f.2 := by
      rw [ofFields, insertAll, List.foldl_append]
      rfl
    rw [List.map_append, List.map_singleton, Json.Value.lookup_concat, ih, hlast, get?_insert]
    by_cases h : f.1 = name
    · rw [if_pos h, if_pos h.symm, Option.map_some]
    · rw [if_neg h, if_neg (Ne.symm h)]

end Items

namespace SessionFile

/-- The fields of the record in the file, if it holds one. -/
def fields? (f : SessionFile) : Option (List (String × Json.Value)) :=
  (f.disk.readText f.path).toOption.bind Json.Value.record?

variable {f : SessionFile} {fields : List (String × Json.Value)}

theorem found_of_fields? (h : f.fields? = some fields) :
    (Medium.file f).found = ((Items.textFields? fields).map Items.ofFields).getD .empty := by
  obtain ⟨s, hs, hrecord⟩ := Option.bind_eq_some_iff.1 h
  rw [Medium.found_file, hs, Option.bind_some, Items.parse?_eq, hrecord, Option.bind_some]

theorem fields?_of_save {items : Items} (h : (f.save items).2 = .ok ()) :
    (f.save items).1.fields? = some (items.entries.map fun e => (e.1, .text e.2)) := by
  obtain ⟨disk, p, hfolder, hp⟩ := exists_of_save h
  rw [save_eq hfolder hp]
  have hread : (disk.put p (.file (Utf8.encode items.text) Disk.privateMode)).readText f.path =
      .ok items.text := by
    simp only [Disk.readText, hp.readBytes_put, bind, Except.bind, Utf8.decode?_encode]
    rfl
  have hparse : Json.Value.parse items.text =
      some (.record (items.entries.map fun e => (e.1, .text e.2))) :=
    Json.Value.parse_indented items.entries
  simp only [fields?, hread, Except.toOption, Option.bind_some, Json.Value.record?, hparse]

/-- What the record in the file says of a name is what the items in it say. -/
theorem lookup_of_save {items : Items} (h : (f.save items).2 = .ok ()) :
    ∃ kept, (f.save items).1.fields? = some kept ∧
      ∀ name, Json.Value.lookup name kept = (items.get? name).map .text := by
  refine ⟨_, fields?_of_save h, fun name => ?_⟩
  rw [Items.lookup_texts, Items.ofFields_entries]

theorem lookup_of_allTexts (hrecord : f.fields? = some fields) (htexts : Items.AllTexts fields)
    (name : String) :
    Json.Value.lookup name fields = ((Medium.file f).found.get? name).map .text := by
  obtain ⟨texts, hread, hfields⟩ := Items.textFields?_of_allTexts htexts
  have hfound : (Medium.file f).found = Items.ofFields texts := by
    rw [found_of_fields? hrecord, hread]
    rfl
  rw [hfound, hfields, Items.lookup_texts]

theorem found_of_not_allTexts (hrecord : f.fields? = some fields)
    (hmixed : ¬ Items.AllTexts fields) : (Medium.file f).found = .empty := by
  have hread : Items.textFields? fields = none := by
    rw [Option.eq_none_iff_forall_ne_some]
    intro texts hsome
    exact hmixed (Items.allTexts_of_textFields? hsome)
  rw [found_of_fields? hrecord, hread]
  rfl

theorem lookup_of_persist {s : Session} (hsaved : ((Medium.file f).persist s).2 = .ok ()) :
    ∃ f' kept, ((Medium.file f).persist s).1 = .file f' ∧ f'.path = f.path ∧
      f'.fields? = some kept ∧ ∀ name ∉ Session.itemNames,
        Json.Value.lookup name kept = ((Medium.file f).found.get? name).map .text := by
  have hpersist : (Medium.file f).persist s =
      (.file (f.save ((Medium.file f).found.putSession s)).1,
        (f.save ((Medium.file f).found.putSession s)).2) := by
    rw [Medium.persist_eq, Medium.save_file]
    rfl
  rw [hpersist] at hsaved ⊢
  dsimp only at hsaved ⊢
  obtain ⟨kept, hkept, hlookup⟩ := lookup_of_save hsaved
  refine ⟨_, kept, rfl, path_save f _, hkept, ?_⟩
  intro name hname
  rw [hlookup, Items.get?_putSession hname]

/-- The fields of others outlive a session that is saved if all values of the record are texts, or
if others have no fields in it. Otherwise all that they have is lost. -/
theorem others_survive_iff (hrecord : f.fields? = some fields) {s : Session}
    (hsaved : ((Medium.file f).persist s).2 = .ok ()) :
    ∃ f' kept, ((Medium.file f).persist s).1 = .file f' ∧ f'.path = f.path ∧
      f'.fields? = some kept ∧
      ((∀ name ∉ Session.itemNames, ∀ v, Json.Value.lookup name fields = some v →
          Json.Value.lookup name kept = some v) ↔
        Items.AllTexts fields ∨ ∀ field ∈ fields, field.1 ∈ Session.itemNames) ∧
      (Items.AllTexts fields → ∀ name ∉ Session.itemNames,
        Json.Value.lookup name kept = Json.Value.lookup name fields) ∧
      (¬ Items.AllTexts fields → ∀ name ∉ Session.itemNames,
        Json.Value.lookup name kept = none) := by
  obtain ⟨f', kept, hf', hpath, hkept, hlookup⟩ := lookup_of_persist hsaved
  have hsame : Items.AllTexts fields → ∀ name ∉ Session.itemNames,
      Json.Value.lookup name kept = Json.Value.lookup name fields := by
    intro htexts name hname
    rw [hlookup name hname, lookup_of_allTexts hrecord htexts]
  have hlost : ¬ Items.AllTexts fields → ∀ name ∉ Session.itemNames,
      Json.Value.lookup name kept = none := by
    intro hmixed name hname
    rw [hlookup name hname, found_of_not_allTexts hrecord hmixed]
    rfl
  refine ⟨f', kept, hf', hpath, hkept, ?_, hsame, hlost⟩
  constructor
  · intro hstay
    by_cases htexts : Items.AllTexts fields
    · exact .inl htexts
    · refine .inr fun field hfield => Decidable.byContradiction fun hforeign => ?_
      obtain ⟨v, hv⟩ := Json.Value.exists_lookup hfield
      have hthere := hstay _ hforeign v hv
      rw [hlost htexts _ hforeign] at hthere
      cases hthere
  · rintro (htexts | hown) name hname v hv
    · rw [hsame htexts name hname, hv]
    · exact absurd (hown _ (Json.Value.mem_of_lookup hv)) hname

/-- A count beside the language somebody has chosen. -/
def countedFile : SessionFile :=
  ⟨"<TMP>/session.json", ⟨[(["session.json"],
    .file (Utf8.encode "\x7b\"lng\":\"zh\",\"n\":1\x7d".toList) Disk.openMode)]⟩⟩

def plainSession : Session := ⟨"T", "T", .blank⟩

theorem persist_countedFile : ((Medium.file countedFile).persist plainSession).2 = .ok () := by
  decide +kernel

theorem fields?_countedFile : ∃ fields, countedFile.fields? = some fields ∧
    Json.Value.lookup "lng" fields = some (.text "zh") ∧ ¬ Items.AllTexts fields := by
  have hlanguage : (countedFile.fields?.bind (Json.Value.lookup "lng")).bind Json.Value.text? =
      some "zh" := by
    decide +kernel
  have hcount : (countedFile.fields?.bind (Json.Value.lookup "n")).map Json.Value.text? =
      some none := by
    decide +kernel
  obtain ⟨v, hv, htext⟩ := Option.bind_eq_some_iff.1 hlanguage
  obtain ⟨fields, hfields, hlookup⟩ := Option.bind_eq_some_iff.1 hv
  rw [hfields] at hcount
  obtain ⟨count, hcount, hnumber⟩ := Option.map_eq_some_iff.1 hcount
  refine ⟨fields, hfields, ?_, ?_⟩
  · rw [hlookup, Json.Value.eq_text_of_text? htext]
  · intro htexts
    obtain ⟨text, rfl⟩ := htexts _ (Json.Value.mem_of_lookup hcount)
    cases hnumber

theorem counted_file_cleared_out :
    ∃ fields, countedFile.fields? = some fields ∧
      ((Medium.file countedFile).persist plainSession).2 = .ok () ∧
      ∃ f' kept, ((Medium.file countedFile).persist plainSession).1 = .file f' ∧
        f'.path = countedFile.path ∧ f'.fields? = some kept ∧
        ((∀ name ∉ Session.itemNames, ∀ v, Json.Value.lookup name fields = some v →
            Json.Value.lookup name kept = some v) ↔
          Items.AllTexts fields ∨ ∀ field ∈ fields, field.1 ∈ Session.itemNames) ∧
        (Items.AllTexts fields → ∀ name ∉ Session.itemNames,
          Json.Value.lookup name kept = Json.Value.lookup name fields) ∧
        (¬ Items.AllTexts fields → ∀ name ∉ Session.itemNames,
          Json.Value.lookup name kept = none) := by
  obtain ⟨fields, hfields, _⟩ := fields?_countedFile
  exact ⟨fields, hfields, persist_countedFile, others_survive_iff hfields persist_countedFile⟩

/-- The language is a text, and is lost for the count beside it. -/
theorem language_lost :
    ¬ ∀ (f f' : SessionFile) (fields : List (String × Json.Value)) (s : Session),
      f.fields? = some fields → (Medium.file f).persist s = (.file f', .ok ()) →
      ∃ kept, f'.fields? = some kept ∧ ∀ name ∉ Session.itemNames, ∀ v,
        Json.Value.lookup name fields = some v → Json.Value.lookup name kept = some v := by
  intro hclaim
  obtain ⟨fields, hfields, hlanguage, hmixed⟩ := fields?_countedFile
  obtain ⟨f', kept, hf', _, hkept, hlookup⟩ := lookup_of_persist persist_countedFile
  obtain ⟨kept', hkept', hstay⟩ := hclaim countedFile f' fields plainSession hfields
    (Prod.ext hf' persist_countedFile)
  obtain rfl : kept' = kept := Option.some.inj (hkept'.symm.trans hkept)
  have hforeign : "lng" ∉ Session.itemNames := by decide
  have hthere := hstay "lng" hforeign _ hlanguage
  rw [hlookup "lng" hforeign, found_of_not_allTexts hfields hmixed] at hthere
  cases hthere

end SessionFile

end TicketLogin
