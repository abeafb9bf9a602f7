import Mathlib.Data.List.Nodup
import TicketLogin.Settings.File

/-!
# Which settings count

An endpoint of the provider is what a file gives for it, in a table by its name or in a list by its
place, and else its default. A variable of the environment that is set, and not to blanks, goes
before both.
-/

namespace TicketLogin

/-- The value that is given, or the default where none is. -/
def Chosen (gives : String → Prop) (default value : String) : Prop :=
  gives value ∨ (∀ other, ¬ gives other) ∧ value = default

namespace Provider

/-- The endpoints in the order in which a list has them. -/
def fieldNames : List String := ["service_url", "login_base_url", "login_url", "ticket_login_url"]

/-- What an item gives for an endpoint. -/
inductive Holds : Toml.Item → String → String → Prop
  | table {origin : Toml.Origin} {fields : Toml.Fields} {name value : String}
      (field : Toml.Fields.get? fields name = some (.text value)) :
      Holds (.table origin fields) name value
  | inline {fields : Toml.Fields} {name value : String}
      (field : Toml.Fields.get? fields name = some (.text value)) :
      Holds (.inline fields) name value
  | list {items : List Toml.Item} {i : Nat} {name value : String}
      (place : fieldNames[i]? = some name) (item : items[i]? = some (.text value)) :
      Holds (.list items) name value

/-- Every endpoint is as given, or has its default. -/
structure FilledBy (gives : String → String → Prop) (p : Provider) : Prop where
  service : Chosen (gives "service_url") default.serviceUrl p.serviceUrl
  loginBase : Chosen (gives "login_base_url") default.loginBaseUrl p.loginBaseUrl
  login : ∀ url, p.loginUrl = some url ↔ gives "login_url" url
  ticketLogin : Chosen (gives "ticket_login_url") default.ticketLoginUrl p.ticketLoginUrl

theorem textOf?_eq_some_iff {item : Toml.Item} {s : String} :
    textOf? item = some s ↔ item = .text s := by
  cases item <;> simp [textOf?]

/-! ## Tables -/

section

variable {fields : Toml.Fields}

theorem chosen_of_textOr? {default name value : String}
    (h : textOr? default name fields = some value) :
    Chosen (fun s => Toml.Fields.get? fields name = some (.text s)) default value := by
  unfold textOr? at h
  split at h
  · next hnone =>
    cases h
    exact .inr ⟨fun other hother => by simp [hnone] at hother, rfl⟩
  · next item hitem =>
    rw [textOf?_eq_some_iff.1 h] at hitem
    exact .inl hitem

theorem filledBy_of_ofFields? {p : Provider} (h : ofFields? fields = some p) :
    p.FilledBy fun name value => Toml.Fields.get? fields name = some (.text value) := by
  obtain ⟨service, hservice, h⟩ := Option.bind_eq_some_iff.1 h
  obtain ⟨base, hbase, h⟩ := Option.bind_eq_some_iff.1 h
  have hlogin : ∃ login : Option String,
      (∀ url, login = some url ↔ Toml.Fields.get? fields "login_url" = some (.text url)) ∧
        ((textOr? default.ticketLoginUrl "ticket_login_url" fields).bind fun ticket =>
          some ⟨service, base, login, ticket⟩) = some p := by
    split at h
    · next hnone => exact ⟨none, fun url => by simp [hnone], h⟩
    · next item hitem =>
      obtain ⟨_, hgiven, h⟩ := Option.bind_eq_some_iff.1 h
      obtain ⟨given, htext, rfl⟩ := Option.map_eq_some_iff.1 hgiven
      rw [textOf?_eq_some_iff.1 htext] at hitem
      exact ⟨some given, fun url => by simp [hitem], h⟩
  obtain ⟨login, hlogin, h⟩ := hlogin
  obtain ⟨ticket, hticket, h⟩ := Option.bind_eq_some_iff.1 h
  cases h
  exact ⟨chosen_of_textOr? hservice, chosen_of_textOr? hbase, hlogin, chosen_of_textOr? hticket⟩

end

/-! ## Lists -/

section

variable {items : List Toml.Item} {texts : List String}

theorem getElem?_of_mapM {α β : Type} {f : α → Option β} {l : List α} {r : List β}
    (h : l.mapM f = some r) (i : Nat) : r[i]? = l[i]?.bind f := by
  induction l generalizing r i with
  | nil =>
    cases h
    rfl
  | cons a l ih =>
    rw [List.mapM_cons] at h
    obtain ⟨b, hb, h⟩ := Option.bind_eq_some_iff.1 h
    obtain ⟨rest, hrest, h⟩ := Option.bind_eq_some_iff.1 h
    cases h
    cases i with
    | zero => exact hb.symm
    | succ i => exact ih hrest i

theorem place_eq {i j : Nat} {name : String} (hi : fieldNames[i]? = some name)
    (hj : fieldNames[j]? = some name) : i = j := by
  have hnodup : fieldNames.Nodup := by decide
  obtain ⟨hlt, _⟩ := List.getElem?_eq_some_iff.1 hi
  exact (List.getElem?_inj hlt hnodup).1 (hi.trans hj.symm)

/-- The text in the place of an endpoint is what the list gives for it. -/
theorem getElem?_eq_some_iff_holds (h : (items.take 4).mapM textOf? = some texts) {i : Nat}
    {name value : String} (place : fieldNames[i]? = some name) :
    texts[i]? = some value ↔ Holds (.list items) name value := by
  have hi : i < 4 := (List.getElem?_eq_some_iff.1 place).1
  rw [getElem?_of_mapM h, List.getElem?_take_of_lt hi, Option.bind_eq_some_iff]
  simp only [textOf?_eq_some_iff]
  constructor
  · rintro ⟨_, hitem, rfl⟩
    exact .list place hitem
  · rintro (_ | _ | ⟨hplace, hitem⟩)
    rw [place_eq hplace place] at hitem
    exact ⟨_, hitem, rfl⟩

theorem chosen_of_list (h : (items.take 4).mapM textOf? = some texts) {i : Nat} {name : String}
    (place : fieldNames[i]? = some name) (default : String) :
    Chosen (Holds (.list items) name) default (texts[i]?.getD default) := by
  cases htext : texts[i]? with
  | none =>
    refine .inr ⟨fun other hother => ?_, rfl⟩
    rw [(getElem?_eq_some_iff_holds h place).2 hother] at htext
    cases htext
  | some value => exact .inl ((getElem?_eq_some_iff_holds h place).1 htext)

theorem filledBy_of_ofList? {p : Provider} (h : ofList? items = some p) :
    p.FilledBy (Holds (.list items)) := by
  obtain ⟨texts, htexts, rfl⟩ := Option.map_eq_some_iff.1 h
  exact ⟨chosen_of_list htexts rfl _, chosen_of_list htexts rfl _,
    fun _ => getElem?_eq_some_iff_holds htexts rfl, chosen_of_list htexts rfl _⟩

end

theorem FilledBy.congr {gives others : String → String → Prop} {p : Provider} (h : p.FilledBy gives)
    (hsame : ∀ name value, gives name value ↔ others name value) : p.FilledBy others := by
  obtain rfl : gives = others := funext fun name => funext fun value => propext (hsame name value)
  exact h

theorem filledBy_default {gives : String → String → Prop} (h : ∀ name value, ¬ gives name value) :
    Provider.default.FilledBy gives :=
  ⟨.inr ⟨h _, rfl⟩, .inr ⟨h _, rfl⟩, fun url => iff_of_false (fun hurl => by cases hurl) (h _ url),
    .inr ⟨h _, rfl⟩⟩

theorem filledBy_of_ofItem? {item : Toml.Item} {p : Provider} (h : ofItem? item = some p) :
    p.FilledBy (Holds item) := by
  unfold ofItem? at h
  split at h
  · refine (filledBy_of_ofFields? h).congr fun name value => ⟨.table, ?_⟩
    rintro ⟨field⟩
    exact field
  · refine (filledBy_of_ofFields? h).congr fun name value => ⟨.inline, ?_⟩
    rintro (_ | field)
    exact field
  · exact filledBy_of_ofList? h
  · cases h
    exact filledBy_default fun name value h => by cases h
  · cases h

end Provider

namespace Settings

/-- What the fields of a file give for an endpoint. -/
def Gives (fields : Toml.Fields) (name value : String) : Prop :=
  ∃ item, Toml.Fields.get? fields "ids" = some item ∧ Provider.Holds item name value

/-- The fields of a file. A missing file has none. -/
inductive IsDocument (disk : Disk) (path : String) : Toml.Fields → Prop
  | missing (absent : disk.isThere path = false) : IsDocument disk path []
  | file {text : List Char} {fields : Toml.Fields} (there : disk.isThere path = true)
      (read : disk.readText path = .ok text) (parsed : Toml.read? text = some fields) :
      IsDocument disk path fields

/-- A variable is set, and not to blanks. -/
def IsSet (environment : Environment) (name value : String) : Prop :=
  environment name = some value ∧ Text.allBlank value = false

theorem filledBy_of_fields {fields : Toml.Fields} {s : Settings} (h : ofFields? fields = some s) :
    s.provider.FilledBy (Gives fields) := by
  obtain ⟨route, _, h⟩ := Option.bind_eq_some_iff.1 h
  dsimp only at h
  split at h
  · next hnone =>
    cases h
    refine Provider.filledBy_default ?_
    rintro name value ⟨item, hitem, _⟩
    rw [hnone] at hitem
    cases hitem
  · next item hitem =>
    obtain ⟨p, hp, h⟩ := Option.bind_eq_some_iff.1 h
    cases h
    refine (Provider.filledBy_of_ofItem? hp).congr fun name value => ⟨fun h => ⟨item, hitem, h⟩, ?_⟩
    rintro ⟨_, hother, h⟩
    rw [hitem] at hother
    cases hother
    exact h

/-- What is loaded is what the fields of the file are read as. -/
theorem exists_isDocument {disk : Disk} {path : String} {s : Settings}
    (h : load disk path = .ok s) :
    ∃ fields, IsDocument disk path fields ∧ ofFields? fields = some s := by
  unfold load at h
  split at h
  · next hthere =>
    split at h
    · cases h
    · next text htext =>
      split at h
      · next settings hparse =>
        cases h
        obtain ⟨fields, hfields, hs⟩ := Option.bind_eq_some_iff.1 hparse
        exact ⟨fields, .file hthere htext hfields, hs⟩
      · cases h
  · next habsent =>
    cases h
    exact ⟨[], .missing (Bool.eq_false_iff.2 habsent), rfl⟩

section

variable {environment : Environment} {name value : String}

theorem given?_eq_some_iff :
    given? environment name = some value ↔ IsSet environment name value := by
  rw [given?, Option.filter_eq_some_iff, Bool.not_eq_true']
  rfl

theorem given?_eq_none_iff :
    given? environment name = none ↔ ∀ value, ¬ IsSet environment name value := by
  rw [Option.eq_none_iff_forall_ne_some]
  exact forall_congr' fun _ => not_congr given?_eq_some_iff

theorem chosen_getD_given? (default : String) :
    Chosen (IsSet environment name) default ((given? environment name).getD default) := by
  cases h : given? environment name with
  | none => exact .inr ⟨given?_eq_none_iff.1 h, rfl⟩
  | some value => exact .inl (given?_eq_some_iff.1 h)

end

/-- Blank variables are as good as none. -/
theorem withEnvironment_congr {environment other : Environment}
    (h : ∀ name value, IsSet other name value ↔ IsSet environment name value) (s : Settings) :
    s.withEnvironment other = s.withEnvironment environment := by
  have hgiven : given? other = given? environment := by
    funext name
    refine Option.ext fun value => ?_
    rw [given?_eq_some_iff, given?_eq_some_iff, h]
  rw [withEnvironment, withEnvironment, hgiven]

end Settings

end TicketLogin
