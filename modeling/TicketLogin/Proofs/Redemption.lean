import Mathlib.Tactic.ByContra
import TicketLogin.Redemption

/-!
# What an answer means

An answer is granted, downgraded or rejected, and each outcome has an exact condition on two things:
the code of the answer and the token of its payload. What a grant holds is read off the payload and
the header alone, so nothing beside a payload counts for it.
-/

namespace TicketLogin

theorem Json.Value.isNull_iff {v : Json.Value} : v.isNull = true ↔ v = .null := by
  cases v <;> simp [isNull]

namespace Grant

/-- A field that holds a text, unless it is empty, or a number, which stands for its text. -/
inductive IsText (payload : Json.Value) (name : String) : String → Prop
  | text {s : String} (field : payload.get? name = some (.text s)) (nonempty : s ≠ "") :
      IsText payload name s
  | number {n : Json.Number} (field : payload.get? name = some (.number n)) :
      IsText payload name (String.ofList n.text)

/-- A field that is there and not null. -/
def IsPresent (v : Json.Value) (name : String) (field : Json.Value) : Prop :=
  v.get? name = some field ∧ field ≠ .null

/-- The payload of an answer is its `data`, if that is present, and else the whole of it. -/
inductive IsPayload (answer : Json.Value) : Json.Value → Prop
  | data {data : Json.Value} (present : IsPresent answer "data" data) : IsPayload answer data
  | whole (absent : ∀ data, ¬ IsPresent answer "data" data) : IsPayload answer answer

def HasToken (payload : Json.Value) : Prop := ∃ token, IsText payload "access_token" token

/-- The code is 0 or 200, written as an integer. -/
def SaysSuccess (answer : Json.Value) : Prop :=
  ∃ n : Int, (n = 0 ∨ n = 200) ∧ answer.get? "code" = some (.number (.integer n))

def Granted (answer payload : Json.Value) : Prop :=
  HasToken payload ∧ (answer.get? "code" = none ∨ SaysSuccess answer)

def Downgraded (answer payload : Json.Value) : Prop := SaysSuccess answer ∧ ¬ HasToken payload

/-- The message of an answer is a text that is not empty; otherwise it has none. -/
def IsMessage (answer : Json.Value) (message : Option String) : Prop :=
  ∀ m, message = some m ↔ answer.get? "message" = some (.text m) ∧ m ≠ ""

/-- What a grant takes from a payload and a header. The key `userName` decides alone as soon as it is
present. -/
structure Describes (payload : Json.Value) (header : Option String) (g : Grant) : Prop where
  token : IsText payload "access_token" g.accessToken
  named : ∀ value, header = some value → value ≠ "" → g.authorization = value
  bearer : (∀ value, header = some value → value = "") → g.authorization = "Bearer " ++ g.accessToken
  user : ∀ s, g.userId = some s ↔ IsText payload "uid" s
  name : ∀ field, IsPresent payload "userName" field →
    ∀ s, g.displayName = some s ↔ IsText payload "userName" s
  plainName : (∀ field, ¬ IsPresent payload "userName" field) →
    ∀ s, g.displayName = some s ↔ IsText payload "username" s
  avatar : ∀ s, g.avatar = some s ↔ payload.get? "avatar" = some (.text s)

/-! ## Fields -/

section

variable {v payload : Json.Value} {name s : String}

theorem textField_eq_some_iff : textField payload name = some s ↔ IsText payload name s := by
  unfold textField
  constructor
  · intro h
    split at h
    · next t hfield =>
      obtain ⟨_, h⟩ | ⟨hne, h⟩ := ite_eq_iff.1 h
      · cases h
      · cases h
        exact .text hfield hne
    · next n hfield =>
      cases h
      exact .number hfield
    · cases h
  · rintro (⟨hfield, hne⟩ | hfield)
    · simp only [hfield, if_neg hne]
    · simp only [hfield]

theorem isSome_textField_iff :
    (textField payload "access_token").isSome = true ↔ HasToken payload := by
  rw [Option.isSome_iff_exists]
  exact exists_congr fun _ => textField_eq_some_iff

theorem presentField_eq_some_iff {field : Json.Value} :
    presentField v name = some field ↔ IsPresent v name field := by
  rw [presentField, Option.filter_eq_some_iff, Bool.not_eq_true', ← Bool.not_eq_true,
    Json.Value.isNull_iff]
  rfl

theorem presentField_eq_none_iff :
    presentField v name = none ↔ ∀ field, ¬ IsPresent v name field := by
  rw [Option.eq_none_iff_forall_ne_some]
  exact forall_congr' fun _ => not_congr presentField_eq_some_iff

theorem isPayload_payload (answer : Json.Value) : IsPayload answer (Grant.payload answer) := by
  unfold Grant.payload
  cases h : presentField answer "data" with
  | none => exact .whole (presentField_eq_none_iff.1 h)
  | some data => exact .data (presentField_eq_some_iff.1 h)

theorem payload_of_isPresent {answer data : Json.Value} (h : IsPresent answer "data" data) :
    Grant.payload answer = data := by
  rw [Grant.payload, presentField_eq_some_iff.2 h]
  rfl

theorem isSuccess_iff :
    isSuccess v = true ↔ ∃ n : Int, (n = 0 ∨ n = 200) ∧ v = .number (.integer n) := by
  constructor
  · intro h
    cases v with
    | number n =>
      cases n with
      | integer n =>
        simp only [isSuccess, Json.Number.int64?, Bool.or_eq_true, beq_iff_eq] at h
        refine ⟨n, ?_, rfl⟩
        split at h
        · simpa using h
        · simp at h
      | float negative magnitude => cases h
    | _ => cases h
  · rintro ⟨n, rfl | rfl, rfl⟩
    · rfl
    · rfl

theorem isMessage_filter (answer : Json.Value) :
    IsMessage answer (((answer.get? "message").bind (·.text?)).filter (· ≠ "")) := by
  intro m
  rw [Option.filter_eq_some_iff, Option.bind_eq_some_iff]
  simp only [decide_eq_true_eq]
  refine and_congr_left fun _ => ⟨?_, fun h => ⟨_, h, rfl⟩⟩
  rintro ⟨field, hfield, htext⟩
  cases field <;> cases htext
  exact hfield

end

/-! ## Outcomes -/

section

variable {answer : Json.Value} (header : Option String)

theorem describes {payload : Json.Value} {token : String}
    (htoken : textField payload "access_token" = some token) :
    Describes payload header
      { authorization := (header.filter (· ≠ "")).getD ("Bearer " ++ token)
        accessToken := token
        userId := textField payload "uid"
        displayName := displayNameOf payload
        avatar := (payload.get? "avatar").bind (·.text?) } where
  token := textField_eq_some_iff.1 htoken
  named := by
    rintro value rfl hne
    simp [Option.filter, hne]
  bearer := by
    intro hempty
    cases header with
    | none => rfl
    | some value => simp [Option.filter, hempty value rfl]
  user s := textField_eq_some_iff
  name field hpresent s := by
    simp only [displayNameOf, presentField_eq_some_iff.2 hpresent]
    exact textField_eq_some_iff
  plainName habsent s := by
    simp only [displayNameOf, presentField_eq_none_iff.2 habsent]
    exact textField_eq_some_iff
  avatar s := by
    rw [Option.bind_eq_some_iff]
    refine ⟨?_, fun h => ⟨_, h, rfl⟩⟩
    rintro ⟨field, hfield, htext⟩
    cases field <;> cases htext
    exact hfield

theorem ofAnswer_of_granted (h : Granted answer (payload answer)) :
    ∃ g, ofAnswer answer header = .ok g ∧ g.Describes (payload answer) header := by
  obtain ⟨⟨token, htoken⟩, hcode⟩ := h
  have htoken := textField_eq_some_iff.2 htoken
  refine ⟨_, ?_, describes header htoken⟩
  unfold ofAnswer
  simp only [htoken]
  obtain hcode | ⟨n, hn, hcode⟩ := hcode
  · simp only [hcode, Option.isSome_some, if_true]
  · simp only [hcode, isSuccess_iff.2 ⟨n, hn, rfl⟩, if_true]

theorem ofAnswer_of_downgraded (h : Downgraded answer (payload answer)) :
    ofAnswer answer header = .error .missingCredentials := by
  obtain ⟨⟨n, hn, hcode⟩, hnone⟩ := h
  have htoken : textField (payload answer) "access_token" = none := by
    rw [Option.eq_none_iff_forall_ne_some]
    exact fun token htoken => hnone ⟨token, textField_eq_some_iff.1 htoken⟩
  unfold ofAnswer
  simp only [htoken, hcode, isSuccess_iff.2 ⟨n, hn, rfl⟩, if_true]

theorem ofAnswer_of_neither (hgranted : ¬ Granted answer (payload answer))
    (hdowngraded : ¬ Downgraded answer (payload answer)) :
    ∃ message, ofAnswer answer header = .error (.rejected message) ∧ IsMessage answer message := by
  refine ⟨_, ?_, isMessage_filter answer⟩
  have hcode : ¬ SaysSuccess answer := fun hsuccess => by
    by_cases htoken : HasToken (payload answer)
    · exact hgranted ⟨htoken, .inr hsuccess⟩
    · exact hdowngraded ⟨hsuccess, htoken⟩
  unfold ofAnswer
  refine if_neg ?_
  cases hfield : answer.get? "code" with
  | none =>
    rw [isSome_textField_iff]
    exact fun htoken => hgranted ⟨htoken, .inl hfield⟩
  | some code =>
    rw [isSuccess_iff]
    rintro ⟨n, hn, rfl⟩
    exact hcode ⟨n, hn, hfield⟩

theorem isOk_ofAnswer_iff :
    (∃ g, ofAnswer answer header = .ok g) ↔ Granted answer (payload answer) := by
  refine ⟨?_, fun h => (ofAnswer_of_granted header h).imp fun _ => And.left⟩
  rintro ⟨g, hg⟩
  by_contra hgranted
  by_cases hdowngraded : Downgraded answer (payload answer)
  · rw [ofAnswer_of_downgraded header hdowngraded] at hg
    cases hg
  · obtain ⟨message, hrejected, _⟩ := ofAnswer_of_neither header hgranted hdowngraded
    rw [hrejected] at hg
    cases hg

theorem describes_of_ofAnswer {g : Grant} (h : ofAnswer answer header = .ok g) :
    g.Describes (payload answer) header := by
  obtain ⟨g', hg', hdescribes⟩ := ofAnswer_of_granted header ((isOk_ofAnswer_iff header).1 ⟨g, h⟩)
  rw [h] at hg'
  cases hg'
  exact hdescribes

theorem ofAnswer_eq_error {failure : RedemptionFailure}
    (h : ofAnswer answer header = .error failure) :
    (failure = .missingCredentials ∧ Downgraded answer (payload answer)) ∨
      ∃ message, failure = .rejected message := by
  have hgranted : ¬ Granted answer (payload answer) := fun hgranted => by
    obtain ⟨g, hg⟩ := (isOk_ofAnswer_iff header).2 hgranted
    rw [h] at hg
    cases hg
  by_cases hdowngraded : Downgraded answer (payload answer)
  · rw [ofAnswer_of_downgraded header hdowngraded] at h
    cases h
    exact .inl ⟨rfl, hdowngraded⟩
  · obtain ⟨message, hrejected, _⟩ := ofAnswer_of_neither header hgranted hdowngraded
    rw [hrejected] at h
    cases h
    exact .inr ⟨message, rfl⟩

theorem ofAnswer_eq_missing_iff :
    ofAnswer answer header = .error .missingCredentials ↔ Downgraded answer (payload answer) := by
  refine ⟨fun h => ?_, ofAnswer_of_downgraded header⟩
  obtain ⟨_, hdowngraded⟩ | ⟨_, hrejected⟩ := ofAnswer_eq_error header h
  · exact hdowngraded
  · cases hrejected

/-- Beside a payload of its own, an answer counts by its code and its message only. -/
theorem ofAnswer_congr {other data : Json.Value} (hdata : IsPresent answer "data" data)
    (hother : IsPresent other "data" data) (hcode : other.get? "code" = answer.get? "code")
    (hmessage : other.get? "message" = answer.get? "message") :
    ofAnswer other header = ofAnswer answer header := by
  simp only [ofAnswer, payload_of_isPresent hdata, payload_of_isPresent hother, hcode, hmessage]

end

/-- An answer is granted if its payload has a token and its code is missing or says success, it is
downgraded if the code says success and there is no token, and else it is rejected with its own
message. A grant describes the payload and the header. -/
theorem outcome_of_answer (answer : Json.Value) (header : Option String) :
    ∃ payload, IsPayload answer payload ∧
      ((∃ g, ofAnswer answer header = .ok g) ↔ Granted answer payload) ∧
      (ofAnswer answer header = .error .missingCredentials ↔ Downgraded answer payload) ∧
      (¬ Granted answer payload → ¬ Downgraded answer payload →
        ∃ message, ofAnswer answer header = .error (.rejected message) ∧
          IsMessage answer message) ∧
      (∀ fault, ofAnswer answer header ≠ .error (.transport fault)) ∧
      (∀ detail, ofAnswer answer header ≠ .error (.persistence detail)) ∧
      (∀ g, ofAnswer answer header = .ok g → g.Describes payload header) ∧
      ∀ other data, IsPresent answer "data" data → IsPresent other "data" data →
        other.get? "code" = answer.get? "code" → other.get? "message" = answer.get? "message" →
        ofAnswer other header = ofAnswer answer header := by
  refine ⟨payload answer, isPayload_payload answer, isOk_ofAnswer_iff header,
    ofAnswer_eq_missing_iff header, ofAnswer_of_neither header, ?_, ?_,
    fun _ => describes_of_ofAnswer header, fun _ _ => ofAnswer_congr header⟩
  · intro fault h
    obtain ⟨hmissing, _⟩ | ⟨_, hrejected⟩ := ofAnswer_eq_error header h
    · cases hmissing
    · cases hrejected
  · intro detail h
    obtain ⟨hmissing, _⟩ | ⟨_, hrejected⟩ := ofAnswer_eq_error header h
    · cases hmissing
    · cases hrejected

end Grant

end TicketLogin
