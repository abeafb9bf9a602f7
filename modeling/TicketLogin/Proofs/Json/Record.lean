import TicketLogin.Proofs.Json.Quoted
import TicketLogin.Json.Reader
import TicketLogin.Json.Writer

/-!
# Reading back records of texts

Both layouts of a record differ in white space only: before each name, and between the colon and the
text. The tokens of a record are the same in either, and they read back to its fields.
-/

namespace TicketLogin.Json

namespace Token

def IsBlank (s : List Char) : Prop := s.all isSpace = true

theorem isBlank_nil : IsBlank [] := rfl

theorem tokens_of_next {lead body rest : List Char} {c : Char} {t : Token} (hlead : IsBlank lead)
    (hc : isSpace c = false) (hnext : next (c :: body) = some (t, rest))
    (hlength : rest.length ≤ body.length) :
    tokens (lead ++ c :: body) = (tokens rest).map (t :: ·) := by
  have hdrop : (lead ++ c :: body).dropWhile isSpace = c :: body := by
    rw [List.dropWhile_append_of_pos (List.all_eq_true.1 hlead), List.dropWhile_cons_of_neg (by simp [hc])]
  have hshort : rest.length < (lead ++ c :: body).length := by
    simp only [List.length_append, List.length_cons]
    omega
  rw [tokens]
  split
  · next h =>
    rw [hdrop] at h
    cases h
  · next d more h =>
    rw [hdrop] at h
    obtain ⟨rfl, rfl⟩ := List.cons.inj h
    simp only [hnext, dif_pos hshort]

theorem tokens_nil : tokens [] = some [] := by
  rw [tokens]
  rfl

theorem tokens_text {lead : List Char} (hlead : IsBlank lead) (s : String) (rest : List Char) :
    tokens (lead ++ (Quoted.write s.toList ++ rest)) =
      (tokens rest).map (.text (some s) :: ·) := by
  obtain ⟨ps, hjoin, hpieces⟩ := Quoted.pieces_write s.toList
  have hnext : next ('"' :: (s.toList.flatMap Quoted.escape ++ '"' :: rest)) =
      some (.text (some s), rest) := by
    rw [next, hpieces]
    simp only [Option.map_some, hjoin, String.ofList_toList]
  have htext : Quoted.write s.toList ++ rest =
      '"' :: (s.toList.flatMap Quoted.escape ++ '"' :: rest) := by
    simp [Quoted.write]
  rw [htext]
  refine tokens_of_next hlead rfl hnext ?_
  simp only [List.length_append, List.length_cons]
  omega

theorem tokens_colon (rest : List Char) : tokens (':' :: rest) = (tokens rest).map (.colon :: ·) :=
  tokens_of_next isBlank_nil rfl rfl (Nat.le_refl _)

theorem tokens_comma (rest : List Char) : tokens (',' :: rest) = (tokens rest).map (.comma :: ·) :=
  tokens_of_next isBlank_nil rfl rfl (Nat.le_refl _)

theorem tokens_openRecord (rest : List Char) :
    tokens (Char.ofNat 0x7B :: rest) = (tokens rest).map (.openRecord :: ·) :=
  tokens_of_next isBlank_nil rfl rfl (Nat.le_refl _)

theorem tokens_closeRecord {lead : List Char} (hlead : IsBlank lead) :
    tokens (lead ++ [Char.ofNat 0x7D]) = some [.closeRecord] := by
  rw [tokens_of_next hlead rfl rfl (Nat.le_refl _), tokens_nil]
  rfl

end Token

def fieldText (indent gap : List Char) (f : TextField) : List Char :=
  indent ++ (Quoted.write f.1.toList ++ ':' :: (gap ++ Quoted.write f.2.toList))

def fieldTokens : List TextField → List Token
  | [] => []
  | [f] => [.text (some f.1), .colon, .text (some f.2)]
  | f :: rest => .text (some f.1) :: .colon :: .text (some f.2) :: .comma :: fieldTokens rest

def recordTokens (fields : List TextField) : List Token :=
  .openRecord :: (fieldTokens fields ++ [.closeRecord])

section Layout

variable {lead indent gap : List Char} (hlead : Token.IsBlank lead) (hindent : Token.IsBlank indent)
  (hgap : Token.IsBlank gap)

include hlead hindent hgap

theorem tokens_fieldText (f : TextField) (rest : List Char) :
    Token.tokens (lead ++ (fieldText indent gap f ++ rest)) =
      (Token.tokens rest).map ([.text (some f.1), .colon, .text (some f.2)] ++ ·) := by
  have hfront : Token.IsBlank (lead ++ indent) := by
    rw [Token.IsBlank, List.all_append, hlead, hindent]
    rfl
  have htext : lead ++ (fieldText indent gap f ++ rest) = (lead ++ indent) ++
      (Quoted.write f.1.toList ++ ':' :: (gap ++ (Quoted.write f.2.toList ++ rest))) := by
    simp [fieldText]
  rw [htext, Token.tokens_text hfront, Token.tokens_colon, Token.tokens_text hgap]
  simp only [Option.map_map]
  rfl

theorem tokens_separated {fields : List TextField} (hne : fields ≠ []) (rest : List Char) :
    Token.tokens (lead ++ (separated (',' :: lead) (fields.map (fieldText indent gap)) ++ rest)) =
      (Token.tokens rest).map (fieldTokens fields ++ ·) := by
  induction fields with
  | nil => exact absurd rfl hne
  | cons f fields ih =>
    cases fields with
    | nil => exact tokens_fieldText hlead hindent hgap f rest
    | cons g fields =>
      have ih := ih (List.cons_ne_nil _ _)
      simp only [List.map_cons] at ih
      simp only [List.map_cons, separated, List.append_assoc, List.cons_append]
      rw [tokens_fieldText hlead hindent hgap, Token.tokens_comma, ih]
      simp only [Option.map_map, fieldTokens]
      rfl

theorem tokens_braced {fields : List TextField} (hne : fields ≠ []) :
    Token.tokens (braced (lead ++ (separated (',' :: lead) (fields.map (fieldText indent gap)) ++
      lead))) = some (recordTokens fields) := by
  have htext : lead ++ (separated (',' :: lead) (fields.map (fieldText indent gap)) ++ lead) ++
      [Char.ofNat 0x7D] = lead ++ (separated (',' :: lead) (fields.map (fieldText indent gap)) ++
        (lead ++ [Char.ofNat 0x7D])) := by
    simp
  rw [braced, Token.tokens_openRecord, htext, tokens_separated hlead hindent hgap hne,
    Token.tokens_closeRecord hlead]
  rfl

end Layout

theorem tokens_braced_nil : Token.tokens (braced []) = some (recordTokens []) := by
  have h := Token.tokens_closeRecord Token.isBlank_nil
  rw [List.nil_append] at h
  rw [braced, Token.tokens_openRecord, List.nil_append, h]
  rfl

theorem tokens_compact (fields : List TextField) :
    Token.tokens (compact fields) = some (recordTokens fields) := by
  by_cases hne : fields = []
  · subst hne
    exact tokens_braced_nil
  · have h := tokens_braced Token.isBlank_nil Token.isBlank_nil Token.isBlank_nil hne
    rwa [List.nil_append, List.append_nil] at h

theorem tokens_indented (fields : List TextField) :
    Token.tokens (indented fields) = some (recordTokens fields) := by
  unfold indented
  split
  · next h =>
    subst h
    exact tokens_braced_nil
  · next hne =>
    have hline : Token.IsBlank ['\n'] := rfl
    have hindent : Token.IsBlank [' ', ' '] := rfl
    have hgap : Token.IsBlank [' '] := rfl
    exact tokens_braced hline hindent hgap hne

/-! ## From tokens to fields -/

theorem fieldTokens_cons (f : TextField) (fields : List TextField) :
    ∃ more, fieldTokens (f :: fields) = .text (some f.1) :: more := by
  cases fields with
  | nil => exact ⟨_, rfl⟩
  | cons g fields => exact ⟨_, rfl⟩

theorem length_le_fieldTokens (fields : List TextField) :
    fields.length ≤ (fieldTokens fields).length := by
  induction fields with
  | nil => exact Nat.le_refl _
  | cons f fields ih =>
    cases fields with
    | nil => simp [fieldTokens]
    | cons g fields =>
      simp only [fieldTokens, List.length_cons] at ih ⊢
      omega

theorem takeFields_fieldTokens {fields : List TextField} (hne : fields ≠ []) {fuel : Nat}
    (hfuel : fields.length < fuel) (rest : List Token) :
    takeFields fuel (fieldTokens fields ++ .closeRecord :: rest) =
      some (fields.map fun f => (some f.1, .text f.2), rest) := by
  induction fields generalizing fuel with
  | nil => exact absurd rfl hne
  | cons f fields ih =>
    simp only [List.length_cons] at hfuel
    obtain ⟨fuel, rfl⟩ : ∃ k, fuel = k + 1 + 1 := ⟨fuel - 2, by omega⟩
    cases fields with
    | nil => simp [fieldTokens, takeFields, takeValue]
    | cons g fields =>
      have hrest : takeFields (fuel + 1) (fieldTokens (g :: fields) ++ .closeRecord :: rest) =
          some ((g :: fields).map fun f => (some f.1, .text f.2), rest) :=
        ih (List.cons_ne_nil _ _) (by omega)
      simp only [fieldTokens, List.cons_append]
      rw [takeFields, takeValue]
      simp only [hrest, Option.map_some, Option.getD_some, List.map_cons]

theorem recordOf_texts (fields : List TextField) :
    recordOf (fields.map fun f => (some f.1, .text f.2)) =
      .record (fields.map fun f => (f.1, .text f.2)) := by
  have h : (fields.map fun f => (some f.1, Value.text f.2)).mapM
      (fun f => f.1.map fun name => (name, f.2)) = some (fields.map fun f => (f.1, .text f.2)) := by
    induction fields with
    | nil => rfl
    | cons f fields ih => simp [ih]
  rw [recordOf, h]

theorem takeValue_recordTokens {fields : List TextField} {fuel : Nat} (h : fields.length < fuel) :
    takeValue (fuel + 1) (recordTokens fields) =
      some (.record (fields.map fun f => (f.1, .text f.2)), []) := by
  cases fields with
  | nil => rfl
  | cons f fields =>
    have htake := takeFields_fieldTokens (List.cons_ne_nil f fields) h []
    obtain ⟨more, hmore⟩ := fieldTokens_cons f fields
    rw [recordTokens, takeValue, htake]
    · simp only [Option.map_some, recordOf_texts]
    · rw [hmore]
      intro _ hclose
      cases hclose

theorem Value.parse_of_tokens {s : List Char} {fields : List TextField}
    (h : Token.tokens s = some (recordTokens fields)) :
    parse s = some (.record (fields.map fun f => (f.1, .text f.2))) := by
  have hlength := length_le_fieldTokens fields
  have hfuel : fields.length < 2 * (recordTokens fields).length := by
    simp only [recordTokens, List.length_cons, List.length_append]
    omega
  simp only [parse, h, Option.bind_eq_bind, Option.bind_some, takeValue_recordTokens hfuel]

theorem Value.parse_compact (fields : List TextField) :
    parse (compact fields) = some (.record (fields.map fun f => (f.1, .text f.2))) :=
  parse_of_tokens (tokens_compact fields)

theorem Value.parse_indented (fields : List TextField) :
    parse (indented fields) = some (.record (fields.map fun f => (f.1, .text f.2))) :=
  parse_of_tokens (tokens_indented fields)

end TicketLogin.Json
