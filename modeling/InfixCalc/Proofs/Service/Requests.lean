import InfixCalc.Proofs.Double.Exact
import InfixCalc.Proofs.Schema.Read
import InfixCalc.Service.Handler

/-!
# Requests stand for what was sent

A request that the schema accepts says what the value says: its expression is
the string under `expr`, and each option is the one that was given, or left open if
none was given.
-/

namespace InfixCalc

/-! ## Names -/

theorem LexerMode.ofName?_name (mode : LexerMode) : ofName? mode.name = some mode := by
  cases mode <;> decide

theorem RoundingMode.ofName?_name (mode : RoundingMode) : ofName? mode.name = some mode := by
  cases mode <;> decide

theorem LexerMode.mem_all (mode : LexerMode) : mode ∈ all := by
  cases mode <;> decide

theorem RoundingMode.mem_all (mode : RoundingMode) : mode ∈ all := by
  cases mode <;> decide

/-! ## Requests -/

/-- What a value gives for an option. -/
def Json.option?
    (value : Json)
    (name : Text) :
    Option Json :=
  (value.get? (text "options")).bind fun options => options.get? name

/-- A request says what a value says. -/
structure EvalInput.Stands
    (request : EvalInput)
    (value : Json) :
    Prop where
  expression : value.get? (text "expr") = some (.string request.expression)
  short : request.expression.length ≤ Schema.longestExpression
  lexer : value.option? (text "lexer") = request.lexer.map fun mode => .string mode.name
  precision : value.option? (text "precision") = request.precision.map .number
  rounding : value.option? (text "rounding") = request.rounding.map fun mode => .string mode.name

/-- A name that was given or left out says which of the named things is meant, if any. -/
theorem Schema.optional_choice_ok
    {α : Type}
    {all : List α}
    {name : α → Text}
    {ofName? : Text → Option α}
    (inverse : ∀ named, ofName? (name named) = some named)
    {value data : Option Json}
    (accepted : (optional (choice (all.map name))).read value = .ok data) :
    value = ((data.bind Json.text?).bind ofName?).map fun named => .string (name named) := by
  rcases read_optional_choice_ok_iff.mp accepted with ⟨rfl, named, same, _⟩
  rw [same]
  cases named with
  | none => rfl
  | some one => simp [Json.text?, inverse]

theorem Schema.optional_number_ok
    {rule : NumberRule}
    (asIs : rule.coerced = false)
    {value data : Option Json}
    (accepted : (optional (number rule)).read value = .ok data) :
    value = (data.bind Json.number?).map .number := by
  rcases read_optional_ok accepted with ⟨rfl, rfl⟩ | ⟨given, rfl, isNumber⟩
  · rfl
  · rcases read_number_ok isNumber with ⟨number, found, rfl, _⟩
    rw [NumberRule.input, asIs, if_neg Bool.false_ne_true] at found
    rw [found]
    rfl

/-- The fields of options, the number of digits being read by some rule. -/
def Schema.optionFields (rule : NumberRule) : List (Text × Schema) := [
  (text "lexer", .optional lexerMode),
  (text "precision", .optional (.number rule)),
  (text "rounding", .optional roundingMode)]

theorem Schema.optionFields_nodup
    {rule : NumberRule} :
    ((optionFields rule).map Prod.fst).Nodup := by
  change [text "lexer", text "precision", text "rounding"].Nodup
  decide

/-- Each option that was read is what the schema of its field makes of the member. -/
theorem Schema.readFields_optionFields
    {rule : NumberRule}
    {members read : List (Text × Json)}
    (accepted : readFields (optionFields rule) members = .ok read) :
    (optional lexerMode).read (Json.lookup members (text "lexer"))
        = .ok (Json.lookup read (text "lexer")) ∧
      (optional (number rule)).read (Json.lookup members (text "precision"))
        = .ok (Json.lookup read (text "precision")) ∧
      (optional roundingMode).read (Json.lookup members (text "rounding"))
        = .ok (Json.lookup read (text "rounding")) :=
  ⟨readFields_lookup optionFields_nodup accepted List.mem_cons_self,
    readFields_lookup optionFields_nodup accepted (.tail _ List.mem_cons_self),
    readFields_lookup optionFields_nodup accepted (.tail _ (.tail _ List.mem_cons_self))⟩

/-- Each option is the one that was given under its name. -/
theorem Schema.read_evalOptions_ok
    {given : Json}
    {data : Option Json}
    (accepted : evalOptions.read (some given) = .ok data) :
    ∃ read,
      data = some read ∧
        given.get? (text "lexer")
          = (((read.get? (text "lexer")).bind Json.text?).bind LexerMode.ofName?).map
              (fun mode => .string mode.name) ∧
        given.get? (text "precision")
          = ((read.get? (text "precision")).bind Json.number?).map .number ∧
        given.get? (text "rounding")
          = (((read.get? (text "rounding")).bind Json.text?).bind RoundingMode.ofName?).map
              (fun mode => .string mode.name) := by
  rcases read_record_ok accepted with ⟨members, read, isObject, rfl, fieldsRead⟩
  cases isObject
  rcases readFields_optionFields fieldsRead with ⟨lexer, precision, rounding⟩
  exact ⟨.object read, rfl, optional_choice_ok LexerMode.ofName?_name lexer,
    optional_number_ok rfl precision, optional_choice_ok RoundingMode.ofName?_name rounding⟩

namespace EvalInput

/-- A request stands for the value that it was read from. -/
theorem stands_of_ofJson?
    {value : Option Json}
    {request : EvalInput}
    (accepted : ofJson? value = .ok request) :
    ∃ given, value = some given ∧ request.Stands given := by
  unfold ofJson? at accepted
  cases data? : Schema.evalInput.read value with
  | error issues =>
    rw [data?] at accepted
    cases accepted
  | ok data =>
    rw [data?] at accepted
    cases accepted
    rcases Schema.read_record_ok data? with ⟨members, read, rfl, rfl, fieldsRead⟩
    have expression : (Schema.string (some Schema.longestExpression)).read
        (Json.lookup members (text "expr")) = .ok (Json.lookup read (text "expr")) :=
      Schema.readFields_lookup (by decide) fieldsRead List.mem_cons_self
    have options : (Schema.optional Schema.evalOptions).read
        (Json.lookup members (text "options")) = .ok (Json.lookup read (text "options")) :=
      Schema.readFields_lookup (by decide) fieldsRead (.tail _ List.mem_cons_self)
    rcases Schema.read_string_ok expression with ⟨written, found, same, short⟩
    rw [found] at same
    have isWritten : (ofData (.object read)).expression = written := by
      simp [ofData, Json.get?, same, Json.text?]
    have sent : Json.get? (.object members) (text "expr")
        = some (.string (ofData (.object read)).expression) := by
      rw [isWritten]
      exact found
    have fits := short _ rfl
    rw [← isWritten] at fits
    -- Without options, nothing is asked for; otherwise each option stands under its own name.
    rcases Schema.read_optional_ok options with ⟨missing, none⟩ | ⟨given, present, optionsRead⟩
    · have leftOpen (name : Text) : Json.option? (.object members) name = .none := by
        simp [Json.option?, Json.get?, missing]
      refine ⟨.object members, rfl, sent, fits, ?_, ?_, ?_⟩
      all_goals
        rw [leftOpen]
        simp [ofData, Json.get?, none]
    · rcases Schema.read_evalOptions_ok optionsRead with
        ⟨chosen, isChosen, lexer, precision, rounding⟩
      have asked (name : Text) : Json.option? (.object members) name = given.get? name := by
        simp [Json.option?, Json.get?, present]
      have isRead : (Json.get? (.object read) (text "options")).getD .null = chosen := by
        simp [Json.get?, isChosen]
      refine ⟨.object members, rfl, sent, fits, ?_, ?_, ?_⟩
      · simp only [asked, lexer, ofData, Option.getD_some, isRead]
      · simp only [asked, precision, ofData, Option.getD_some, isRead]
      · simp only [asked, rounding, ofData, Option.getD_some, isRead]

end EvalInput

end InfixCalc
