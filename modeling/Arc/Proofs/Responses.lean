/-
Which model responses are accepted.

`Acceptable` says of the body, level by level, what the reading checks on its way.  Each
function of the reading succeeds exactly on its level of it, and fails with one of the
two errors of the reading: no value makes an operation of Python's raise, since every
operation is guarded by a test of the type.
-/
import Arc.Integrations.OpenAI

namespace Arc

namespace OpenAI

open Text

/-! ### What the body has to be

The reader looks at a few fields of the body and ignores the rest. The condition is
stated on the JSON value, from the outside in, and says of each field that is read which
values of it are taken.
-/

/-- A text of 1 to 100 characters. -/
def IsIdentifier (value : PyJson) : Prop := ∃ s, value = .str s ∧ s ≠ [] ∧ s.length ≤ 100

/-- The type that a content part says it has. -/
def HasType (part : PyJson) (name : String) : Prop :=
  ∃ fields, part = .dict fields ∧ PyJson.field fields "type" = .str (Str.ofString name)

/-- The content parts of an output item. -/
def itemParts : PyJson → List PyJson
  | .dict fields =>
      match PyJson.field fields "content" with
      | .list parts => parts
      | _ => []
  | _ => []

/-- All content parts of the response. -/
def contentParts (responseData : List (Str × PyJson)) : List PyJson :=
  match PyJson.field responseData "output" with
  | .list items => items.flatMap itemParts
  | _ => []

/-- An object whose content is absent, null or a list of objects. -/
def IsOutputItem (item : PyJson) : Prop :=
  ∃ fields, item = .dict fields ∧ (PyJson.field fields "content" = .none ∨
    ∃ parts, PyJson.field fields "content" = .list parts ∧ ∀ part ∈ parts, part.isDict = true)

/-- JSON satisfying the strategy schema. -/
def StrategySchema [FloatOrder] (value : PyJson) : Prop :=
  ∃ fields, value = .dict fields ∧
    (∀ field ∈ fields, ∃ name ∈ strategyOutputFields, field.1 = Str.ofString name) ∧
    (∃ action : RecoveryAction,
      fields.lookup (Str.ofString "action") = some (.str (Str.ofString action.value))) ∧
    (∃ s : Str, fields.lookup (Str.ofString "explanation") = some (.str s) ∧
      1 ≤ s.length ∧ s.length ≤ 500) ∧
    ((∃ n : Int, fields.lookup (Str.ofString "confidence") = some (.int n) ∧ 0 ≤ n ∧ n ≤ 1) ∨
      ∃ literal, fields.lookup (Str.ofString "confidence") = some (.float literal) ∧
        FloatOrder.le (Str.ofString "0.0") literal = true ∧
        FloatOrder.le literal (Str.ofString "1.0") = true) ∧
    (fields.lookup (Str.ofString "re_evaluate_after_seconds") = some .none ∨
      ∃ n : Int, fields.lookup (Str.ofString "re_evaluate_after_seconds") = some (.int n) ∧
        0 ≤ n ∧ n ≤ 86400)

/-- A count that is absent, null or a non-negative integer. -/
def IsCount (value : PyJson) : Prop := value = .none ∨ ∃ n : Int, value = .int n ∧ 0 ≤ n

def IsUsage (value : PyJson) : Prop :=
  value = .none ∨ ∃ usage, value = .dict usage ∧
    IsCount (PyJson.field usage "input_tokens") ∧ IsCount (PyJson.field usage "output_tokens") ∧
    IsCount (PyJson.field usage "total_tokens")

variable [FloatOrder] [JsonParser]

/-- What a response has to be for its strategy to be taken. -/
structure Acceptable (responseData : List (Str × PyJson)) : Prop where
  completed : PyJson.field responseData "status" = .str (Str.ofString "completed")
  id : IsIdentifier (PyJson.field responseData "id")
  model : IsIdentifier (PyJson.field responseData "model")
  output : ∃ items, PyJson.field responseData "output" = .list items ∧
    ∀ item ∈ items, IsOutputItem item
  noRefusal : ∀ part ∈ contentParts responseData, ¬ HasType part "refusal"
  /-- One part is an output text, and its text is a strategy. -/
  oneText : ∃ before part after text value,
    contentParts responseData = before ++ .dict part :: after ∧
    PyJson.field part "type" = .str (Str.ofString "output_text") ∧
    (∀ other ∈ before ++ after, ¬ HasType other "output_text") ∧
    PyJson.field part "text" = .str text ∧
    JsonParser.parse text = some value ∧ StrategySchema value
  usage : IsUsage (PyJson.field responseData "usage")

/-! ### The schema -/

omit [FloatOrder] [JsonParser] in
theorem actionField_isSome {value : PyJson} :
    (actionField value).isSome = true ↔
      ∃ action : RecoveryAction, value = .str (Str.ofString action.value) := by
  cases value with
  | str s =>
      simp only [actionField, List.find?_isSome, beq_iff_eq, PyJson.str.injEq]
      constructor
      · rintro ⟨action, -, rfl⟩
        exact ⟨action, rfl⟩
      · rintro ⟨action, rfl⟩
        exact ⟨action, by cases action <;> decide, rfl⟩
  | _ => simp [actionField]

omit [FloatOrder] [JsonParser] in
theorem explanationField_isSome {value : PyJson} :
    (explanationField value).isSome = true ↔
      ∃ s, value = .str s ∧ 1 ≤ s.length ∧ s.length ≤ 500 := by
  cases value <;> simp [explanationField]

omit [FloatOrder] [JsonParser] in
theorem reEvaluateField_isSome {value : PyJson} :
    (reEvaluateField value).isSome = true ↔
      value = .none ∨ ∃ n : Int, value = .int n ∧ 0 ≤ n ∧ n ≤ 86400 := by
  cases value <;> simp [reEvaluateField]

omit [JsonParser] in
theorem confidenceField_isSome {value : PyJson} :
    (confidenceField value).isSome = true ↔
      (∃ n : Int, value = .int n ∧ 0 ≤ n ∧ n ≤ 1) ∨
        ∃ literal, value = .float literal ∧ FloatOrder.le (Str.ofString "0.0") literal = true ∧
          FloatOrder.le literal (Str.ofString "1.0") = true := by
  cases value <;> simp [confidenceField]

omit [FloatOrder] [JsonParser] in
theorem requiredField_isSome {α : Type} {fields : List (Str × PyJson)} {name : String}
    {check : PyJson → Option α} :
    (∃ a, requiredField fields name check = some a) ↔
      ∃ value, fields.lookup (Str.ofString name) = some value ∧ (check value).isSome = true := by
  unfold requiredField
  cases fields.lookup (Str.ofString name) with
  | none => simp
  | some value => simp [Option.isSome_iff_exists]

omit [JsonParser] in
theorem validate_isSome {value : PyJson} :
    (StrategyOutput.validate value).isSome = true ↔ StrategySchema value := by
  cases value with
  | dict fields =>
      have hnames : (fields.all fun field =>
          strategyOutputFields.any fun name => field.1 == Str.ofString name) = true ↔
          ∀ field ∈ fields, ∃ name ∈ strategyOutputFields, field.1 = Str.ofString name := by
        simp [List.all_eq_true, List.any_eq_true]
      have hfields : (StrategyOutput.validate (.dict fields)).isSome = true ↔
          (∀ field ∈ fields, ∃ name ∈ strategyOutputFields, field.1 = Str.ofString name) ∧
            (∃ action, requiredField fields "action" actionField = some action) ∧
            (∃ s, requiredField fields "explanation" explanationField = some s) ∧
            (∃ n, requiredField fields "confidence" confidenceField = some n) ∧
            ∃ n, requiredField fields "re_evaluate_after_seconds" reEvaluateField = some n := by
        rw [← hnames]
        simp only [StrategyOutput.validate]
        split
        · rename_i hall
          simp only [hall, true_and, Option.isSome_iff_exists, Option.bind_eq_bind,
            Option.bind_eq_some_iff, Option.pure_def, Option.some.injEq]
          constructor
          · rintro ⟨_, action, ha, s, hs, n, hn, m, hm, -⟩
            exact ⟨⟨action, ha⟩, ⟨s, hs⟩, ⟨n, hn⟩, ⟨m, hm⟩⟩
          · rintro ⟨⟨action, ha⟩, ⟨s, hs⟩, ⟨n, hn⟩, ⟨m, hm⟩⟩
            exact ⟨_, action, ha, s, hs, n, hn, m, hm, rfl⟩
        · rename_i hall
          simp [hall]
      rw [hfields]
      simp only [requiredField_isSome, actionField_isSome, explanationField_isSome,
        confidenceField_isSome, reEvaluateField_isSome]
      constructor
      · rintro ⟨hnames, ⟨_, ha, action, rfl⟩, ⟨_, hs, s, rfl, hlength⟩, ⟨_, hn, hunit⟩, _, hm, hseconds⟩
        refine ⟨fields, rfl, hnames, ⟨action, ha⟩, ⟨s, hs, hlength⟩, ?_, ?_⟩
        · rcases hunit with ⟨n, rfl, hrange⟩ | ⟨literal, rfl, hrange⟩
          · exact .inl ⟨n, hn, hrange⟩
          · exact .inr ⟨literal, hn, hrange⟩
        · rcases hseconds with rfl | ⟨n, rfl, hrange⟩
          · exact .inl hm
          · exact .inr ⟨n, hm, hrange⟩
      · rintro ⟨_, hdict, hnames, ⟨action, ha⟩, ⟨s, hs, hlength⟩, hunit, hseconds⟩
        cases hdict
        refine ⟨hnames, ⟨_, ha, action, rfl⟩, ⟨_, hs, s, rfl, hlength⟩, ?_, ?_⟩
        · rcases hunit with ⟨n, hn, hrange⟩ | ⟨literal, hn, hrange⟩
          · exact ⟨_, hn, .inl ⟨n, rfl, hrange⟩⟩
          · exact ⟨_, hn, .inr ⟨literal, rfl, hrange⟩⟩
        · rcases hseconds with hm | ⟨n, hm, hrange⟩
          · exact ⟨_, hm, .inl rfl⟩
          · exact ⟨_, hm, .inr ⟨n, rfl, hrange⟩⟩
  | _ => simp [StrategyOutput.validate, StrategySchema]

/-! ### The output

The scan goes through all parts of all items, also when it has found a text, and stops
at the first refusal or malformed part. So that it succeeds is a condition on every
part, and the texts it returns are those of the parts in order.
-/

omit [JsonParser] in
/-- The metadata check never raises, and says whether the value is an identifier. -/
theorem isIdentifier_ok (value : PyJson) :
    ∃ b, isIdentifier value = .ok b ∧ (b = true ↔ IsIdentifier value) := by
  unfold IsIdentifier
  cases value with
  | str s =>
      by_cases hempty : s = []
      · exact ⟨false, by simp [isIdentifier, PyJson.isStr, PyJson.truthy, hempty]; rfl, by simp [hempty]⟩
      · refine ⟨decide (s.length ≤ 100), ?_, by simp [hempty]⟩
        simp [isIdentifier, PyJson.isStr, PyJson.truthy, hempty, PyJson.len, python, Except.mapError,
          bind, Except.bind, pure, Except.pure]
  | _ => exact ⟨false, rfl, by simp⟩

/-- The text of a part that is an output text. -/
def partText : PyJson → Option Str
  | .dict fields =>
      if (PyJson.field fields "type").isText "output_text" = true ∧
          (PyJson.field fields "text").isStr = true then
        some (textOf (PyJson.field fields "text"))
      else none
  | _ => none

/-- A part the scan passes: no refusal, and with a text where it is an output text. -/
def ReadablePart (part : PyJson) : Prop :=
  ∃ fields, part = .dict fields ∧ (PyJson.field fields "type").isText "refusal" = false ∧
    ((PyJson.field fields "type").isText "output_text" = true →
      (PyJson.field fields "text").isStr = true)

omit [FloatOrder] [JsonParser] in
theorem scanContent_dict {texts : List Str} {fields : List (Str × PyJson)} {rest : List PyJson} :
    scanContent texts (.dict fields :: rest) =
      if (PyJson.field fields "type").isText "refusal" = false then
        if (PyJson.field fields "type").isText "output_text" = true then
          if (PyJson.field fields "text").isStr = true then
            scanContent (texts ++ [textOf (PyJson.field fields "text")]) rest
          else .error (.strategyInvalidOutput "Strategy provider text output was invalid")
        else scanContent texts rest
      else .error (.strategyRefusal "Strategy model refused the request") := by
  simp only [scanContent, PyJson.get_dict, PyJson.isDict, python_ok, require_bind, ok_bind, if_true]

omit [FloatOrder] [JsonParser] in
/-- The scan of the parts succeeds when each is readable, and adds the texts in order. -/
theorem scanContent_eq_ok : ∀ {parts : List PyJson} {texts out : List Str},
    scanContent texts parts = .ok out ↔
      (∀ part ∈ parts, ReadablePart part) ∧ out = texts ++ parts.filterMap partText
  | [], texts, out => by simp [scanContent, eq_comm]
  | part :: rest, texts, out => by
      cases part with
      | dict fields =>
          have hhead : ReadablePart (.dict fields) ↔
              (PyJson.field fields "type").isText "refusal" = false ∧
                ((PyJson.field fields "type").isText "output_text" = true →
                  (PyJson.field fields "text").isStr = true) := by
            simp [ReadablePart]
          rw [scanContent_dict, List.forall_mem_cons, hhead, List.filterMap_cons, partText]
          by_cases hrefusal : (PyJson.field fields "type").isText "refusal" = false
          · by_cases htext : (PyJson.field fields "type").isText "output_text" = true
            · by_cases hstr : (PyJson.field fields "text").isStr = true
              · simp [hrefusal, htext, hstr, scanContent_eq_ok]
              · simp [hrefusal, htext, hstr]
            · simp [hrefusal, htext, scanContent_eq_ok]
          · simp [hrefusal]
      | _ => simp [scanContent, PyJson.isDict, require, bind, Except.bind, ReadablePart]

/-- One of the two errors of the reading. -/
def Foreseen (e : ResponseError) : Prop :=
  (∃ text, e = .strategyInvalidOutput text) ∨ ∃ text, e = .strategyRefusal text

omit [FloatOrder] [JsonParser] in
theorem scanContent_error : ∀ {parts : List PyJson} {texts : List Str} {e : ResponseError},
    scanContent texts parts = .error e → Foreseen e
  | [], texts, e, h => by cases h
  | part :: rest, texts, e, h => by
      cases part with
      | dict fields =>
          rw [scanContent_dict] at h
          split at h
          · split at h
            · split at h
              · exact scanContent_error h
              · cases h
                exact .inl ⟨_, rfl⟩
            · exact scanContent_error h
          · cases h
            exact .inr ⟨_, rfl⟩
      | _ =>
          cases h
          exact .inl ⟨_, rfl⟩

/-- An item the scan passes: without content, or with readable parts. -/
def ReadableItem (item : PyJson) : Prop :=
  ∃ fields, item = .dict fields ∧ (PyJson.field fields "content" = .none ∨
    ∃ parts, PyJson.field fields "content" = .list parts ∧ ∀ part ∈ parts, ReadablePart part)

omit [FloatOrder] [JsonParser] in
theorem scanOutput_dict {texts : List Str} {fields : List (Str × PyJson)} {rest : List PyJson} :
    scanOutput texts (.dict fields :: rest) =
      match PyJson.field fields "content" with
      | .none => scanOutput texts rest
      | .list parts => scanContent texts parts >>= fun texts => scanOutput texts rest
      | _ => .error (.strategyInvalidOutput "Strategy provider content was invalid") := by
  simp only [scanOutput, PyJson.get_dict, PyJson.isDict, python_ok, require_bind, ok_bind, if_true]
  cases PyJson.field fields "content" <;>
    simp [PyJson.isNone, PyJson.isList, PyJson.iter, python_ok, ok_bind]

omit [FloatOrder] [JsonParser] in
theorem scanOutput_eq_ok : ∀ {items : List PyJson} {texts out : List Str},
    scanOutput texts items = .ok out ↔
      (∀ item ∈ items, ReadableItem item) ∧ out = texts ++ (items.flatMap itemParts).filterMap partText
  | [], texts, out => by simp [scanOutput, eq_comm]
  | item :: rest, texts, out => by
      cases item with
      | dict fields =>
          have hhead : ReadableItem (.dict fields) ↔ PyJson.field fields "content" = .none ∨
              ∃ parts, PyJson.field fields "content" = .list parts ∧
                ∀ part ∈ parts, ReadablePart part := by
            simp [ReadableItem]
          rw [scanOutput_dict, List.forall_mem_cons, hhead, List.flatMap_cons, itemParts]
          cases hcontent : PyJson.field fields "content" with
          | none => simp [scanOutput_eq_ok]
          | list parts =>
              simp only [bind_eq_ok, scanContent_eq_ok, scanOutput_eq_ok, reduceCtorEq, false_or,
                PyJson.list.injEq, exists_eq_left', List.filterMap_append]
              constructor
              · rintro ⟨found, ⟨hparts, rfl⟩, hrest, rfl⟩
                exact ⟨⟨hparts, hrest⟩, List.append_assoc _ _ _⟩
              · rintro ⟨⟨hparts, hrest⟩, rfl⟩
                exact ⟨_, ⟨hparts, rfl⟩, hrest, (List.append_assoc _ _ _).symm⟩
          | _ => simp
      | _ => simp [scanOutput, PyJson.isDict, require, bind, Except.bind, ReadableItem]

omit [FloatOrder] [JsonParser] in
theorem scanOutput_error : ∀ {items : List PyJson} {texts : List Str} {e : ResponseError},
    scanOutput texts items = .error e → Foreseen e
  | [], texts, e, h => by cases h
  | item :: rest, texts, e, h => by
      cases item with
      | dict fields =>
          rw [scanOutput_dict] at h
          split at h
          · exact scanOutput_error h
          · rcases bind_eq_error.mp h with h | ⟨texts', -, h⟩
            · exact scanContent_error h
            · exact scanOutput_error h
          · cases h
            exact .inl ⟨_, rfl⟩
      | _ =>
          cases h
          exact .inl ⟨_, rfl⟩

/-! ### The usage -/

omit [JsonParser] in
theorem parseUsageField_dict {usage : List (Str × PyJson)} {name : String} :
    parseUsageField (.dict usage) name =
      match PyJson.field usage name with
      | .none => .ok none
      | .int n =>
          if n < 0 then
            .error (.strategyInvalidOutput "Strategy provider usage metadata was invalid")
          else .ok (some n)
      | _ => .error (.strategyInvalidOutput "Strategy provider usage metadata was invalid") := by
  simp only [parseUsageField, PyJson.get_dict, python_ok, ok_bind, require_bind]
  cases PyJson.field usage name with
  | int n =>
      by_cases hneg : n < 0 <;>
        simp [PyJson.isNone, PyJson.isInt, PyJson.isBool, PyJson.isNegative, python_ok, ok_bind,
          numberOf, hneg]
      all_goals rfl
  | _ => rfl

omit [JsonParser] in
theorem parseUsageField_isOk {usage : List (Str × PyJson)} {name : String} :
    (∃ count, parseUsageField (.dict usage) name = .ok count) ↔
      IsCount (PyJson.field usage name) := by
  rw [parseUsageField_dict]
  unfold IsCount
  cases PyJson.field usage name with
  | int n =>
      by_cases hneg : n < 0
      · simp [hneg]
      · simp [hneg, Int.not_lt.mp hneg]
  | _ => simp

omit [JsonParser] in
theorem parseUsageField_error {usage : List (Str × PyJson)} {name : String} {e : ResponseError}
    (h : parseUsageField (.dict usage) name = .error e) : Foreseen e := by
  rw [parseUsageField_dict] at h
  split at h
  · cases h
  · split at h
    · cases h
      exact .inl ⟨_, rfl⟩
    · cases h
  · cases h
    exact .inl ⟨_, rfl⟩

omit [JsonParser] in
theorem parseUsage_isOk {usage : PyJson} :
    (∃ counts, parseUsage usage = .ok counts) ↔ IsUsage usage := by
  cases usage with
  | none => simp [parseUsage, PyJson.isNone, IsUsage, pure, Except.pure]
  | dict fields =>
      simp only [IsUsage, reduceCtorEq, false_or, PyJson.dict.injEq, exists_eq_left',
        ← parseUsageField_isOk]
      simp only [parseUsage, PyJson.isNone, PyJson.isDict, require_bind, if_true, bind_eq_ok,
        Bool.false_eq_true, if_false, pure, Except.pure]
      constructor
      · rintro ⟨_, a, ha, b, hb, c, hc, -⟩
        exact ⟨⟨a, ha⟩, ⟨b, hb⟩, c, hc⟩
      · rintro ⟨⟨a, ha⟩, ⟨b, hb⟩, c, hc⟩
        exact ⟨_, a, ha, b, hb, c, hc, rfl⟩
  | _ => simp [parseUsage, PyJson.isNone, PyJson.isDict, IsUsage, require, bind, Except.bind]

omit [JsonParser] in
theorem parseUsage_error {usage : PyJson} {e : ResponseError} (h : parseUsage usage = .error e) :
    Foreseen e := by
  cases usage with
  | none => cases h
  | dict fields =>
      simp only [parseUsage, PyJson.isNone, PyJson.isDict, require_bind, if_true,
        Bool.false_eq_true, if_false] at h
      rcases bind_eq_error.mp h with h | ⟨a, -, h⟩
      · exact parseUsageField_error h
      rcases bind_eq_error.mp h with h | ⟨b, -, h⟩
      · exact parseUsageField_error h
      rcases bind_eq_error.mp h with h | ⟨c, -, h⟩
      · exact parseUsageField_error h
      · cases h
  | _ =>
      cases h
      exact .inl ⟨_, rfl⟩

/-! ### The response -/

omit [FloatOrder] [JsonParser] in
theorem partText_eq_some {part : PyJson} {text : Str} :
    partText part = some text ↔ ∃ fields, part = .dict fields ∧
      PyJson.field fields "type" = .str (Str.ofString "output_text") ∧
      PyJson.field fields "text" = .str text := by
  cases part with
  | dict fields =>
      simp only [partText, PyJson.dict.injEq, exists_eq_left']
      constructor
      · intro h
        split at h
        · rename_i hpart
          obtain ⟨s, hs⟩ := PyJson.isStr_iff.mp hpart.2
          rw [hs] at h ⊢
          cases h
          exact ⟨PyJson.isText_iff.mp hpart.1, rfl⟩
        · cases h
      · rintro ⟨htype, hs⟩
        rw [if_pos ⟨PyJson.isText_iff.mpr htype, PyJson.isStr_iff.mpr ⟨text, hs⟩⟩, hs]
        rfl
  | _ => simp [partText]

omit [FloatOrder] [JsonParser] in
theorem ReadablePart.partText_eq_none {part : PyJson} (h : ReadablePart part) :
    partText part = none ↔ ¬ HasType part "output_text" := by
  obtain ⟨fields, rfl, -, htext⟩ := h
  simp only [PyJson.isText_iff, PyJson.isStr_iff] at htext
  rw [Option.eq_none_iff_forall_ne_some]
  constructor
  · rintro hnone ⟨_, hdict, htype⟩
    cases hdict
    obtain ⟨s, hs⟩ := htext htype
    exact hnone s (partText_eq_some.mpr ⟨fields, rfl, htype, hs⟩)
  · intro htype text hsome
    obtain ⟨_, hdict, houtput, -⟩ := partText_eq_some.mp hsome
    exact htype ⟨_, hdict, houtput⟩

omit [FloatOrder] [JsonParser] in
/-- One text is found where one part is an output text. -/
theorem texts_eq_singleton {parts : List PyJson} (hparts : ∀ part ∈ parts, ReadablePart part)
    {text : Str} :
    parts.filterMap partText = [text] ↔ ∃ before part after, parts = before ++ .dict part :: after ∧
      PyJson.field part "type" = .str (Str.ofString "output_text") ∧
      (∀ other ∈ before ++ after, ¬ HasType other "output_text") ∧
      PyJson.field part "text" = .str text := by
  rw [List.filterMap_eq_cons_iff]
  constructor
  · rintro ⟨before, part, after, rfl, hbefore, hpart, hafter⟩
    obtain ⟨fields, rfl, htype, htext⟩ := partText_eq_some.mp hpart
    refine ⟨before, fields, after, rfl, htype, fun other hother => ?_, htext⟩
    rcases List.mem_append.mp hother with hother | hother
    · exact (hparts other (List.mem_append_left _ hother)).partText_eq_none.mp (hbefore other hother)
    · refine (hparts other ?_).partText_eq_none.mp (List.filterMap_eq_nil_iff.mp hafter other hother)
      exact List.mem_append_right _ (List.mem_cons_of_mem _ hother)
  · rintro ⟨before, fields, after, rfl, htype, hothers, htext⟩
    refine ⟨before, .dict fields, after, rfl, fun other hother => ?_,
      partText_eq_some.mpr ⟨fields, rfl, htype, htext⟩,
      List.filterMap_eq_nil_iff.mpr fun other hother => ?_⟩
    · exact (hparts other (List.mem_append_left _ hother)).partText_eq_none.mpr
        (hothers other (List.mem_append_left _ hother))
    · refine (hparts other ?_).partText_eq_none.mpr (hothers other (List.mem_append_right _ hother))
      exact List.mem_append_right _ (List.mem_cons_of_mem _ hother)

omit [FloatOrder] [JsonParser] in
/-- The items are readable when they are well formed and no part of them refuses. -/
theorem readableItems_of {items : List PyJson} (hitems : ∀ item ∈ items, IsOutputItem item)
    (hrefusal : ∀ part ∈ items.flatMap itemParts, ¬ HasType part "refusal")
    (htexts : ∀ part ∈ items.flatMap itemParts, ∀ fields, part = .dict fields →
      HasType part "output_text" → ∃ text, PyJson.field fields "text" = .str text) :
    ∀ item ∈ items, ReadableItem item := by
  intro item hitem
  obtain ⟨fields, rfl, hcontent⟩ := hitems item hitem
  refine ⟨fields, rfl, ?_⟩
  rcases hcontent with hnone | ⟨parts, hlist, hdicts⟩
  · exact .inl hnone
  · refine .inr ⟨parts, hlist, fun part hpart => ?_⟩
    have hmem : part ∈ items.flatMap itemParts := by
      refine List.mem_flatMap.mpr ⟨.dict fields, hitem, ?_⟩
      rwa [itemParts, hlist]
    obtain ⟨partFields, rfl⟩ := PyJson.isDict_iff.mp (hdicts part hpart)
    refine ⟨partFields, rfl, ?_, fun htype => ?_⟩
    · rw [Bool.eq_false_iff]
      intro htype
      exact hrefusal _ hmem ⟨partFields, rfl, PyJson.isText_iff.mp htype⟩
    · exact PyJson.isStr_iff.mpr
        (htexts _ hmem partFields rfl ⟨partFields, rfl, PyJson.isText_iff.mp htype⟩)

omit [FloatOrder] [JsonParser] in
theorem ReadableItem.isOutputItem {item : PyJson} (h : ReadableItem item) : IsOutputItem item := by
  obtain ⟨fields, rfl, hnone | ⟨parts, hlist, hparts⟩⟩ := h
  · exact ⟨fields, rfl, .inl hnone⟩
  · refine ⟨fields, rfl, .inr ⟨parts, hlist, fun part hpart => ?_⟩⟩
    obtain ⟨partFields, rfl, -⟩ := hparts part hpart
    rfl

omit [FloatOrder] [JsonParser] in
theorem ReadableItem.parts {items : List PyJson} (h : ∀ item ∈ items, ReadableItem item) :
    ∀ part ∈ items.flatMap itemParts, ReadablePart part := by
  intro part hpart
  obtain ⟨item, hitem, hpart⟩ := List.mem_flatMap.mp hpart
  obtain ⟨fields, rfl, hcontent⟩ := h item hitem
  rcases hcontent with hnone | ⟨parts, hlist, hparts⟩
  · rw [itemParts, hnone] at hpart
    cases hpart
  · rw [itemParts, hlist] at hpart
    exact hparts part hpart

theorem modelValidateJson_isSome {text : Str} :
    (∃ output, modelValidateJson text = some output) ↔
      ∃ value, JsonParser.parse text = some value ∧ StrategySchema value := by
  unfold modelValidateJson
  cases JsonParser.parse text with
  | none => simp
  | some value => simp [← validate_isSome, Option.isSome_iff_exists]

/-- Each check of the reading in turn. -/
theorem parseResponse_isOk {responseData : List (Str × PyJson)} {latencyMs : Nat} :
    (∃ result, parseResponse (.dict responseData) latencyMs = .ok result) ↔
      PyJson.field responseData "status" = .str (Str.ofString "completed") ∧
      IsIdentifier (PyJson.field responseData "id") ∧
      IsIdentifier (PyJson.field responseData "model") ∧
      (∃ items, PyJson.field responseData "output" = .list items ∧
        ∃ text, scanOutput [] items = .ok [text] ∧
          ∃ value, JsonParser.parse text = some value ∧ StrategySchema value) ∧
      IsUsage (PyJson.field responseData "usage") := by
  obtain ⟨idValid, hid, hidIff⟩ := isIdentifier_ok (PyJson.field responseData "id")
  obtain ⟨modelValid, hmodel, hmodelIff⟩ := isIdentifier_ok (PyJson.field responseData "model")
  rw [← PyJson.isText_iff, ← hidIff, ← hmodelIff, ← parseUsage_isOk]
  simp only [← modelValidateJson_isSome, parseResponse, PyJson.get_dict, python_ok, ok_bind, hid,
    hmodel]
  constructor
  · rintro ⟨result, h⟩
    obtain ⟨_, hstatus, h⟩ := bind_eq_ok.mp h
    obtain ⟨_, hidValid, h⟩ := bind_eq_ok.mp h
    obtain ⟨_, hmodelValid, h⟩ := bind_eq_ok.mp h
    obtain ⟨_, hlist, h⟩ := bind_eq_ok.mp h
    obtain ⟨items, hitems⟩ := PyJson.isList_iff.mp (require_eq_ok.mp hlist)
    simp only [hitems, PyJson.iter_list, python_ok, ok_bind] at h
    obtain ⟨texts, hscan, h⟩ := bind_eq_ok.mp h
    obtain ⟨_, hcount, h⟩ := bind_eq_ok.mp h
    obtain ⟨output, houtput, h⟩ := bind_eq_ok.mp h
    obtain ⟨counts, hcounts, -⟩ := bind_eq_ok.mp h
    obtain ⟨text, rfl⟩ := List.length_eq_one_iff.mp (require_eq_ok.mp hcount)
    exact ⟨require_eq_ok.mp hstatus, require_eq_ok.mp hidValid, require_eq_ok.mp hmodelValid,
      ⟨items, hitems, text, hscan, output, requireSome_eq_ok.mp houtput⟩, counts, hcounts⟩
  · rintro ⟨hstatus, hidValid, hmodelValid, ⟨items, hitems, text, hscan, output, houtput⟩, counts,
      hcounts⟩
    refine ⟨⟨output, textOf (PyJson.field responseData "id"),
      textOf (PyJson.field responseData "model"), counts.1, counts.2.1, counts.2.2, latencyMs⟩, ?_⟩
    refine bind_eq_ok.mpr ⟨(), require_eq_ok.mpr hstatus, ?_⟩
    refine bind_eq_ok.mpr ⟨(), require_eq_ok.mpr hidValid, ?_⟩
    refine bind_eq_ok.mpr ⟨(), require_eq_ok.mpr hmodelValid, ?_⟩
    refine bind_eq_ok.mpr ⟨(), require_eq_ok.mpr (PyJson.isList_iff.mpr ⟨items, hitems⟩), ?_⟩
    simp only [hitems, PyJson.iter_list, python_ok, ok_bind]
    refine bind_eq_ok.mpr ⟨[text], hscan, ?_⟩
    refine bind_eq_ok.mpr ⟨(), require_eq_ok.mpr rfl, ?_⟩
    refine bind_eq_ok.mpr ⟨output, requireSome_eq_ok.mpr houtput, ?_⟩
    exact bind_eq_ok.mpr ⟨counts, hcounts, rfl⟩

theorem parseResponse_error {responseData : List (Str × PyJson)} {latencyMs : Nat}
    {e : ResponseError} (h : parseResponse (.dict responseData) latencyMs = .error e) :
    Foreseen e := by
  obtain ⟨idValid, hid, -⟩ := isIdentifier_ok (PyJson.field responseData "id")
  obtain ⟨modelValid, hmodel, -⟩ := isIdentifier_ok (PyJson.field responseData "model")
  simp only [parseResponse, PyJson.get_dict, python_ok, ok_bind, hid, hmodel] at h
  rcases bind_eq_error.mp h with h | ⟨_, -, h⟩
  · exact .inl ⟨_, (require_eq_error.mp h).2⟩
  rcases bind_eq_error.mp h with h | ⟨_, -, h⟩
  · exact .inl ⟨_, (require_eq_error.mp h).2⟩
  rcases bind_eq_error.mp h with h | ⟨_, -, h⟩
  · exact .inl ⟨_, (require_eq_error.mp h).2⟩
  rcases bind_eq_error.mp h with h | ⟨_, hlist, h⟩
  · exact .inl ⟨_, (require_eq_error.mp h).2⟩
  obtain ⟨items, hitems⟩ := PyJson.isList_iff.mp (require_eq_ok.mp hlist)
  simp only [hitems, PyJson.iter_list, python_ok, ok_bind] at h
  rcases bind_eq_error.mp h with h | ⟨texts, -, h⟩
  · exact scanOutput_error h
  rcases bind_eq_error.mp h with h | ⟨_, -, h⟩
  · exact .inl ⟨_, (require_eq_error.mp h).2⟩
  rcases bind_eq_error.mp h with h | ⟨output, -, h⟩
  · exact .inl ⟨_, (requireSome_eq_error.mp h).2⟩
  rcases bind_eq_error.mp h with h | ⟨counts, -, h⟩
  · exact parseUsage_error h
  · cases h

/--
**Which responses are accepted.**  For every JSON object received as the body, the reading
returns a strategy exactly when the object is acceptable, and fails on every other with
one of its two errors.
-/
theorem response_accepted_iff (responseData : List (Str × PyJson)) (latencyMs : Nat) :
    ((∃ result, parseResponse (.dict responseData) latencyMs = .ok result) ↔
      Acceptable responseData) ∧
    ∀ e, parseResponse (.dict responseData) latencyMs = .error e →
      (∃ text, e = .strategyInvalidOutput text) ∨ ∃ text, e = .strategyRefusal text := by
  refine ⟨?_, fun e h => parseResponse_error h⟩
  rw [parseResponse_isOk]
  constructor
  · rintro ⟨hstatus, hid, hmodel, ⟨items, hitems, text, hscan, value, hvalue, hschema⟩, husage⟩
    obtain ⟨hreadable, htexts⟩ := scanOutput_eq_ok.mp hscan
    have hparts := ReadableItem.parts hreadable
    obtain ⟨before, part, after, hsplit, htype, hothers, htext⟩ :=
      (texts_eq_singleton hparts).mp htexts.symm
    have hcontent : contentParts responseData = items.flatMap itemParts := by
      rw [contentParts, hitems]
    refine ⟨hstatus, hid, hmodel, ⟨items, hitems, fun item hitem => (hreadable item hitem).isOutputItem⟩,
      fun other hother hrefusal => ?_,
      ⟨before, part, after, text, value, hcontent.trans hsplit, htype, hothers, htext, hvalue, hschema⟩,
      husage⟩
    rw [hcontent] at hother
    obtain ⟨fields, rfl, hnot, -⟩ := hparts other hother
    obtain ⟨_, hdict, hrefusal⟩ := hrefusal
    cases hdict
    rw [PyJson.isText_iff.mpr hrefusal] at hnot
    cases hnot
  · intro h
    obtain ⟨items, hitems, houtput⟩ := h.output
    obtain ⟨before, part, after, text, value, hsplit, htype, hothers, htext, hvalue, hschema⟩ := h.oneText
    have hcontent : contentParts responseData = items.flatMap itemParts := by
      rw [contentParts, hitems]
    have hrefusal := h.noRefusal
    rw [hcontent] at hsplit hrefusal
    have hreadable : ∀ item ∈ items, ReadableItem item := by
      refine readableItems_of houtput hrefusal fun other hother fields hfields hoftype => ?_
      rw [hsplit, List.mem_append, List.mem_cons] at hother
      rcases hother with hother | rfl | hother
      · exact absurd hoftype (hothers other (List.mem_append_left _ hother))
      · cases hfields
        exact ⟨text, htext⟩
      · exact absurd hoftype (hothers other (List.mem_append_right _ hother))
    refine ⟨h.completed, h.id, h.model, ⟨items, hitems, text, ?_, value, hvalue, hschema⟩, h.usage⟩
    refine scanOutput_eq_ok.mpr ⟨hreadable, ?_⟩
    rw [List.nil_append]
    exact ((texts_eq_singleton (ReadableItem.parts hreadable)).mpr
      ⟨before, part, after, hsplit, htype, hothers, htext⟩).symm

end OpenAI

end Arc
