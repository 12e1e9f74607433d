/-
The reading of a model response.

The body is any JSON object, and every level of it is checked before it is used: the
status, the metadata, the output items with their content parts, the one text, the usage.
The text is the strategy, read by pydantic against the schema of `StrategyOutput` in
strict mode; its JSON parser is a parameter, and so is the order of floats.
-/
import Arc.Domain.Enums
import Arc.Intelligence.Service
import Arc.Text.PyValue

namespace Arc

namespace OpenAI

open Text

/-- What pydantic's JSON parser makes of a text. -/
class JsonParser where
  parse : Str → Option PyJson

/-! ### The strategy schema -/

/-- A structurally valid proposal; the confidence is kept as it was written. -/
structure StrategyOutput where
  action : RecoveryAction
  explanation : Str
  confidence : PyJson
  reEvaluateAfterSeconds : Option Nat

def strategyOutputFields : List String :=
  ["action", "explanation", "confidence", "re_evaluate_after_seconds"]

/-- An action, given by its value. -/
def actionField : PyJson → Option RecoveryAction
  | .str s => RecoveryAction.all.find? fun action => Str.ofString action.value == s
  | _ => none

/-- A text of 1 to 500 characters. -/
def explanationField : PyJson → Option Str
  | .str s => if 1 ≤ s.length ∧ s.length ≤ 500 then some s else none
  | _ => none

/-- A whole number of seconds within a day, or null. -/
def reEvaluateField : PyJson → Option (Option Nat)
  | .none => some none
  | .int n => if 0 ≤ n ∧ n ≤ 86400 then some (some n.toNat) else none
  | _ => none

section

variable [FloatOrder]

/-- A number from 0 to 1; in strict mode a truth value is not a number. -/
def confidenceField : PyJson → Option PyJson
  | .int n => if 0 ≤ n ∧ n ≤ 1 then some (.int n) else none
  | .float literal =>
      if FloatOrder.le (Str.ofString "0.0") literal ∧ FloatOrder.le literal (Str.ofString "1.0") then
        some (.float literal)
      else none
  | _ => none

/-- A field without a default. -/
def requiredField {α : Type} (fields : List (Str × PyJson)) (name : String)
    (check : PyJson → Option α) : Option α :=
  (fields.lookup (Str.ofString name)).bind check

/-- The schema in strict mode, without other fields. -/
def StrategyOutput.validate : PyJson → Option StrategyOutput
  | .dict fields =>
      if fields.all fun field => strategyOutputFields.any fun name => field.1 == Str.ofString name then do
        let action ← requiredField fields "action" actionField
        let explanation ← requiredField fields "explanation" explanationField
        let confidence ← requiredField fields "confidence" confidenceField
        let reEvaluate ← requiredField fields "re_evaluate_after_seconds" reEvaluateField
        return ⟨action, explanation, confidence, reEvaluate⟩
      else none
  | _ => none

end

/-! ### The response

The parts of the output are scanned in their order, and a refusal is told apart from
output that is invalid. An exception of Python's own is a third kind of error, which the
reading is shown not to meet.
-/

/-- The exceptions of a reading, each with its text. -/
inductive ResponseError
  | strategyInvalidOutput (text : String)
  | strategyRefusal (text : String)
  | builtin (error : PyException)
  deriving DecidableEq, Repr

/-- An operation of Python's, whose exception passes through. -/
def python {α : Type} (x : Except PyException α) : Except ResponseError α :=
  x.mapError .builtin

theorem python_ok {α : Type} {a : α} : python (.ok a) = .ok a := rfl

structure StrategyModelResult where
  output : StrategyOutput
  providerResponseId : Str
  model : Str
  inputTokens : Option Int
  outputTokens : Option Int
  totalTokens : Option Int
  latencyMs : Nat

/-- What generation takes of the answer. -/
def StrategyModelResult.answer (result : StrategyModelResult) : Arc.StrategyModelResult where
  action := result.output.action
  explanation := result.output.explanation.toString
  reEvaluateAfterSeconds := result.output.reEvaluateAfterSeconds
  model := result.model.toString

/-- The text of a value that is one. -/
def textOf : PyJson → Str
  | .str s => s
  | _ => []

/-- The number of a value that is one. -/
def numberOf : PyJson → Option Int
  | .int n => some n
  | _ => none

section

variable [FloatOrder]

/-- A text that is not empty and has at most 100 characters. -/
def isIdentifier (value : PyJson) : Except ResponseError Bool := do
  if value.isStr = false then return false
  else if value.truthy = false then return false
  else return decide ((← python value.len) ≤ 100)

/-- The texts of the content parts, added to those found so far. -/
def scanContent (outputTexts : List Str) : List PyJson → Except ResponseError (List Str)
  | [] => .ok outputTexts
  | content :: rest => do
      require (content.isDict = true)
        (.strategyInvalidOutput "Strategy provider content item was invalid")
      let contentType ← python (content.get "type")
      require (contentType.isText "refusal" = false)
        (.strategyRefusal "Strategy model refused the request")
      if contentType.isText "output_text" = true then do
        let textValue ← python (content.get "text")
        require (textValue.isStr = true)
          (.strategyInvalidOutput "Strategy provider text output was invalid")
        scanContent (outputTexts ++ [textOf textValue]) rest
      else scanContent outputTexts rest

/-- The texts of the output items, added to those found so far. -/
def scanOutput (outputTexts : List Str) : List PyJson → Except ResponseError (List Str)
  | [] => .ok outputTexts
  | item :: rest => do
      require (item.isDict = true)
        (.strategyInvalidOutput "Strategy provider output item was invalid")
      let contentItems ← python (item.get "content")
      if contentItems.isNone = true then scanOutput outputTexts rest
      else do
        require (contentItems.isList = true)
          (.strategyInvalidOutput "Strategy provider content was invalid")
        let outputTexts ← scanContent outputTexts (← python contentItems.iter)
        scanOutput outputTexts rest

/-- One count of the usage. -/
def parseUsageField (usage : PyJson) (field : String) : Except ResponseError (Option Int) := do
  let value ← python (usage.get field)
  let invalid := ResponseError.strategyInvalidOutput "Strategy provider usage metadata was invalid"
  if value.isNone = true then return none
  else do
    require (value.isInt = true) invalid
    require (value.isBool = false) invalid
    require ((← python value.isNegative) = false) invalid
    return numberOf value

def parseUsage (usage : PyJson) :
    Except ResponseError (Option Int × Option Int × Option Int) := do
  if usage.isNone = true then return (none, none, none)
  else do
    require (usage.isDict = true)
      (.strategyInvalidOutput "Strategy provider usage metadata was invalid")
    return (← parseUsageField usage "input_tokens", ← parseUsageField usage "output_tokens",
      ← parseUsageField usage "total_tokens")

variable [JsonParser]

/-- `StrategyOutput.model_validate_json`, whose failure is a `ValidationError`. -/
def modelValidateJson (text : Str) : Option StrategyOutput :=
  (JsonParser.parse text).bind StrategyOutput.validate

def parseResponse (responseData : PyJson) (latencyMs : Nat) :
    Except ResponseError StrategyModelResult := do
  let status ← python (responseData.get "status")
  require (status.isText "completed" = true)
    (.strategyInvalidOutput "Strategy provider response did not complete")
  let providerResponseId ← python (responseData.get "id")
  let model ← python (responseData.get "model")
  let metadata := ResponseError.strategyInvalidOutput "Strategy provider response metadata was invalid"
  require ((← isIdentifier providerResponseId) = true) metadata
  require ((← isIdentifier model) = true) metadata
  let outputItems ← python (responseData.get "output")
  require (outputItems.isList = true) (.strategyInvalidOutput "Strategy provider output was missing")
  let outputTexts ← scanOutput [] (← python outputItems.iter)
  require (outputTexts.length = 1)
    (.strategyInvalidOutput "Strategy provider returned an unexpected output count")
  let output ← requireSome (modelValidateJson (outputTexts.headD []))
    (.strategyInvalidOutput "Strategy provider output failed local validation")
  let (inputTokens, outputTokens, totalTokens) ← parseUsage (← python (responseData.get "usage"))
  return ⟨output, textOf providerResponseId, textOf model, inputTokens, outputTokens, totalTokens,
    latencyMs⟩

end

end OpenAI

end Arc
