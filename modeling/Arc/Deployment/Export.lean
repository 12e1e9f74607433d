/-
The export of the public demo bundle: its rows, and what is written of them.

A row holds a value of its type in every column.  The export takes the rows of the
selected cases, replaces what would tell a customer, a merchant or a provider, and writes
the rest as it is; `sanitizedValues` follows the source table by table.

What the selection holds is the input here: which cases and policies are exported, by
what the identifiers of merchants, cases, payments and subscriptions are replaced, and
the values that must not be exported.
-/
import Arc.Deployment.PublicDemoBundle
import Arc.Text.PySorted
import Mathlib.Algebra.Group.Int.Defs

namespace Arc

open Text BundleException

variable [Interpreter]

/-! ### Rows -/

/-- A value of a column that is not null. -/
def ColumnType.Holds : ColumnType → PyObject → Prop
  | .uuid _, value => ∃ id, value = .uuid id
  | .dateTime, value => ∃ instant, value = .dateTime instant
  | .enum, value => ∃ member, value = .enum member
  | .string, value => ∃ s, value = .str s ∧ Str.Scalar s
  | .integer bits, value => ∃ n : Int, value = .int n ∧ -2 ^ (bits - 1) ≤ n ∧ n < 2 ^ (bits - 1)
  | .boolean, value => ∃ b, value = .bool b
  | .float, value =>
    ∃ literal, value = .float literal ∧ (PyJson.float literal).Storable Interpreter.floatRepr
  | .json, value => ∃ json : PyJson, value = .ofJson json ∧ json.Storable Interpreter.floatRepr
  | .jsonObject, value =>
    ∃ fields, value = .ofJson (.dict fields) ∧
      (PyJson.dict fields).Storable Interpreter.floatRepr

/-- A value of a column. -/
def Column.Holds (column : Column) (value : PyObject) : Prop :=
  column.nullable = true ∧ value = .none ∨ column.type.Holds value

/-- A row of a table. -/
structure Row (entity : EntityName) where
  cell : String → PyObject
  typed : ∀ column ∈ entity.fields, column.Holds (cell column.key)

/-- `row.id` and the other identifiers of a row. -/
def Row.uuid {entity : EntityName} (row : Row entity) (key : String) : Except PyException UUID :=
  match row.cell key with
  | .uuid id => .ok id
  | _ => .error .attributeError

/-- The rows of every table. -/
abbrev SourceRows := (entity : EntityName) → List (Row entity)

/-! ### What is exported of a row

Most columns are written as they are. What names a merchant, a customer or an object of
the provider is replaced or dropped, and every fingerprint is replaced by a hash of the
row's own identifier.
-/

/-- What texts are replaced by; no replacement has a surrogate. -/
structure Replacements where
  pairs : List (Str × Str)
  scalar : ∀ pair ∈ pairs, Str.Scalar pair.2

/-- `_EvidenceSelection` -/
structure EvidenceSelection where
  caseIds : List UUID
  policyIds : List UUID
  sensitiveValues : List Str
  merchantReplacements : Replacements
  caseReferenceReplacements : Replacements
  paymentReplacements : Replacements
  subscriptionReplacements : Replacements

/-- `replacements.get(value, default)` -/
def replacedOr (replacements : Replacements) (value fallback : PyObject) : PyObject :=
  match value with
  | .str s =>
    match replacements.pairs.lookup s with
    | some replacement => .str replacement
    | none => fallback
  | _ => fallback

/-- `replacements[value]` -/
def replaced (replacements : Replacements) (value : PyObject) : Except PyException PyObject :=
  match value with
  | .str s => (requireSome (replacements.pairs.lookup s) .keyError).map .str
  | _ => .error .keyError

/-- `_synthetic_hash` -/
def syntheticHash (name : String) (id : UUID) : PyObject :=
  .text (Interpreter.sha256
    (bundleVersion ++ ":" ++ name ++ ":" ++ Interpreter.uuidText id).toUTF8.toList)

/-- `{id.hex[:12]}` -/
def hexPrefix (id : UUID) : String := (Interpreter.uuidHex id).take 12 |>.toString

mutual

/-- `_json_value` -/
def jsonValue : PyObject → PyJson
  | .enum member => .str (Str.ofString member)
  | .uuid id => .str (Str.ofString (Interpreter.uuidText id))
  | .dateTime instant => .str (Str.ofString (Interpreter.dateTimeText instant))
  | .mapping fields => .dict (jsonFields fields)
  | .list items => .list (jsonItems items)
  | .none => .none
  | .bool b => .bool b
  | .int n => .int n
  | .float literal => .float literal
  | .str s => .str s

def jsonItems : List PyObject → List PyJson
  | [] => []
  | item :: items => jsonValue item :: jsonItems items

def jsonFields : List (Str × PyObject) → List (Str × PyJson)
  | [] => []
  | (key, value) :: fields => (key, jsonValue value) :: jsonFields fields

end

/-- `isinstance(value, (str, bool, int, float, type(None)))` -/
def PyObject.isScalar : PyObject → Bool
  | .str _ | .bool _ | .int _ | .float _ | .none => true
  | _ => false

/-- The keys of event data that may be exported, by the type of the event. -/
def allowedEventKeys (eventType : PyObject) : List String :=
  match eventType with
  | .str s =>
    if s = Str.ofString "DEMO_SCENARIO_SEEDED" ∨ s = Str.ofString "OPENAI_EVIDENCE_CASE_CREATED" then
      ["scenario_key", "synthetic"]
    else if s = Str.ofString "ELIGIBILITY_EVALUATED" then
      ["eligibility_decision", "eligibility_reason"]
    else if s = Str.ofString "FAILURE_DIAGNOSED" ∨ s = Str.ofString "FAILURE_REDIAGNOSED" then
      ["failure_category", "recovery_disposition", "diagnosis_reason"]
    else []
  | _ => []

/-- `_safe_case_event_data` -/
def safeCaseEventData (eventType eventData : PyObject) : Except PyException PyObject :=
  match eventData with
  | .mapping fields =>
    .ok (.ofJson (.dict ((allowedEventKeys eventType).filterMap fun key =>
      match fields.lookup (Str.ofString key) with
      | some value => if value.isScalar then some (Str.ofString key, jsonValue value) else none
      | none => none)))
  | _ => .error .typeError

/-- `values[key] = value` -/
def assign (values : String → PyObject) (key : String) (value : PyObject) : String → PyObject :=
  fun k => if k = key then value else values k

/-- The values of a row that are exported: `values` of `_serialize_record` before it is written. -/
def sanitizedValues (selection : EvidenceSelection) :
    (entity : EntityName) → Row entity → Except PyException (String → PyObject)
  | .merchantPolicies, row => do
    let merchant ← replaced selection.merchantReplacements (row.cell "merchant_id")
    return assign row.cell "merchant_id" merchant
  | .paymentCases, row => do
    let reference := row.cell "case_reference"
    let values := assign row.cell "case_reference"
      (replacedOr selection.caseReferenceReplacements reference reference)
    let merchant ← replaced selection.merchantReplacements (values "merchant_id")
    let values := assign values "merchant_id" merchant
    let values := assign values "payment_id"
      (replacedOr selection.paymentReplacements (values "payment_id") .none)
    let values := assign values "subscription_id"
      (replacedOr selection.subscriptionReplacements (values "subscription_id") .none)
    let values := assign values "customer_id" .none
    let values := assign values "error_description" .none
    if (values "assessment_fingerprint").isNone then return values
    let id ← row.uuid "id"
    return assign values "assessment_fingerprint" (syntheticHash "assessment" id)
  | .caseEvents, row => do
    let data ← safeCaseEventData (row.cell "event_type") (row.cell "event_data")
    return assign row.cell "event_data" data
  | .strategyProposals, row => do
    let id ← row.uuid "id"
    let values := assign row.cell "assessment_fingerprint" (syntheticHash "strategy-assessment" id)
    let values := assign values "strategy_input_fingerprint" (syntheticHash "strategy-input" id)
    if (values "provider_response_id").isNone then return values
    return assign values "provider_response_id"
      (.text ("public_demo_model_response_" ++ hexPrefix id))
  | .policyDecisions, row => do
    let id ← row.uuid "id"
    let values := assign row.cell "strategy_input_fingerprint"
      (syntheticHash "policy-strategy-input" id)
    let values := assign values "policy_fingerprint" (syntheticHash "policy" id)
    return assign values "authorization_input_fingerprint" (syntheticHash "authorization-input" id)
  | .approvalRequests, row =>
    let values := assign row.cell "decided_by"
      (if (row.cell "decided_at").isNone then .none else .text "public_demo_operator")
    .ok (assign values "decision_note" .none)
  | .recoveryActions, row => do
    let id ← row.uuid "id"
    let values := assign row.cell "idempotency_key" (syntheticHash "idempotency" id)
    let values := assign values "request_fingerprint" (syntheticHash "request" id)
    let values := assign values "external_reference_id"
      (if (values "external_reference_id").isNone then .none
        else .text ("public_demo_payment_link_" ++ hexPrefix id))
    let values := assign values "external_reference"
      (if (values "external_reference").isNone then .none
        else .text ("public_demo_ref_" ++ hexPrefix id))
    return assign values "external_url" .none
  | .recoveryOutcomeObservations, row => do
    let values := row.cell
    let payment ← if (values "provider_payment_id").isNone then pure .none else do
      let action ← row.uuid "recovery_action_id"
      pure (.text ("public_demo_provider_payment_" ++ hexPrefix action))
    let values := assign values "provider_payment_id" payment
    let id ← row.uuid "id"
    return assign values "evidence_fingerprint" (syntheticHash "outcome-evidence" id)
  | .recoveryAttributions, row => do
    let suffix := hexPrefix (← row.uuid "recovery_action_id")
    let values := assign row.cell "provider_payment_link_id"
      (.text ("public_demo_payment_link_" ++ suffix))
    let values := assign values "provider_reference_id" (.text ("public_demo_ref_" ++ suffix))
    let values := assign values "provider_payment_id"
      (.text ("public_demo_provider_payment_" ++ suffix))
    let id ← row.uuid "id"
    return assign values "evidence_fingerprint" (syntheticHash "attribution-evidence" id)

/-- The fields that are written of the values. -/
def recordFields (entity : EntityName) (values : String → PyObject) : BundleRecord :=
  entity.fields.map fun column => (Str.ofString column.key, jsonValue (values column.key))

/-- `_serialize_record` -/
def serializeRecord (selection : EvidenceSelection) (entity : EntityName) (row : Row entity) :
    Except PyException BundleRecord := do
  let values ← sanitizedValues selection entity row
  return recordFields entity values

/-! ### What is exported of a database -/

/-- Whether a table has a column. -/
def EntityName.hasColumn (entity : EntityName) (key : String) : Bool :=
  entity.fields.any fun column => column.key == key

/-- The rows a statement selects. -/
def selectRows (selection : EvidenceSelection) (rows : SourceRows) (entity : EntityName) :
    List (Row entity) :=
  (rows entity).filter fun row =>
    if entity = .merchantPolicies then (row.uuid "id").toOption.any (· ∈ selection.policyIds)
    else if entity.hasColumn "case_id" then
      (row.uuid "case_id").toOption.any (· ∈ selection.caseIds)
    else (row.uuid "id").toOption.any (· ∈ selection.caseIds)

/-- `str(item["id"])`; the identifier of an exported record is a text. -/
def recordId (record : BundleRecord) : Str :=
  match PyJson.field record "id" with
  | .str s => s
  | _ => []

/-- The records of a table, by their identifiers. -/
def serializeTable (selection : EvidenceSelection) (rows : SourceRows) (entity : EntityName) :
    Except PyException (Str × List BundleRecord) := do
  let records ← (selectRows selection rows entity).mapM (serializeRecord selection entity)
  return (Str.ofString entity.value, records.insertionSort fun a b => recordId a ≤ recordId b)

/-- `_serialize_entities` -/
def serializeEntities (selection : EvidenceSelection) (rows : SourceRows) :
    Except PyException BundleEntities :=
  EntityName.all.mapM (serializeTable selection rows)

/-- What the checksum of an export is about. -/
def exportPayload (entities : BundleEntities) : List (Str × PyJson) :=
  [(Str.ofString "bundle_version", .str (Str.ofString bundleVersion)),
    (Str.ofString "case_count", .int 5),
    (Str.ofString "entities", entities.json)]

/-- The bundle of the entities, with its checksum. -/
def bundleJson (entities : BundleEntities) (checksum : Str) : PyJson :=
  .dict (exportPayload entities ++ [(Str.ofString "checksum_sha256", .str checksum)])

/-- The text of a bundle. -/
def bundleText (bundle : PyJson) : Except BundleException Str := do
  let text ← (PyJson.dumpsAscii Recursion.nesting Interpreter.floatRepr (some 2) bundle).mapError
    BundleException.ofJson
  return text ++ [0x0A]

/-- `export_public_demo_bundle` of a selection: the bytes of the file, and the checksum. -/
def exportPublicDemoBundle (selection : EvidenceSelection) (rows : SourceRows) :
    Except BundleException (List UInt8 × Str) := do
  let entities ← (serializeEntities selection rows).mapError python
  validateSanitizedEntities entities selection.sensitiveValues
  let checksum ← bundleChecksum (.dict (exportPayload entities))
  let text ← bundleText (bundleJson entities checksum)
  let bytes ← requireSome (encodeUtf8 text) (python .unicodeEncodeError)
  return (bytes, checksum)

end Arc
