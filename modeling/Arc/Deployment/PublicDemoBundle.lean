/-
The public demo bundle: the check of what is exported, and the import.

`validateSanitizedEntities` looks at the records as one JSON text in ASCII.  `loadBundle`
is everything that is asked of a file before the database is, in the order of the source,
and `importPublicDemoBundle` is the import into a target: one transaction, which leaves
the target as it was where anything raises.

The database is what it answers in one import: whether each statement succeeds, and what
a flush leaves of the records of a table.  The tables before it in that import are those
the same bundle filled.
-/
import Arc.Deployment.Entities
import Arc.Deployment.Values
import Arc.Text.PyRead
import Arc.Text.PyValue
import Mathlib.Data.List.Infix

namespace Arc

open Text

/-- What the bundle functions raise: the three errors of the module, and the others. -/
inductive BundleException
  | publicDemoBundleError (message : String)
  | publicDemoImportError (message : String)
  | publicDemoAlreadyImportedError (message : String)
  | sqlAlchemyError
  | recursionError
  | python (error : PyException)
  deriving DecidableEq

namespace BundleException

def ofJson : JsonError → BundleException
  | .jsonDecodeError => python .jsonDecodeError
  | .valueError => python .valueError
  | .recursionError => recursionError

/-- It is one of the errors the module defines. -/
def isBundleError : BundleException → Bool
  | publicDemoBundleError _ | publicDemoImportError _ | publicDemoAlreadyImportedError _ => true
  | sqlAlchemyError | recursionError | python _ => false

end BundleException

open BundleException

/-- One exported row: its fields. -/
abbrev BundleRecord := List (Str × PyJson)

/-- The exported tables by their names. -/
abbrev BundleEntities := List (Str × List BundleRecord)

namespace BundleEntities

/-- The entities as `json` sees them. -/
def json (entities : BundleEntities) : PyJson :=
  .dict (entities.map fun entity => (entity.1, .list (entity.2.map .dict)))

/-- `entities[name]` -/
def records (entities : BundleEntities) (entity : EntityName) : List BundleRecord :=
  (entities.lookup (Str.ofString entity.value)).getD []

end BundleEntities

/-- `_HASH_RE.fullmatch` -/
def isHash (s : Str) : Bool :=
  s.length == 64 && s.all fun c => PyJson.isDigit c || (0x61 ≤ c.val && c.val ≤ 0x66)

/-! ### The check of the exported records -/

/-- `\w`, of the ASCII characters. -/
def isWordChar (c : CodePoint) : Bool :=
  PyJson.isDigit c || (0x41 ≤ c.val && c.val ≤ 0x5A) || (0x61 ≤ c.val && c.val ≤ 0x7A) ||
    c.val == 0x5F

/-- `re.search` for `\bsk-[A-Za-z0-9_-]{8,}`; `word` says whether a word runs up to here. -/
def hasCredential (word : Bool) : Str → Bool
  | [] => false
  | c :: rest =>
    (!word && (Str.ofString "sk-").isPrefixOf (c :: rest) &&
      8 ≤ ((rest.drop 2).takeWhile fun c => isWordChar c || c.val == 0x2D).length) ||
    hasCredential (isWordChar c) rest

/-- The values of these fields are hashes. -/
def isHashKey (key : Str) : Bool :=
  (Str.ofString "fingerprint").isSuffixOf key || key == Str.ofString "idempotency_key"

/-- Whether `str(value)` is a hash; of what is no text, only an integer can be. -/
def isHashValue : PyJson → Bool
  | .none => true
  | .str s => isHash s
  | .int n => isHash (Str.ofString (toString n))
  | _ => false

/-- `"…" in rendered` -/
def contains (rendered : Str) (text : String) : Prop := Str.ofString text <:+: rendered

/-- The text begins somewhere. -/
theorem any_tails_iff {rendered : Str} {text : String} :
    rendered.tails.any (fun rest => (Str.ofString text).isPrefixOf rest) = true ↔
      contains rendered text := by
  simp only [List.any_eq_true, List.mem_tails, List.isPrefixOf_iff_prefix, contains,
    List.infix_iff_prefix_suffix]
  exact exists_congr fun _ => and_comm

instance (rendered : Str) (text : String) : Decidable (contains rendered text) :=
  decidable_of_iff _ any_tails_iff

def checkExternalUrl (record : BundleRecord) : Except BundleException Unit := do
  let url ← requireSome (record.lookup (Str.ofString "external_url")) (python .keyError)
  require (url.isNone = true) (publicDemoBundleError "Payment Link URL remains in export")

def checkHashes (entity : Str × List BundleRecord) : Except BundleException Unit :=
  forM entity.2 fun record => forM record fun field =>
    require (isHashKey field.1 = true → isHashValue field.2 = true)
      (publicDemoBundleError ("Invalid sanitized hash in " ++ entity.1.toString))

variable [Interpreter]

def validateSanitizedEntities (entities : BundleEntities) (sensitiveValues : List Str) :
    Except BundleException Unit := do
  let rendered ← (PyJson.dumpsAscii Recursion.nesting Interpreter.floatRepr none
    entities.json).mapError BundleException.ofJson
  require (∀ value ∈ sensitiveValues, ¬ (value ≠ [] ∧ value <:+: rendered))
    (publicDemoBundleError "Sensitive source identifiers remain in export")
  require (¬ (contains rendered "https://rzp.io/" ∨ contains rendered "Authorization"))
    (publicDemoBundleError "Provider URL or credential material remains")
  require (hasCredential false rendered = false)
    (publicDemoBundleError "Credential-shaped value remains in export")
  require (¬ (contains rendered "\"raw_payload\"" ∨ contains rendered "\"raw_prompt\""))
    (publicDemoBundleError "Raw provider/model material remains in export")
  let actions ← requireSome (entities.lookup (Str.ofString "recovery_actions")) (python .keyError)
  forM actions checkExternalUrl
  forM entities checkHashes

/-! ### Reading a bundle -/

/-- The line ends of a file read as text. -/
def universalNewlines : Str → Str
  | [] => []
  | [c] => [if c.val = 0x0D then 0x0A else c]
  | c :: d :: rest =>
    if c.val = 0x0D ∧ d.val = 0x0A then 0x0A :: universalNewlines rest
    else (if c.val = 0x0D then 0x0A else c) :: universalNewlines (d :: rest)

/-- `path.read_text(encoding="utf-8")` of the bytes of a file; the decoder is the strict one. -/
def readText (bytes : List UInt8) : Option Str :=
  ((decodeUtf8 bytes).filter fun text => Str.Scalar text).map universalNewlines

/-- The value a file holds; `OSError` and `JSONDecodeError` are told as the module's own error. -/
def readBundle (file : Option (List UInt8)) : Except BundleException PyJson := do
  let bytes ← requireSome file (publicDemoImportError "Public demo bundle is unreadable")
  let text ← requireSome (readText bytes) (python .unicodeDecodeError)
  match PyJson.loadsText Recursion.nesting text with
  | .ok bundle => .ok bundle
  | .error .jsonDecodeError => .error (publicDemoImportError "Public demo bundle is unreadable")
  | .error error => .error (BundleException.ofJson error)

/-- `set(fields) == {…}` -/
def hasKeys (fields : List (Str × PyJson)) (names : List String) : Bool :=
  (names.all fun name => fields.any fun f => f.1 == Str.ofString name) &&
    fields.all fun f => names.any fun name => f.1 == Str.ofString name

/-- `value == n` -/
def equalsInt (value : PyJson) (n : Int) : Bool :=
  match value with
  | .bool b => (if b then 1 else 0) == n
  | .int m => m == n
  | .float literal => Interpreter.floatIs literal n
  | _ => false

/-- `_checksum`; a surrogate cannot be encoded. -/
def bundleChecksum (payload : PyJson) : Except BundleException Str := do
  let canonical ← requireSome (encodeUtf8 (payload.dumps Interpreter.floatRepr))
    (python .unicodeEncodeError)
  return Str.ofString (Interpreter.sha256 canonical)

def bundleVersion : String := "arc-public-demo-v1"

/-- The names of the envelope. -/
def envelopeKeys : List String := ["bundle_version", "case_count", "entities", "checksum_sha256"]

/-- The fields of a bundle whose envelope, version, count and checksum text pass. -/
def checkEnvelope (bundle : PyJson) : Except BundleException (List (Str × PyJson) × Str) :=
  match bundle with
  | .dict fields => do
    require (hasKeys fields envelopeKeys = true)
      (publicDemoImportError "Public demo bundle envelope is invalid")
    require ((PyJson.field fields "bundle_version").isText bundleVersion = true ∧
        equalsInt (PyJson.field fields "case_count") 5 = true)
      (publicDemoImportError "Public demo bundle version or count is invalid")
    match PyJson.field fields "checksum_sha256" with
    | .str checksum => do
      require (isHash checksum = true)
        (publicDemoImportError "Public demo bundle checksum is invalid")
      return (fields, checksum)
    | _ => .error (publicDemoImportError "Public demo bundle checksum is invalid")
  | _ => .error (publicDemoImportError "Public demo bundle envelope is invalid")

/-- What the checksum is about. -/
def payloadOf (fields : List (Str × PyJson)) : PyJson :=
  .dict (fields.filter fun f => f.1 ≠ Str.ofString "checksum_sha256")

def checkRecord (entity : EntityName) (record : PyJson) : Except BundleException Unit :=
  match record with
  | .dict fields =>
    require (hasKeys fields (entity.fields.map Column.key) = true)
      (publicDemoImportError "Public demo entity record is invalid")
  | _ => .error (publicDemoImportError "Public demo entity record is invalid")

def checkCollection (entities : List (Str × PyJson)) (entity : EntityName) :
    Except BundleException Unit :=
  match PyJson.field entities entity.value with
  | .list records => forM records (checkRecord entity)
  | _ => .error (publicDemoImportError "Public demo entity collection is invalid")

/-- The records of a collection that has passed its check. -/
def recordsOf : PyJson → List BundleRecord
  | .list records => records.filterMap fun record =>
    match record with
    | .dict fields => some fields
    | _ => none
  | _ => []

def checkEntities (entities : PyJson) : Except BundleException BundleEntities :=
  match entities with
  | .dict fields => do
    require (hasKeys fields (EntityName.all.map EntityName.value) = true)
      (publicDemoImportError "Public demo bundle entities are invalid")
    forM EntityName.all (checkCollection fields)
    return fields.map fun f => (f.1, recordsOf ((fields.lookup f.1).getD .none))
  | _ => .error (publicDemoImportError "Public demo bundle entities are invalid")

/-- What the import uses of a bundle that has passed its checks. -/
structure Bundle where
  version : PyJson
  caseCount : PyJson
  checksum : Str
  entities : BundleEntities

def loadBundle (file : Option (List UInt8)) : Except BundleException Bundle := do
  let bundle ← readBundle file
  let (fields, checksum) ← checkEnvelope bundle
  let actual ← bundleChecksum (payloadOf fields)
  require (actual = checksum)
    (publicDemoImportError "Public demo bundle checksum does not match")
  let entities ← checkEntities (PyJson.field fields "entities")
  validateSanitizedEntities entities []
  return ⟨PyJson.field fields "bundle_version", PyJson.field fields "case_count", checksum,
    entities⟩

/-! ### Decoding a record

A field is decoded by the type of its column. What JSON has itself is passed to the
database as it is, and only identifiers and instants are read from texts.
-/

/-- `UUID(value)` -/
def toUUID (value : PyJson) : Except PyException UUID :=
  match value with
  | .none => .error .typeError
  | .str s => requireSome (Interpreter.parseUUID s) .valueError
  | _ => .error .attributeError

/-- `datetime.fromisoformat(value)` -/
def toDateTime (value : PyJson) : Except PyException DateTime :=
  match value with
  | .str s => requireSome (Interpreter.parseDateTime s) .valueError
  | _ => .error .typeError

/-- A field of `_decode_record`. -/
def decodeColumn (type : ColumnType) (value : PyJson) : Except PyException PyObject :=
  match value, type with
  | .none, _ => .ok .none
  | value, .dateTime => (toDateTime value).map .dateTime
  | value, .uuid _ => (toUUID value).map .uuid
  | value, _ => .ok (.ofJson value)

/-- The fields of a decoded record. -/
abbrev DecodedRecord := List (String × PyObject)

def decodeRecord (entity : EntityName) (record : BundleRecord) :
    Except PyException DecodedRecord :=
  entity.fields.mapM fun column => do
    let value ← decodeColumn column.type (PyJson.field record column.key)
    return (column.key, value)

/-! ### The import

The guard compares identifiers, and it alone decides between the two refusals of an
occupied target. Everything after it runs in the same transaction, so the target is
filled as a whole or not at all.
-/

/-- The tables of the target database, and how many webhook events it holds. -/
structure Target where
  rows : EntityName → List DecodedRecord
  webhookEvents : Nat

/-- What the database does in one import. -/
structure Database where
  /-- The tables can be counted. -/
  counts : Bool
  /-- The identifiers of a table can be read. -/
  selectsIds : EntityName → Bool
  /-- What a flush leaves of the added records; nothing where it raises. -/
  flush : EntityName → List DecodedRecord → Option (List DecodedRecord)
  /-- The transaction can be committed. -/
  commits : Bool

/-- The identifiers of stored rows. -/
def storedIds (rows : List DecodedRecord) : List UUID :=
  rows.filterMap fun row =>
    match row.lookup "id" with
    | some (.uuid id) => some id
    | _ => none

/-- One turn of the comparison with the target: whether the table holds the same identifiers. -/
def compareIds (db : Database) (target : Target) (entities : BundleEntities) (entity : EntityName) :
    Except BundleException Bool := do
  let expected ← ((entities.records entity).mapM fun record =>
    toUUID (PyJson.field record "id")).mapError python
  require (db.selectsIds entity = true) sqlAlchemyError
  let actual := storedIds (target.rows entity)
  return decide (actual ⊆ expected ∧ expected ⊆ actual)

def Target.isEmpty (target : Target) : Prop :=
  (∀ entity ∈ EntityName.all, (target.rows entity).isEmpty = true) ∧ target.webhookEvents = 0

instance (target : Target) : Decidable target.isEmpty := inferInstanceAs (Decidable (_ ∧ _))

def guardImportTarget (db : Database) (target : Target) (entities : BundleEntities) :
    Except BundleException Unit := do
  require (db.counts = true) sqlAlchemyError
  if target.isEmpty then return
  let same ← EntityName.all.mapM (compareIds db target entities)
  require (¬ (target.webhookEvents = 0 ∧ same.all id = true))
    (publicDemoAlreadyImportedError "Exact public demo bundle is already imported")
  .error (publicDemoImportError "Target database contains unexpected operational data")

/-- One turn of the import: the records of a table are decoded, added and flushed. -/
def importEntity (db : Database) (entities : BundleEntities) (entity : EntityName) :
    Except BundleException (EntityName × List DecodedRecord) := do
  let decoded ← ((entities.records entity).mapM (decodeRecord entity)).mapError python
  let stored ← requireSome (db.flush entity decoded) sqlAlchemyError
  return (entity, stored)

/-- The target with the rows of an import. -/
def Target.fill (target : Target) (tables : List (EntityName × List DecodedRecord)) : Target :=
  { target with rows := fun entity => target.rows entity ++ (tables.lookup entity).getD [] }

/-- The body of the transaction. -/
def importRecords (db : Database) (entities : BundleEntities) (target : Target) :
    Except BundleException Target := do
  guardImportTarget db target entities
  let tables ← EntityName.all.mapM (importEntity db entities)
  require (db.commits = true) sqlAlchemyError
  return target.fill tables

/-- The `except` clauses around the transaction. -/
def failedSafely : BundleException → BundleException
  | sqlAlchemyError => publicDemoImportError "Public demo bundle import failed safely"
  | python error =>
    if error = .typeError ∨ error.isValueError = true then
      publicDemoImportError "Public demo bundle import failed safely"
    else python error
  | error => error

/-- What an import answers. -/
structure PublicDemoBundleResult where
  bundleVersion : PyJson
  caseCount : PyJson
  checksumSha256 : Str

/-- The import of a file, with the target after it. -/
def importPublicDemoBundle (db : Database) (file : Option (List UInt8)) (target : Target) :
    Except BundleException PublicDemoBundleResult × Target :=
  match loadBundle file with
  | .error error => (.error error, target)
  | .ok bundle =>
    match importRecords db bundle.entities target with
    | .error error => (.error (failedSafely error), target)
    | .ok target => (.ok ⟨bundle.version, bundle.caseCount, bundle.checksum⟩, target)

end Arc
