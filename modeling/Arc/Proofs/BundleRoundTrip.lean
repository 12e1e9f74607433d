/-
What is exported is what is imported.

A value is written by what it is and read by the column it is of, so the two have to agree
column by column.  `sanitizedValues_holds` says that the export leaves in every column a
value of the column; `decodeColumn_jsonValue` that such a value comes back, an enumeration
member as its text and a JSON value with its keys in order.  Identifiers are never
replaced (`sanitizedValues_uuid`), so a reference leads where it led.

The texts of identifiers and instants are the interpreter's; that they are read back is
assumed where it is needed.
-/
import Arc.Deployment.Export
import Arc.Proofs.BundleImport
import Mathlib.Data.List.Perm.Basic

namespace Arc

open Text BundleException

section

variable [Interpreter]

/-! ### Values of a column

A value is written by what it is and read by the type of its column, and the two agree
on values of that column. `SameValue` allows for the order of the keys, which the file
does not keep, and for nothing else.
-/

/-- A JSON value is written as itself. -/
theorem jsonValue_ofJson (json : PyJson) : jsonValue (.ofJson json) = json := by
  have hitems : ∀ items : List PyJson, (∀ item ∈ items, jsonValue (.ofJson item) = item) →
      jsonItems (PyObject.ofJsonItems items) = items := by
    intro items
    induction items with
    | nil => exact fun _ => rfl
    | cons item items ih =>
        intro h
        rw [List.forall_mem_cons] at h
        rw [PyObject.ofJsonItems, jsonItems, h.1, ih h.2]
  have hfields : ∀ fields : List (Str × PyJson), (∀ f ∈ fields, jsonValue (.ofJson f.2) = f.2) →
      jsonFields (PyObject.ofJsonFields fields) = fields := by
    intro fields
    induction fields with
    | nil => exact fun _ => rfl
    | cons f fields ih =>
        intro h
        rw [List.forall_mem_cons] at h
        rw [PyObject.ofJsonFields, jsonFields, h.1, ih h.2]
  induction json using PyJson.nested_induction with
  | null | truth b | integer n | decimal literal | text s => rfl
  | items items ih => exact congrArg PyJson.list (hitems items ih)
  | fields fields ih => exact congrArg PyJson.dict (hfields fields ih)

/-- What a decoded value has to do with the value that was exported. -/
inductive SameValue : PyObject → PyObject → Prop
  | same (value : PyObject) : SameValue value value
  /-- An enumeration member is stored by its value. -/
  | member (value : String) : SameValue (.enum value) (.text value)
  /-- A JSON value, up to the order of the keys. -/
  | json {a b : PyJson} (h : a.sortKeys = b.sortKeys) : SameValue (.ofJson a) (.ofJson b)

/-- A JSON value is the same with its keys in order. -/
theorem sameValue_sortKeys (json : PyJson) : SameValue (.ofJson json) (.ofJson json.sortKeys) :=
  .json (PyJson.sortKeys_sortKeys json).symm

/-- The texts of identifiers are read back. -/
abbrev UuidTexts : Prop :=
  ∀ id : UUID, Interpreter.parseUUID (Str.ofString (Interpreter.uuidText id)) = some id

/-- The texts of instants are read back. -/
abbrev DateTimeTexts : Prop :=
  ∀ instant : DateTime,
    Interpreter.parseDateTime (Str.ofString (Interpreter.dateTimeText instant)) = some instant

/-- The width of an integer column. -/
def ColumnType.bits : ColumnType → Nat
  | integer bits => bits
  | _ => 0

omit [Interpreter] in
theorem bits_le_of_mem_fields (entity : EntityName) :
    ∀ column ∈ entity.fields, column.type.bits ≤ 64 := by
  cases entity <;> decide +kernel

omit [Interpreter] in
/-- An integer of a column has few digits. -/
theorem overlong_of_bits {bits : Nat} (hbits : bits ≤ 64) {n : Int} (hlow : -2 ^ (bits - 1) ≤ n)
    (hhigh : n < 2 ^ (bits - 1)) : PyJson.overlong n = false := by
  have hnat : 2 ^ (bits - 1) ≤ 2 ^ 63 := Nat.pow_le_pow_right (by decide) (by omega)
  have hpow : (2 : Int) ^ (bits - 1) ≤ 2 ^ 63 := by exact_mod_cast hnat
  have hlength : (Nat.toDigits 10 n.natAbs).length ≤ 20 :=
    (Nat.length_toDigits_le_iff (by decide) (by decide)).mpr (by omega)
  rw [PyJson.overlong, decide_eq_false_iff_not, PyJson.maxIntDigits]
  omega

theorem ColumnType.Holds.storable {type : ColumnType} {value : PyObject} (hbits : type.bits ≤ 64)
    (h : type.Holds value) : (jsonValue value).Storable Interpreter.floatRepr := by
  cases type with
  | uuid references =>
      obtain ⟨id, rfl⟩ := h
      exact Str.ofString_scalar _
  | dateTime =>
      obtain ⟨instant, rfl⟩ := h
      exact Str.ofString_scalar _
  | enum =>
      obtain ⟨member, rfl⟩ := h
      exact Str.ofString_scalar _
  | string =>
      obtain ⟨s, rfl, hs⟩ := h
      exact hs
  | integer bits =>
      obtain ⟨n, rfl, hlow, hhigh⟩ := h
      exact overlong_of_bits hbits hlow hhigh
  | boolean =>
      obtain ⟨b, rfl⟩ := h
      trivial
  | float =>
      obtain ⟨literal, rfl, hliteral⟩ := h
      exact hliteral
  | json =>
      obtain ⟨json, rfl, hjson⟩ := h
      rwa [jsonValue_ofJson]
  | jsonObject =>
      obtain ⟨fields, rfl, hfields⟩ := h
      rwa [jsonValue_ofJson]

/-- A value of a column can be stored. -/
theorem Column.Holds.storable {column : Column} {value : PyObject} (hbits : column.type.bits ≤ 64)
    (h : column.Holds value) : (jsonValue value).Storable Interpreter.floatRepr := by
  rcases h with ⟨-, rfl⟩ | h
  · trivial
  · exact ColumnType.Holds.storable hbits h

/-- **A value of a column is read back by it.** -/
theorem decodeColumn_jsonValue (huuid : UuidTexts) (hdate : DateTimeTexts) {column : Column}
    {value : PyObject} (h : column.Holds value) :
    ∃ decoded, decodeColumn column.type (jsonValue value).sortKeys = .ok decoded ∧
      SameValue value decoded := by
  have hjson : ∀ {type : ColumnType} {json : PyJson},
      type = .json ∨ type = .jsonObject → decodeColumn type json = .ok (.ofJson json) := by
    rintro type json (rfl | rfl) <;> cases json <;> rfl
  obtain ⟨key, type, nullable⟩ := column
  rcases h with ⟨-, rfl⟩ | h
  · exact ⟨.none, rfl, .same _⟩
  dsimp only at h ⊢
  cases type with
  | uuid references =>
      obtain ⟨id, rfl⟩ := h
      refine ⟨.uuid id, ?_, .same _⟩
      show (toUUID (.str (Str.ofString (Interpreter.uuidText id)))).map PyObject.uuid = _
      rw [toUUID, huuid id]
      rfl
  | dateTime =>
      obtain ⟨instant, rfl⟩ := h
      refine ⟨.dateTime instant, ?_, .same _⟩
      show (toDateTime (.str (Str.ofString (Interpreter.dateTimeText instant)))).map
        PyObject.dateTime = _
      rw [toDateTime, hdate instant]
      rfl
  | enum =>
      obtain ⟨member, rfl⟩ := h
      exact ⟨.text member, rfl, .member member⟩
  | string =>
      obtain ⟨s, rfl, -⟩ := h
      exact ⟨.str s, rfl, .same _⟩
  | integer bits =>
      obtain ⟨n, rfl, -⟩ := h
      exact ⟨.int n, rfl, .same _⟩
  | boolean =>
      obtain ⟨b, rfl⟩ := h
      exact ⟨.bool b, rfl, .same _⟩
  | float =>
      obtain ⟨literal, rfl, -⟩ := h
      exact ⟨.float literal, rfl, .same _⟩
  | json =>
      obtain ⟨json, rfl, -⟩ := h
      rw [jsonValue_ofJson, hjson (.inl rfl)]
      exact ⟨_, rfl, sameValue_sortKeys json⟩
  | jsonObject =>
      obtain ⟨fields, rfl, -⟩ := h
      rw [jsonValue_ofJson, hjson (.inr rfl)]
      exact ⟨_, rfl, sameValue_sortKeys _⟩

/-! ### What the export leaves of a row

The export replaces texts by texts and leaves identifiers alone. `Sanitizes` is kept by
every replacement of `_serialize_record`, table by table, and it is all that the round
trip needs to know about them.
-/

/-- The column of a table by its name. -/
def EntityName.column? (entity : EntityName) (key : String) : Option Column :=
  entity.fields.find? fun column => column.key == key

omit [Interpreter] in
theorem column?_of_mem (entity : EntityName) :
    ∀ column ∈ entity.fields, entity.column? column.key = some column := by
  cases entity <;> decide +kernel

/-- The values are of their columns, and the identifiers are those of the row. -/
structure Sanitizes {entity : EntityName} (row : Row entity) (values : String → PyObject) : Prop where
  typed : ∀ column ∈ entity.fields, column.Holds (values column.key)
  identifiers : ∀ column ∈ entity.fields, ∀ references, column.type = .uuid references →
    values column.key = row.cell column.key

section

variable {entity : EntityName} {row : Row entity} {values : String → PyObject}

theorem sanitizes_cell (row : Row entity) : Sanitizes row row.cell :=
  ⟨row.typed, fun _ _ _ _ => rfl⟩

/-- A text column may be given another value of it. -/
theorem Sanitizes.assign (h : Sanitizes row values) {key : String} {nullable : Bool}
    {type : ColumnType} {value : PyObject} (hcolumn : entity.column? key = some ⟨key, type, nullable⟩)
    (htype : ∀ references, type ≠ .uuid references)
    (hvalue : Column.Holds ⟨key, type, nullable⟩ value) : Sanitizes row (assign values key value) := by
  have hsame : ∀ column ∈ entity.fields, column.key = key → column = ⟨key, type, nullable⟩ := by
    rintro column hmem rfl
    exact Option.some.inj ((column?_of_mem entity column hmem).symm.trans hcolumn)
  refine ⟨fun column hmem => ?_, fun column hmem references huuid => ?_⟩
  · rw [Arc.assign]
    split
    · rename_i hkey
      rw [hsame column hmem hkey]
      exact hvalue
    · exact h.typed column hmem
  · rw [Arc.assign, if_neg]
    · exact h.identifiers column hmem references huuid
    · intro hkey
      rw [hsame column hmem hkey] at huuid
      exact htype references huuid

omit [Interpreter] in
theorem string_ne_uuid (references : Option EntityName) : ColumnType.string ≠ .uuid references := by
  simp

/-- A required text column may be given a text. -/
theorem Sanitizes.assignRequired (h : Sanitizes row values) {key : String} {value : PyObject}
    (hcolumn : entity.column? key = some (.required key .string))
    (hvalue : ColumnType.string.Holds value) : Sanitizes row (Arc.assign values key value) :=
  h.assign hcolumn string_ne_uuid (.inr hvalue)

/-- An optional text column may be given a text or null. -/
theorem Sanitizes.assignOptional (h : Sanitizes row values) {key : String} {value : PyObject}
    (hcolumn : entity.column? key = some (.optional key .string))
    (hvalue : value = .none ∨ ColumnType.string.Holds value) :
    Sanitizes row (Arc.assign values key value) :=
  h.assign hcolumn string_ne_uuid (hvalue.imp_left fun hnone => ⟨rfl, hnone⟩)

theorem holds_text (s : String) : ColumnType.string.Holds (.text s) :=
  ⟨_, rfl, Str.ofString_scalar s⟩

theorem holds_ite_text (c : Bool) (s : String) :
    (if c then PyObject.none else .text s) = .none ∨
      ColumnType.string.Holds (if c then PyObject.none else .text s) := by
  cases c with
  | true => exact .inl rfl
  | false => exact .inr (holds_text s)

theorem holds_replaced {replacements : Replacements} {value value' : PyObject}
    (h : replaced replacements value = .ok value') : ColumnType.string.Holds value' := by
  unfold replaced at h
  split at h
  · rename_i s
    cases hlookup : replacements.pairs.lookup s with
    | none =>
        rw [hlookup] at h
        cases h
    | some replacement =>
        rw [hlookup] at h
        cases h
        obtain ⟨before, after, hpairs, -⟩ := List.lookup_eq_some_iff.mp hlookup
        exact ⟨replacement, rfl, replacements.scalar (s, replacement) (by simp [hpairs])⟩
  · cases h

theorem holds_replacedOr {replacements : Replacements} {value fallback : PyObject} :
    replacedOr replacements value fallback = fallback ∨
      ColumnType.string.Holds (replacedOr replacements value fallback) := by
  unfold replacedOr
  split
  · rename_i s
    split
    · rename_i replacement hlookup
      obtain ⟨before, after, hpairs, -⟩ := List.lookup_eq_some_iff.mp hlookup
      exact .inr ⟨replacement, rfl, replacements.scalar (s, replacement) (by simp [hpairs])⟩
    · exact .inl rfl
  · exact .inl rfl

end

theorem lookup_ofJsonFields (fields : List (Str × PyJson)) (key : Str) :
    (PyObject.ofJsonFields fields).lookup key = (fields.lookup key).map .ofJson := by
  induction fields with
  | nil => rfl
  | cons f fields ih =>
      rw [PyObject.ofJsonFields, List.lookup_cons, List.lookup_cons, ih]
      split <;> rfl

omit [Interpreter] in
theorem ofString_injective : Function.Injective Str.ofString :=
  Function.LeftInverse.injective Str.toString_ofString

theorem allowedEventKeys_nodup (eventType : PyObject) : (allowedEventKeys eventType).Nodup := by
  unfold allowedEventKeys
  split
  · split
    · decide
    · split
      · decide
      · split <;> decide
  · decide

/-- Event data that may be exported is an object that can be stored. -/
theorem holds_safeCaseEventData {eventType eventData value : PyObject}
    (hdata : ColumnType.jsonObject.Holds eventData)
    (h : safeCaseEventData eventType eventData = .ok value) : ColumnType.jsonObject.Holds value := by
  obtain ⟨fields, rfl, hfields⟩ := hdata
  rw [PyJson.Storable, PyJson.storableFields_iff] at hfields
  cases h
  refine ⟨_, rfl, ?_⟩
  rw [PyJson.Storable, PyJson.storableFields_iff]
  constructor
  · have hkeys : ((allowedEventKeys eventType).map Str.ofString).Nodup :=
      (allowedEventKeys_nodup eventType).map ofString_injective
    refine hkeys.sublist ?_
    induction allowedEventKeys eventType with
    | nil => exact List.Sublist.refl _
    | cons key keys ih =>
        rw [List.filterMap_cons, List.map_cons]
        split
        · exact ih.cons _
        · rename_i out hout
          have hkey : out.1 = Str.ofString key := by
            split at hout
            · split at hout
              · cases hout
                rfl
              · cases hout
            · cases hout
          rw [List.map_cons, hkey]
          exact ih.cons_cons _
  · intro f hf
    obtain ⟨key, -, hout⟩ := List.mem_filterMap.mp hf
    rw [lookup_ofJsonFields] at hout
    cases hlookup : fields.lookup (Str.ofString key) with
    | none =>
        rw [hlookup] at hout
        cases hout
    | some json =>
        rw [hlookup, Option.map_some] at hout
        dsimp only at hout
        split at hout
        · cases hout
          obtain ⟨before, after, hmem, -⟩ := List.lookup_eq_some_iff.mp hlookup
          rw [jsonValue_ofJson]
          exact ⟨Str.ofString_scalar _, (hfields.2 (_, json) (by simp [hmem])).2⟩
        · cases hout

/-- **What is exported of a row is a row: of its columns, and with its identifiers.** -/
theorem sanitizedValues_sanitizes {selection : EvidenceSelection} :
    ∀ {entity : EntityName} {row : Row entity} {values : String → PyObject},
      sanitizedValues selection entity row = .ok values → Sanitizes row values
  | .merchantPolicies, row, values, h => by
      obtain ⟨merchant, hmerchant, h⟩ := bind_eq_ok.mp h
      cases h
      exact (sanitizes_cell row).assignRequired (by decide +kernel) (holds_replaced hmerchant)
  | .paymentCases, row, values, h => by
      obtain ⟨merchant, hmerchant, h⟩ := bind_eq_ok.mp h
      dsimp only at h
      have hcase := row.typed (.required "case_reference" .string) (by decide +kernel)
      have hreference : ColumnType.string.Holds (replacedOr selection.caseReferenceReplacements
          (row.cell "case_reference") (row.cell "case_reference")) :=
        holds_replacedOr.elim (fun hsame => hsame ▸ hcase.resolve_left (by simp [Column.required])) id
      have hvalues : Sanitizes row (assign (assign (assign (assign (assign (assign row.cell
          "case_reference" (replacedOr selection.caseReferenceReplacements
            (row.cell "case_reference") (row.cell "case_reference")))
          "merchant_id" merchant)
          "payment_id" (replacedOr selection.paymentReplacements (row.cell "payment_id") .none))
          "subscription_id"
            (replacedOr selection.subscriptionReplacements (row.cell "subscription_id") .none))
          "customer_id" .none) "error_description" .none) := by
        refine Sanitizes.assignOptional ?_ (by decide +kernel) (.inl rfl)
        refine Sanitizes.assignOptional ?_ (by decide +kernel) (.inl rfl)
        refine Sanitizes.assignOptional ?_ (by decide +kernel) holds_replacedOr
        refine Sanitizes.assignOptional ?_ (by decide +kernel) holds_replacedOr
        refine Sanitizes.assignRequired ?_ (by decide +kernel) (holds_replaced hmerchant)
        exact (sanitizes_cell row).assignRequired (by decide +kernel) hreference
      split at h
      · cases h
        exact hvalues
      · obtain ⟨id, -, h⟩ := bind_eq_ok.mp h
        cases h
        exact hvalues.assignOptional (by decide +kernel) (.inr (holds_text _))
  | .caseEvents, row, values, h => by
      obtain ⟨data, hdata, h⟩ := bind_eq_ok.mp h
      cases h
      have hcolumn : EntityName.caseEvents.column? "event_data" =
          some (.required "event_data" .jsonObject) := by decide +kernel
      have hevent := row.typed (.required "event_data" .jsonObject) (by decide +kernel)
      have hobject := hevent.resolve_left (by simp [Column.required])
      exact (sanitizes_cell row).assign hcolumn (by simp)
        (.inr (holds_safeCaseEventData hobject hdata))
  | .strategyProposals, row, values, h => by
      obtain ⟨id, -, h⟩ := bind_eq_ok.mp h
      dsimp only at h
      have hhashes : Sanitizes row (assign (assign row.cell "assessment_fingerprint"
          (syntheticHash "strategy-assessment" id)) "strategy_input_fingerprint"
          (syntheticHash "strategy-input" id)) := by
        refine Sanitizes.assignRequired ?_ (by decide +kernel) (holds_text _)
        exact (sanitizes_cell row).assignRequired (by decide +kernel) (holds_text _)
      split at h
      · cases h
        exact hhashes
      · cases h
        exact hhashes.assignOptional (by decide +kernel) (.inr (holds_text _))
  | .policyDecisions, row, values, h => by
      obtain ⟨id, -, h⟩ := bind_eq_ok.mp h
      cases h
      refine Sanitizes.assignRequired ?_ (by decide +kernel) (holds_text _)
      refine Sanitizes.assignRequired ?_ (by decide +kernel) (holds_text _)
      exact (sanitizes_cell row).assignRequired (by decide +kernel) (holds_text _)
  | .approvalRequests, row, values, h => by
      cases h
      refine Sanitizes.assignOptional ?_ (by decide +kernel) (.inl rfl)
      exact (sanitizes_cell row).assignOptional (by decide +kernel) (holds_ite_text _ _)
  | .recoveryActions, row, values, h => by
      obtain ⟨id, -, h⟩ := bind_eq_ok.mp h
      cases h
      refine Sanitizes.assignOptional ?_ (by decide +kernel) (.inl rfl)
      refine Sanitizes.assignOptional ?_ (by decide +kernel) (holds_ite_text _ _)
      refine Sanitizes.assignOptional ?_ (by decide +kernel) (holds_ite_text _ _)
      refine Sanitizes.assignRequired ?_ (by decide +kernel) (holds_text _)
      exact (sanitizes_cell row).assignRequired (by decide +kernel) (holds_text _)
  | .recoveryOutcomeObservations, row, values, h => by
      unfold sanitizedValues at h
      dsimp only at h
      have hassign : ∀ {payment : PyObject} {id : UUID},
          payment = .none ∨ ColumnType.string.Holds payment →
          Sanitizes row (assign (assign row.cell "provider_payment_id" payment)
            "evidence_fingerprint" (syntheticHash "outcome-evidence" id)) := by
        intro payment id hpayment
        refine Sanitizes.assignRequired ?_ (by decide +kernel) (holds_text _)
        exact (sanitizes_cell row).assignOptional (by decide +kernel) hpayment
      split at h
      · obtain ⟨payment, hpayment, h⟩ := bind_eq_ok.mp h
        obtain ⟨id, -, h⟩ := bind_eq_ok.mp h
        cases hpayment
        cases h
        exact hassign (.inl rfl)
      · obtain ⟨action, -, h⟩ := bind_eq_ok.mp h
        obtain ⟨payment, hpayment, h⟩ := bind_eq_ok.mp h
        obtain ⟨id, -, h⟩ := bind_eq_ok.mp h
        cases hpayment
        cases h
        exact hassign (.inr (holds_text _))
  | .recoveryAttributions, row, values, h => by
      obtain ⟨action, -, h⟩ := bind_eq_ok.mp h
      obtain ⟨id, -, h⟩ := bind_eq_ok.mp h
      cases h
      refine Sanitizes.assignRequired ?_ (by decide +kernel) (holds_text _)
      refine Sanitizes.assignRequired ?_ (by decide +kernel) (holds_text _)
      refine Sanitizes.assignRequired ?_ (by decide +kernel) (holds_text _)
      exact (sanitizes_cell row).assignRequired (by decide +kernel) (holds_text _)

/-! ### Records -/

/-- The record holds, column by column, what was exported of the row. -/
def Restores (selection : EvidenceSelection) {entity : EntityName} (row : Row entity)
    (record : DecodedRecord) : Prop :=
  ∃ values, sanitizedValues selection entity row = .ok values ∧
    List.Forall₂ (fun column field => field.1 = column.key ∧ SameValue (values column.key) field.2)
      entity.fields record

section

variable {entity : EntityName} {values : String → PyObject}

theorem recordFields_nodup : ((recordFields entity values).map Prod.fst).Nodup := by
  have hnodup := entity.fields_nodup.map ofString_injective
  rw [List.map_map] at hnodup
  rw [recordFields, List.map_map]
  exact hnodup

/-- A field of a record is found under the name of its column. -/
theorem field_recordFields {column : Column} (hcolumn : column ∈ entity.fields) :
    PyJson.field (recordFields entity values) column.key = jsonValue (values column.key) := by
  have hnodup : ((recordFields entity values).map Prod.fst).Nodup := recordFields_nodup
  rw [PyJson.field, (PyJson.lookup_eq_some_iff hnodup).mpr (List.mem_map.mpr ⟨column, hcolumn, rfl⟩)]
  rfl

theorem recordFields_storable (h : ∀ column ∈ entity.fields, column.Holds (values column.key)) :
    (PyJson.dict (recordFields entity values)).Storable Interpreter.floatRepr := by
  rw [PyJson.Storable, PyJson.storableFields_iff]
  refine ⟨recordFields_nodup, fun f hf => ?_⟩
  obtain ⟨column, hcolumn, rfl⟩ := List.mem_map.mp hf
  exact ⟨Str.ofString_scalar _,
    (h column hcolumn).storable (bits_le_of_mem_fields entity column hcolumn)⟩

/-- **A record that was written of a row, its keys in order, is decoded as the row.** -/
theorem decodeRecord_restores (huuid : UuidTexts) (hdate : DateTimeTexts)
    {selection : EvidenceSelection} {row : Row entity} {record : BundleRecord}
    (h : serializeRecord selection entity row = .ok record) :
    ∃ decoded, decodeRecord entity (PyJson.sortedFields record) = .ok decoded ∧
      Restores selection row decoded := by
  obtain ⟨values, hvalues, h⟩ := bind_eq_ok.mp h
  cases h
  have htyped := (sanitizedValues_sanitizes hvalues).typed
  have hcolumns : ∀ column ∈ entity.fields, ∃ field : String × PyObject,
      (do
        let value ← decodeColumn column.type
          (PyJson.field (PyJson.sortedFields (recordFields entity values)) column.key)
        return (column.key, value) : Except PyException (String × PyObject)) = .ok field := by
    intro column hcolumn
    obtain ⟨value, hvalue, -⟩ := decodeColumn_jsonValue huuid hdate (htyped column hcolumn)
    rw [PyJson.field_sorted recordFields_nodup, field_recordFields hcolumn, hvalue]
    exact ⟨_, rfl⟩
  obtain ⟨decoded, hdecoded⟩ := Run.exists_mapM_eq_ok.mpr hcolumns
  refine ⟨decoded, hdecoded, values, hvalues, ?_⟩
  refine ((List.forall₂_and_left _ _).mpr ⟨fun _ h => h, Run.mapM_eq_ok.mp hdecoded⟩).imp ?_
  rintro column field ⟨hcolumn, hfield⟩
  obtain ⟨value, hvalue, hsame⟩ := decodeColumn_jsonValue huuid hdate (htyped column hcolumn)
  rw [PyJson.field_sorted recordFields_nodup, field_recordFields hcolumn, hvalue] at hfield
  cases hfield
  exact ⟨rfl, hsame⟩

omit [Interpreter] in
theorem sortKeys_eq_none {json : PyJson} : json.sortKeys = .none ↔ json = .none := by
  cases json <;> simp [PyJson.sortKeys]

/-- Null and an identifier are restored as they are. -/
theorem SameValue.eq_of_none_or_uuid {value value' : PyObject} (h : SameValue value value')
    (hvalue : value = .none ∨ ∃ id, value = .uuid id) : value' = value := by
  cases h with
  | same => rfl
  | member member => rcases hvalue with h | ⟨id, h⟩ <;> cases h
  | @json a b hsort =>
      rcases hvalue with h | ⟨id, h⟩
      · cases a <;> simp [PyObject.ofJson] at h
        rw [sortKeys_eq_none.mp (hsort.symm.trans rfl)]
      · cases a <;> cases h

omit [Interpreter] in
/-- Fields that stand for columns are found under their names. -/
theorem lookup_of_columns {α : Type} {P : Column → α → Prop} {columns : List Column}
    {fields : List (String × α)}
    (h : List.Forall₂ (fun column field => field.1 = column.key ∧ P column field.2) columns fields)
    (hnodup : (columns.map Column.key).Nodup) {column : Column} (hcolumn : column ∈ columns) :
    ∃ value, fields.lookup column.key = some value ∧ P column value := by
  induction h with
  | nil => cases hcolumn
  | @cons first field columns fields hfirst _ ih =>
      obtain ⟨name, value⟩ := field
      obtain ⟨rfl, hvalue⟩ := hfirst
      rw [List.map_cons, List.nodup_cons] at hnodup
      rw [List.lookup_cons]
      rcases List.mem_cons.mp hcolumn with rfl | hmem
      · exact ⟨value, by simp, hvalue⟩
      · have hne : column.key ≠ first.key :=
          fun hkey => hnodup.1 (List.mem_map.mpr ⟨column, hmem, hkey⟩)
        rw [beq_eq_false_iff_ne.mpr hne]
        exact ih hnodup.2 hmem

/-- **An identifier of a row is the one of the record that restores it.** -/
theorem Restores.identifier {selection : EvidenceSelection} {row : Row entity}
    {record : DecodedRecord} (h : Restores selection row record) {column : Column}
    (hcolumn : column ∈ entity.fields) {references : Option EntityName}
    (htype : column.type = .uuid references) :
    record.lookup column.key = some (row.cell column.key) := by
  obtain ⟨values, hvalues, hfields⟩ := h
  obtain ⟨value, hlookup, hsame⟩ := lookup_of_columns hfields entity.fields_nodup hcolumn
  rw [(sanitizedValues_sanitizes hvalues).identifiers column hcolumn references htype] at hsame
  have hcell : row.cell column.key = .none ∨ ∃ id, row.cell column.key = .uuid id := by
    rcases row.typed column hcolumn with ⟨-, hnone⟩ | hholds
    · exact .inl hnone
    · rw [htype] at hholds
      exact .inr hholds
  rw [hlookup, hsame.eq_of_none_or_uuid hcell]

end

/-! ### Tables

The references between rows are identifiers, which are restored as they were. So a
column of one table names a row of another in the records exactly where it did in the
rows.
-/

/-- The records of the tables are restored to the exported rows, and every reference leads where
it led. -/
def RestoresTables (selection : EvidenceSelection) (rows : SourceRows)
    (records : EntityName → List BundleRecord) : Prop :=
  ∃ (exported : SourceRows) (decoded : EntityName → List DecodedRecord),
    (∀ entity, (exported entity).Perm (selectRows selection rows entity) ∧
      (records entity).mapM (decodeRecord entity) = .ok (decoded entity) ∧
      List.Forall₂ (Restores selection) (exported entity) (decoded entity)) ∧
    ∀ entity, ∀ column ∈ entity.fields, ∀ table, column.type = .uuid (some table) →
      ∀ source ∈ (exported entity).zip (decoded entity),
      ∀ target ∈ (exported table).zip (decoded table),
        source.1.cell column.key = target.1.cell "id" ↔
          source.2.lookup column.key = target.2.lookup "id"

section

variable {selection : EvidenceSelection} {rows : SourceRows}

omit [Interpreter] in
/-- The identifier of a table is its first column. -/
theorem id_mem_fields (entity : EntityName) : Column.required "id" (.uuid none) ∈ entity.fields := by
  cases entity <;> decide +kernel

/-- The exported records of the tables, by their names. -/
theorem lookup_serializeEntities {entities : BundleEntities}
    (h : serializeEntities selection rows = .ok entities) (entity : EntityName) :
    ∃ records, entities.lookup (Str.ofString entity.value) = some records ∧
      ∃ exported : List (Row entity), exported.Perm (selectRows selection rows entity) ∧
        List.Forall₂ (fun row record => serializeRecord selection entity row = .ok record)
          exported records := by
  have htable : ∀ names : List EntityName, ∀ entities : BundleEntities,
      List.Forall₂ (fun entity table => serializeTable selection rows entity = .ok table) names
        entities → entity ∈ names → ∃ records,
          entities.lookup (Str.ofString entity.value) = some records ∧
            serializeTable selection rows entity = .ok (Str.ofString entity.value, records) := by
    intro names entities htables hmem
    induction htables with
    | nil => cases hmem
    | @cons name table names tables hfirst _ ih =>
        obtain ⟨records, hrecords, hof⟩ := bind_eq_ok.mp hfirst
        cases hof
        rw [List.lookup_cons]
        by_cases hname : entity = name
        · subst hname
          exact ⟨_, by simp, hfirst⟩
        · have hne : Str.ofString entity.value ≠ Str.ofString name.value :=
            fun hvalue => hname (EntityName.value_injective (ofString_injective hvalue))
          rw [beq_eq_false_iff_ne.mpr hne]
          exact ih ((List.mem_cons.mp hmem).resolve_left hname)
  obtain ⟨sorted, hlookup, hserialize⟩ :=
    htable _ _ (Run.mapM_eq_ok.mp h) entity.mem_all
  obtain ⟨records, hrecords, hof⟩ := bind_eq_ok.mp hserialize
  cases hof
  refine ⟨_, hlookup, ?_⟩
  obtain ⟨exported, hwritten, hperm⟩ := List.perm_comp_forall₂
    (List.perm_insertionSort (fun a b => recordId a ≤ recordId b) records)
    (Run.mapM_eq_ok.mp hrecords).flip
  exact ⟨exported, hperm, hwritten.flip⟩

/-- The records of a table are decoded one after the other. -/
theorem decodeRecords_restore (huuid : UuidTexts) (hdate : DateTimeTexts) {entity : EntityName}
    {exported : List (Row entity)} {written : List BundleRecord}
    (h : List.Forall₂ (fun row record => serializeRecord selection entity row = .ok record)
      exported written) :
    ∃ decoded, (written.map PyJson.sortedFields).mapM (decodeRecord entity) = .ok decoded ∧
      List.Forall₂ (Restores selection) exported decoded := by
  induction h with
  | nil => exact ⟨[], rfl, .nil⟩
  | cons hrow _ ih =>
      obtain ⟨record, hrecord, hrestores⟩ := decodeRecord_restores huuid hdate hrow
      obtain ⟨decoded, hdecoded, hall⟩ := ih
      refine ⟨record :: decoded, ?_, .cons hrestores hall⟩
      rw [List.map_cons, List.mapM_cons, hrecord, Run.ok_bind, hdecoded]
      rfl

/-- **Records that were written of the selected rows, their keys in order, restore them.** -/
theorem restoresTables_of_sorted (huuid : UuidTexts) (hdate : DateTimeTexts)
    {entities : BundleEntities} (h : serializeEntities selection rows = .ok entities)
    {records : EntityName → List BundleRecord}
    (hrecords : ∀ entity, records entity = (entities.records entity).map PyJson.sortedFields) :
    RestoresTables selection rows records := by
  choose written hlookup exported hperm hwritten using lookup_serializeEntities h
  have hdecode : ∀ entity, ∃ decoded, (records entity).mapM (decodeRecord entity) = .ok decoded ∧
      List.Forall₂ (Restores selection) (exported entity) decoded := by
    intro entity
    have htable : entities.records entity = written entity := by
      rw [BundleEntities.records, hlookup entity]
      rfl
    rw [hrecords entity, htable]
    exact decodeRecords_restore huuid hdate (hwritten entity)
  choose decoded hdecoded hrestores using hdecode
  refine ⟨exported, decoded, fun entity => ⟨hperm entity, hdecoded entity, hrestores entity⟩, ?_⟩
  rintro entity column hcolumn table htype ⟨row, record⟩ hsource ⟨row', record'⟩ htarget
  have hrow := List.forall₂_zip (hrestores entity) hsource
  have hrow' := List.forall₂_zip (hrestores table) htarget
  have hid : record'.lookup "id" = some (row'.cell "id") :=
    hrow'.identifier (id_mem_fields table) rfl
  rw [hrow.identifier hcolumn htype, hid, Option.some.injEq]

/-! ### The bundle -/

theorem serializeTable_eq_ok {entity : EntityName} {table : Str × List BundleRecord}
    (h : serializeTable selection rows entity = .ok table) :
    table.1 = Str.ofString entity.value ∧
      ∀ record ∈ table.2, ∃ row : Row entity, serializeRecord selection entity row = .ok record := by
  obtain ⟨records, hrecords, hof⟩ := bind_eq_ok.mp h
  cases hof
  refine ⟨rfl, fun record hrecord => ?_⟩
  obtain ⟨row, -, hrow⟩ := Run.exists_of_mem_mapM hrecords ((List.mem_insertionSort _).mp hrecord)
  exact ⟨row, hrow⟩

/-- The names of the exported tables are those of all. -/
theorem keys_of_serializeEntities {entities : BundleEntities}
    (h : serializeEntities selection rows = .ok entities) :
    entities.map Prod.fst = EntityName.all.map fun entity => Str.ofString entity.value := by
  have hall := Run.mapM_eq_ok.mp h
  clear h
  generalize EntityName.all = names at hall ⊢
  induction hall with
  | nil => rfl
  | cons hfirst _ ih => rw [List.map_cons, List.map_cons, ih, (serializeTable_eq_ok hfirst).1]

theorem entities_nodup {entities : BundleEntities}
    (h : serializeEntities selection rows = .ok entities) : (entities.map Prod.fst).Nodup := by
  rw [keys_of_serializeEntities h]
  refine List.Nodup.map ?_ (by decide)
  exact fun _ _ hvalue => EntityName.value_injective (ofString_injective hvalue)

/-- What is exported of a database can be stored. -/
theorem entities_storable {entities : BundleEntities}
    (h : serializeEntities selection rows = .ok entities) :
    entities.json.Storable Interpreter.floatRepr := by
  rw [BundleEntities.json, PyJson.Storable, PyJson.storableFields_iff, List.map_map]
  refine ⟨entities_nodup h, fun f hf => ?_⟩
  obtain ⟨table, htable, rfl⟩ := List.mem_map.mp hf
  obtain ⟨entity, -, hentity⟩ := Run.exists_of_mem_mapM h htable
  obtain ⟨hname, hrecords⟩ := serializeTable_eq_ok hentity
  refine ⟨by rw [hname]; exact Str.ofString_scalar _, ?_⟩
  rw [PyJson.Storable, PyJson.storableItems_iff, List.forall_mem_map]
  intro record hrecord
  obtain ⟨row, hrow⟩ := hrecords record hrecord
  obtain ⟨values, hvalues, hof⟩ := bind_eq_ok.mp hrow
  cases hof
  exact recordFields_storable (sanitizedValues_sanitizes hvalues).typed

omit [Interpreter] in
/-- The records of the tables of sorted entities are the records of the entities, sorted. -/
theorem recordsOf_sorted {entities : BundleEntities} (hnodup : (entities.map Prod.fst).Nodup)
    {fields : List (Str × PyJson)} (hfields : entities.json.sortKeys = .dict fields)
    (entity : EntityName) :
    recordsOf (PyJson.field fields entity.value) =
      (entities.records entity).map PyJson.sortedFields := by
  rw [BundleEntities.json, PyJson.sortKeys_dict] at hfields
  cases hfields
  rw [PyJson.field_sorted (by rwa [List.map_map]), PyJson.field, BundleEntities.records,
    PyJson.lookup_map_value fun records : List BundleRecord => PyJson.list (records.map .dict)]
  cases entities.lookup (Str.ofString entity.value) with
  | none => rfl
  | some records =>
      rw [Option.map_some, Option.getD_some, Option.getD_some, PyJson.sortKeys_list, List.map_map,
        recordsOf, List.filterMap_map, ← List.filterMap_eq_map]
      refine List.filterMap_congr fun record _ => ?_
      simp [PyJson.sortKeys_dict]

omit [Interpreter] in
theorem bundleJson_nodup (entities : BundleEntities) (checksum : Str) :
    ((exportPayload entities ++ [(Str.ofString "checksum_sha256", PyJson.str checksum)]).map
      Prod.fst).Nodup := by
  show ([Str.ofString "bundle_version", Str.ofString "case_count", Str.ofString "entities",
    Str.ofString "checksum_sha256"]).Nodup
  decide

/-- The bundle of exported entities can be stored. -/
theorem bundleJson_storable {entities : BundleEntities}
    (h : serializeEntities selection rows = .ok entities) (checksum : String) :
    (bundleJson entities (Str.ofString checksum)).Storable Interpreter.floatRepr := by
  have hfive : PyJson.overlong 5 = false := by decide
  rw [bundleJson, PyJson.Storable]
  refine ⟨bundleJson_nodup entities _, ?_⟩
  rw [exportPayload, PyJson.storableFields_iff]
  simp only [List.cons_append, List.nil_append, List.forall_mem_cons, List.not_mem_nil,
    false_implies, implies_true, and_true]
  exact ⟨⟨Str.ofString_scalar _, Str.ofString_scalar _⟩, ⟨Str.ofString_scalar _, hfive⟩,
    ⟨Str.ofString_scalar _, entities_storable h⟩, Str.ofString_scalar _, Str.ofString_scalar _⟩

theorem bundleText_eq_ok {bundle : PyJson} {text : Str} : bundleText bundle = .ok text ↔
    bundle.depth ≤ Recursion.nesting ∧ bundle.hasOverlong = false ∧
      text = PyJson.write Interpreter.floatRepr (some 2) 0 bundle.sortKeys ++ [0x0A] := by
  unfold bundleText
  simp only [bind_eq_ok, mapError_eq_ok, PyJson.dumpsAscii_eq_ok, pure, Except.pure,
    Except.ok.injEq]
  constructor
  · rintro ⟨written, ⟨hdepth, hlong, rfl⟩, rfl⟩
    exact ⟨hdepth, hlong, rfl⟩
  · rintro ⟨hdepth, hlong, rfl⟩
    exact ⟨_, ⟨hdepth, hlong, rfl⟩, rfl⟩

/--
**Every exported row comes back.**  The text of a bundle of exported entities is read as a bundle
whose records restore the selected rows, table by table and column by column, with every
reference between them.
-/
theorem bundle_round_trip (huuid : UuidTexts) (hdate : DateTimeTexts) {entities : BundleEntities}
    (hentities : serializeEntities selection rows = .ok entities) {checksum : String} {text : Str}
    (htext : bundleText (bundleJson entities (Str.ofString checksum)) = .ok text) :
    ∃ bundle tables, PyJson.loadsText Recursion.nesting text = .ok (.dict bundle) ∧
      PyJson.field bundle "entities" = .dict tables ∧
      RestoresTables selection rows fun entity => recordsOf (PyJson.field tables entity.value) := by
  obtain ⟨hdepth, -, rfl⟩ := bundleText_eq_ok.mp htext
  have hload : PyJson.loadsText Recursion.nesting (PyJson.write Interpreter.floatRepr (some 2) 0
      (bundleJson entities (Str.ofString checksum)).sortKeys ++ [0x0A]) =
        .ok (bundleJson entities (Str.ofString checksum)).sortKeys :=
    PyJson.loadsText_write (bundleJson_storable hentities checksum) hdepth
      (by simp [PyJson.isWhitespace])
  obtain ⟨tables, htables⟩ : ∃ tables, entities.json.sortKeys = .dict tables :=
    ⟨_, PyJson.sortKeys_dict _⟩
  refine ⟨_, tables, hload.trans (congrArg Except.ok (PyJson.sortKeys_dict _)), ?_, ?_⟩
  · rw [PyJson.field_sorted (bundleJson_nodup entities _), ← htables]
    rfl
  · exact restoresTables_of_sorted huuid hdate hentities
      fun entity => recordsOf_sorted (entities_nodup hentities) htables entity

end

end

/-! ### A row of every table -/

section

attribute [local instance] sampleInterpreter

/-- One of two values whose texts differ is read back. -/
theorem parseSample_text (text : Bool → String)
    (h : Str.ofString (text true) ≠ Str.ofString (text false)) (b : Bool) :
    parseSample text (Str.ofString (text b)) = some b := by
  cases b with
  | false => exact if_pos rfl
  | true => exact (if_neg h).trans (if_pos rfl)

/-- A value of a column. -/
def sampleValue (column : Column) : PyObject :=
  if column.nullable then .none
  else
    match column.type with
    | .uuid _ => .uuid false
    | .dateTime => .dateTime true
    | .enum => .enum "FAILED"
    | .string => .text "FAILURE_DIAGNOSED"
    | .integer _ => .int 0
    | .boolean => .bool true
    | .float => .float (Str.ofString "0.5")
    | .json => .ofJson (.list [jsonText "RETRY"])
    | .jsonObject => .ofJson (.dict (recordOf
        [("failure_category", jsonText "INSUFFICIENT_FUNDS"), ("diagnosis_reason", .none)]))

theorem sampleValue_holds (column : Column) : column.Holds (sampleValue column) := by
  obtain ⟨key, type, nullable⟩ := column
  unfold sampleValue
  split
  · rename_i hnull
    exact .inl ⟨hnull, rfl⟩
  refine .inr ?_
  dsimp only
  cases type with
  | uuid references => exact ⟨_, rfl⟩
  | dateTime => exact ⟨_, rfl⟩
  | enum => exact ⟨_, rfl⟩
  | string => exact holds_text _
  | integer bits =>
      have hpow : (0 : Int) < 2 ^ (bits - 1) := Int.pow_pos (by decide)
      exact ⟨0, rfl, by omega, hpow⟩
  | boolean => exact ⟨_, rfl⟩
  | float => exact ⟨_, rfl, by rfl⟩
  | json => exact ⟨_, rfl, Str.ofString_scalar _, trivial⟩
  | jsonObject =>
      exact ⟨_, rfl, by decide, ⟨Str.ofString_scalar _, Str.ofString_scalar _⟩,
        ⟨Str.ofString_scalar _, trivial⟩, trivial⟩

def sampleRow (entity : EntityName) : Row entity where
  cell key := ((entity.column? key).map sampleValue).getD .none
  typed column hcolumn := by
    rw [column?_of_mem entity column hcolumn]
    exact sampleValue_holds column

def sampleSelection : EvidenceSelection where
  caseIds := [false]
  policyIds := [false]
  sensitiveValues := []
  merchantReplacements :=
    ⟨[(Str.ofString "FAILURE_DIAGNOSED", Str.ofString "public_demo_merchant_001")],
      by simpa using Str.ofString_scalar _⟩
  caseReferenceReplacements := ⟨[], by simp⟩
  paymentReplacements := ⟨[], by simp⟩
  subscriptionReplacements := ⟨[], by simp⟩

/-- The round trip of one row of every table. -/
theorem bundle_round_trip_sample : ∃ entities text,
    serializeEntities sampleSelection (fun entity => [sampleRow entity]) = .ok entities ∧
      (entities.records .caseEvents).length = 1 ∧
      ∃ bundle tables, PyJson.loadsText Recursion.nesting text = .ok (.dict bundle) ∧
        PyJson.field bundle "entities" = .dict tables ∧
        RestoresTables sampleSelection (fun entity => [sampleRow entity])
          fun entity => recordsOf (PyJson.field tables entity.value) := by
  have hcheck : (match serializeEntities sampleSelection (fun entity => [sampleRow entity]) with
      | .ok entities => decide ((bundleJson entities (Str.ofString sampleHash)).depth ≤ 100 ∧
          (bundleJson entities (Str.ofString sampleHash)).hasOverlong = false ∧
          (entities.records .caseEvents).length = 1)
      | .error _ => false) = true := by decide +kernel
  split at hcheck
  · rename_i entities hentities
    obtain ⟨hdepth, hlong, hevents⟩ := of_decide_eq_true hcheck
    have huuid : UuidTexts := parseSample_text sampleUuidText (by decide +kernel)
    have hdate : DateTimeTexts := parseSample_text sampleDateTimeText (by decide +kernel)
    have htext := bundleText_eq_ok.mpr ⟨hdepth, hlong, rfl⟩
    exact ⟨entities, _, hentities, hevents, bundle_round_trip huuid hdate hentities htext⟩
  · cases hcheck

end

end Arc
