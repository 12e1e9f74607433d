/-
What the import of a public demo bundle may end in.

Everything that is asked of a bundle raises the errors of the module, with four
exceptions: the bytes may be no UTF-8 text, reading the JSON may meet an integer of too
many digits or nest too deep, a text of the payload may hold a surrogate, and an
identifier may be neither null nor text.  `Importable` says that the import meets none of
these, and that the database keeps what it is given; `import_allOrNothing_iff` that it is
exactly then that the import is all or nothing with the errors of the module.

Whatever an import raises, the target is as it was (`import_error_unchanged`).
-/
import Arc.Proofs.Sanitizer

namespace Arc

open Text BundleException
open Run (First RaisesOnly raisesOnly_bind raisesOnly_mapError raisesOnly_forM raisesOnly_mapM
  raisesOnly_ok raisesOnly_error)

/-- An error of the module. -/
abbrev OwnError (error : BundleException) : Prop := error.isBundleError = true

theorem raisesOnly_require {ε : Type} {P : ε → Prop} {c : Prop} [Decidable c] {e : ε} :
    RaisesOnly P (require c e) ↔ (¬ c → P e) := by
  unfold require
  split <;> rename_i hc <;> simp [hc]

theorem raisesOnly_requireSome {ε α : Type} {P : ε → Prop} {o : Option α} {e : ε} :
    RaisesOnly P (requireSome o e) ↔ (o = none → P e) := by
  cases o <;> simp [requireSome]

/-! ### The fields of a dictionary -/

theorem exists_of_hasKeys {fields : List (Str × PyJson)} {names : List String}
    (h : hasKeys fields names = true) {name : String} (hname : name ∈ names) :
    ∃ f ∈ fields, f.1 = Str.ofString name := by
  simp only [hasKeys, Bool.and_eq_true, List.all_eq_true, List.any_eq_true, beq_iff_eq] at h
  exact h.1 name hname

theorem name_of_hasKeys {fields : List (Str × PyJson)} {names : List String}
    (h : hasKeys fields names = true) {f : Str × PyJson} (hf : f ∈ fields) :
    ∃ name ∈ names, f.1 = Str.ofString name := by
  simp only [hasKeys, Bool.and_eq_true, List.all_eq_true, List.any_eq_true, beq_iff_eq] at h
  exact h.2 f hf

theorem lookup_isSome_of_mem {β : Type} {fields : List (Str × β)} {key : Str}
    (h : ∃ f ∈ fields, f.1 = key) : (fields.lookup key).isSome = true := by
  obtain ⟨f, hf, rfl⟩ := h
  rw [List.lookup_isSome_iff]
  exact ⟨f, hf, by simp⟩

/-- A dictionary built from the keys of another is looked up by key. -/
theorem lookup_map_key {β γ : Type} {fields : List (Str × β)} (value : Str → γ) {key : Str}
    (h : ∃ f ∈ fields, f.1 = key) :
    (fields.map fun f => (f.1, value f.1)).lookup key = some (value key) := by
  induction fields with
  | nil => simp at h
  | cons f fields ih =>
      rw [List.map_cons, List.lookup_cons]
      by_cases hkey : key = f.1
      · simp [hkey]
      · rw [beq_eq_false_iff_ne.mpr hkey]
        obtain ⟨g, hg, hgkey⟩ := h
        rcases List.mem_cons.mp hg with rfl | hg
        · exact absurd hgkey.symm hkey
        · exact ih ⟨g, hg, hgkey⟩

theorem field_mem {fields : List (Str × PyJson)} {key : String}
    (h : ∃ f ∈ fields, f.1 = Str.ofString key) : ∃ f ∈ fields, f.2 = PyJson.field fields key := by
  obtain ⟨value, hvalue⟩ := Option.isSome_iff_exists.mp (lookup_isSome_of_mem h)
  obtain ⟨before, after, rfl, -⟩ := List.lookup_eq_some_iff.mp hvalue
  exact ⟨(Str.ofString key, value), by simp, by simp [PyJson.field, hvalue]⟩

/-! ### Loading a bundle

Every check raises an error of the module itself, so what remains is where Python raises
before a check is reached: the decoder, the parser, and the encoder the checksum needs.
`Legible` names exactly these, and the lemmas follow `_load_bundle` from its first line
to its last.
-/

theorem checkRecord_raises (entity : EntityName) (record : PyJson) :
    RaisesOnly OwnError (checkRecord entity record) := by
  unfold checkRecord
  split
  · exact raisesOnly_require.mpr fun _ => rfl
  · exact raisesOnly_error.mpr rfl

theorem checkCollection_raises (fields : List (Str × PyJson)) (entity : EntityName) :
    RaisesOnly OwnError (checkCollection fields entity) := by
  unfold checkCollection
  split
  · exact raisesOnly_forM fun record _ => checkRecord_raises entity record
  · exact raisesOnly_error.mpr rfl

theorem checkEntities_raises (entities : PyJson) :
    RaisesOnly OwnError (checkEntities entities) := by
  unfold checkEntities
  split
  · refine raisesOnly_bind.mpr ⟨raisesOnly_require.mpr fun _ => rfl, fun _ _ => ?_⟩
    refine raisesOnly_bind.mpr ⟨raisesOnly_forM fun entity _ => checkCollection_raises _ entity, ?_⟩
    exact fun _ _ => raisesOnly_ok
  · exact raisesOnly_error.mpr rfl

/-- A collection that passes is a list of dictionaries with the fields of the table. -/
theorem of_checkCollection {fields : List (Str × PyJson)} {entity : EntityName}
    (h : checkCollection fields entity = .ok ()) :
    ∃ records : List BundleRecord, PyJson.field fields entity.value = .list (records.map .dict) ∧
      recordsOf (PyJson.field fields entity.value) = records ∧
      ∀ record ∈ records, hasKeys record (entity.fields.map Column.key) = true := by
  unfold checkCollection at h
  split at h
  · rename_i items heq
    rw [heq]
    rw [Run.forM_eq_ok] at h
    clear heq
    induction items with
    | nil => exact ⟨[], rfl, rfl, by simp⟩
    | cons item items ih =>
        rw [List.forall_mem_cons] at h
        obtain ⟨records, hrecords, hof, hkeys⟩ := ih h.2
        have hitem := h.1
        unfold checkRecord at hitem
        split at hitem
        · rename_i record
          refine ⟨record :: records, ?_, ?_, ?_⟩
          · rw [List.map_cons, ← PyJson.list.inj hrecords]
          · rw [← hof]
            rfl
          · exact List.forall_mem_cons.mpr ⟨require_eq_ok.mp hitem, hkeys⟩
        · cases hitem
  · cases h

/-- The entities a check passes are the tables it has looked at. -/
theorem of_checkEntities {value : PyJson} {entities : BundleEntities}
    (h : checkEntities value = .ok entities) :
    ∃ fields, value = .dict fields ∧
      hasKeys fields (EntityName.all.map EntityName.value) = true ∧
      (∀ entity, checkCollection fields entity = .ok ()) ∧
      entities = fields.map fun f => (f.1, recordsOf ((fields.lookup f.1).getD .none)) := by
  unfold checkEntities at h
  split at h
  · rename_i fields
    obtain ⟨_, hkeys, h⟩ := bind_eq_ok.mp h
    obtain ⟨_, hcollections, h⟩ := bind_eq_ok.mp h
    cases h
    exact ⟨fields, rfl, require_eq_ok.mp hkeys,
      fun entity => Run.forM_eq_ok.mp hcollections entity entity.mem_all, rfl⟩
  · cases h

/-- Each table is there, and its records have its fields. -/
theorem table_of_checkEntities {value : PyJson} {entities : BundleEntities}
    (h : checkEntities value = .ok entities) (entity : EntityName) :
    ∃ records, entities.lookup (Str.ofString entity.value) = some records ∧
      ∀ record ∈ records, hasKeys record (entity.fields.map Column.key) = true := by
  obtain ⟨fields, rfl, hkeys, hcollections, rfl⟩ := of_checkEntities h
  obtain ⟨records, -, hof, hrecords⟩ := of_checkCollection (hcollections entity)
  have hmem := exists_of_hasKeys hkeys (List.mem_map_of_mem entity.mem_all)
  refine ⟨records, ?_, hrecords⟩
  rw [← hof]
  exact lookup_map_key (fun key => recordsOf ((fields.lookup key).getD .none)) hmem

/-- The tables a check passes can be written where they could be read. -/
theorem checkEntities_writable {nesting : Nat} {value : PyJson} {entities : BundleEntities}
    (h : checkEntities value = .ok entities) (hvalue : PyJson.Writable nesting value) :
    PyJson.Writable nesting entities.json := by
  obtain ⟨fields, rfl, hkeys, hcollections, rfl⟩ := of_checkEntities h
  cases nesting with
  | zero => exact absurd hvalue.1 (by simp [PyJson.depth])
  | succ nesting =>
      rw [PyJson.writable_dict] at hvalue
      rw [BundleEntities.json, PyJson.writable_dict, List.map_map, List.forall_mem_map]
      intro f hf
      obtain ⟨name, hname, hkey⟩ := name_of_hasKeys hkeys hf
      obtain ⟨entity, -, rfl⟩ := List.mem_map.mp hname
      obtain ⟨records, hrecords, hof, -⟩ := of_checkCollection (hcollections entity)
      obtain ⟨g, hg, hgvalue⟩ := field_mem ⟨f, hf, hkey⟩
      have hwritable := hvalue g hg
      rw [hgvalue, hrecords] at hwritable
      rw [← hof, PyJson.field, ← hkey] at hwritable
      exact hwritable

theorem printable_scalar {c : CodePoint} (h : PyJson.isPrintable c = true) :
    c.isSurrogate = false := by
  simp only [PyJson.isPrintable, Bool.and_eq_true, decide_eq_true_eq] at h
  simp only [CodePoint.isSurrogate, Bool.and_eq_false_iff, decide_eq_false_iff_not]
  omega

theorem checkExternalUrl_raises {record : BundleRecord}
    (h : hasKeys record (EntityName.recoveryActions.fields.map Column.key) = true) :
    RaisesOnly OwnError (checkExternalUrl record) := by
  have hname : "external_url" ∈ EntityName.recoveryActions.fields.map Column.key := by decide
  have hurl := lookup_isSome_of_mem (exists_of_hasKeys h hname)
  unfold checkExternalUrl
  refine raisesOnly_bind.mpr ⟨raisesOnly_requireSome.mpr fun hnone => ?_, fun _ _ => ?_⟩
  · rw [hnone] at hurl
    cases hurl
  · exact raisesOnly_require.mpr fun _ => rfl

theorem checkHashes_raises (entity : Str × List BundleRecord) :
    RaisesOnly OwnError (checkHashes entity) :=
  raisesOnly_forM fun _ _ => raisesOnly_forM fun _ _ => raisesOnly_require.mpr fun _ => rfl

section

variable [Interpreter]

theorem checkEnvelope_raises (bundle : PyJson) : RaisesOnly OwnError (checkEnvelope bundle) := by
  unfold checkEnvelope
  split
  · refine raisesOnly_bind.mpr ⟨raisesOnly_require.mpr fun _ => rfl, fun _ _ => ?_⟩
    refine raisesOnly_bind.mpr ⟨raisesOnly_require.mpr fun _ => rfl, fun _ _ => ?_⟩
    split
    · exact raisesOnly_bind.mpr ⟨raisesOnly_require.mpr fun _ => rfl, fun _ _ => raisesOnly_ok⟩
    · exact raisesOnly_error.mpr rfl
  · exact raisesOnly_error.mpr rfl

/-- The checksum can be taken of a payload without surrogates. -/
theorem bundleChecksum_raises {payload : PyJson} :
    RaisesOnly OwnError (bundleChecksum payload) ↔ payload.Scalar := by
  have hrepr : ∀ literal, Str.Scalar (Interpreter.floatRepr literal) := fun literal c hc =>
    printable_scalar (Interpreter.floatRepr_printable literal c hc)
  rw [← PyJson.encode_dumps_isSome hrepr]
  unfold bundleChecksum
  rw [raisesOnly_bind, raisesOnly_requireSome, Option.isSome_iff_ne_none]
  constructor
  · exact fun h hnone => absurd (h.1 hnone) (by decide)
  · exact fun h => ⟨fun hnone => absurd hnone h, fun _ _ => raisesOnly_ok⟩

/-- The check of the records of a bundle that has been read. -/
theorem validate_raises {value : PyJson} {entities : BundleEntities} {sensitiveValues : List Str}
    (h : checkEntities value = .ok entities)
    (hvalue : PyJson.Writable Recursion.nesting value) :
    RaisesOnly OwnError (validateSanitizedEntities entities sensitiveValues) := by
  obtain ⟨hdepth, hlong⟩ := checkEntities_writable h hvalue
  obtain ⟨actions, hactions, hkeys⟩ := table_of_checkEntities h .recoveryActions
  have hrendered : PyJson.dumpsAscii Recursion.nesting Interpreter.floatRepr none entities.json =
      .ok _ := PyJson.dumpsAscii_eq_ok.mpr ⟨hdepth, hlong, rfl⟩
  replace hactions : entities.lookup (Str.ofString "recovery_actions") = some actions := hactions
  unfold validateSanitizedEntities
  rw [hrendered, hactions]
  refine raisesOnly_bind.mpr ⟨raisesOnly_ok, fun rendered _ => ?_⟩
  refine raisesOnly_bind.mpr ⟨raisesOnly_require.mpr fun _ => rfl, fun _ _ => ?_⟩
  refine raisesOnly_bind.mpr ⟨raisesOnly_require.mpr fun _ => rfl, fun _ _ => ?_⟩
  refine raisesOnly_bind.mpr ⟨raisesOnly_require.mpr fun _ => rfl, fun _ _ => ?_⟩
  refine raisesOnly_bind.mpr ⟨raisesOnly_require.mpr fun _ => rfl, fun _ _ => ?_⟩
  refine raisesOnly_bind.mpr ⟨raisesOnly_ok, fun actions' h' => ?_⟩
  obtain rfl : actions = actions' := Except.ok.inj h'
  refine raisesOnly_bind.mpr ⟨raisesOnly_forM fun record hrecord => ?_, fun _ _ => ?_⟩
  · exact checkExternalUrl_raises (hkeys record hrecord)
  · exact raisesOnly_forM fun entity _ => checkHashes_raises entity

/-- Reading the file as JSON meets only errors that are told as the module's own. -/
structure Legible (file : Option (List UInt8)) : Prop where
  /-- The bytes are UTF-8 text. -/
  text : ∀ bytes, file = some bytes → (readText bytes).isSome = true
  /-- No integer of the JSON is too long, and it nests no deeper than the interpreter may. -/
  json : ∀ bytes text, file = some bytes → readText bytes = some text →
    PyJson.loadsText Recursion.nesting text ≠ .error .valueError ∧
      PyJson.loadsText Recursion.nesting text ≠ .error .recursionError

theorem readBundle_raises {file : Option (List UInt8)} :
    RaisesOnly OwnError (readBundle file) ↔ Legible file := by
  unfold readBundle
  rw [raisesOnly_bind, raisesOnly_requireSome]
  constructor
  · rintro ⟨-, h⟩
    refine ⟨fun bytes hbytes => ?_, fun bytes text hbytes htext => ?_⟩
    · obtain ⟨htext, -⟩ := raisesOnly_bind.mp (h bytes (requireSome_eq_ok.mpr hbytes))
      rw [raisesOnly_requireSome] at htext
      exact Option.isSome_iff_ne_none.mpr fun hnone => absurd (htext hnone) (by decide)
    · obtain ⟨-, hjson⟩ := raisesOnly_bind.mp (h bytes (requireSome_eq_ok.mpr hbytes))
      have hloads := hjson text (requireSome_eq_ok.mpr htext)
      constructor <;> intro hraised <;> rw [hraised] at hloads <;>
        exact absurd (hloads _ rfl) (by decide)
  · rintro ⟨htext, hjson⟩
    refine ⟨fun _ => rfl, fun bytes hbytes => ?_⟩
    have hbytes := requireSome_eq_ok.mp hbytes
    refine raisesOnly_bind.mpr ⟨raisesOnly_requireSome.mpr fun hnone => ?_, fun text ht => ?_⟩
    · have hsome := htext bytes hbytes
      rw [hnone] at hsome
      cases hsome
    · obtain ⟨hvalue, hrecursion⟩ := hjson bytes text hbytes (requireSome_eq_ok.mp ht)
      split
      · exact raisesOnly_ok
      · exact raisesOnly_error.mpr rfl
      · rename_i error hne heq
        cases error with
        | jsonDecodeError => exact (hne rfl).elim
        | valueError => exact absurd heq hvalue
        | recursionError => exact absurd heq hrecursion

theorem readBundle_writable {file : Option (List UInt8)} {bundle : PyJson}
    (h : readBundle file = .ok bundle) : PyJson.Writable Recursion.nesting bundle := by
  obtain ⟨bytes, -, h⟩ := bind_eq_ok.mp h
  obtain ⟨text, -, h⟩ := bind_eq_ok.mp h
  split at h
  · rename_i heq
    cases h
    exact PyJson.loadsText_writable heq
  · cases h
  · cases h

/-- The entities of a bundle that has been read can be written. -/
theorem entities_writable {nesting : Nat} {bundle : PyJson} {fields : List (Str × PyJson)}
    {checksum : Str} (h : checkEnvelope bundle = .ok (fields, checksum))
    (hbundle : PyJson.Writable nesting bundle) :
    PyJson.Writable nesting (PyJson.field fields "entities") := by
  unfold checkEnvelope at h
  split at h
  · rename_i fields'
    obtain ⟨_, hkeys, h⟩ := bind_eq_ok.mp h
    obtain ⟨_, -, h⟩ := bind_eq_ok.mp h
    obtain rfl : fields' = fields := by
      split at h
      · obtain ⟨_, -, h⟩ := bind_eq_ok.mp h
        exact congrArg Prod.fst (Except.ok.inj h)
      · cases h
    have hname : "entities" ∈ envelopeKeys := by decide
    obtain ⟨f, hf, hvalue⟩ := field_mem (exists_of_hasKeys (require_eq_ok.mp hkeys) hname)
    cases nesting with
    | zero => exact absurd hbundle.1 (by simp [PyJson.depth])
    | succ nesting =>
        obtain ⟨hdepth, hlong⟩ := PyJson.writable_dict.mp hbundle f hf
        rw [hvalue] at hdepth hlong
        exact ⟨hdepth.trans (Nat.le_succ _), hlong⟩
  · cases h

/-- **Loading a bundle raises the errors of the module, unless the file cannot be read as JSON
in one of these ways, or a payload that is to be hashed holds a surrogate.** -/
theorem loadBundle_raises {file : Option (List UInt8)} :
    RaisesOnly OwnError (loadBundle file) ↔ Legible file ∧
      ∀ bundle fields checksum, readBundle file = .ok bundle →
        checkEnvelope bundle = .ok (fields, checksum) → (payloadOf fields).Scalar := by
  unfold loadBundle
  rw [raisesOnly_bind, readBundle_raises]
  refine and_congr_right fun _ => ?_
  constructor
  · intro h bundle fields checksum hread henvelope
    obtain ⟨-, h⟩ := raisesOnly_bind.mp (h bundle hread)
    exact bundleChecksum_raises.mp (raisesOnly_bind.mp (h _ henvelope)).1
  · intro h bundle hread
    refine raisesOnly_bind.mpr ⟨checkEnvelope_raises bundle, ?_⟩
    rintro ⟨fields, checksum⟩ henvelope
    refine raisesOnly_bind.mpr ⟨bundleChecksum_raises.mpr (h _ _ _ hread henvelope), fun _ _ => ?_⟩
    refine raisesOnly_bind.mpr ⟨raisesOnly_require.mpr fun _ => rfl, fun _ _ => ?_⟩
    refine raisesOnly_bind.mpr ⟨checkEntities_raises _, fun entities hentities => ?_⟩
    have hwritable := entities_writable henvelope (readBundle_writable hread)
    exact raisesOnly_bind.mpr ⟨validate_raises hentities hwritable, fun _ _ => raisesOnly_ok⟩

/-! ### Decoding the records

The import catches `SQLAlchemyError`, `TypeError` and `ValueError`, and `UUID` of a
number or of a list raises `AttributeError`, which is none of them. `NotTextId` is the
cell that does it; every other cell decodes or raises what is caught.
-/

/-- An exception that the import tells as one of the errors of the module. -/
abbrev Tame (error : BundleException) : Prop := OwnError (failedSafely error)

/-- The exceptions of Python that the import tells so. -/
abbrev TamePython (error : PyException) : Prop := Tame (python error)

/-- The value is neither null nor text. -/
def IsNotText (value : PyJson) : Prop := value.isNone = false ∧ value.isStr = false

/-- A cell of a table: its column, and the value a record has there. -/
abbrev Cell := Column × PyJson

def Cell.Decodes (cell : Cell) : Prop := ∃ value, decodeColumn cell.1.type cell.2 = .ok value

/-- The cell is to be an identifier, and is neither null nor text. -/
def Cell.NotTextId (cell : Cell) : Prop :=
  (∃ references, cell.1.type = .uuid references) ∧ IsNotText cell.2

/-- The cells of a table in the order they are decoded in. -/
def cells (entities : BundleEntities) (entity : EntityName) : List Cell :=
  (entities.records entity).flatMap fun record =>
    entity.fields.map fun column => (column, PyJson.field record column.key)

theorem toUUID_raises {value : PyJson} :
    RaisesOnly TamePython (toUUID value) ↔ ¬ IsNotText value := by
  unfold toUUID IsNotText
  split
  · exact iff_of_true (raisesOnly_error.mpr rfl) (by simp [PyJson.isNone])
  · exact iff_of_true (raisesOnly_requireSome.mpr fun _ => rfl) (by simp [PyJson.isStr])
  · rename_i hnone hstr
    have hnot : value.isNone = false ∧ value.isStr = false := by
      cases value <;> first | exact ⟨rfl, rfl⟩ | exact (hnone rfl).elim | exact (hstr _ rfl).elim
    rw [raisesOnly_error]
    exact iff_of_false (by decide) (not_not_intro hnot)

theorem toDateTime_raises (value : PyJson) : RaisesOnly TamePython (toDateTime value) := by
  unfold toDateTime
  split
  · exact raisesOnly_requireSome.mpr fun _ => rfl
  · exact raisesOnly_error.mpr rfl

theorem decodeColumn_raises (cell : Cell) :
    RaisesOnly TamePython (decodeColumn cell.1.type cell.2) ↔ ¬ cell.NotTextId := by
  obtain ⟨column, value⟩ := cell
  simp only [Cell.NotTextId]
  unfold decodeColumn
  split
  · simp [IsNotText, PyJson.isNone]
  · rename_i heq
    rw [Run.raisesOnly_map]
    exact iff_of_true (toDateTime_raises _) (by simp [heq])
  · rename_i references _ heq
    rw [Run.raisesOnly_map, toUUID_raises]
    simp [heq]
  · rename_i huuid
    refine iff_of_true raisesOnly_ok fun h => ?_
    obtain ⟨references, htype⟩ := h.1
    exact huuid references htype

/-- A record decodes where each of its cells does. -/
theorem exists_decodeRecord {entity : EntityName} {record : BundleRecord} :
    (∃ decoded, decodeRecord entity record = .ok decoded) ↔
      ∀ column ∈ entity.fields, Cell.Decodes (column, PyJson.field record column.key) := by
  unfold decodeRecord
  rw [Run.exists_mapM_eq_ok]
  refine forall₂_congr fun column _ => ?_
  constructor
  · rintro ⟨out, h⟩
    obtain ⟨value, hvalue, -⟩ := bind_eq_ok.mp h
    exact ⟨value, hvalue⟩
  · rintro ⟨value, hvalue⟩
    exact ⟨_, bind_eq_ok.mpr ⟨value, hvalue, rfl⟩⟩

theorem decodeRecord_raises {entity : EntityName} {record : BundleRecord} :
    RaisesOnly TamePython (decodeRecord entity record) ↔
      ¬ First Cell.Decodes Cell.NotTextId
        (entity.fields.map fun column => (column, PyJson.field record column.key)) := by
  unfold decodeRecord
  rw [raisesOnly_mapM, Run.first_map]
  refine not_congr (Run.first_congr (fun column _ => ?_) fun column _ => ?_)
  · constructor
    · rintro ⟨out, h⟩
      obtain ⟨value, hvalue, -⟩ := bind_eq_ok.mp h
      exact ⟨value, hvalue⟩
    · rintro ⟨value, hvalue⟩
      exact ⟨_, bind_eq_ok.mpr ⟨value, hvalue, rfl⟩⟩
  · have hcell := decodeColumn_raises (column, PyJson.field record column.key)
    rw [raisesOnly_bind, hcell, not_and_or, not_not]
    exact or_iff_left fun h => h fun _ _ => raisesOnly_ok

theorem decodeRecords_raises {entities : BundleEntities} {entity : EntityName} :
    RaisesOnly TamePython ((entities.records entity).mapM (decodeRecord entity)) ↔
      ¬ First Cell.Decodes Cell.NotTextId (cells entities entity) := by
  rw [raisesOnly_mapM, cells, Run.first_flatMap]
  refine not_congr (Run.first_congr (fun record _ => ?_) fun record _ => ?_)
  · rw [exists_decodeRecord, List.forall_mem_map]
  · rw [decodeRecord_raises, not_not]

/-! ### The transaction

The guard and the import stop at the first table that raises, and the order of the
tables decides which error that is. `ComparesNotText` and `DecodesNotText` therefore say
which cell comes first, not only that there is one.
-/

/-- The identifiers of the records of a table, in their order. -/
def recordIds (entities : BundleEntities) (entity : EntityName) : List PyJson :=
  (entities.records entity).map fun record => PyJson.field record "id"

/-- The value is the text of an identifier. -/
def Identifies (value : PyJson) : Prop := ∃ id, toUUID value = .ok id

/-- The comparison with an occupied target comes to an identifier that is neither null nor text. -/
def ComparesNotText (db : Database) (entities : BundleEntities) : Prop :=
  First (fun entity => (∀ id ∈ recordIds entities entity, Identifies id) ∧
      db.selectsIds entity = true)
    (fun entity => First Identifies IsNotText (recordIds entities entity)) EntityName.all

/-- The records of a table decode, and the database takes them. -/
def Flushes (db : Database) (entities : BundleEntities) (entity : EntityName) : Prop :=
  ∃ decoded stored, (entities.records entity).mapM (decodeRecord entity) = .ok decoded ∧
    db.flush entity decoded = some stored

/-- The import comes to an identifier that is neither null nor text. -/
def DecodesNotText (db : Database) (entities : BundleEntities) : Prop :=
  First (Flushes db entities)
    (fun entity => First Cell.Decodes Cell.NotTextId (cells entities entity)) EntityName.all

variable {db : Database} {target : Target} {entities : BundleEntities}

theorem compareIds_raises {entity : EntityName} :
    RaisesOnly Tame (compareIds db target entities entity) ↔
      ¬ First Identifies IsNotText (recordIds entities entity) := by
  unfold compareIds
  rw [raisesOnly_bind, raisesOnly_mapError, raisesOnly_mapM, recordIds, Run.first_map]
  have hids : First (fun record => ∃ id, toUUID (PyJson.field record "id") = .ok id)
      (fun record => ¬ RaisesOnly TamePython (toUUID (PyJson.field record "id")))
      (entities.records entity) ↔
      First (fun record => Identifies (PyJson.field record "id"))
        (fun record => IsNotText (PyJson.field record "id")) (entities.records entity) :=
    Run.first_congr (fun _ _ => Iff.rfl) fun record _ => by rw [toUUID_raises, not_not]
  rw [hids]
  refine and_iff_left fun expected _ => ?_
  exact raisesOnly_bind.mpr ⟨raisesOnly_require.mpr fun _ => rfl, fun _ _ => raisesOnly_ok⟩

theorem exists_compareIds {entity : EntityName} :
    (∃ same, compareIds db target entities entity = .ok same) ↔
      (∀ id ∈ recordIds entities entity, Identifies id) ∧ db.selectsIds entity = true := by
  have hids : (∀ id ∈ recordIds entities entity, Identifies id) ↔
      ∃ expected, ((entities.records entity).mapM fun record =>
        toUUID (PyJson.field record "id")) = .ok expected := by
    rw [Run.exists_mapM_eq_ok, recordIds, List.forall_mem_map]
    exact Iff.rfl
  rw [hids]
  unfold compareIds
  constructor
  · rintro ⟨same, h⟩
    obtain ⟨expected, hexpected, h⟩ := bind_eq_ok.mp h
    obtain ⟨_, hselects, -⟩ := bind_eq_ok.mp h
    exact ⟨⟨expected, mapError_eq_ok.mp hexpected⟩, require_eq_ok.mp hselects⟩
  · rintro ⟨⟨expected, hexpected⟩, hselects⟩
    exact ⟨_, bind_eq_ok.mpr ⟨expected, mapError_eq_ok.mpr hexpected,
      bind_eq_ok.mpr ⟨(), require_eq_ok.mpr hselects, rfl⟩⟩⟩

theorem guardImportTarget_raises : RaisesOnly Tame (guardImportTarget db target entities) ↔
    (db.counts = true → ¬ target.isEmpty → ¬ ComparesNotText db entities) := by
  have hcompare : RaisesOnly Tame (EntityName.all.mapM (compareIds db target entities)) ↔
      ¬ ComparesNotText db entities := by
    rw [raisesOnly_mapM, ComparesNotText]
    refine not_congr (Run.first_congr (fun entity _ => exists_compareIds) fun entity _ => ?_)
    rw [compareIds_raises, not_not]
  unfold guardImportTarget
  rw [raisesOnly_bind, raisesOnly_require]
  constructor
  · rintro ⟨-, h⟩ hcounts hoccupied
    replace h := h () (require_eq_ok.mpr hcounts)
    rw [if_neg hoccupied] at h
    exact hcompare.mp (raisesOnly_bind.mp h).1
  · intro h
    refine ⟨fun _ => rfl, fun _ hcounts => ?_⟩
    split
    · exact raisesOnly_ok
    · rename_i hoccupied
      refine raisesOnly_bind.mpr
        ⟨hcompare.mpr (h (require_eq_ok.mp hcounts) hoccupied), fun same _ => ?_⟩
      exact raisesOnly_bind.mpr
        ⟨raisesOnly_require.mpr fun _ => rfl, fun _ _ => raisesOnly_error.mpr rfl⟩

/-- Only an empty target passes the guard. -/
theorem guardImportTarget_eq_ok : guardImportTarget db target entities = .ok () ↔
    db.counts = true ∧ target.isEmpty := by
  unfold guardImportTarget
  rw [bind_eq_ok]
  constructor
  · rintro ⟨_, hcounts, h⟩
    refine ⟨require_eq_ok.mp hcounts, ?_⟩
    split at h
    · assumption
    · obtain ⟨same, -, h⟩ := bind_eq_ok.mp h
      obtain ⟨_, -, h⟩ := bind_eq_ok.mp h
      cases h
  · rintro ⟨hcounts, hempty⟩
    exact ⟨(), require_eq_ok.mpr hcounts, by rw [if_pos hempty]; rfl⟩

theorem importEntity_eq_ok {entity : EntityName} {out : EntityName × List DecodedRecord} :
    importEntity db entities entity = .ok out ↔ out.1 = entity ∧
      ∃ decoded, (entities.records entity).mapM (decodeRecord entity) = .ok decoded ∧
        db.flush entity decoded = some out.2 := by
  unfold importEntity
  constructor
  · intro h
    obtain ⟨decoded, hdecoded, h⟩ := bind_eq_ok.mp h
    obtain ⟨stored, hstored, h⟩ := bind_eq_ok.mp h
    cases h
    exact ⟨rfl, decoded, mapError_eq_ok.mp hdecoded, requireSome_eq_ok.mp hstored⟩
  · obtain ⟨name, stored⟩ := out
    rintro ⟨rfl, decoded, hdecoded, hstored⟩
    exact bind_eq_ok.mpr ⟨decoded, mapError_eq_ok.mpr hdecoded,
      bind_eq_ok.mpr ⟨stored, requireSome_eq_ok.mpr hstored, rfl⟩⟩

theorem exists_importEntity {entity : EntityName} :
    (∃ out, importEntity db entities entity = .ok out) ↔ Flushes db entities entity := by
  constructor
  · rintro ⟨out, h⟩
    obtain ⟨-, decoded, hdecoded, hstored⟩ := importEntity_eq_ok.mp h
    exact ⟨decoded, out.2, hdecoded, hstored⟩
  · rintro ⟨decoded, stored, hdecoded, hstored⟩
    exact ⟨(entity, stored), importEntity_eq_ok.mpr ⟨rfl, decoded, hdecoded, hstored⟩⟩

theorem importEntity_raises {entity : EntityName} :
    RaisesOnly Tame (importEntity db entities entity) ↔
      ¬ First Cell.Decodes Cell.NotTextId (cells entities entity) := by
  unfold importEntity
  rw [raisesOnly_bind, raisesOnly_mapError, decodeRecords_raises]
  refine and_iff_left fun decoded _ => ?_
  exact raisesOnly_bind.mpr ⟨raisesOnly_requireSome.mpr fun _ => rfl, fun _ _ => raisesOnly_ok⟩

/-- **What the transaction raises is told as an error of the module, unless it comes to an
identifier that is neither null nor text.** -/
theorem importRecords_raises : RaisesOnly Tame (importRecords db entities target) ↔
    (db.counts = true → ¬ target.isEmpty → ¬ ComparesNotText db entities) ∧
      (db.counts = true → target.isEmpty → ¬ DecodesNotText db entities) := by
  have himport : RaisesOnly Tame (EntityName.all.mapM (importEntity db entities)) ↔
      ¬ DecodesNotText db entities := by
    rw [raisesOnly_mapM, DecodesNotText]
    refine not_congr (Run.first_congr (fun entity _ => exists_importEntity) fun entity _ => ?_)
    rw [importEntity_raises, not_not]
  unfold importRecords
  rw [raisesOnly_bind, guardImportTarget_raises]
  refine and_congr_right fun _ => ?_
  constructor
  · intro h hcounts hempty
    have htables := h () (guardImportTarget_eq_ok.mpr ⟨hcounts, hempty⟩)
    exact himport.mp (raisesOnly_bind.mp htables).1
  · intro h _ hguard
    obtain ⟨hcounts, hempty⟩ := guardImportTarget_eq_ok.mp hguard
    refine raisesOnly_bind.mpr ⟨himport.mpr (h hcounts hempty), fun tables _ => ?_⟩
    exact raisesOnly_bind.mpr ⟨raisesOnly_require.mpr fun _ => rfl, fun _ _ => raisesOnly_ok⟩

/-- The tables of an import, found by their names. -/
theorem lookup_of_forall₂ {names : List EntityName} {tables : List (EntityName × List DecodedRecord)}
    (Q : EntityName → List DecodedRecord → Prop)
    (h : List.Forall₂ (fun entity table => table.1 = entity ∧ Q entity table.2) names tables)
    {entity : EntityName} (hentity : entity ∈ names) :
    ∃ stored, tables.lookup entity = some stored ∧ Q entity stored := by
  induction h with
  | nil => cases hentity
  | @cons name table names tables hfirst _ ih =>
      obtain ⟨key, stored⟩ := table
      obtain ⟨rfl, hstored⟩ := hfirst
      rw [List.lookup_cons]
      by_cases hkey : entity = key
      · subst hkey
        exact ⟨stored, by simp, hstored⟩
      · rw [beq_eq_false_iff_ne.mpr hkey]
        exact ih ((List.mem_cons.mp hentity).resolve_left hkey)

/-- A transaction that commits found the target empty, and stored what the flushes left. -/
theorem of_importRecords {after : Target} (h : importRecords db entities target = .ok after) :
    (db.counts = true ∧ target.isEmpty ∧ db.commits = true) ∧
      after.webhookEvents = target.webhookEvents ∧
      ∀ entity, ∃ decoded, (entities.records entity).mapM (decodeRecord entity) = .ok decoded ∧
        db.flush entity decoded = some (after.rows entity) := by
  obtain ⟨_, hguard, h⟩ := bind_eq_ok.mp h
  obtain ⟨tables, htables, h⟩ := bind_eq_ok.mp h
  obtain ⟨_, hcommits, h⟩ := bind_eq_ok.mp h
  cases h
  obtain ⟨hcounts, hempty⟩ := guardImportTarget_eq_ok.mp hguard
  refine ⟨⟨hcounts, hempty, require_eq_ok.mp hcommits⟩, rfl, fun entity => ?_⟩
  have htables := (Run.mapM_eq_ok.mp htables).imp fun _ _ h => importEntity_eq_ok.mp h
  obtain ⟨stored, hstored, decoded, hdecoded, hflush⟩ := lookup_of_forall₂
    (fun entity stored => ∃ decoded, (entities.records entity).mapM (decodeRecord entity) =
      .ok decoded ∧ db.flush entity decoded = some stored) htables entity.mem_all
  have hrows : target.rows entity = [] := List.isEmpty_iff.mp (hempty.1 entity entity.mem_all)
  refine ⟨decoded, hdecoded, ?_⟩
  rw [hflush, Target.fill]
  dsimp only
  rw [hrows, hstored]
  rfl

/-- The transaction commits where nothing stands in its way. -/
theorem exists_importRecords (hcounts : db.counts = true) (hempty : target.isEmpty)
    (hcommits : db.commits = true) (hflushes : ∀ entity, Flushes db entities entity) :
    ∃ after, importRecords db entities target = .ok after := by
  obtain ⟨tables, htables⟩ : ∃ tables, EntityName.all.mapM (importEntity db entities) = .ok tables :=
    Run.exists_mapM_eq_ok.mpr fun entity _ => exists_importEntity.mpr (hflushes entity)
  exact ⟨target.fill tables, bind_eq_ok.mpr ⟨(), guardImportTarget_eq_ok.mpr ⟨hcounts, hempty⟩,
    bind_eq_ok.mpr ⟨tables, htables, bind_eq_ok.mpr ⟨(), require_eq_ok.mpr hcommits, rfl⟩⟩⟩⟩

/-! ### The import

Two questions are asked at once: is the error one of the module, and is the target
either as it was or filled with the whole bundle. The second can fail only where the
database keeps something else than it is given, since the import is one transaction.
-/

/-- What an import leaves where it raises nothing: the records the bundle decodes to. -/
def HoldsBundle (file : Option (List UInt8)) (before after : Target) : Prop :=
  ∃ bundle, loadBundle file = .ok bundle ∧ after.webhookEvents = before.webhookEvents ∧
    ∀ entity, ∃ decoded,
      (bundle.entities.records entity).mapM (decodeRecord entity) = .ok decoded ∧
        (after.rows entity).Perm decoded

/-- The import is all or nothing, with the errors of the module. -/
def AllOrNothing (db : Database) (file : Option (List UInt8)) (target : Target) : Prop :=
  match importPublicDemoBundle db file target with
  | (.ok _, after) => HoldsBundle file target after
  | (.error error, after) => OwnError error ∧ after = target

section

variable {file : Option (List UInt8)} {bundle : Bundle} {error : BundleException} {after : Target}

theorem import_of_load_error (h : loadBundle file = .error error) :
    importPublicDemoBundle db file target = (.error error, target) := by
  rw [importPublicDemoBundle, h]

theorem import_of_error (h : loadBundle file = .ok bundle)
    (himport : importRecords db bundle.entities target = .error error) :
    importPublicDemoBundle db file target = (.error (failedSafely error), target) := by
  rw [importPublicDemoBundle, h]
  dsimp only
  rw [himport]

theorem import_of_ok (h : loadBundle file = .ok bundle)
    (himport : importRecords db bundle.entities target = .ok after) :
    importPublicDemoBundle db file target =
      (.ok ⟨bundle.version, bundle.caseCount, bundle.checksum⟩, after) := by
  rw [importPublicDemoBundle, h]
  dsimp only
  rw [himport]

/-- Whatever an import raises, the target is as it was. -/
theorem import_error_unchanged
    (h : importPublicDemoBundle db file target = (.error error, after)) : after = target := by
  cases hload : loadBundle file with
  | error e =>
      rw [import_of_load_error hload] at h
      exact (congrArg Prod.snd h).symm
  | ok bundle =>
      cases himport : importRecords db bundle.entities target with
      | error e =>
          rw [import_of_error hload himport] at h
          exact (congrArg Prod.snd h).symm
      | ok after' =>
          rw [import_of_ok hload himport] at h
          cases h

end

/-- The transaction meets no error the module does not tell as its own, and the database keeps
what it is given. -/
structure ImportsTables (db : Database) (entities : BundleEntities) (target : Target) : Prop where
  /-- In an occupied target, no identifier that is compared is neither null nor text. -/
  compared : db.counts = true → ¬ target.isEmpty → ¬ ComparesNotText db entities
  /-- In an empty one, no identifier that is decoded is neither null nor text. -/
  decoded : db.counts = true → target.isEmpty → ¬ DecodesNotText db entities
  /-- Records that are all taken are stored as they were decoded. -/
  kept : db.counts = true → target.isEmpty → db.commits = true →
    (∀ entity, Flushes db entities entity) → ∀ entity decoded stored,
      (entities.records entity).mapM (decodeRecord entity) = .ok decoded →
      db.flush entity decoded = some stored → stored.Perm decoded

/-- So does the import of a file. -/
structure Importable (db : Database) (file : Option (List UInt8)) (target : Target) : Prop where
  legible : Legible file
  /-- A payload that is to be hashed holds no surrogate. -/
  encodable : ∀ bundle fields checksum, readBundle file = .ok bundle →
    checkEnvelope bundle = .ok (fields, checksum) → (payloadOf fields).Scalar
  tables : ∀ bundle, loadBundle file = .ok bundle → ImportsTables db bundle.entities target

/-- A transaction that raises does it as it should exactly where it imports its tables. -/
theorem importsTables_of_error {error : BundleException}
    (h : importRecords db entities target = .error error) :
    ImportsTables db entities target ↔ Tame error := by
  have hraises : RaisesOnly Tame (importRecords db entities target) ↔ Tame error := by
    rw [h, raisesOnly_error]
  rw [← hraises, importRecords_raises]
  constructor
  · exact fun himports => ⟨himports.compared, himports.decoded⟩
  · rintro ⟨hcompared, hdecoded⟩
    refine ⟨hcompared, hdecoded, fun hcounts hempty hcommits hflushes => ?_⟩
    obtain ⟨after, hafter⟩ := exists_importRecords hcounts hempty hcommits hflushes
    rw [h] at hafter
    cases hafter

/-- A transaction that commits stores the records as they were decoded exactly there. -/
theorem importsTables_of_ok {after : Target}
    (h : importRecords db entities target = .ok after) :
    ImportsTables db entities target ↔ ∀ entity, ∃ decoded,
      (entities.records entity).mapM (decodeRecord entity) = .ok decoded ∧
        (after.rows entity).Perm decoded := by
  obtain ⟨⟨hcounts, hempty, hcommits⟩, -, hrows⟩ := of_importRecords h
  constructor
  · intro himports entity
    obtain ⟨decoded, hrecords, hflush⟩ := hrows entity
    have hflushes : ∀ other, Flushes db entities other := fun other => by
      obtain ⟨decoded, hrecords, hflush⟩ := hrows other
      exact ⟨decoded, _, hrecords, hflush⟩
    exact ⟨decoded, hrecords,
      himports.kept hcounts hempty hcommits hflushes entity decoded _ hrecords hflush⟩
  · intro hholds
    obtain ⟨hcompared, hdecoded⟩ := importRecords_raises.mp
      (show RaisesOnly Tame (importRecords db entities target) by rw [h]; exact raisesOnly_ok)
    refine ⟨hcompared, hdecoded, fun _ _ _ _ entity decoded stored hrecords hflush => ?_⟩
    obtain ⟨first, hfirst, hstored⟩ := hrows entity
    obtain ⟨second, hsecond, hperm⟩ := hholds entity
    obtain rfl : first = decoded := Except.ok.inj (hfirst.symm.trans hrecords)
    obtain rfl : second = first := Except.ok.inj (hsecond.symm.trans hrecords)
    obtain rfl : after.rows entity = stored := Option.some.inj (hstored.symm.trans hflush)
    exact hperm

/-- **An import is all or nothing, with the errors of the module, exactly where it is
importable.** -/
theorem import_allOrNothing_iff (db : Database) (file : Option (List UInt8)) (target : Target) :
    AllOrNothing db file target ↔ Importable db file target := by
  have hload_iff : RaisesOnly OwnError (loadBundle file) ∧
      (∀ bundle, loadBundle file = .ok bundle → ImportsTables db bundle.entities target) ↔
      Importable db file target := by
    rw [loadBundle_raises]
    exact ⟨fun h => ⟨h.1.1, h.1.2, h.2⟩, fun h => ⟨⟨h.legible, h.encodable⟩, h.tables⟩⟩
  rw [← hload_iff]
  cases hload : loadBundle file with
  | error error =>
      rw [AllOrNothing, import_of_load_error hload, raisesOnly_error]
      simp
  | ok bundle =>
      have hone : (∀ other, (.ok bundle : Except BundleException Bundle) = .ok other →
          ImportsTables db other.entities target) ↔ ImportsTables db bundle.entities target := by
        simp
      rw [and_iff_right raisesOnly_ok, hone]
      cases himport : importRecords db bundle.entities target with
      | error error =>
          rw [AllOrNothing, import_of_error hload himport, importsTables_of_error himport]
          exact and_iff_left rfl
      | ok after =>
          obtain ⟨-, hwebhooks, -⟩ := of_importRecords himport
          rw [AllOrNothing, import_of_ok hload himport, importsTables_of_ok himport]
          constructor
          · rintro ⟨other, hother, -, hholds⟩
            obtain rfl : bundle = other := Except.ok.inj (hload.symm.trans hother)
            exact hholds
          · exact fun hholds => ⟨bundle, hload, hwebhooks, hholds⟩

end

section

attribute [local instance] sampleInterpreter

/-- A file that is no UTF-8 text ends in an exception that is none of the module's. -/
theorem import_raises_unicodeDecodeError :
    ¬ ∀ (db : Database) (file : Option (List UInt8)) (target : Target),
      AllOrNothing db file target := by
  intro h
  have hload : loadBundle (some [0xFF]) = .error (python .unicodeDecodeError) := by rfl
  have hraised := h ⟨true, fun _ => true, fun _ records => some records, true⟩ (some [0xFF])
    ⟨fun _ => [], 0⟩
  rw [AllOrNothing, import_of_load_error hload] at hraised
  exact absurd hraised.1 (by decide)

end

end Arc
