/-
What is exported can be imported.

The export checks what it writes, and the import checks what it reads: the encoding, the
envelope, the checksum over the payload, the names of the tables and of their fields, and
the sanitized records once more.  `loadBundle_export` says that no check of the second
kind turns away what has passed the first.  The file holds its values with their keys in
order, and every check is blind to that order.

So a bundle that is exported is imported into an empty target, whose rows are then the
selected ones.  An occupied target is left as it is; whether the import calls the bundle
already imported depends on its identifiers alone.
-/
import Arc.Proofs.BundleRoundTrip
import Arc.Sorting.Stable
import Arc.Text.Encoding

namespace Arc

open Text BundleException

/-! ### Fields in order

The text of the bundle has its keys in order, the entities in memory have not. No check
asks for the order: names are compared as sets, records are looked up by key, and the
checksum is taken of the text with the keys in order on both sides.
-/

/-- The keys decide whether a dictionary has its names. -/
theorem hasKeys_of_perm {fields : List (Str × PyJson)} {names : List String}
    (h : (fields.map Prod.fst).Perm (names.map Str.ofString)) : hasKeys fields names = true := by
  simp only [hasKeys, Bool.and_eq_true, List.all_eq_true, List.any_eq_true, beq_iff_eq]
  constructor
  · intro name hname
    exact List.mem_map.mp (h.mem_iff.mpr (List.mem_map_of_mem hname))
  · intro f hf
    obtain ⟨name, hname, hkey⟩ := List.mem_map.mp (h.mem_iff.mp (List.mem_map_of_mem hf))
    exact ⟨name, hname, hkey.symm⟩

/-- Fields in another order are in order the same. -/
theorem inOrder_eq_of_perm {α : Type} {fields fields' : List (Str × α)} (h : fields.Perm fields')
    (hnodup : (fields.map Prod.fst).Nodup) : PyJson.inOrder fields = PyJson.inOrder fields' := by
  refine Sorting.Separates.canonical (r := fun a b : Str × α => a.1 ≤ b.1) ?_ fields' h
  exact fun a ha b hb hab hba => List.inj_on_of_nodup_map hnodup ha hb (le_antisymm hab hba)

/-- The compact text of a dictionary does not see the order of its fields. -/
theorem dumps_perm {repr : Str → Str} {fields fields' : List (Str × PyJson)}
    (h : fields.Perm fields') (hnodup : (fields.map Prod.fst).Nodup) :
    (PyJson.dict fields).dumps repr = (PyJson.dict fields').dumps repr := by
  rw [← PyJson.dumps_sortKeys, ← PyJson.dumps_sortKeys (.dict fields'), PyJson.sortKeys_dict,
    PyJson.sortKeys_dict, PyJson.sortedFields, PyJson.sortedFields, inOrder_eq_of_perm h hnodup]

/-- Nor does it see the order within the values. -/
theorem dumps_sortedValues {repr : Str → Str} (fields : List (Str × PyJson)) :
    (PyJson.dict (fields.map fun f => (f.1, f.2.sortKeys))).dumps repr =
      (PyJson.dict fields).dumps repr := by
  rw [← PyJson.dumps_sortKeys, ← PyJson.dumps_sortKeys (.dict fields), PyJson.sortKeys_dict,
    PyJson.sortKeys_dict, PyJson.sortedFields, PyJson.sortedFields, PyJson.inOrder_map, List.map_map]
  refine congrArg (fun fields => (PyJson.dict fields).dumps repr) (List.map_congr_left fun f _ => ?_)
  exact congrArg (Prod.mk f.1) (PyJson.sortKeys_sortKeys f.2)

/-- Exported tables in order, with their records in order. -/
def BundleEntities.sorted (entities : BundleEntities) : BundleEntities :=
  (PyJson.inOrder entities).map fun table => (table.1, table.2.map PyJson.sortedFields)

section

variable {entities : BundleEntities}

theorem json_sorted : entities.sorted.json = entities.json.sortKeys := by
  have horder : PyJson.inOrder (entities.map fun table =>
      (table.1, PyJson.list (table.2.map .dict))) =
        (PyJson.inOrder entities).map fun table => (table.1, .list (table.2.map .dict)) :=
    PyJson.inOrder_map (fun records : List BundleRecord => PyJson.list (records.map .dict)) entities
  rw [BundleEntities.json, BundleEntities.json, PyJson.sortKeys_dict, PyJson.sortedFields, horder,
    List.map_map, BundleEntities.sorted, List.map_map]
  refine congrArg PyJson.dict (List.map_congr_left fun table _ => ?_)
  simp [PyJson.sortKeys_list, PyJson.sortKeys_dict]

theorem records_sorted (hnodup : (entities.map Prod.fst).Nodup) (entity : EntityName) :
    entities.sorted.records entity = (entities.records entity).map PyJson.sortedFields := by
  rw [BundleEntities.records, BundleEntities.records, BundleEntities.sorted,
    PyJson.lookup_map_value fun records : List BundleRecord => records.map PyJson.sortedFields,
    PyJson.lookup_perm (PyJson.inOrder_perm entities)
      ((PyJson.inOrder_keys entities).nodup_iff.mpr hnodup)]
  cases entities.lookup (Str.ofString entity.value) <;> rfl

theorem keys_sorted : (entities.sorted.map Prod.fst).Perm (entities.map Prod.fst) := by
  rw [BundleEntities.sorted, List.map_map]
  exact PyJson.inOrder_keys entities

theorem mem_sorted {table : Str × List BundleRecord} (h : table ∈ entities.sorted) :
    ∃ source ∈ entities, table = (source.1, source.2.map PyJson.sortedFields) := by
  obtain ⟨source, hsource, rfl⟩ := List.mem_map.mp h
  exact ⟨source, PyJson.mem_inOrder.mp hsource, rfl⟩

/-- **Tables with the names and the fields of all tables pass as they are.** -/
theorem checkEntities_json
    (hkeys : (entities.map Prod.fst).Perm (EntityName.all.map fun e => Str.ofString e.value))
    (hrecords : ∀ entity, ∀ record ∈ entities.records entity,
      hasKeys record (entity.fields.map Column.key) = true) :
    checkEntities entities.json = .ok entities := by
  have hnodup : (entities.map Prod.fst).Nodup := by
    refine hkeys.nodup_iff.mpr (List.Nodup.map ?_ (by decide))
    exact fun _ _ hvalue => EntityName.value_injective (ofString_injective hvalue)
  have hlookup : ∀ key, (entities.map fun table => (table.1, PyJson.list (table.2.map .dict))).lookup
      key = (entities.lookup key).map fun records => .list (records.map .dict) :=
    PyJson.lookup_map_value (fun records : List BundleRecord => PyJson.list (records.map .dict))
      entities
  have hof : ∀ records : List BundleRecord, recordsOf (.list (records.map .dict)) = records := by
    intro records
    rw [recordsOf, List.filterMap_map]
    exact List.filterMap_some
  have hnames : hasKeys (entities.map fun table => (table.1, PyJson.list (table.2.map .dict)))
      (EntityName.all.map EntityName.value) = true := by
    refine hasKeys_of_perm ?_
    rw [List.map_map, List.map_map]
    exact hkeys
  have hcollection : ∀ entity ∈ EntityName.all, checkCollection
      (entities.map fun table => (table.1, PyJson.list (table.2.map .dict))) entity = .ok () := by
    intro entity _
    have hmem : Str.ofString entity.value ∈ entities.map Prod.fst :=
      hkeys.mem_iff.mpr (List.mem_map_of_mem entity.mem_all)
    obtain ⟨table, htable, hkey⟩ := List.mem_map.mp hmem
    have hfound : entities.lookup (Str.ofString entity.value) = some table.2 :=
      (PyJson.lookup_eq_some_iff hnodup).mpr (by rw [← hkey]; exact htable)
    have htables : entities.records entity = table.2 := by
      rw [BundleEntities.records, hfound, Option.getD_some]
    rw [checkCollection, PyJson.field, hlookup, hfound, Option.map_some, Option.getD_some]
    refine Run.forM_eq_ok.mpr (List.forall_mem_map.mpr fun record hrecord => ?_)
    rw [checkRecord]
    exact require_eq_ok.mpr (hrecords entity record (by rwa [htables]))
  have htables : (entities.map fun table => (table.1, PyJson.list (table.2.map .dict))).map (fun f =>
      (f.1, recordsOf (((entities.map fun table => (table.1, PyJson.list (table.2.map .dict))).lookup
        f.1).getD .none))) = entities := by
    rw [List.map_map]
    refine (List.map_congr_left fun table htable => ?_).trans (List.map_id entities)
    have hfound := (PyJson.lookup_eq_some_iff hnodup).mpr htable
    rw [Function.comp_apply, hlookup, hfound, Option.map_some, Option.getD_some, hof]
    rfl
  rw [BundleEntities.json, checkEntities]
  refine bind_eq_ok.mpr ⟨(), require_eq_ok.mpr hnames, ?_⟩
  exact bind_eq_ok.mpr ⟨(), Run.forM_eq_ok.mpr hcollection, congrArg Except.ok htables⟩

end

/-! ### Loading what was exported

What the export has checked is checked once more by the import, on the entities in order
and without the sensitive values. Each part of the check is shown to be blind to the
order, so that the second check accepts what the first one has.
-/

/-- A text without carriage returns has the line ends it is read with. -/
theorem universalNewlines_eq {text : Str} (h : ∀ c ∈ text, c.val ≠ 0x0D) :
    universalNewlines text = text := by
  induction text using universalNewlines.induct with
  | case1 => rfl
  | case2 c => rw [universalNewlines, if_neg (h c List.mem_cons_self)]
  | case3 c d rest hboth => exact absurd hboth.1 (h c List.mem_cons_self)
  | case4 c d rest hboth ih =>
      rw [universalNewlines, if_neg hboth, if_neg (h c List.mem_cons_self),
        ih fun x hx => h x (List.mem_cons_of_mem c hx)]

theorem lookup_sortedFields {fields : List (Str × PyJson)} (hnodup : (fields.map Prod.fst).Nodup)
    (key : Str) : (PyJson.sortedFields fields).lookup key = (fields.lookup key).map PyJson.sortKeys := by
  rw [PyJson.sortedFields, PyJson.lookup_map_value, PyJson.lookup_perm (PyJson.inOrder_perm fields)
    ((PyJson.inOrder_keys fields).nodup_iff.mpr hnodup)]

theorem checkExternalUrl_sorted {record : BundleRecord} (hnodup : (record.map Prod.fst).Nodup)
    (h : checkExternalUrl record = .ok ()) :
    checkExternalUrl (PyJson.sortedFields record) = .ok () := by
  obtain ⟨url, hurl, hnone⟩ := bind_eq_ok.mp h
  have hsorted : url.sortKeys.isNone = url.isNone := by cases url <;> rfl
  refine bind_eq_ok.mpr ⟨url.sortKeys, ?_, ?_⟩
  · rw [requireSome_eq_ok, lookup_sortedFields hnodup, requireSome_eq_ok.mp hurl, Option.map_some]
  · rw [hsorted]
    exact hnone

theorem isHashValue_sortKeys (value : PyJson) : isHashValue value.sortKeys = isHashValue value := by
  cases value <;> rfl

theorem checkHashes_sorted {table : Str × List BundleRecord} (h : checkHashes table = .ok ()) :
    checkHashes (table.1, table.2.map PyJson.sortedFields) = .ok () := by
  rw [checkHashes, Run.forM_eq_ok] at h ⊢
  refine List.forall_mem_map.mpr fun record hrecord => Run.forM_eq_ok.mpr fun f hf => ?_
  obtain ⟨g, hg, rfl⟩ := PyJson.mem_sortedFields.mp hf
  have hhash := require_eq_ok.mp (Run.forM_eq_ok.mp (h record hrecord) g hg)
  rw [require_eq_ok, isHashValue_sortKeys]
  exact hhash

section

variable [Interpreter]

/-- **Records that pass the check pass it in order.** -/
theorem validate_sorted {entities : BundleEntities} {sensitiveValues : List Str}
    (hstorable : entities.json.Storable Interpreter.floatRepr)
    (hnodup : (entities.map Prod.fst).Nodup)
    (hrecords : ∀ table ∈ entities, ∀ record ∈ table.2, (record.map Prod.fst).Nodup)
    (h : validateSanitizedEntities entities sensitiveValues = .ok ()) :
    validateSanitizedEntities entities.sorted [] = .ok () := by
  unfold validateSanitizedEntities at h ⊢
  obtain ⟨rendered, hrendered, h⟩ := bind_eq_ok.mp h
  obtain ⟨_, -, h⟩ := bind_eq_ok.mp h
  obtain ⟨_, hurl, h⟩ := bind_eq_ok.mp h
  obtain ⟨_, hcredential, h⟩ := bind_eq_ok.mp h
  obtain ⟨_, hraw, h⟩ := bind_eq_ok.mp h
  obtain ⟨actions, hactions, h⟩ := bind_eq_ok.mp h
  obtain ⟨_, hurls, hhashes⟩ := bind_eq_ok.mp h
  obtain ⟨hdepth, -, hwritten⟩ := PyJson.dumpsAscii_eq_ok.mp (mapError_eq_ok.mp hrendered)
  have hrendered' : PyJson.dumpsAscii Recursion.nesting Interpreter.floatRepr none
      entities.sorted.json = .ok rendered := by
    refine PyJson.dumpsAscii_eq_ok.mpr ⟨?_, ?_, ?_⟩
    · rw [json_sorted]
      exact (PyJson.depth_sortKeys _ _).mpr hdepth
    · rw [json_sorted]
      exact PyJson.hasOverlong_of_storable (PyJson.storable_sortKeys hstorable)
    · rw [json_sorted, PyJson.sortKeys_sortKeys]
      exact hwritten
  have hlookup : entities.sorted.lookup (Str.ofString "recovery_actions") =
      some (actions.map PyJson.sortedFields) := by
    rw [BundleEntities.sorted,
      PyJson.lookup_map_value fun records : List BundleRecord => records.map PyJson.sortedFields,
      PyJson.lookup_perm (PyJson.inOrder_perm entities)
        ((PyJson.inOrder_keys entities).nodup_iff.mpr hnodup), requireSome_eq_ok.mp hactions]
    rfl
  have htable : (Str.ofString "recovery_actions", actions) ∈ entities :=
    (PyJson.lookup_eq_some_iff hnodup).mp (requireSome_eq_ok.mp hactions)
  refine bind_eq_ok.mpr ⟨rendered, mapError_eq_ok.mpr hrendered', ?_⟩
  refine bind_eq_ok.mpr ⟨(), require_eq_ok.mpr (by simp), ?_⟩
  refine bind_eq_ok.mpr ⟨(), hurl, bind_eq_ok.mpr ⟨(), hcredential, bind_eq_ok.mpr ⟨(), hraw, ?_⟩⟩⟩
  refine bind_eq_ok.mpr ⟨_, requireSome_eq_ok.mpr hlookup, bind_eq_ok.mpr ⟨(), ?_, ?_⟩⟩
  · refine Run.forM_eq_ok.mpr (List.forall_mem_map.mpr fun record hrecord => ?_)
    exact checkExternalUrl_sorted (hrecords _ htable record hrecord)
      (Run.forM_eq_ok.mp hurls record hrecord)
  · refine Run.forM_eq_ok.mpr fun table hmem => ?_
    obtain ⟨source, hsource, rfl⟩ := mem_sorted hmem
    exact checkHashes_sorted (Run.forM_eq_ok.mp hhashes source hsource)

/-- **The text of a bundle is read back from the bytes of its file.** -/
theorem readBundle_bundleText {bundle : PyJson} (hstorable : bundle.Storable Interpreter.floatRepr)
    {text : Str} (htext : bundleText bundle = .ok text) {bytes : List UInt8}
    (hbytes : encodeUtf8 text = some bytes) : readBundle (some bytes) = .ok bundle.sortKeys := by
  obtain ⟨hdepth, -, rfl⟩ := bundleText_eq_ok.mp htext
  have hscalar : Str.Scalar (PyJson.write Interpreter.floatRepr (some 2) 0 bundle.sortKeys ++ [0x0A]) :=
    encodeUtf8_isSome.mp (by rw [hbytes]; rfl)
  have hlines : universalNewlines (PyJson.write Interpreter.floatRepr (some 2) 0 bundle.sortKeys ++
      [0x0A]) = PyJson.write Interpreter.floatRepr (some 2) 0 bundle.sortKeys ++ [0x0A] := by
    have hvisible : ∀ c ∈ PyJson.write Interpreter.floatRepr (some 2) 0 bundle.sortKeys ++ [0x0A],
        PyJson.Visible (some 2) c := by
      refine PyJson.visible_append ?_ (List.forall_mem_singleton.mpr (.inr ⟨rfl, rfl⟩))
      exact PyJson.write_visible Interpreter.floatRepr_printable bundle.sortKeys 0
    exact universalNewlines_eq fun c hc => (hvisible c hc).ne_return
  have hread : readText bytes =
      some (PyJson.write Interpreter.floatRepr (some 2) 0 bundle.sortKeys ++ [0x0A]) := by
    rw [readText, decodeUtf8_encodeUtf8 hbytes, Option.filter_some, if_pos (decide_eq_true hscalar),
      Option.map_some, hlines]
  have hload : PyJson.loadsText Recursion.nesting
      (PyJson.write Interpreter.floatRepr (some 2) 0 bundle.sortKeys ++ [0x0A]) = .ok bundle.sortKeys :=
    PyJson.loadsText_write hstorable hdepth (by simp [PyJson.isWhitespace])
  unfold readBundle
  rw [requireSome, Run.ok_bind, hread, requireSome, Run.ok_bind, hload]

/-! ### The envelope -/

/-- The fields of a bundle. -/
abbrev bundleFields (entities : BundleEntities) (checksum : Str) : List (Str × PyJson) :=
  exportPayload entities ++ [(Str.ofString "checksum_sha256", .str checksum)]

omit [Interpreter] in
theorem field_bundle {entities : BundleEntities} {checksum : Str} (key : String) (value : PyJson)
    (h : (Str.ofString key, value) ∈ bundleFields entities checksum) :
    PyJson.field (PyJson.sortedFields (bundleFields entities checksum)) key = value.sortKeys := by
  have hnodup := bundleJson_nodup entities checksum
  rw [PyJson.field_sorted hnodup, PyJson.field, (PyJson.lookup_eq_some_iff hnodup).mpr h,
    Option.getD_some]

/-- The envelope of a bundle passes its check. -/
theorem checkEnvelope_bundle (entities : BundleEntities) {checksum : Str}
    (hhash : isHash checksum = true) :
    checkEnvelope (bundleJson entities checksum).sortKeys =
      .ok (PyJson.sortedFields (bundleFields entities checksum), checksum) := by
  have hkeys : hasKeys (PyJson.sortedFields (bundleFields entities checksum)) envelopeKeys = true :=
    hasKeys_of_perm (PyJson.sortedFields_keys _)
  have hmem : ∀ field ∈ exportPayload entities, field ∈ bundleFields entities checksum :=
    fun _ h => List.mem_append_left _ h
  have hversion := field_bundle "bundle_version" (.str (Str.ofString bundleVersion))
    (hmem _ (by simp [exportPayload]))
  have hcount := field_bundle "case_count" (.int 5) (hmem _ (by simp [exportPayload]))
  have hchecksum := field_bundle "checksum_sha256" (.str checksum)
    (List.mem_append_right (exportPayload entities) (List.mem_singleton.mpr rfl))
  rw [bundleJson, PyJson.sortKeys_dict, checkEnvelope]
  refine bind_eq_ok.mpr ⟨(), require_eq_ok.mpr hkeys, ?_⟩
  refine bind_eq_ok.mpr ⟨(), require_eq_ok.mpr ⟨?_, ?_⟩, ?_⟩
  · rw [hversion]
    decide +kernel
  · rw [hcount]
    rfl
  · rw [hchecksum]
    exact bind_eq_ok.mpr ⟨(), require_eq_ok.mpr hhash, rfl⟩

/-- **The checksum of a bundle that is read is taken of what it was taken of.** -/
theorem bundleChecksum_payload (entities : BundleEntities) (checksum : Str) :
    bundleChecksum (payloadOf (PyJson.sortedFields (bundleFields entities checksum))) =
      bundleChecksum (.dict (exportPayload entities)) := by
  have hnodup : ((bundleFields entities checksum).map Prod.fst).Nodup :=
    bundleJson_nodup entities checksum
  have hpayload : (bundleFields entities checksum).filter (fun f =>
      f.1 ≠ Str.ofString "checksum_sha256") = exportPayload entities := by
    have hversion : Str.ofString "bundle_version" ≠ Str.ofString "checksum_sha256" := by decide
    have hcount : Str.ofString "case_count" ≠ Str.ofString "checksum_sha256" := by decide
    have hentities : Str.ofString "entities" ≠ Str.ofString "checksum_sha256" := by decide
    simp [exportPayload, hversion, hcount, hentities]
  have hperm : ((PyJson.inOrder (bundleFields entities checksum)).filter fun f =>
      f.1 ≠ Str.ofString "checksum_sha256").Perm (exportPayload entities) := by
    have hfilter := (PyJson.inOrder_perm (bundleFields entities checksum)).filter
      fun f => f.1 ≠ Str.ofString "checksum_sha256"
    rwa [hpayload] at hfilter
  have hkeys : (((PyJson.inOrder (bundleFields entities checksum)).filter fun f =>
      f.1 ≠ Str.ofString "checksum_sha256").map Prod.fst).Nodup :=
    ((PyJson.inOrder_keys _).nodup_iff.mpr hnodup).sublist (List.filter_sublist.map _)
  rw [bundleChecksum, bundleChecksum, payloadOf, PyJson.sortedFields, List.filter_map,
    dumps_sortedValues, ← dumps_perm hperm hkeys]
  rfl

/-! ### A bundle that was exported -/

section

variable {selection : EvidenceSelection} {rows : SourceRows}

/-- The exported records of a table were written of its rows. -/
theorem table_of_serializeEntities {entities : BundleEntities}
    (h : serializeEntities selection rows = .ok entities) {table : Str × List BundleRecord}
    (htable : table ∈ entities) : ∃ entity : EntityName, table.1 = Str.ofString entity.value ∧
      ∀ record ∈ table.2, ∃ row : Row entity, serializeRecord selection entity row = .ok record := by
  obtain ⟨entity, -, hentity⟩ := Run.exists_of_mem_mapM h htable
  exact ⟨entity, serializeTable_eq_ok hentity⟩

theorem row_of_serializeEntities {entities : BundleEntities}
    (h : serializeEntities selection rows = .ok entities) {entity : EntityName}
    {record : BundleRecord} (hrecord : record ∈ entities.records entity) :
    ∃ row : Row entity, serializeRecord selection entity row = .ok record := by
  obtain ⟨records, hlookup, -⟩ := lookup_serializeEntities h entity
  have hrecords : entities.records entity = records := by
    rw [BundleEntities.records, hlookup, Option.getD_some]
  have htable := (PyJson.lookup_eq_some_iff (entities_nodup h)).mp hlookup
  obtain ⟨name, hname, hrows⟩ := table_of_serializeEntities h htable
  obtain rfl : entity = name := EntityName.value_injective (ofString_injective hname)
  exact hrows record (hrecords ▸ hrecord)

/-- A record that was written of a row has the names of its fields, each once. -/
theorem keys_of_serializeRecord {entity : EntityName} {row : Row entity} {record : BundleRecord}
    (h : serializeRecord selection entity row = .ok record) :
    record.map Prod.fst = (entity.fields.map Column.key).map Str.ofString ∧
      (record.map Prod.fst).Nodup := by
  obtain ⟨values, -, hrecord⟩ := bind_eq_ok.mp h
  cases hrecord
  refine ⟨?_, recordFields_nodup⟩
  rw [recordFields, List.map_map, List.map_map]
  rfl

/-- **No check of the import turns away what the export has written.** -/
theorem loadBundle_export
    (hhash : ∀ bytes, isHash (Str.ofString (Interpreter.sha256 bytes)) = true)
    {bytes : List UInt8} {checksum : Str}
    (h : exportPublicDemoBundle selection rows = .ok (bytes, checksum)) :
    ∃ entities, serializeEntities selection rows = .ok entities ∧ loadBundle (some bytes) =
      .ok ⟨.str (Str.ofString bundleVersion), .int 5, checksum, entities.sorted⟩ := by
  obtain ⟨entities, hentities, h⟩ := bind_eq_ok.mp h
  obtain ⟨_, hvalid, h⟩ := bind_eq_ok.mp h
  obtain ⟨digest, hdigest, h⟩ := bind_eq_ok.mp h
  obtain ⟨text, htext, h⟩ := bind_eq_ok.mp h
  obtain ⟨written, hwritten, h⟩ := bind_eq_ok.mp h
  cases h
  have hserialize := mapError_eq_ok.mp hentities
  have hnodup := entities_nodup hserialize
  obtain ⟨canonical, -, hsha⟩ := bind_eq_ok.mp hdigest
  cases hsha
  have hread := readBundle_bundleText (bundleJson_storable hserialize _) htext
    (requireSome_eq_ok.mp hwritten)
  have hkeys : (entities.sorted.map Prod.fst).Perm
      (EntityName.all.map fun entity => Str.ofString entity.value) := by
    rw [← keys_of_serializeEntities hserialize]
    exact keys_sorted
  have hrecords : ∀ entity, ∀ record ∈ entities.sorted.records entity,
      hasKeys record (entity.fields.map Column.key) = true := by
    intro entity record hrecord
    rw [records_sorted hnodup] at hrecord
    obtain ⟨source, hsource, rfl⟩ := List.mem_map.mp hrecord
    obtain ⟨row, hrow⟩ := row_of_serializeEntities hserialize hsource
    refine hasKeys_of_perm ((PyJson.sortedFields_keys source).trans ?_)
    rw [(keys_of_serializeRecord hrow).1]
  have hsorted : validateSanitizedEntities entities.sorted [] = .ok () := by
    refine validate_sorted (entities_storable hserialize) hnodup (fun table htable record hmem => ?_)
      hvalid
    obtain ⟨entity, -, hrows⟩ := table_of_serializeEntities hserialize htable
    obtain ⟨row, hrow⟩ := hrows record hmem
    exact (keys_of_serializeRecord hrow).2
  have htables : PyJson.field (PyJson.sortedFields (bundleFields entities
      (Str.ofString (Interpreter.sha256 canonical)))) "entities" = entities.sorted.json := by
    rw [field_bundle _ entities.json (by simp [exportPayload]), json_sorted]
  have hversion : PyJson.field (PyJson.sortedFields (bundleFields entities
      (Str.ofString (Interpreter.sha256 canonical)))) "bundle_version" =
        .str (Str.ofString bundleVersion) :=
    field_bundle _ (.str (Str.ofString bundleVersion)) (by simp [exportPayload])
  have hcount : PyJson.field (PyJson.sortedFields (bundleFields entities
      (Str.ofString (Interpreter.sha256 canonical)))) "case_count" = .int 5 :=
    field_bundle _ (.int 5) (by simp [exportPayload])
  refine ⟨entities, hserialize, ?_⟩
  refine bind_eq_ok.mpr ⟨_, hread, bind_eq_ok.mpr ⟨_, checkEnvelope_bundle entities (hhash _), ?_⟩⟩
  refine bind_eq_ok.mpr ⟨_, (bundleChecksum_payload entities _).trans hdigest, ?_⟩
  refine bind_eq_ok.mpr ⟨(), require_eq_ok.mpr rfl, ?_⟩
  refine bind_eq_ok.mpr ⟨entities.sorted, ?_, bind_eq_ok.mpr ⟨(), hsorted, ?_⟩⟩
  · rw [htables]
    exact checkEntities_json hkeys hrecords
  · rw [hversion, hcount]
    rfl

/-! ### Identifiers

The guard of the import compares identifiers, those of the records with those that are
stored. Both are the identifiers of the selected rows, because neither the export nor
the import changes one.
-/

/-- Every row has an identifier. -/
theorem exists_rowId {entity : EntityName} (row : Row entity) :
    ∃ id, row.cell "id" = .uuid id ∧ row.uuid "id" = .ok id := by
  obtain ⟨id, hid⟩ := (row.typed _ (id_mem_fields entity)).resolve_left (by simp [Column.required])
  refine ⟨id, hid, ?_⟩
  rw [Row.uuid]
  replace hid : row.cell "id" = .uuid id := hid
  rw [hid]

/-- The identifiers of rows. -/
def rowIds {entity : EntityName} (rows : List (Row entity)) : List UUID :=
  rows.filterMap fun row => (row.uuid "id").toOption

theorem rowIds_cons {entity : EntityName} {row : Row entity} {id : UUID}
    (h : row.uuid "id" = .ok id) (rest : List (Row entity)) :
    rowIds (row :: rest) = id :: rowIds rest := by
  rw [rowIds, List.filterMap_cons, h]
  rfl

/-- The identifier of a row is read from the record that was written of it. -/
theorem toUUID_of_serializeRecord (huuid : UuidTexts) {entity : EntityName} {row : Row entity}
    {record : BundleRecord} (h : serializeRecord selection entity row = .ok record) {id : UUID}
    (hid : row.cell "id" = .uuid id) :
    toUUID (PyJson.field (PyJson.sortedFields record) "id") = .ok id := by
  obtain ⟨values, hvalues, hrecord⟩ := bind_eq_ok.mp h
  cases hrecord
  have hmem := id_mem_fields entity
  have hsame := (sanitizedValues_sanitizes hvalues).identifiers _ hmem none rfl
  have hvalue : values "id" = .uuid id := hsame.trans hid
  have hfield : PyJson.field (recordFields entity values) "id" = jsonValue (values "id") :=
    field_recordFields hmem
  rw [PyJson.field_sorted recordFields_nodup, hfield, hvalue]
  show toUUID (.str (Str.ofString (Interpreter.uuidText id))) = _
  rw [toUUID, huuid id]
  rfl

/-- The identifiers of written records are those of the rows. -/
theorem recordIds_of_serialized (huuid : UuidTexts) {entity : EntityName}
    {exported : List (Row entity)} {records : List BundleRecord}
    (h : List.Forall₂ (fun row record => serializeRecord selection entity row = .ok record)
      exported records) :
    (records.map PyJson.sortedFields).mapM (fun record => toUUID (PyJson.field record "id")) =
      .ok (rowIds exported) := by
  induction h with
  | nil => rfl
  | @cons row record exported records hrow _ ih =>
      obtain ⟨id, hcell, hid⟩ := exists_rowId row
      rw [List.map_cons, List.mapM_cons, toUUID_of_serializeRecord huuid hrow hcell, Run.ok_bind, ih,
        rowIds_cons hid]
      rfl

/-- The identifiers of stored records are those of the rows they restore. -/
theorem storedIds_of_restored {entity : EntityName} {exported : List (Row entity)}
    {decoded : List DecodedRecord} (h : List.Forall₂ (Restores selection) exported decoded) :
    storedIds decoded = rowIds exported := by
  induction h with
  | nil => rfl
  | @cons row record exported decoded hrow _ ih =>
      obtain ⟨id, hcell, hid⟩ := exists_rowId row
      have hlookup : record.lookup "id" = some (row.cell "id") :=
        hrow.identifier (id_mem_fields entity) rfl
      rw [storedIds, List.filterMap_cons, hlookup, hcell, rowIds_cons hid, ← ih]
      rfl

/-! ### The import -/

/-- The target holds rows with these identifiers, no others, and no webhook event. -/
def Target.HoldsIds (target : Target) (ids : EntityName → List UUID) : Prop :=
  target.webhookEvents = 0 ∧ ∀ entity,
    storedIds (target.rows entity) ⊆ ids entity ∧ ids entity ⊆ storedIds (target.rows entity)

/-- A database that answers every statement and keeps what it is given. -/
structure Database.Works (db : Database) : Prop where
  counts : db.counts = true
  selectsIds : ∀ entity, db.selectsIds entity = true
  flush : ∀ entity decoded, db.flush entity decoded = some decoded
  commits : db.commits = true

/-- What an import of a bundle that is there already raises. -/
abbrev alreadyImported : BundleException :=
  publicDemoAlreadyImportedError "Exact public demo bundle is already imported"

/-- What an import into an occupied target raises otherwise. -/
abbrev unexpectedData : BundleException :=
  publicDemoImportError "Target database contains unexpected operational data"

/-- **An occupied target is compared by its identifiers alone.** -/
theorem guardImportTarget_occupied {db : Database} (hdb : db.Works) {target : Target}
    (hoccupied : ¬ target.isEmpty) {entities : BundleEntities} {ids : EntityName → List UUID}
    (hids : ∀ entity, (entities.records entity).mapM
      (fun record => toUUID (PyJson.field record "id")) = .ok (ids entity)) :
    (target.HoldsIds ids → guardImportTarget db target entities = .error alreadyImported) ∧
      (¬ target.HoldsIds ids → guardImportTarget db target entities = .error unexpectedData) := by
  have hcompare : ∀ entity, compareIds db target entities entity =
      .ok (decide (storedIds (target.rows entity) ⊆ ids entity ∧
        ids entity ⊆ storedIds (target.rows entity))) := by
    intro entity
    refine bind_eq_ok.mpr ⟨ids entity, mapError_eq_ok.mpr (hids entity), ?_⟩
    exact bind_eq_ok.mpr ⟨(), require_eq_ok.mpr (hdb.selectsIds entity), rfl⟩
  have hsame : EntityName.all.mapM (compareIds db target entities) =
      .ok (EntityName.all.map fun entity => decide (storedIds (target.rows entity) ⊆ ids entity ∧
        ids entity ⊆ storedIds (target.rows entity))) := by
    refine Run.mapM_eq_ok.mpr (List.forall₂_map_right_iff.mpr (List.forall₂_same.mpr ?_))
    exact fun entity _ => hcompare entity
  have hholds : (target.webhookEvents = 0 ∧ (EntityName.all.map fun entity =>
      decide (storedIds (target.rows entity) ⊆ ids entity ∧
        ids entity ⊆ storedIds (target.rows entity))).all id = true) ↔ target.HoldsIds ids := by
    simp only [List.all_map, List.all_eq_true, Function.comp_apply, id_eq, decide_eq_true_eq]
    exact and_congr_right fun _ => ⟨fun h entity => h entity entity.mem_all, fun h entity _ => h entity⟩
  unfold guardImportTarget
  constructor
  · intro h
    refine Run.bind_eq_error.mpr (.inr ⟨(), require_eq_ok.mpr hdb.counts, ?_⟩)
    rw [if_neg hoccupied]
    refine Run.bind_eq_error.mpr (.inr ⟨_, hsame, Run.bind_eq_error.mpr (.inl ?_)⟩)
    exact require_eq_error.mpr ⟨not_not_intro (hholds.mpr h), rfl⟩
  · intro h
    refine Run.bind_eq_error.mpr (.inr ⟨(), require_eq_ok.mpr hdb.counts, ?_⟩)
    rw [if_neg hoccupied]
    refine Run.bind_eq_error.mpr (.inr ⟨_, hsame, Run.bind_eq_error.mpr (.inr ⟨(), ?_, rfl⟩)⟩)
    exact require_eq_ok.mpr (mt hholds.mp h)

theorem Target.holdsIds_perm {target : Target} {ids ids' : EntityName → List UUID}
    (h : ∀ entity, (ids entity).Perm (ids' entity)) : target.HoldsIds ids ↔ target.HoldsIds ids' := by
  refine and_congr_right fun _ => forall_congr' fun entity => ?_
  simp only [List.subset_def, (h entity).mem_iff]

/-- The target holds what the selected rows are exported as, and every reference leads where it
led. -/
def Target.HoldsSelection (target : Target) (selection : EvidenceSelection) (rows : SourceRows) :
    Prop :=
  target.webhookEvents = 0 ∧ ∃ exported : SourceRows,
    (∀ entity, (exported entity).Perm (selectRows selection rows entity) ∧
      List.Forall₂ (Restores selection) (exported entity) (target.rows entity)) ∧
    ∀ entity, ∀ column ∈ entity.fields, ∀ table, column.type = .uuid (some table) →
      ∀ source ∈ (exported entity).zip (target.rows entity),
      ∀ named ∈ (exported table).zip (target.rows table),
        source.1.cell column.key = named.1.cell "id" ↔
          source.2.lookup column.key = named.2.lookup "id"

/-- The rows of the target have the identifiers of the selected rows. -/
theorem Target.HoldsSelection.holdsIds {target : Target} (h : target.HoldsSelection selection rows) :
    target.HoldsIds fun entity => rowIds (selectRows selection rows entity) := by
  obtain ⟨hevents, exported, hrestored, -⟩ := h
  refine ⟨hevents, fun entity => ?_⟩
  obtain ⟨hperm, hall⟩ := hrestored entity
  have hids : (rowIds (exported entity)).Perm (rowIds (selectRows selection rows entity)) :=
    hperm.filterMap _
  rw [storedIds_of_restored hall]
  exact ⟨hids.subset, hids.symm.subset⟩

/-- Where a row is selected, the target holds a row. -/
theorem Target.HoldsSelection.not_isEmpty {target : Target} (h : target.HoldsSelection selection rows)
    (hselected : ∃ entity, selectRows selection rows entity ≠ []) : ¬ target.isEmpty := by
  intro hempty
  obtain ⟨entity, hne⟩ := hselected
  obtain ⟨-, exported, hrestored, -⟩ := h
  obtain ⟨hperm, hall⟩ := hrestored entity
  have hrows : target.rows entity = [] := List.isEmpty_iff.mp (hempty.1 entity entity.mem_all)
  rw [hrows, List.forall₂_nil_right_iff] at hall
  rw [hall] at hperm
  exact hne hperm.symm.eq_nil

/--
**A bundle that is exported is imported once.**  An empty target takes it and then holds the
selected rows, sanitized, with every reference between them; where there are any, it does not
take it again.  A target that is not empty is left as it is: the bundle is there already where
the identifiers are those of the selected rows, which they are after an import of it, and
otherwise the target holds other data.
-/
theorem bundle_transfers (huuid : UuidTexts) (hdate : DateTimeTexts)
    (hhash : ∀ bytes, isHash (Str.ofString (Interpreter.sha256 bytes)) = true)
    {bytes : List UInt8} {checksum : Str}
    (h : exportPublicDemoBundle selection rows = .ok (bytes, checksum)) {db : Database}
    (hdb : db.Works) (target : Target) :
    (target.isEmpty → ∃ after, importPublicDemoBundle db (some bytes) target =
        (.ok ⟨.str (Str.ofString bundleVersion), .int 5, checksum⟩, after) ∧
      after.HoldsSelection selection rows ∧
      ((∃ entity, selectRows selection rows entity ≠ []) →
        importPublicDemoBundle db (some bytes) after = (.error alreadyImported, after))) ∧
    (¬ target.isEmpty →
      (target.HoldsIds (fun entity => rowIds (selectRows selection rows entity)) →
        importPublicDemoBundle db (some bytes) target = (.error alreadyImported, target)) ∧
      (¬ target.HoldsIds (fun entity => rowIds (selectRows selection rows entity)) →
        importPublicDemoBundle db (some bytes) target = (.error unexpectedData, target))) := by
  obtain ⟨entities, hserialize, hload⟩ := loadBundle_export hhash h
  have hnodup := entities_nodup hserialize
  have hoccupied : ∀ target : Target, ¬ target.isEmpty →
      (target.HoldsIds (fun entity => rowIds (selectRows selection rows entity)) →
        importPublicDemoBundle db (some bytes) target = (.error alreadyImported, target)) ∧
      (¬ target.HoldsIds (fun entity => rowIds (selectRows selection rows entity)) →
        importPublicDemoBundle db (some bytes) target = (.error unexpectedData, target)) := by
    intro target hne
    choose written hlookup exported hperm hwritten using lookup_serializeEntities hserialize
    have hids : ∀ entity, (entities.sorted.records entity).mapM
        (fun record => toUUID (PyJson.field record "id")) = .ok (rowIds (exported entity)) := by
      intro entity
      have hrecords : entities.records entity = written entity := by
        rw [BundleEntities.records, hlookup entity, Option.getD_some]
      rw [records_sorted hnodup, hrecords]
      exact recordIds_of_serialized huuid (hwritten entity)
    have hsame : target.HoldsIds (fun entity => rowIds (exported entity)) ↔
        target.HoldsIds fun entity => rowIds (selectRows selection rows entity) :=
      Target.holdsIds_perm fun entity => (hperm entity).filterMap _
    obtain ⟨halready, hunexpected⟩ := guardImportTarget_occupied hdb hne hids
    rw [hsame] at halready hunexpected
    constructor
    · intro hholds
      exact import_of_error hload (Run.bind_eq_error.mpr (.inl (halready hholds)))
    · intro hholds
      exact import_of_error hload (Run.bind_eq_error.mpr (.inl (hunexpected hholds)))
  refine ⟨fun hempty => ?_, hoccupied target⟩
  obtain ⟨exported, decoded, hrestored, hreferences⟩ :=
    restoresTables_of_sorted huuid hdate hserialize fun entity => records_sorted hnodup entity
  have hflushes : ∀ entity, Flushes db entities.sorted entity := fun entity =>
    ⟨decoded entity, _, (hrestored entity).2.1, hdb.flush entity _⟩
  obtain ⟨after, himport⟩ := exists_importRecords hdb.counts hempty hdb.commits hflushes
  obtain ⟨-, hevents, hstored⟩ := of_importRecords himport
  have hrows : after.rows = decoded := by
    funext entity
    obtain ⟨decoded', hdecoded', hflush⟩ := hstored entity
    rw [(hrestored entity).2.1] at hdecoded'
    cases hdecoded'
    rw [hdb.flush entity] at hflush
    exact (Option.some.inj hflush).symm
  have hholds : after.HoldsSelection selection rows := by
    refine ⟨hevents.trans hempty.2, exported, fun entity => ⟨(hrestored entity).1, ?_⟩, ?_⟩
    · rw [hrows]
      exact (hrestored entity).2.2
    · rw [hrows]
      exact hreferences
  refine ⟨after, import_of_ok hload himport, hholds, fun hselected => ?_⟩
  exact (hoccupied after (hholds.not_isEmpty hselected)).1 hholds.holdsIds

end

end

section

attribute [local instance] sampleInterpreter

/-- A database that keeps what it is given. -/
def sampleDatabase : Database := ⟨true, fun _ => true, fun _ decoded => some decoded, true⟩

/-- A value of a column; its identifier is `ids key`. -/
def sampleCell (ids : String → UUID) (column : Column) : PyObject :=
  match column.type with
  | .uuid _ => .uuid (ids column.key)
  | _ => sampleValue column

theorem sampleCell_holds (ids : String → UUID) (column : Column) :
    column.Holds (sampleCell ids column) := by
  unfold sampleCell
  split
  · rename_i references htype
    refine .inr ?_
    rw [htype]
    exact ⟨_, rfl⟩
  · exact sampleValue_holds column

def sampleRowOf (entity : EntityName) (ids : String → UUID) : Row entity where
  cell key := ((entity.column? key).map (sampleCell ids)).getD .none
  typed column hcolumn := by
    rw [column?_of_mem entity column hcolumn]
    exact sampleCell_holds ids column

/-- Two cases, and an event of each, which has the identifier of the other case. -/
def sampleRows : SourceRows
  | .paymentCases => [sampleRowOf .paymentCases fun _ => true, sampleRowOf .paymentCases fun _ => false]
  | .caseEvents =>
    [sampleRowOf .caseEvents fun key => key == "case_id",
      sampleRowOf .caseEvents fun key => key == "id"]
  | _ => []

/-- Both cases are selected. -/
def bothSelected : EvidenceSelection := { sampleSelection with caseIds := [false, true] }

/-- A target that holds nothing but identifiers. -/
def namesakes (ids : EntityName → List UUID) : Target :=
  ⟨fun entity => (ids entity).map fun id => [("id", .uuid id)], 0⟩

/-- A target with the identifiers of the selected rows, and one with those of one case. -/
def sameIds : Target := namesakes fun entity => rowIds (sampleRows entity)

def otherIds : Target := namesakes fun entity => if entity = .paymentCases then [false] else []

theorem storedIds_namesakes (ids : List UUID) :
    storedIds (ids.map fun id => [("id", .uuid id)]) = ids := by
  induction ids with
  | nil => rfl
  | cons id ids ih => exact congrArg (List.cons id) ih

/-- The identifiers of events and of their cases, read from the records that restore them. -/
theorem restored_events {events : List (Row .caseEvents)} {records : List DecodedRecord}
    (h : List.Forall₂ (Restores bothSelected) events records) :
    records.map (fun record => (record.lookup "id", record.lookup "case_id")) =
      events.map fun row => (some (row.cell "id"), some (row.cell "case_id")) := by
  induction h with
  | nil => rfl
  | @cons row record events records hrow _ ih =>
      have hid := hrow.identifier (id_mem_fields .caseEvents) rfl
      have hcase := hrow.identifier
        (show Column.required "case_id" (.uuid (some .paymentCases)) ∈ _ by decide +kernel) rfl
      rw [List.map_cons, List.map_cons, ih]
      exact congrArg (· :: _) (Prod.ext hid hcase)

/-- The export of two cases with an event of each.  An empty target takes it, each event with
its case, and does not take it again; nor does a target that holds rows of the same names.  A
target that holds one of the cases only has other data. -/
theorem bundle_transfers_twice : ∃ bytes checksum after,
    exportPublicDemoBundle bothSelected sampleRows = .ok (bytes, checksum) ∧
      importPublicDemoBundle sampleDatabase (some bytes) (namesakes fun _ => []) =
        (.ok ⟨.str (Str.ofString bundleVersion), .int 5, checksum⟩, after) ∧
      after.HoldsSelection bothSelected sampleRows ∧
      ((after.rows .caseEvents).map fun row => (row.lookup "id", row.lookup "case_id")).Perm
        [(some (.uuid false), some (.uuid true)), (some (.uuid true), some (.uuid false))] ∧
      importPublicDemoBundle sampleDatabase (some bytes) after = (.error alreadyImported, after) ∧
      importPublicDemoBundle sampleDatabase (some bytes) sameIds = (.error alreadyImported, sameIds) ∧
      importPublicDemoBundle sampleDatabase (some bytes) otherIds =
        (.error unexpectedData, otherIds) := by
  have hcheck : (exportPublicDemoBundle bothSelected sampleRows).isOk = true := by decide +kernel
  cases hexport : exportPublicDemoBundle bothSelected sampleRows with
  | error e =>
      rw [hexport] at hcheck
      cases hcheck
  | ok out =>
      obtain ⟨bytes, checksum⟩ := out
      have huuid : UuidTexts := parseSample_text sampleUuidText (by decide +kernel)
      have hdate : DateTimeTexts := parseSample_text sampleDateTimeText (by decide +kernel)
      have hhash : ∀ bytes, isHash (Str.ofString (Interpreter.sha256 bytes)) = true :=
        fun _ => show isHash (Str.ofString
          "e3b0c44298fc1c149afbf4c8996fb92427ae41e4649b934ca495991b7852b855") = true by decide +kernel
      have hdb : sampleDatabase.Works := ⟨rfl, fun _ => rfl, fun _ _ => rfl, rfl⟩
      have hselected : ∀ entity, selectRows bothSelected sampleRows entity = sampleRows entity := by
        intro entity
        cases entity <;> rfl
      obtain ⟨after, himport, hholds, hagain⟩ := (bundle_transfers huuid hdate hhash hexport hdb
        (namesakes fun _ => [])).1 ⟨fun _ _ => rfl, rfl⟩
      obtain ⟨exported, hrestored, -⟩ := hholds.2
      obtain ⟨hperm, hall⟩ := hrestored .caseEvents
      rw [hselected] at hperm
      refine ⟨bytes, checksum, after, rfl, himport, hholds, ?_, ?_, ?_, ?_⟩
      · rw [restored_events hall]
        exact hperm.map _
      · exact hagain ⟨.caseEvents, by rw [hselected]; exact List.cons_ne_nil _ _⟩
      · refine ((bundle_transfers huuid hdate hhash hexport hdb _).2 (by decide +kernel)).1 ⟨rfl, ?_⟩
        intro entity
        simp only [sameIds, namesakes, storedIds_namesakes, hselected]
        exact ⟨List.Subset.refl _, List.Subset.refl _⟩
      · refine ((bundle_transfers huuid hdate hhash hexport hdb _).2 (by decide +kernel)).2 ?_
        intro h
        exact absurd ((h.2 .caseEvents).2 List.mem_cons_self) (by decide +kernel)

end

end Arc
