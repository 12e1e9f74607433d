/-
What the sanitizer of the public demo bundle finds.

The check looks for a sensitive value in the JSON text of the records, where a text stands
escaped.  So a value that stands in its own escape is found wherever it is exported
(`infix_rendered`), and the records that pass are free of sensitive values exactly where
every sensitive value they export is of that kind.  Values of plain ASCII characters are;
a value with a character that ASCII cannot show never is, and the check does not see it
(`validate_unseen`).
-/
import Arc.Deployment.PublicDemoBundle
import Arc.Text.Encoding

namespace Arc

open Text BundleException

/-- The texts of the exported records, at any depth, the keys included. -/
def BundleEntities.strings (entities : BundleEntities) : List Str := entities.json.strings

/-- A text of the records contains the value. -/
def BundleEntities.Exports (entities : BundleEntities) (value : Str) : Prop :=
  ∃ s ∈ entities.strings, value <:+: s

instance (entities : BundleEntities) (value : Str) : Decidable (entities.Exports value) :=
  inferInstanceAs (Decidable (∃ s ∈ entities.strings, value <:+: s))

/-- The value stands in its own JSON escape. -/
def StandsInEscape (value : Str) : Prop := value <:+: PyJson.escaped value

/-- A value of plain ASCII characters is its own escape. -/
theorem standsInEscape_of_plain {value : Str} (h : ∀ c ∈ value, PyJson.isPlain c = true) :
    StandsInEscape value :=
  ⟨[], [], by rw [List.nil_append, List.append_nil, PyJson.escaped_plain h]⟩

/-- A value with a character that ASCII cannot show does not stand in an escape. -/
theorem printable_of_standsInEscape {value : Str} (h : StandsInEscape value) :
    ∀ c ∈ value, PyJson.isPrintable c = true :=
  fun c hc => PyJson.escaped_printable value c (h.subset hc)

section

variable [Interpreter] {entities : BundleEntities} {sensitiveValues : List Str}

/-- Records that pass the check have been written, and no sensitive value stands in the text. -/
theorem not_infix_of_validate (h : validateSanitizedEntities entities sensitiveValues = .ok ())
    {value : Str} (hvalue : value ∈ sensitiveValues) (hne : value ≠ []) :
    ¬ value <:+: PyJson.write Interpreter.floatRepr none 0 entities.json.sortKeys := by
  unfold validateSanitizedEntities at h
  obtain ⟨rendered, hrendered, h⟩ := bind_eq_ok.mp h
  obtain ⟨-, -, rfl⟩ := PyJson.dumpsAscii_eq_ok.mp (mapError_eq_ok.mp hrendered)
  obtain ⟨_, hvalues, -⟩ := bind_eq_ok.mp h
  intro hinfix
  exact require_eq_ok.mp hvalues value hvalue ⟨hne, hinfix⟩

/-- An exported value that stands in its own escape stands in the text of the records. -/
theorem infix_rendered {value : Str} (hescape : StandsInEscape value)
    (hexports : entities.Exports value) :
    value <:+: PyJson.write Interpreter.floatRepr none 0 entities.json.sortKeys := by
  obtain ⟨s, hs, hinfix⟩ := hexports
  have hwritten : PyJson.escaped s <:+:
      PyJson.write Interpreter.floatRepr none 0 entities.json.sortKeys :=
    PyJson.escaped_infix_write 0 _ ((PyJson.mem_strings_sortKeys _).mpr hs)
  exact (hescape.trans (PyJson.escaped_infix hinfix)).trans hwritten

/--
**What passes the check is free of sensitive values exactly where each sensitive value it
exports stands in its own escape.**
-/
theorem validate_sound_iff_escape
    (h : validateSanitizedEntities entities sensitiveValues = .ok ()) :
    (∀ value ∈ sensitiveValues, value ≠ [] → ¬ entities.Exports value) ↔
      ∀ value ∈ sensitiveValues, value ≠ [] → entities.Exports value → StandsInEscape value := by
  constructor
  · intro hfree value hvalue hne hexports
    exact absurd hexports (hfree value hvalue hne)
  · intro hescape value hvalue hne hexports
    have hinfix := infix_rendered (hescape value hvalue hne hexports) hexports
    exact not_infix_of_validate h hvalue hne hinfix

/-- Records that pass the check export no sensitive value of plain ASCII characters. -/
theorem not_exports_of_plain (h : validateSanitizedEntities entities sensitiveValues = .ok ())
    {value : Str} (hvalue : value ∈ sensitiveValues) (hne : value ≠ [])
    (hplain : ∀ c ∈ value, PyJson.isPlain c = true) : ¬ entities.Exports value := by
  intro hexports
  exact not_infix_of_validate h hvalue hne (infix_rendered (standsInEscape_of_plain hplain) hexports)

/-- **The check does not see a value with a character that ASCII cannot show.** -/
theorem validate_unseen
    (h : ∀ value ∈ sensitiveValues, ∃ c ∈ value, PyJson.isPrintable c = false) :
    validateSanitizedEntities entities sensitiveValues = validateSanitizedEntities entities [] := by
  unfold validateSanitizedEntities
  cases hwritten : PyJson.dumpsAscii Recursion.nesting Interpreter.floatRepr none entities.json with
  | error e => rfl
  | ok rendered =>
      have hunseen : ∀ value ∈ sensitiveValues, ¬ (value ≠ [] ∧ value <:+: rendered) := by
        rintro value hvalue ⟨-, hstands⟩
        obtain ⟨-, -, rfl⟩ := PyJson.dumpsAscii_eq_ok.mp hwritten
        obtain ⟨c, hc, hhidden⟩ := h value hvalue
        rcases PyJson.write_visible Interpreter.floatRepr_printable _ 0 c (hstands.subset hc) with
          hprintable | ⟨hindent, -⟩
        · rw [hhidden] at hprintable
          cases hprintable
        · cases hindent
      have hnone : ∀ value ∈ ([] : List Str), ¬ (value ≠ [] ∧ value <:+: rendered) := by simp
      simp only [Except.mapError, Run.ok_bind]
      rw [(require_eq_ok (u := ())).mpr hunseen, (require_eq_ok (u := ())).mpr hnone]

end

/-! ### A customer who is missed

A proposal explains itself in words, and the words may name a customer. The rendered
JSON shows a letter that is not ASCII as an escape, so the search for the name as it is
written finds nothing.
-/

/-- A row as the records of a bundle hold it. -/
def recordOf (fields : List (String × PyJson)) : BundleRecord :=
  fields.map fun f => (Str.ofString f.1, f.2)

/-- A text of a record. -/
def jsonText (s : String) : PyJson := .str (Str.ofString s)

/-- The text of a hash in a sanitized record. -/
def sampleHash : String := "0f1e2d3c4b5a69788796a5b4c3d2e1f00f1e2d3c4b5a69788796a5b4c3d2e1f0"

/-- The records of a bundle whose only row is a proposal with this explanation. -/
def proposalRecords (explanation : Str) : BundleEntities :=
  EntityName.all.map fun entity => (Str.ofString entity.value,
    if entity = .strategyProposals then
      [recordOf
        [("id", jsonText "5f0c7a52-3b3e-4a63-9d0b-6c1f6e2b9a01"),
          ("case_id", jsonText "8d1f4f6e-2a57-4a0e-8f3a-1b6a0c9d7e02"),
          ("assessment_fingerprint", jsonText sampleHash),
          ("strategy_input_fingerprint", jsonText sampleHash),
          ("source", jsonText "AI"),
          ("action", jsonText "REQUEST_PAYMENT_METHOD_UPDATE"),
          ("reason_code", jsonText "CUSTOMER_ACTION_REQUIRED"),
          ("explanation", .str explanation),
          ("confidence", .float (Str.ofString "0.98")),
          ("re_evaluate_after_seconds", .none),
          ("prompt_version", jsonText "strategy-v1"),
          ("model", jsonText "gpt-5.6-luna"),
          ("provider_response_id", jsonText "public_demo_model_response_5f0c7a523b3e"),
          ("input_tokens", .int 100),
          ("output_tokens", .int 20),
          ("total_tokens", .int 120),
          ("latency_ms", .int 900),
          ("created_at", jsonText "2026-07-01 10:00:00+00:00"),
          ("superseded_at", .none)]]
    else [])

def proposalEntities (explanation : String) : BundleEntities :=
  proposalRecords (Str.ofString explanation)

theorem proposalRecords_exports (value : Str) : (proposalRecords value).Exports value := by
  refine ⟨value, ?_, List.infix_refl value⟩
  simp [BundleEntities.strings, BundleEntities.json, proposalRecords, recordOf, EntityName.all,
    PyJson.strings, PyJson.fieldStrings, PyJson.itemStrings]

/-- Two identifiers and two instants, with their texts. -/
def sampleUuidText : Bool → String
  | false => "8d1f4f6e-2a57-4a0e-8f3a-1b6a0c9d7e02"
  | true => "5f0c7a52-3b3e-4a63-9d0b-6c1f6e2b9a01"

def sampleDateTimeText : Bool → String
  | false => "2026-07-01 10:00:00+00:00"
  | true => "2026-07-01 10:05:00+00:00"

/-- The one of two whose text it is. -/
def parseSample (text : Bool → String) (s : Str) : Option Bool :=
  if s = Str.ofString (text false) then some false
  else if s = Str.ofString (text true) then some true
  else none

/-- An interpreter with two identifiers and two instants; its floats are what it is written. -/
abbrev sampleInterpreter : Interpreter where
  nesting := 100
  floatRepr literal := if literal.all PyJson.isPrintable then literal else Str.ofString "0.0"
  floatRepr_printable literal c hc := by
    split at hc
    · rename_i hall
      exact List.all_eq_true.mp hall c hc
    · have hzero : ∀ c ∈ Str.ofString "0.0", PyJson.isPrintable c = true := by
        simp [Str.ofString, CodePoint.ofChar, PyJson.isPrintable]
      exact hzero c hc
  floatIs _ _ := false
  sha256 _ := "e3b0c44298fc1c149afbf4c8996fb92427ae41e4649b934ca495991b7852b855"
  UUID := Bool
  decEqUUID := inferInstance
  uuidText := sampleUuidText
  uuidHex id := String.ofList ((sampleUuidText id).toList.filter fun c => c != '-')
  parseUUID := parseSample sampleUuidText
  DateTime := Bool
  dateTimeText := sampleDateTimeText
  parseDateTime := parseSample sampleDateTimeText

/-- **A value that ASCII cannot show does not stand in its escape, and is exported where the other
checks accept it.**  A quote is not enough: `recovery_actions"` does not stand in its escape
either, and is found in the JSON around the records. -/
theorem exports_unseen [Interpreter] {value : Str} (h : ∃ c ∈ value, PyJson.isPrintable c = false)
    (hother : validateSanitizedEntities (proposalRecords value) [] = .ok ()) :
    ¬ StandsInEscape value ∧ (proposalRecords value).Exports value ∧
      validateSanitizedEntities (proposalRecords value) [value] = .ok () := by
  refine ⟨fun hstands => ?_, proposalRecords_exports value, ?_⟩
  · obtain ⟨c, hc, hhidden⟩ := h
    rw [printable_of_standsInEscape hstands c hc] at hhidden
    cases hhidden
  · rw [validate_unseen (List.forall_mem_singleton.mpr h)]
    exact hother

section

attribute [local instance] sampleInterpreter

/-- The equivalence at a proposal that names no customer. -/
theorem validate_sound_iff_escape_sample :
    (∀ value ∈ [Str.ofString "cust_9A1"], value ≠ [] →
      ¬ (proposalEntities "Ask for a new card.").Exports value) ↔
      ∀ value ∈ [Str.ofString "cust_9A1"], value ≠ [] →
        (proposalEntities "Ask for a new card.").Exports value → StandsInEscape value :=
  validate_sound_iff_escape (by decide +kernel)

/-- An exported explanation names a customer whose identifier is not ASCII, and passes. -/
theorem sanitizer_misses_customer : ¬ ∀ (entities : BundleEntities) (sensitiveValues : List Str),
    (∀ value ∈ sensitiveValues, value ≠ []) →
    validateSanitizedEntities entities sensitiveValues = .ok () →
    ∀ value ∈ sensitiveValues, ∀ s ∈ entities.strings, ¬ value <:+: s := by
  intro h
  have hvalid : validateSanitizedEntities (proposalEntities "Ask cust_José to retry.")
      [Str.ofString "cust_José"] = .ok () := by decide +kernel
  have hexports : (proposalEntities "Ask cust_José to retry.").Exports
      (Str.ofString "cust_José") := by decide +kernel
  obtain ⟨s, hs, hinfix⟩ := hexports
  exact h _ [Str.ofString "cust_José"] (by decide) hvalid _ List.mem_cons_self s hs hinfix

end

end Arc
