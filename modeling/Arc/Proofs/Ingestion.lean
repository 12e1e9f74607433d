/-
How a signed delivery ends.

The route catches the errors of the database and of the ledger.  It does not catch the one
error that comes from the payload itself: the canonical text of a payload is encoded
before it is hashed, and a text with a surrogate cannot be encoded.  An escape brings a
surrogate into a body whose bytes are plain ASCII, and nothing before the encoding
refuses it.
-/
import Arc.Api.RazorpayWebhooks
import Arc.Domain.Ascii

namespace Arc

open Text

/-! ### Fields of a parsed body

The parser keeps surrogates as code points, and the database stores text. The lemmas
relate the fields the route has read to the fields of what is stored, which differ only
where a text has a surrogate.
-/

/-- The value of a key of an object. -/
def parsedField? (value : PyJson) (key : Str) : Option PyJson :=
  match value with
  | .dict fields => (fields.reverse.find? fun f => f.1 == key).map Prod.snd
  | _ => none

/-- Only a surrogate stands as a null character without being one. -/
theorem toString_eq_iff {s : Str} {name : String} (hname : '\x00' ∉ name.toList) :
    s.toString = name ↔ s = Str.ofString name := by
  constructor
  · rintro rfl
    have hscalar : s.Scalar := by
      intro c hc
      by_contra hsurrogate
      refine hname ?_
      have hchar : c.toChar = '\x00' := by
        have hvalid : ¬ c.val.isValidChar := by
          simp only [CodePoint.isSurrogate, Bool.not_eq_false, Bool.and_eq_true,
            decide_eq_true_eq] at hsurrogate
          simp only [Nat.isValidChar]
          omega
        rw [CodePoint.toChar, Char.ofNat, dif_neg hvalid]
        rfl
      rw [Str.toString, String.toList_ofList]
      exact List.mem_map.mpr ⟨c, hc, hchar⟩
    exact Str.toString_injective hscalar (Str.ofString_scalar _) (Str.toString_ofString _).symm
  · rintro rfl
    exact Str.toString_ofString name

theorem storedFields_eq (fields : List (Str × PyJson)) :
    storedFields fields = fields.map fun f => (f.1.toString, storedJson f.2) := by
  induction fields with
  | nil => rfl
  | cons f fields ih => simp [storedFields, ih]

/-- A lookup in a stored object is the lookup in the parsed one. -/
theorem storedJson_field? {value : PyJson} {name : String} (hname : '\x00' ∉ name.toList) :
    (storedJson value).field? name = (parsedField? value (Str.ofString name)).map storedJson := by
  cases value with
  | dict fields =>
      have hkey : ∀ f : Str × PyJson, (f.1.toString == name) = (f.1 == Str.ofString name) := by
        intro f
        rw [Bool.eq_iff_iff, beq_iff_eq, beq_iff_eq]
        exact toString_eq_iff hname
      simp only [storedJson, Json.field?, parsedField?, storedFields_eq, ← List.map_reverse,
        List.find?_map, Option.map_map, Function.comp_def, hkey]
  | _ => rfl

/-! ### The checks of the route -/

/-- What the envelope of a body must be. -/
structure Envelope (value : PyJson) : Prop where
  object : ∃ fields, value = .dict fields
  event : ∃ s : Str, parsedField? value (Str.ofString "event") = some (.str s) ∧
    s ≠ [] ∧ s.length ≤ 100
  payload : ∃ fields, parsedField? value (Str.ofString "payload") = some (.dict fields)

theorem isObject_stored (value : Option PyJson) :
    isObject (value.map storedJson) = true ↔ ∃ fields, value = some (.dict fields) := by
  cases value with
  | none => simp [isObject]
  | some value => cases value <;> simp [isObject, storedJson]

theorem toString_eq_empty {s : Str} : s.toString = "" ↔ s = [] := by
  rw [toString_eq_iff (by decide)]
  rfl

theorem identifier_stored {value : Option PyJson} {maxLength : Nat} :
    (∃ id, identifier (value.map storedJson) maxLength = some id) ↔
      ∃ s : Str, value = some (.str s) ∧ s ≠ [] ∧ s.length ≤ maxLength := by
  cases value with
  | none => simp [identifier]
  | some value =>
      cases value with
      | str s =>
          simp [identifier, storedJson, toString_eq_empty]
      | _ => simp [identifier, storedJson]

/-- **The envelopes the route takes.** -/
theorem normalize_isOk {value : PyJson} :
    (∃ normalized, normalizeWebhookPayload (storedJson value) = .ok normalized) ↔
      Envelope value := by
  have hevent : '\x00' ∉ ("event" : String).toList := by decide
  have hpayload : '\x00' ∉ ("payload" : String).toList := by decide
  constructor
  · rintro ⟨normalized, h⟩
    obtain ⟨_, hobject, h⟩ := bind_eq_ok.mp h
    obtain ⟨eventType, htype, h⟩ := bind_eq_ok.mp h
    obtain ⟨_, hsection, _⟩ := bind_eq_ok.mp h
    rw [require_eq_ok] at hobject hsection
    rw [requireSome_eq_ok, storedJson_field? hevent] at htype
    rw [storedJson_field? hpayload] at hsection
    exact ⟨by simpa using (isObject_stored (some value)).mp hobject,
      identifier_stored.mp ⟨_, htype⟩, (isObject_stored _).mp hsection⟩
  · intro henvelope
    obtain ⟨eventType, htype⟩ := identifier_stored.mpr henvelope.event
    have hobject : isObject (some (storedJson value)) = true :=
      (isObject_stored (some value)).mpr (by simpa using henvelope.object)
    have hsection := (isObject_stored _).mpr henvelope.payload
    rw [← storedJson_field? hevent] at htype
    rw [← storedJson_field? hpayload] at hsection
    exact ⟨_, bind_eq_ok.mpr ⟨(), require_eq_ok.mpr hobject, bind_eq_ok.mpr ⟨eventType,
      requireSome_eq_ok.mpr htype, bind_eq_ok.mpr ⟨(), require_eq_ok.mpr hsection, rfl⟩⟩⟩⟩

variable [Platform] [Wire]

/-- The signature of a request is right under the secret of the settings or the one before. -/
def Signed (settings : WebhookSettings) (request : WebhookRequest) : Prop :=
  ∃ signature secret, nonEmpty request.signature = some signature ∧
    nonEmpty settings.razorpayWebhookSecret = some secret ∧
    verifyWebhookSignatureWithRotation request.body signature secret
      settings.razorpayWebhookPreviousSecret = true

/-- A request that passes the checks of the route, with what it says. -/
structure Admitted (settings : WebhookSettings) (request : WebhookRequest) (eventId : String)
    (value : PyJson) : Prop where
  signed : Signed settings request
  body : PyJson.loads Recursion.nesting request.body = .ok value
  event : request.eventId = some eventId
  event_ne : eventId ≠ ""
  event_le : eventId.length ≤ 128
  envelope : Envelope value

/-- What the checks hand on. -/
theorem checkRequest_ok {settings : WebhookSettings} {request : WebhookRequest}
    {checked : CheckedRequest} (h : checkRequest settings request = .ok checked) :
    checked.rawBody = request.body ∧
      Admitted settings request checked.eventId checked.payload ∧
      normalizeWebhookPayload (storedJson checked.payload) = .ok checked.normalized := by
  obtain ⟨signature, hsignature, h⟩ := bind_eq_ok.mp h
  obtain ⟨secret, hsecret, h⟩ := bind_eq_ok.mp h
  obtain ⟨_, hverified, h⟩ := bind_eq_ok.mp h
  obtain ⟨payload, hbody, h⟩ := bind_eq_ok.mp h
  obtain ⟨eventId, hid, h⟩ := bind_eq_ok.mp h
  obtain ⟨normalized, hnormalized, h⟩ := bind_eq_ok.mp h
  cases h
  rw [requireSome_eq_ok] at hsignature hsecret hid
  rw [require_eq_ok] at hverified
  replace hbody := mapError_eq_ok.mp hbody
  obtain ⟨hid, hvalid⟩ := Option.filter_eq_some_iff.mp hid
  rw [Bool.and_eq_true, bne_iff_ne, decide_eq_true_eq] at hvalid
  replace hnormalized := mapError_eq_ok.mp hnormalized
  exact ⟨rfl, ⟨⟨signature, secret, hsignature, hsecret, hverified⟩, hbody, hid, hvalid.1, hvalid.2,
    normalize_isOk.mp ⟨normalized, hnormalized⟩⟩, hnormalized⟩

/-- **The requests that pass the checks.** -/
theorem checkRequest_isOk {settings : WebhookSettings} {request : WebhookRequest}
    {eventId : String} {value : PyJson} (h : Admitted settings request eventId value) :
    ∃ checked, checkRequest settings request = .ok checked ∧ checked.rawBody = request.body ∧
      checked.eventId = eventId ∧ checked.payload = value := by
  obtain ⟨signature, secret, hsignature, hsecret, hverified⟩ := h.signed
  obtain ⟨normalized, hnormalized⟩ := normalize_isOk.mpr h.envelope
  have hid : (request.eventId.filter fun s => s != "" && s.length ≤ 128) = some eventId := by
    rw [h.event, Option.filter_some, if_pos]
    simp [h.event_ne, h.event_le]
  refine ⟨⟨request.body, eventId, value, normalized⟩, ?_, rfl, rfl, rfl⟩
  refine bind_eq_ok.mpr ⟨signature, requireSome_eq_ok.mpr hsignature, ?_⟩
  refine bind_eq_ok.mpr ⟨secret, requireSome_eq_ok.mpr hsecret, ?_⟩
  refine bind_eq_ok.mpr ⟨(), require_eq_ok.mpr hverified, ?_⟩
  refine bind_eq_ok.mpr ⟨value, mapError_eq_ok.mpr h.body, ?_⟩
  refine bind_eq_ok.mpr ⟨eventId, requireSome_eq_ok.mpr hid, ?_⟩
  exact bind_eq_ok.mpr ⟨normalized, mapError_eq_ok.mpr hnormalized, rfl⟩

/-! ### Recording

The body is written again before it is hashed. It was read by the same interpreter, so
it is not nested too deep and none of its integers has too many digits; what remains is
that a text with a surrogate cannot be encoded.
-/

/-- What was read from a body is written again, whatever its depth and its integers. -/
theorem Admitted.dumps {settings : WebhookSettings} {request : WebhookRequest} {eventId : String}
    {value : PyJson} (h : Admitted settings request eventId value) :
    value.dumpsCompact Recursion.nesting Wire.floatRepr = .ok (value.dumps Wire.floatRepr) := by
  obtain ⟨hdepth, hoverlong⟩ := PyJson.loads_writable h.body
  rw [PyJson.dumpsCompact, if_neg (Nat.not_lt.mpr hdepth), if_neg (by simp [hoverlong])]

/-- The payload of a request that passes the checks can be hashed where no text has a surrogate. -/
theorem Admitted.hashPayload_scalar {settings : WebhookSettings} {request : WebhookRequest}
    {eventId : String} {value : PyJson} (h : Admitted settings request eventId value)
    (hscalar : value.Scalar) : ∃ digest, hashPayload value = .ok digest := by
  obtain ⟨encoded, hencoded⟩ := Option.isSome_iff_exists.mp
    ((PyJson.encode_dumps_isSome Wire.floatRepr_scalar value).mpr hscalar)
  exact ⟨_, bind_eq_ok.mpr ⟨_, mapError_eq_ok.mpr h.dumps,
    bind_eq_ok.mpr ⟨encoded, requireSome_eq_ok.mpr hencoded, rfl⟩⟩⟩

/-- The only error of hashing such a payload is that a text with a surrogate is not encoded. -/
theorem Admitted.hashPayload_surrogate {settings : WebhookSettings} {request : WebhookRequest}
    {eventId : String} {value : PyJson} (h : Admitted settings request eventId value)
    (hscalar : ¬ value.Scalar) : hashPayload value = .error .unicodeEncodeError := by
  have hnone : encodeUtf8 (value.dumps Wire.floatRepr) = none := by
    rw [← Option.not_isSome_iff_eq_none, PyJson.encode_dumps_isSome Wire.floatRepr_scalar]
    exact hscalar
  refine bind_eq_error.mpr (.inr ⟨_, mapError_eq_ok.mpr h.dumps, bind_eq_error.mpr (.inl ?_)⟩)
  rw [hnone, requireSome]

/-- A payload with a surrogate ends the request before the database is asked anything. -/
theorem recordDelivery_surrogate {settings : WebhookSettings} {request : WebhookRequest}
    {answers : SessionAnswers} {checked : CheckedRequest}
    (hadmitted : Admitted settings request checked.eventId checked.payload)
    (h : ¬ checked.payload.Scalar) :
    recordDelivery answers checked = .error .unicodeEncodeError :=
  bind_eq_error.mpr (.inl (hadmitted.hashPayload_surrogate h))

/-- What recording returns for a payload without surrogates: the answers of the database. -/
theorem recordDelivery_eq_ok {answers : SessionAnswers} {checked : CheckedRequest}
    {result : RecordedDelivery} (h : recordDelivery answers checked = .ok result) :
    (∃ id, answers.insert = .ok (some id) ∧ answers.reload = .ok (some result.event) ∧
        result.duplicate = false ∧ result.integrityMismatch = false) ∨
      (answers.insert = .ok none ∧ answers.select = .ok (some result.event) ∧
        result.duplicate = true ∧ result.integrityMismatch = checked.mismatch result.event) := by
  obtain ⟨_, -, h⟩ := bind_eq_ok.mp h
  obtain ⟨inserted, hinsert, h⟩ := bind_eq_ok.mp h
  replace hinsert := mapError_eq_ok.mp hinsert
  cases inserted with
  | some id =>
      obtain ⟨reloaded, hreload, h⟩ := bind_eq_ok.mp h
      obtain ⟨event, hevent, h⟩ := bind_eq_ok.mp h
      cases h
      rw [requireSome_eq_ok] at hevent
      subst hevent
      exact .inl ⟨id, hinsert, mapError_eq_ok.mp hreload, rfl, rfl⟩
  | none =>
      obtain ⟨selected, hselect, h⟩ := bind_eq_ok.mp h
      obtain ⟨event, hevent, h⟩ := bind_eq_ok.mp h
      cases h
      rw [requireSome_eq_ok] at hevent
      subst hevent
      exact .inr ⟨hinsert, mapError_eq_ok.mp hselect, rfl, rfl⟩

/-- Recording a payload without surrogates raises only what the route catches. -/
theorem recordDelivery_scalar {settings : WebhookSettings} {request : WebhookRequest}
    {answers : SessionAnswers} {checked : CheckedRequest}
    (hadmitted : Admitted settings request checked.eventId checked.payload)
    (h : checked.payload.Scalar) {error : RecordError}
    (hraised : recordDelivery answers checked = .error error) :
    error = .eventPersistenceError ∨ ∃ e, error = .database e := by
  obtain ⟨digest, hdigest⟩ := hadmitted.hashPayload_scalar h
  rw [recordDelivery, hdigest] at hraised
  rcases answers with ⟨insert, reload, select, commit⟩
  rcases insert with error | (_ | id)
  · cases hraised
    exact .inr ⟨_, rfl⟩
  · rcases select with error | (_ | event) <;> cases hraised
    · exact .inr ⟨_, rfl⟩
    · exact .inl rfl
  · rcases reload with error | (_ | event) <;> cases hraised
    · exact .inr ⟨_, rfl⟩
    · exact .inl rfl

/-! ### The route

The route catches the errors it has thought of. A delivery settles where it ends in an
answer the route declares, and by the lemmas above the one thing that keeps it from that
is a surrogate in the payload.
-/

/-- The rejections the route declares, with their texts. -/
def declaredRejections : List HttpRejection :=
  [⟨401, "Missing webhook signature"⟩, ⟨503, "Webhook ingestion is not configured"⟩,
    ⟨401, "Invalid webhook signature"⟩, ⟨400, "Malformed webhook JSON"⟩,
    ⟨400, "Missing or invalid Razorpay event id"⟩, ⟨400, "Webhook JSON must be an object"⟩,
    ⟨400, "Webhook event must be a non-empty string"⟩, ⟨400, "Webhook payload must be an object"⟩,
    persistenceUnavailable, integrityConflict]

/--
The ends a delivery may have: its row is stored and committed, the row of its event id
carries its digest, or the request is rejected.
-/
def RouteEnd.Settled (answers : SessionAnswers) (eventId : String) (digest : Digest) :
    RouteEnd → Prop
  | .accepted duplicate id =>
      id = eventId ∧ answers.commit = .ok () ∧ ∃ row,
        if duplicate then
          answers.insert = .ok none ∧ answers.select = .ok (some row) ∧
            row.rawBodySha256 = some digest
        else (∃ newId, answers.insert = .ok (some newId)) ∧ answers.reload = .ok (some row)
  | .rejected rejection => rejection ∈ declaredRejections
  | .raised _ => False

omit [Platform] [Wire] in
/-- The checks of the envelope fail with what the route declares. -/
theorem normalize_error {payload : Json} {text : String}
    (h : normalizeWebhookPayload payload = .error text) :
    (⟨400, text⟩ : HttpRejection) ∈ declaredRejections := by
  obtain hobject | ⟨_, -, h⟩ := bind_eq_error.mp h
  · rw [(require_eq_error.mp hobject).2]
    simp [declaredRejections]
  obtain hevent | ⟨_, -, h⟩ := bind_eq_error.mp h
  · rw [(requireSome_eq_error.mp hevent).2]
    simp [declaredRejections]
  obtain hsection | ⟨_, -, h⟩ := bind_eq_error.mp h
  · rw [(require_eq_error.mp hsection).2]
    simp [declaredRejections]
  · cases h

/-- **The checks reject with what the route declares**, but for a body that nests too deep. -/
theorem checkRequest_error {settings : WebhookSettings} {request : WebhookRequest}
    {routeEnd : RouteEnd} (h : checkRequest settings request = .error routeEnd) :
    (∃ rejection ∈ declaredRejections, routeEnd = .rejected rejection) ∨
      (PyJson.loads Recursion.nesting request.body = .error .recursionError ∧
        routeEnd = .raised (.json .recursionError)) := by
  obtain hmissing | ⟨_, -, h⟩ := bind_eq_error.mp h
  · exact .inl ⟨_, by simp [declaredRejections], (requireSome_eq_error.mp hmissing).2⟩
  obtain hsecret | ⟨_, -, h⟩ := bind_eq_error.mp h
  · exact .inl ⟨_, by simp [declaredRejections], (requireSome_eq_error.mp hsecret).2⟩
  obtain hsignature | ⟨_, -, h⟩ := bind_eq_error.mp h
  · exact .inl ⟨_, by simp [declaredRejections], (require_eq_error.mp hsignature).2⟩
  obtain hbody | ⟨_, -, h⟩ := bind_eq_error.mp h
  · obtain ⟨error, hloads, rfl⟩ := mapError_eq_error.mp hbody
    by_cases hdeep : error = .recursionError
    · rw [if_pos hdeep]
      subst hdeep
      exact .inr ⟨hloads, rfl⟩
    · rw [if_neg hdeep]
      exact .inl ⟨_, by simp [declaredRejections], rfl⟩
  obtain hid | ⟨_, -, h⟩ := bind_eq_error.mp h
  · exact .inl ⟨_, by simp [declaredRejections], (requireSome_eq_error.mp hid).2⟩
  obtain henvelope | ⟨_, -, h⟩ := bind_eq_error.mp h
  · obtain ⟨text, htext, rfl⟩ := mapError_eq_error.mp henvelope
    exact .inl ⟨_, normalize_error htext, rfl⟩
  · cases h

/-- A delivery whose payload has no surrogate settles, whatever the database answers. -/
theorem route_settled {settings : WebhookSettings} {request : WebhookRequest}
    {checked : CheckedRequest} (hchecked : checkRequest settings request = .ok checked)
    (hscalar : checked.payload.Scalar) (answers : SessionAnswers) :
    (ingestRazorpayWebhook settings request answers).Settled answers checked.eventId
      checked.rawBodyDigest := by
  have hunavailable : persistenceUnavailable ∈ declaredRejections := by simp [declaredRejections]
  have hconflict : integrityConflict ∈ declaredRejections := by simp [declaredRejections]
  have hraises : ∀ {error}, recordDelivery answers checked = .error error →
      error = .eventPersistenceError ∨ ∃ e, error = .database e :=
    fun h => recordDelivery_scalar (checkRequest_ok hchecked).2.1 hscalar h
  simp only [ingestRazorpayWebhook, hchecked]
  split
  · exact hunavailable
  · exact hunavailable
  · rename_i hraised
    obtain h | ⟨e, h⟩ := hraises hraised <;> cases h
  · rename_i hraised
    obtain h | ⟨e, h⟩ := hraises hraised <;> cases h
  · rename_i result hrecorded
    split
    · exact hconflict
    rename_i hmatch
    split
    · exact hunavailable
    rename_i hcommit
    refine ⟨rfl, hcommit, result.event, ?_⟩
    obtain ⟨id, hinsert, hreload, hduplicate, -⟩ | ⟨hinsert, hselect, hduplicate, hmismatch⟩ :=
      recordDelivery_eq_ok hrecorded
    · rw [hduplicate, if_neg Bool.false_ne_true]
      exact ⟨⟨id, hinsert⟩, hreload⟩
    · rw [hduplicate, if_pos rfl]
      refine ⟨hinsert, hselect, ?_⟩
      simpa [hmismatch, CheckedRequest.mismatch] using hmatch

/-- A delivery whose payload has a surrogate ends in an error that the route does not catch. -/
theorem route_raises {settings : WebhookSettings} {request : WebhookRequest}
    {checked : CheckedRequest} (hchecked : checkRequest settings request = .ok checked)
    (hscalar : ¬ checked.payload.Scalar) (answers : SessionAnswers) :
    ingestRazorpayWebhook settings request answers = .raised .unicodeEncodeError := by
  simp only [ingestRazorpayWebhook, hchecked,
    recordDelivery_surrogate (checkRequest_ok hchecked).2.1 hscalar]

/--
**A signed delivery settles exactly when no text of its JSON value, keys included, has a
surrogate.**
-/
theorem ingestion_settled_iff {settings : WebhookSettings} {request : WebhookRequest}
    {eventId : String} {value : PyJson} (hadmitted : Admitted settings request eventId value)
    (answers : SessionAnswers) :
    (ingestRazorpayWebhook settings request answers).Settled answers eventId
      (hashRawBody request.body) ↔ value.Scalar := by
  obtain ⟨checked, hchecked, hbody, rfl, rfl⟩ := checkRequest_isOk hadmitted
  constructor
  · intro hsettled
    by_contra hscalar
    rw [route_raises hchecked hscalar answers] at hsettled
    exact hsettled
  · intro hscalar
    rw [← hbody]
    exact route_settled hchecked hscalar answers

end Arc

namespace Arc

open Text

/-! ### A body with an escaped surrogate -/

attribute [local instance] asciiPlatform

/-- A machine to run the route on: digests are the bytes, and the signature is a checksum. -/
@[reducible] def asciiWire : Wire where
  nesting := 100
  sha256 bytes := Json.arr (bytes.map fun b => .int b.toNat)
  hmacSha256 key body :=
    let checksum := (key ++ body).foldl (fun n b => (n * 257 + b.toNat) % 2 ^ 32) 0
    utf8 (String.ofList ((List.range 8).map fun i => Nat.digitChar (checksum / 16 ^ i % 16)))
  floatRepr literal := Str.ofString literal.toString
  floatRepr_scalar _ := Str.ofString_scalar _

attribute [local instance] asciiWire

def webhookSettings : WebhookSettings where
  razorpayWebhookSecret := some "whsec"
  razorpayWebhookPreviousSecret := none

/-- A request as the provider sends it. -/
def signedRequest (body eventId : String) : WebhookRequest where
  body := utf8 body
  signature := some (String.ofList
    ((Wire.hmacSha256 (utf8 "whsec") (utf8 body)).map fun b => Char.ofNat b.toNat))
  eventId := some eventId

/-- Plain ASCII; the escape in it stands for a surrogate without its partner. -/
def surrogateBody : String :=
  "\x7b\"event\":\"payment.failed\",\"payload\":\x7b\"note\":\"\\ud800\"\x7d\x7d"

/-- A body without escapes. -/
def plainBody : String :=
  "\x7b\"event\":\"payment.failed\",\"payload\":\x7b\"note\":\"late\"\x7d\x7d"

/-- The checks pass on both bodies; only the plain one has no surrogate. -/
theorem body_checked (body : String) (scalar : Bool)
    (h : (checkRequest webhookSettings (signedRequest body "evt_1")).toOption.any
      (fun checked => decide checked.payload.Scalar == scalar) = true) :
    ∃ checked, checkRequest webhookSettings (signedRequest body "evt_1") = .ok checked ∧
      decide checked.payload.Scalar = scalar := by
  cases hchecked : checkRequest webhookSettings (signedRequest body "evt_1") with
  | error rejection =>
      rw [hchecked] at h
      cases h
  | ok checked =>
      rw [hchecked] at h
      exact ⟨checked, rfl, by simpa [Except.toOption] using h⟩

/-- The route takes the signature, the JSON, the event id and the envelope, and then raises. -/
theorem surrogate_delivery_raises :
    ∃ eventId value, Admitted webhookSettings (signedRequest surrogateBody "evt_1") eventId value ∧
      ∀ answers, ingestRazorpayWebhook webhookSettings (signedRequest surrogateBody "evt_1")
          answers = .raised .unicodeEncodeError ∧
        ¬ (ingestRazorpayWebhook webhookSettings (signedRequest surrogateBody "evt_1")
          answers).Settled answers eventId
            (hashRawBody (signedRequest surrogateBody "evt_1").body) := by
  obtain ⟨checked, hchecked, hsurrogate⟩ :=
    body_checked surrogateBody false (by decide +kernel)
  have hraises := route_raises hchecked (of_decide_eq_false hsurrogate)
  refine ⟨checked.eventId, checked.payload, (checkRequest_ok hchecked).2.1, fun answers =>
    ⟨hraises answers, ?_⟩⟩
  rw [hraises answers]
  exact id

theorem ingestion_settled_iff_plain :
    ∃ eventId, ∃ value : PyJson, ∀ answers, value.Scalar ∧
      (ingestRazorpayWebhook webhookSettings (signedRequest plainBody "evt_1") answers).Settled
        answers eventId (hashRawBody (signedRequest plainBody "evt_1").body) := by
  obtain ⟨checked, hchecked, hscalar⟩ :=
    body_checked plainBody true (by decide +kernel)
  replace hscalar := of_decide_eq_true hscalar
  refine ⟨checked.eventId, checked.payload, fun answers => ⟨hscalar, ?_⟩⟩
  rw [ingestion_settled_iff (checkRequest_ok hchecked).2.1 answers]
  exact hscalar

end Arc
