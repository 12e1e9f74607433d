/-
The ingress route of the webhooks.

A request is its bytes and two headers.  `checkRequest` is everything the route does
before it records the delivery, in the order of the source: the signature, the bytes as
JSON, the event id, the envelope.  `recordDelivery` is the call that records it, over
whatever the database answers, and `ingestRazorpayWebhook` is the route.

A text of the parsed body may hold surrogates, which the database cannot store; the
envelope is checked on `storedJson`, where a surrogate stands as a null character.  No
field name and no event type that the route knows has one.

A body that nests deeper than the interpreter may recurse is not read; the route does not
catch the error.
-/
import Arc.Text.PyRead
import Arc.Persistence.WebhookEvents

namespace Arc

open Text

/-! ### What the machine provides

Digests, signatures and the depth an interpreter recurses to are not ARC's. They are
parameters; where a result needs a digest without collisions, it says so.
-/

section

variable [Platform]

/-- What the ingress takes from the machine, on top of `Platform`. -/
class Wire extends Recursion where
  /-- SHA-256 of bytes. -/
  sha256 : List UInt8 → Digest
  /-- HMAC-SHA-256 of a body under a key, as hexadecimal text in ASCII. -/
  hmacSha256 (key body : List UInt8) : List UInt8
  /-- `repr` of the float a literal stands for. -/
  floatRepr : Str → Str
  /-- It is ASCII text. -/
  floatRepr_scalar : ∀ literal, (floatRepr literal).Scalar

end

/-! ### The parsed body -/

mutual

/-- A parsed value as it is stored. -/
def storedJson : PyJson → Json
  | .none => .null
  | .bool b => .bool b
  | .int n => .int n
  | .float literal => .float literal.toString
  | .str s => .str s.toString
  | .list items => .arr (storedItems items)
  | .dict fields => .obj (storedFields fields)

def storedItems : List PyJson → List Json
  | [] => []
  | item :: items => storedJson item :: storedItems items

def storedFields : List (Str × PyJson) → List (String × Json)
  | [] => []
  | (key, value) :: fields => (key.toString, storedJson value) :: storedFields fields

end

/-! ### Signatures -/

/-- `str.encode("utf-8")` of a text without surrogates. -/
def utf8 (s : String) : List UInt8 := (Str.ofString s).flatMap utf8Bytes

/-- `str.encode("ascii")` -/
def encodeAscii (s : String) : Option (List UInt8) :=
  if s.toList.all fun c => c.toNat < 128 then some (s.toList.map fun c => .ofNat c.toNat) else none

structure WebhookSettings where
  razorpayWebhookSecret : Option String
  razorpayWebhookPreviousSecret : Option String

/-- A request: its bytes, and the headers `X-Razorpay-Signature` and `x-razorpay-event-id`. -/
structure WebhookRequest where
  body : List UInt8
  signature : Option String
  eventId : Option String

variable [Platform] [Wire]

def verifyWebhookSignature (rawBody : List UInt8) (receivedSignature secret : String) : Bool :=
  match encodeAscii receivedSignature with
  | some received => Wire.hmacSha256 (utf8 secret) rawBody == received
  | none => false

def verifyWebhookSignatureWithRotation (rawBody : List UInt8) (receivedSignature : String)
    (currentSecret : String) (previousSecret : Option String) : Bool :=
  let currentMatches := verifyWebhookSignature rawBody receivedSignature currentSecret
  let previousMatches :=
    match previousSecret with
    | some secret =>
        if secret = "" then false else verifyWebhookSignature rawBody receivedSignature secret
    | none => false
  currentMatches || previousMatches

def hashRawBody (rawBody : List UInt8) : Digest := Wire.sha256 rawBody

/-! ### How a request ends -/

/-- What the database raises. -/
inductive SqlError
  | sqlAlchemyError
  deriving DecidableEq, Repr

/-- What the calls of the route raise. -/
inductive RecordError
  | json (error : JsonError)
  | unicodeEncodeError
  | eventPersistenceError
  | database (error : SqlError)
  deriving DecidableEq, Repr

/-- How a request ends; an error that the route does not catch is a status 500. -/
inductive RouteEnd
  | accepted (duplicate : Bool) (eventId : String)
  | rejected (rejection : HttpRejection)
  | raised (error : RecordError)
  deriving DecidableEq, Repr

def persistenceUnavailable : HttpRejection := ⟨503, "Webhook persistence unavailable"⟩

def integrityConflict : HttpRejection :=
  ⟨409, "Event id already exists with different request content"⟩

/-! ### Before recording

The checks come in the order of the route, and each of them raises the rejection the
route declares for it. The body is parsed after its signature has been checked, so that
nobody else's bytes reach the parser.
-/

/-- The locals of the route once a request has passed its checks. -/
structure CheckedRequest where
  rawBody : List UInt8
  eventId : String
  payload : PyJson
  normalized : NormalizedWebhookEvent

def CheckedRequest.rawBodyDigest (checked : CheckedRequest) : Digest := hashRawBody checked.rawBody

/-- A text that is present and not empty. -/
def nonEmpty (value : Option String) : Option String := value.filter fun s => s != ""

/-- The body as JSON; a `ValueError` is caught, a `RecursionError` is not. -/
def parseBody (rawBody : List UInt8) : Except RouteEnd PyJson :=
  (PyJson.loads Recursion.nesting rawBody).mapError fun error =>
    if error = .recursionError then .raised (.json error)
    else .rejected ⟨400, "Malformed webhook JSON"⟩

/-- The checks of the route, up to the envelope. -/
def checkRequest (settings : WebhookSettings) (request : WebhookRequest) :
    Except RouteEnd CheckedRequest := do
  let receivedSignature ← requireSome (nonEmpty request.signature)
    (.rejected ⟨401, "Missing webhook signature"⟩)
  let secret ← requireSome (nonEmpty settings.razorpayWebhookSecret)
    (.rejected ⟨503, "Webhook ingestion is not configured"⟩)
  require (verifyWebhookSignatureWithRotation request.body receivedSignature secret
    settings.razorpayWebhookPreviousSecret = true) (.rejected ⟨401, "Invalid webhook signature"⟩)
  let payload ← parseBody request.body
  let eventId ← requireSome (request.eventId.filter fun s => s != "" && s.length ≤ 128)
    (.rejected ⟨400, "Missing or invalid Razorpay event id"⟩)
  let normalized ← (normalizeWebhookPayload (storedJson payload)).mapError fun text =>
    .rejected ⟨400, text⟩
  return ⟨request.body, eventId, payload, normalized⟩

/-- The row of a delivery. -/
def CheckedRequest.event (checked : CheckedRequest) (newId : Uuid) : WebhookEvent :=
  { id := newId
    razorpayEventId := checked.eventId
    eventType := checked.normalized.eventType
    accountId := checked.normalized.accountId
    paymentId := checked.normalized.paymentId
    subscriptionId := checked.normalized.subscriptionId
    customerId := checked.normalized.customerId
    rawPayload := storedJson checked.payload
    rawBodySha256 := some checked.rawBodyDigest
    processingStatus := if checked.normalized.supported then .received else .unsupported }

/-! ### Recording -/

/-- The canonical digest of a payload; writing the canonical text and encoding it can raise. -/
def hashPayload (rawPayload : PyJson) : Except RecordError Digest := do
  let canonical ← (rawPayload.dumpsCompact Recursion.nesting Wire.floatRepr).mapError .json
  let encoded ← requireSome (encodeUtf8 canonical) .unicodeEncodeError
  return Wire.sha256 encoded

/-- What the database answers to the statements of one request. -/
structure SessionAnswers where
  /-- The insert returns the new id, or nothing where the event id is taken. -/
  insert : Except SqlError (Option Uuid)
  /-- The row of the new id. -/
  reload : Except SqlError (Option WebhookEvent)
  /-- The row of the event id. -/
  select : Except SqlError (Option WebhookEvent)
  commit : Except SqlError Unit

structure RecordedDelivery where
  duplicate : Bool
  integrityMismatch : Bool
  event : WebhookEvent

/-- A stored row against a delivery that carries its event id. -/
def CheckedRequest.mismatch (checked : CheckedRequest) (stored : WebhookEvent) : Bool :=
  stored.rawBodySha256 ≠ some checked.rawBodyDigest

def recordDelivery (answers : SessionAnswers) (checked : CheckedRequest) :
    Except RecordError RecordedDelivery := do
  let _payloadHash ← hashPayload checked.payload
  match ← answers.insert.mapError .database with
  | some _ =>
      let event ← requireSome (← answers.reload.mapError .database) .eventPersistenceError
      return ⟨false, false, event⟩
  | none =>
      let event ← requireSome (← answers.select.mapError .database) .eventPersistenceError
      return ⟨true, checked.mismatch event, event⟩

/-! ### The route -/

def ingestRazorpayWebhook (settings : WebhookSettings) (request : WebhookRequest)
    (answers : SessionAnswers) : RouteEnd :=
  match checkRequest settings request with
  | .error routeEnd => routeEnd
  | .ok checked =>
      match recordDelivery answers checked with
      | .error .eventPersistenceError | .error (.database _) => .rejected persistenceUnavailable
      | .error (.json error) => .raised (.json error)
      | .error .unicodeEncodeError => .raised .unicodeEncodeError
      | .ok result =>
          if result.integrityMismatch then .rejected integrityConflict
          else
            match answers.commit with
            | .error _ => .rejected persistenceUnavailable
            | .ok () => .accepted result.duplicate checked.eventId

end Arc
