/-
The Razorpay clients: entity reads, payment links, and the webhook payload.

A call is modelled by what came back over HTTP: no response at all, or a status code
with a body that has the fields of the expected shape or has not.  What the clients
make of it, the field checks, the normalization of statuses and currencies, and the
exception each kind of failure becomes, is the code's.

What differs between the operations matters: a failure of `create` that leaves open
whether the link exists is `uncertain`, and only that one; the same failure of a
lookup, a cancellation or a fetch is `unavailable` or `invalidResponse`.
-/
import Arc.Domain.Enums

namespace Arc

/-- What came back over HTTP; the body is `none` when it lacks the expected fields. -/
inductive HttpOutcome (α : Type)
  /-- A timeout or a network failure. -/
  | noResponse
  /-- Any other failure to carry out the request. -/
  | requestError
  | response (statusCode : Nat) (body : Option α)
  deriving DecidableEq, Repr

def boundedText (minimum maximum : Nat) (s : String) : Bool :=
  minimum ≤ s.length && s.length ≤ maximum

def boundedOptionalText (maximum : Nat) : Option String → Bool
  | none => true
  | some s => s.length ≤ maximum

variable [Platform]

/-! ### Payment and subscription reads -/

def recognizedPaymentStatuses : List String :=
  ["created", "authorized", "captured", "refunded", "failed"]

def recognizedSubscriptionStatuses : List String :=
  ["created", "authenticated", "active", "pending", "halted", "paused", "cancelled",
    "completed", "expired"]

/-- The payment fields reconciliation consumes. -/
structure PaymentSnapshot where
  id : String
  status : String
  amount : Nat
  currency : String
  customerId : Option String := none
  subscriptionId : Option String := none
  method : Option String := none
  errorCode : Option String := none
  errorDescription : Option String := none
  errorSource : Option String := none
  errorStep : Option String := none
  errorReason : Option String := none
  deriving DecidableEq, Repr

/-- The subscription fields reconciliation consumes. -/
structure SubscriptionSnapshot where
  id : String
  status : String
  customerId : Option String := none
  deriving DecidableEq, Repr

/-- `status` is stripped and put in small letters. -/
def normalizeStatus (value : String) : String := Platform.lower (strip value)

/-- The field bounds of a payment, then its status and currency normalized. -/
def PaymentSnapshot.validate (raw : PaymentSnapshot) : Option PaymentSnapshot :=
  if boundedText 1 100 raw.id && boundedText 1 64 raw.status && boundedText 1 3 raw.currency &&
      boundedOptionalText 100 raw.customerId && boundedOptionalText 100 raw.subscriptionId &&
      boundedOptionalText 64 raw.method && boundedOptionalText 100 raw.errorCode &&
      boundedOptionalText 100 raw.errorSource && boundedOptionalText 100 raw.errorStep &&
      boundedOptionalText 100 raw.errorReason then
    some { raw with status := normalizeStatus raw.status, currency := upperStripped raw.currency }
  else none

def SubscriptionSnapshot.validate (raw : SubscriptionSnapshot) : Option SubscriptionSnapshot :=
  if boundedText 1 100 raw.id && boundedText 1 64 raw.status &&
      boundedOptionalText 100 raw.customerId then
    some { raw with status := normalizeStatus raw.status }
  else none

/-- The failures of the read client, by class; each has a fixed text for each cause. -/
inductive RazorpayClientError
  | authentication
  | notFound
  | rateLimit
  | unavailable (text : String)
  | invalidResponse (text : String)
  deriving DecidableEq, Repr

def RazorpayClientError.text : RazorpayClientError → String
  | authentication => "Razorpay read API authentication failed"
  | notFound => "Razorpay entity was not found"
  | rateLimit => "Razorpay read API rate limit was reached"
  | unavailable text => text
  | invalidResponse text => text

/-- The read client's reading of a status code; `none` lets the response through. -/
def entityStatusError (statusCode : Nat) : Option RazorpayClientError :=
  if 200 ≤ statusCode ∧ statusCode < 300 then none
  else if statusCode = 401 ∨ statusCode = 403 then some .authentication
  else if statusCode = 404 then some .notFound
  else if statusCode = 429 then some .rateLimit
  else if 500 ≤ statusCode then
    some (.unavailable "Razorpay read API is temporarily unavailable")
  else some (.invalidResponse "Razorpay rejected the entity read request")

/-- One authenticated read of an entity. -/
def getEntity {α : Type} (identifier : String) (validate : α → Option α) (out : HttpOutcome α) :
    Except RazorpayClientError α := do
  require (boundedText 1 100 identifier)
    (.invalidResponse "Razorpay entity identifier is invalid")
  match out with
  | .noResponse => .error (.unavailable "Razorpay read API is temporarily unavailable")
  | .requestError => .error (.unavailable "Razorpay read API request failed")
  | .response statusCode body =>
      match entityStatusError statusCode with
      | some e => .error e
      | none =>
          requireSome (body.bind validate)
            (.invalidResponse "Razorpay returned an invalid entity response")

def fetchPayment (paymentId : String) (out : HttpOutcome PaymentSnapshot) :
    Except RazorpayClientError PaymentSnapshot :=
  getEntity paymentId PaymentSnapshot.validate out

def fetchSubscription (subscriptionId : String) (out : HttpOutcome SubscriptionSnapshot) :
    Except RazorpayClientError SubscriptionSnapshot :=
  getEntity subscriptionId SubscriptionSnapshot.validate out

/-! ### Payment links

A failed call is uncertain where the provider may have applied it, and a definite error
where it cannot have. That split is all that the execution knows of the failure.
-/

/-- The failures of the payment link client. -/
inductive PaymentLinkError
  | configuration
  | authentication
  | rateLimit
  | rejected
  | unavailable
  | invalidResponse
  /-- Creation may have happened. -/
  | uncertain
  deriving DecidableEq, Repr

def PaymentLinkError.reasonCode : PaymentLinkError → String
  | configuration => "RAZORPAY_CONFIGURATION_ERROR"
  | authentication => "RAZORPAY_AUTHENTICATION_FAILED"
  | rateLimit => "RAZORPAY_RATE_LIMITED"
  | rejected => "RAZORPAY_PAYMENT_LINK_REJECTED"
  | unavailable => "RAZORPAY_PAYMENT_LINK_UNAVAILABLE"
  | invalidResponse => "RAZORPAY_PAYMENT_LINK_INVALID_RESPONSE"
  | uncertain => "RAZORPAY_PAYMENT_LINK_OUTCOME_UNCERTAIN"

/-- What a creation asks for, apart from the fields that never vary. -/
structure PaymentLinkCreateRequest where
  amount : Nat
  currency : String
  referenceId : String
  expireBy : Int
  deriving DecidableEq, Repr

/-- A payment listed in a link. -/
structure CapturedPaymentProjection where
  paymentId : String
  amount : Nat
  status : String
  method : Option String := none
  createdAt : Option Nat := none
  paymentLinkId : Option String := none
  deriving DecidableEq, Repr

structure PaymentLinkSnapshot where
  id : String
  referenceId : String
  amount : Nat
  amountPaid : Nat
  currency : String
  status : String
  shortUrl : String
  expireBy : Option Nat := none
  expiredAt : Option Nat := none
  cancelledAt : Option Nat := none
  updatedAt : Option Nat := none
  payments : List CapturedPaymentProjection := []
  deriving DecidableEq, Repr

def CapturedPaymentProjection.validate (raw : CapturedPaymentProjection) :
    Option CapturedPaymentProjection :=
  if boundedText 1 100 raw.paymentId && 0 < raw.amount && boundedText 1 64 raw.status &&
      boundedOptionalText 64 raw.method && boundedOptionalText 100 raw.paymentLinkId then
    some { raw with status := normalizeStatus raw.status }
  else none

def PaymentLinkSnapshot.validate (raw : PaymentLinkSnapshot) : Option PaymentLinkSnapshot :=
  if boundedText 1 100 raw.id && boundedText 1 40 raw.referenceId && 0 < raw.amount &&
      boundedText 3 3 raw.currency && boundedText 1 64 raw.status then
    (raw.payments.mapM CapturedPaymentProjection.validate).map fun payments =>
      { raw with
        currency := upperStripped raw.currency
        status := normalizeStatus raw.status
        payments := payments }
  else none

inductive PaymentLinkOperation
  | lookup
  | create
  | cancel
  | fetch
  deriving DecidableEq, Repr

/-- `_raise_for_status`; `none` lets the response through. -/
def linkStatusError (operation : PaymentLinkOperation) (statusCode : Nat) :
    Option PaymentLinkError :=
  if 200 ≤ statusCode ∧ statusCode < 300 then none
  else if statusCode = 401 ∨ statusCode = 403 then some .authentication
  else if statusCode = 429 then some .rateLimit
  else if 500 ≤ statusCode then
    if operation = .create then some .uncertain else some .unavailable
  else some .rejected

/-- `_request`: the body of a response that was let through. -/
def linkRequest {α : Type} (operation : PaymentLinkOperation) (out : HttpOutcome α) :
    Except PaymentLinkError (Option α) :=
  match out with
  | .noResponse | .requestError =>
      .error (if operation = .create then .uncertain else .unavailable)
  | .response statusCode body =>
      match linkStatusError operation statusCode with
      | some e => .error e
      | none => .ok body

/-- `_bounded_identifier` -/
def boundedIdentifier (maximum : Nat) (identifier : String) : Except PaymentLinkError String :=
  let normalized := strip identifier
  if normalized = "" ∨ maximum < normalized.length then .error .invalidResponse
  else .ok normalized

def lookupByReference (referenceId : String) (out : HttpOutcome (List PaymentLinkSnapshot)) :
    Except PaymentLinkError (List PaymentLinkSnapshot) := do
  let _ ← boundedIdentifier 40 referenceId
  let body ← linkRequest .lookup out
  requireSome
    (body.bind fun links =>
      if links.length ≤ 100 then links.mapM PaymentLinkSnapshot.validate else none)
    .invalidResponse

def createLink (request : PaymentLinkCreateRequest) (out : HttpOutcome PaymentLinkSnapshot) :
    Except PaymentLinkError PaymentLinkSnapshot := do
  let body ← linkRequest .create out
  let snapshot ← requireSome (body.bind PaymentLinkSnapshot.validate) .uncertain
  require (snapshot.referenceId = request.referenceId ∧ snapshot.amount = request.amount ∧
    snapshot.currency = request.currency) .uncertain
  return snapshot

/-- The reads and writes that name one link by its id. -/
def linkById (operation : PaymentLinkOperation) (paymentLinkId : String)
    (out : HttpOutcome PaymentLinkSnapshot) : Except PaymentLinkError PaymentLinkSnapshot := do
  let identifier ← boundedIdentifier 100 paymentLinkId
  let body ← linkRequest operation out
  let snapshot ← requireSome (body.bind PaymentLinkSnapshot.validate) .invalidResponse
  require (snapshot.id = identifier) .invalidResponse
  return snapshot

def cancelLink (paymentLinkId : String) (out : HttpOutcome PaymentLinkSnapshot) :
    Except PaymentLinkError PaymentLinkSnapshot :=
  linkById .cancel paymentLinkId out

def fetchLinkById (paymentLinkId : String) (out : HttpOutcome PaymentLinkSnapshot) :
    Except PaymentLinkError PaymentLinkSnapshot :=
  linkById .fetch paymentLinkId out

/-- A created link has the reference that was asked for. -/
theorem createLink_reference {request : PaymentLinkCreateRequest}
    {out : HttpOutcome PaymentLinkSnapshot} {snapshot : PaymentLinkSnapshot}
    (h : createLink request out = .ok snapshot) :
    snapshot.referenceId = request.referenceId := by
  obtain ⟨_, -, h⟩ := bind_eq_ok.mp h
  obtain ⟨snapshot', -, h⟩ := bind_eq_ok.mp h
  obtain ⟨_, hmatch, h⟩ := bind_eq_ok.mp h
  cases h
  exact (require_eq_ok.mp hmatch).1

/-! ### The webhook payload -/

def supportedRazorpayEvents : List String :=
  ["payment.failed", "payment.captured", "subscription.pending", "subscription.halted",
    "payment_link.paid", "payment_link.cancelled", "payment_link.expired",
    "payment_link.partially_paid"]

/-- Routing fields of a payment link event. -/
structure PaymentLinkWebhookReference where
  paymentLinkId : Option String
  referenceId : Option String
  deriving DecidableEq, Repr

/-- The object under `payload.<entity>.entity`, empty when a level is missing. -/
def entity (payload : Json) (entityName : String) : Json :=
  match payload.field? "payload" with
  | some section' =>
      match section'.field? entityName with
      | some wrapper =>
          match wrapper.field? "entity" with
          | some (.obj fields) => .obj fields
          | _ => .obj []
      | none => .obj []
  | none => .obj []

/-- A text that is not empty and not too long. -/
def identifier (value : Option Json) (maxLength : Nat) : Option String :=
  match value with
  | some (.str s) => if s = "" ∨ maxLength < s.length then none else some s
  | _ => none

/-- The metadata of a webhook envelope. -/
structure NormalizedWebhookEvent where
  eventType : String
  accountId : Option String
  paymentId : Option String
  subscriptionId : Option String
  customerId : Option String
  deriving DecidableEq, Repr

def isObject : Option Json → Bool
  | some (.obj _) => true
  | _ => false

/-- Check the envelope and take out the identifiers that are present. -/
def normalizeWebhookPayload (payload : Json) : Except String NormalizedWebhookEvent := do
  require (isObject (some payload)) "Webhook JSON must be an object"
  let eventType ← requireSome (identifier (payload.field? "event") 100)
    "Webhook event must be a non-empty string"
  require (isObject (payload.field? "payload")) "Webhook payload must be an object"
  let payment := entity payload "payment"
  let subscription := entity payload "subscription"
  let customer := entity payload "customer"
  return {
    eventType := eventType
    accountId := identifier (payload.field? "account_id") 100
    paymentId := identifier (payment.field? "id") 100
    subscriptionId := pyOr (identifier (subscription.field? "id") 100)
      (identifier (payment.field? "subscription_id") 100)
    customerId := pyOr (pyOr (identifier (payment.field? "customer_id") 100)
      (identifier (subscription.field? "customer_id") 100)) (identifier (customer.field? "id") 100) }

def NormalizedWebhookEvent.supported (event : NormalizedWebhookEvent) : Bool :=
  event.eventType ∈ supportedRazorpayEvents

def extractPaymentLinkWebhookReference (payload : Json) : PaymentLinkWebhookReference :=
  let paymentLink := entity payload "payment_link"
  { paymentLinkId := identifier (paymentLink.field? "id") 100
    referenceId := identifier (paymentLink.field? "reference_id") 40 }

end Arc
