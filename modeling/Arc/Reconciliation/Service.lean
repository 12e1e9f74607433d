/-
Processing of stored webhook events.

An event is claimed in one transaction, the provider is read outside any transaction,
and a second transaction finishes the event: `applyReconciliation` for payments and
subscriptions, `markProcessedWithoutCase` for payment links, `markFailed` for every
failure.  All three first lock the event row and are turned away when it is processed
already or when its attempt number is no longer the claimed one; this common entry is
`lockClaimed`.
-/
import Arc.Reconciliation.Payment

namespace Arc

open Store

variable [Platform]

def maxProcessingErrorLength : Nat := 256

/-- How long a claimed event is left to its worker. -/
def processingLease : Int := seconds 120

structure WebhookProcessingResult where
  eventId : Uuid
  processingStatus : EventProcessingStatus
  caseId : Option Uuid
  reasonCode : String
  idempotent : Bool := false
  deriving DecidableEq, Repr

/-- What a worker keeps of the event it has claimed. -/
structure ClaimedEvent where
  id : Uuid
  eventType : String
  paymentId : Option String
  subscriptionId : Option String
  processingAttemptCount : Nat
  rawPayload : Json
  deriving DecidableEq

/-- The provider entity an event is about. -/
abbrev EntitySnapshot := PaymentSnapshot ⊕ SubscriptionSnapshot

def lockEvent (db : Db) (eventId : Uuid) : Except Error WebhookEvent :=
  requireSome (db.webhookEvents.get? eventId) (.webhookEventNotFound "Webhook event was not found")

/-- Whether the lease of an event in processing is still running at `now`. -/
def leaseIsRunning (event : WebhookEvent) (now : Int) : Bool :=
  match event.processingStartedAt with
  | none => false
  | some startedAt => now - processingLease < startedAt

def claimedEvent (event : WebhookEvent) : ClaimedEvent where
  id := event.id
  eventType := event.eventType
  paymentId := event.paymentId
  subscriptionId := event.subscriptionId
  processingAttemptCount := event.processingAttemptCount
  rawPayload := event.rawPayload

/-- The row of a newly claimed event. -/
def WebhookEvent.claim (event : WebhookEvent) (now : Int) : WebhookEvent :=
  { event with
    processingStatus := .processing
    processingStartedAt := some now
    processingAttemptCount := event.processingAttemptCount + 1
    processedAt := none
    processingError := none }

/-- `_claim_event`: claim the event, or say why there is nothing to do. -/
def claimEvent (db : Db) (eventId : Uuid) (now : Int) :
    Except Error (Db × (ClaimedEvent ⊕ WebhookProcessingResult)) := do
  let event ← lockEvent db eventId
  if event.processingStatus = .unsupported ∨ event.eventType ∉ supportedRazorpayEvents then
    return ({ db with
        webhookEvents := db.webhookEvents.put { event with processingStatus := .unsupported } },
      .inr ⟨event.id, .unsupported, none, "UNSUPPORTED_EVENT", true⟩)
  else if event.processingStatus = .processed then
    return (db, .inr ⟨event.id, .processed, none, "EVENT_ALREADY_PROCESSED", true⟩)
  else if event.processingStatus = .processing ∧ leaseIsRunning event now then
    return (db, .inr ⟨event.id, .processing, none, "EVENT_ALREADY_PROCESSING", true⟩)
  else
    let event := event.claim now
    return ({ db with webhookEvents := db.webhookEvents.put event }, .inl (claimedEvent event))

/-- The locked row of a claim that is still the event's own, or the result that ends the worker. -/
def lockClaimed (db : Db) (claimed : ClaimedEvent) (caseId : Option Uuid) :
    Except Error (WebhookEvent ⊕ WebhookProcessingResult) := do
  let event ← lockEvent db claimed.id
  if event.processingStatus = .processed then
    return .inr ⟨event.id, .processed, caseId, "EVENT_ALREADY_PROCESSED", true⟩
  else if event.processingAttemptCount ≠ claimed.processingAttemptCount then
    return .inr ⟨event.id, event.processingStatus, none, "EVENT_PROCESSING_CLAIM_SUPERSEDED", true⟩
  else return .inl event

/-- The row of a finished event. -/
def WebhookEvent.finish (event : WebhookEvent) (processedAt : Int) : WebhookEvent :=
  { event with
    processingStatus := .processed
    processedAt := some processedAt
    processingError := none }

def markProcessedWithoutCase (db : Db) (claimed : ClaimedEvent) (reasonCode : String)
    (caseId : Option Uuid) (processedAt : Int) : Except Error (Db × WebhookProcessingResult) := do
  match ← lockClaimed db claimed caseId with
  | .inr result => return (db, result)
  | .inl event =>
      require (event.processingStatus = .processing)
        (.webhookProcessing "Webhook event is not available for outcome processing")
      return ({ db with webhookEvents := db.webhookEvents.put (event.finish processedAt) },
        ⟨event.id, .processed, caseId, reasonCode, false⟩)

/-- The entity read an event asks for, given what came back. -/
def fetchAuthoritativeEntity (event : ClaimedEvent) (payment : HttpOutcome PaymentSnapshot)
    (subscription : HttpOutcome SubscriptionSnapshot) : Except String EntitySnapshot :=
  if hasPrefix event.eventType "payment." then
    match event.paymentId with
    | none => .error "Payment webhook is missing a payment identifier"
    | some paymentId =>
        match fetchPayment paymentId payment with
        | .error e => .error e.text
        | .ok snapshot => .ok (.inl snapshot)
  else
    match event.subscriptionId with
    | none => .error "Subscription webhook is missing a subscription identifier"
    | some subscriptionId =>
        match fetchSubscription subscriptionId subscription with
        | .error e => .error e.text
        | .ok snapshot => .ok (.inr snapshot)

/-- `reconcile_payment` or `reconcile_subscription`, by the kind of the snapshot. -/
def reconcileEntity (db : Db) (event : WebhookEvent) (snapshot : EntitySnapshot) (fresh : Fresh)
    (now : Int) : Except Error ReconciliationResult :=
  match snapshot with
  | .inl payment => reconcilePayment db event payment fresh now
  | .inr subscription => reconcileSubscription db event subscription fresh now

def applyReconciliation (db : Db) (claimed : ClaimedEvent) (snapshot : EntitySnapshot)
    (fresh : Fresh) (now processedAt : Int) : Except Error (Db × WebhookProcessingResult) := do
  match ← lockClaimed db claimed none with
  | .inr result => return (db, result)
  | .inl event =>
      require (event.processingStatus = .processing)
        (.webhookProcessing "Webhook event is not available for reconciliation")
      let result ← reconcileEntity db event snapshot fresh now
      return ({ result.db with
          webhookEvents := result.db.webhookEvents.put (event.finish processedAt) },
        ⟨event.id, .processed, result.caseId, result.reasonCode, false⟩)

def boundedError (safeError : String) : String :=
  String.ofList (safeError.toList.take maxProcessingErrorLength)

def markFailed (db : Db) (claimed : ClaimedEvent) (safeError : String) (now : Int) :
    Except Error (Db × WebhookProcessingResult) := do
  match ← lockClaimed db claimed none with
  | .inr result => return (db, result)
  | .inl event =>
      return ({ db with
          webhookEvents := db.webhookEvents.put
            { event with
              processingStatus := .failed
              processingError := some (boundedError safeError)
              processedAt := some now } },
        ⟨event.id, .failed, none, "RECONCILIATION_FAILED", false⟩)

/-- The recovery actions a payment link event names, by link id or by reference. -/
def matchingActions (db : Db) (reference : PaymentLinkWebhookReference) :
    List RecoveryActionRecord :=
  db.recoveryActions.select fun r =>
    (reference.paymentLinkId.isSome && r.externalReferenceId == reference.paymentLinkId) ||
      (reference.referenceId.isSome && r.externalReference == reference.referenceId)

/-- The one action a payment link event is about; `none` when no action matches. -/
def matchPaymentLinkEvent (db : Db) (claimed : ClaimedEvent) : Except Error (Option Uuid) := do
  let reference := extractPaymentLinkWebhookReference claimed.rawPayload
  require (reference.paymentLinkId.isSome ∨ reference.referenceId.isSome)
    (.webhookProcessing "Payment Link webhook is missing stable identifiers")
  match matchingActions db reference with
  | [] => return none
  | [action] => return some action.id
  | _ => .error (.webhookProcessing "Payment Link webhook action match is ambiguous")

/-- The text `_mark_failed` is given for an exception raised while an event is processed. -/
def safeErrorText : Error → String
  | .casePersistence text | .webhookProcessing text | .webhookEventNotFound text => text
  | .integrity => "ARC database reconciliation failed"
  | _ => "Webhook reconciliation failed safely"

end Arc
