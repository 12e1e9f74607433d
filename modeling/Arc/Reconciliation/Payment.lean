/-
Payment and subscription reconciliation.

Both functions lock or create the case row of an identity, write what the provider
reported, move the lifecycle where the report allows it, and append audit entries.
They differ in the statuses they know and in when a case is created; what they do to
the locked case is `applyPaymentTruth` and `applySubscriptionTruth`, and what those
can have done is within `Extends`.

`detectedAt` is the start of the transaction, which the database writes into a new
row; `now` is the clock read after the row is locked.
-/
import Arc.Integrations.Razorpay
import Arc.Persistence.PaymentCases
import Arc.Reconciliation.CaseAudit

namespace Arc

open Store

variable [Platform]

/-- What a transaction that creates new rows takes from outside. -/
structure Fresh where
  id : Uuid
  startedAt : Int

/-- The case a reconciliation touched, and the reason code it ended with. -/
structure ReconciliationResult where
  db : Db
  caseId : Option Uuid
  reasonCode : String

/-! ### Payments

A report writes the columns of the case first and then asks for a transition. Where the
table has no such transition the columns have changed and the state has not.
-/

/-- The columns a payment snapshot overwrites. -/
def PaymentCase.withPaymentTruth (c : PaymentCase) (event : WebhookEvent)
    (snapshot : PaymentSnapshot) (reconciledAt : Int) : PaymentCase :=
  { c with
    paymentId := some snapshot.id
    subscriptionId := pyOr (pyOr snapshot.subscriptionId event.subscriptionId) c.subscriptionId
    customerId := pyOr snapshot.customerId c.customerId
    amount := some snapshot.amount
    currency := some snapshot.currency
    razorpayPaymentStatus := some snapshot.status
    razorpayPaymentMethod := snapshot.method
    errorCode := snapshot.errorCode
    errorDescription := snapshot.errorDescription
    errorSource := snapshot.errorSource
    errorStep := snapshot.errorStep
    errorReason := snapshot.errorReason
    lastReconciledAt := some reconciledAt }

/-- `resolved_at or reconciled_at`, for a case that is in the given terminal state. -/
def PaymentCase.resolveIn (c : PaymentCase) (state : CaseState) (reconciledAt : Int) :
    PaymentCase :=
  if c.currentState = state then { c with resolvedAt := some (c.resolvedAt.getD reconciledAt) }
  else c

/-- The reason code of a payment status that moves no lifecycle. -/
def paymentReasonCode (eventType status : String) : String :=
  if status = "failed" then
    if eventType = "payment.failed" then "RECONCILIATION_CONFIRMED_FAILURE"
    else "PAYMENT_CAPTURE_SIGNAL_NOT_CONFIRMED"
  else if status = "created" ∨ status = "authorized" then "PAYMENT_STATE_NOT_RECOVERY_READY"
  else if status ∉ recognizedPaymentStatuses then "PAYMENT_STATUS_UNRECOGNIZED"
  else "PAYMENT_STATE_NOT_RECOVERY_READY"

/-- Close the case in a terminal state, where its lifecycle allows it. -/
def resolveIfAllowed (w : CaseWork) (state : CaseState) (reasonCode : String)
    (reconciledAt : Int) : Except Error (CaseWork × String) := do
  let w ← transitionIfAllowed w state reasonCode
  return ({ w with row := w.row.resolveIn state reconciledAt }, reasonCode)

/-- The lifecycle change a payment status calls for, and its reason code. -/
def paymentLifecycle (w : CaseWork) (eventType status : String) (reconciledAt : Int) :
    Except Error (CaseWork × String) :=
  if status = "captured" then
    resolveIfAllowed w .recovered "RECONCILIATION_FOUND_ALREADY_CAPTURED" reconciledAt
  else if status = "refunded" then resolveIfAllowed w .exhausted "PAYMENT_REFUNDED" reconciledAt
  else .ok (w, paymentReasonCode eventType status)

/-- What a payment snapshot does to the locked case. -/
def applyPaymentTruth (w : CaseWork) (event : WebhookEvent) (snapshot : PaymentSnapshot)
    (created : Bool) (reconciledAt : Int) : Except Error (CaseWork × String) := do
  let w ← moveDetectedCaseToReconciling (initializeCaseAudit w created)
  let previousState := w.row.currentState
  let (w, reasonCode) ←
    paymentLifecycle { w with row := w.row.withPaymentTruth event snapshot reconciledAt }
      event.eventType snapshot.status reconciledAt
  return (appendReconciliationAudit w previousState reasonCode, reasonCode)

/-- Apply current payment truth to one existing or newly detected case. -/
def reconcilePayment (db : Db) (event : WebhookEvent) (snapshot : PaymentSnapshot)
    (fresh : Fresh) (now : Int) : Except Error ReconciliationResult := do
  let paymentId ← requireSome event.paymentId
    (.webhookProcessing "Razorpay payment response did not match the requested entity")
  require (snapshot.id = paymentId)
    (.webhookProcessing "Razorpay payment response did not match the requested entity")
  match ← lockCaseByIdentity db .payment paymentId with
  | some row =>
      let (w, reasonCode) ← applyPaymentTruth (.lock row) event snapshot false now
      return ⟨db.commitCase w, some row.id, reasonCode⟩
  | none =>
      if event.eventType = "payment.captured" then
        if snapshot.status = "captured" then
          return ⟨db, none, "CAPTURE_CONFIRMED_WITHOUT_RECOVERY_CASE"⟩
        else return ⟨db, none, "PAYMENT_CAPTURE_SIGNAL_NOT_CONFIRMED"⟩
      else
        let result ← getOrCreateCase db .payment paymentId
          ((pyOr event.accountId none).getD unknownMerchantId)
          (pyOr snapshot.customerId event.customerId) fresh.id fresh.startedAt
        let (w, reasonCode) ←
          applyPaymentTruth (.lock result.paymentCase) event snapshot result.created now
        return ⟨result.db.commitCase w, some result.paymentCase.id, reasonCode⟩

/-! ### Subscriptions -/

/-- The columns a subscription snapshot overwrites. -/
def PaymentCase.withSubscriptionTruth (c : PaymentCase) (snapshot : SubscriptionSnapshot)
    (reconciledAt : Int) : PaymentCase :=
  { c with
    subscriptionId := some snapshot.id
    customerId := pyOr snapshot.customerId c.customerId
    razorpaySubscriptionStatus := some snapshot.status
    lastReconciledAt := some reconciledAt }

def subscriptionRecoveryStatuses : List String := ["pending", "halted"]
def subscriptionTerminalStatuses : List String := ["cancelled", "completed", "expired"]

/-- A subscription case is moved into reconciliation by the statuses that call for recovery. -/
def startSubscriptionReconciliation (w : CaseWork) (status : String) : Except Error CaseWork :=
  if status ∈ subscriptionRecoveryStatuses then moveDetectedCaseToReconciling w else .ok w

/-- The lifecycle change a subscription status calls for, and its reason code. -/
def subscriptionLifecycle (w : CaseWork) (status : String) (reconciledAt : Int) :
    Except Error (CaseWork × String) :=
  if status = "pending" then .ok (w, "PLATFORM_RETRY_ACTIVE")
  else if status = "halted" then .ok (w, "SUBSCRIPTION_RETRIES_EXHAUSTED")
  else if status = "active" then
    resolveIfAllowed w .recovered "SUBSCRIPTION_ACTIVE_NO_RECOVERY_REQUIRED" reconciledAt
  else if status ∈ subscriptionTerminalStatuses then
    resolveIfAllowed w .exhausted "SUBSCRIPTION_TERMINAL_WITHOUT_RECOVERY" reconciledAt
  else if status ∉ recognizedSubscriptionStatuses then
    .ok (w, "SUBSCRIPTION_STATUS_UNRECOGNIZED")
  else .ok (w, "SUBSCRIPTION_STATE_NOT_RECOVERY_READY")

/-- What a subscription snapshot does to the locked case. -/
def applySubscriptionTruth (w : CaseWork) (snapshot : SubscriptionSnapshot) (created : Bool)
    (reconciledAt : Int) : Except Error (CaseWork × String) := do
  let w ← startSubscriptionReconciliation (initializeCaseAudit w created) snapshot.status
  let previousState := w.row.currentState
  let (w, reasonCode) ←
    subscriptionLifecycle { w with row := w.row.withSubscriptionTruth snapshot reconciledAt }
      snapshot.status reconciledAt
  return (appendReconciliationAudit w previousState reasonCode, reasonCode)

/-- Apply current subscription truth without competing with platform retries. -/
def reconcileSubscription (db : Db) (event : WebhookEvent) (snapshot : SubscriptionSnapshot)
    (fresh : Fresh) (now : Int) : Except Error ReconciliationResult := do
  let subscriptionId ← requireSome event.subscriptionId
    (.webhookProcessing "Razorpay subscription response did not match the requested entity")
  require (snapshot.id = subscriptionId)
    (.webhookProcessing "Razorpay subscription response did not match the requested entity")
  match ← lockCaseByIdentity db .subscription subscriptionId with
  | some row =>
      let (w, reasonCode) ← applySubscriptionTruth (.lock row) snapshot false now
      return ⟨db.commitCase w, some row.id, reasonCode⟩
  | none =>
      if snapshot.status ∉ subscriptionRecoveryStatuses then
        if snapshot.status = "active" then
          return ⟨db, none, "SUBSCRIPTION_ACTIVE_NO_RECOVERY_REQUIRED"⟩
        else if snapshot.status ∉ recognizedSubscriptionStatuses then
          return ⟨db, none, "SUBSCRIPTION_STATUS_UNRECOGNIZED"⟩
        else return ⟨db, none, "SUBSCRIPTION_STATE_NOT_RECOVERY_READY"⟩
      else
        let result ← getOrCreateCase db .subscription subscriptionId
          ((pyOr event.accountId none).getD unknownMerchantId)
          (pyOr snapshot.customerId event.customerId) fresh.id fresh.startedAt
        let (w, reasonCode) ←
          applySubscriptionTruth (.lock result.paymentCase) snapshot result.created now
        return ⟨result.db.commitCase w, some result.paymentCase.id, reasonCode⟩

end Arc
