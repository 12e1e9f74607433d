/-
Observation of outcomes and attribution of revenue.

The link is read outside any transaction; before and after the read the action and
its case are locked and checked.  An attribution is inserted under a savepoint, so a
unique constraint that refuses it turns the observation into one for review instead
of failing it.
-/
import Arc.Outcomes.Classification
import Arc.Reconciliation.StateMachine

namespace Arc

open Store

variable [Platform]

def outcomeAuditSource : String := "RECOVERY_OBSERVER"
def attributionReasonCode : String := "ARC_PAYMENT_LINK_CAPTURED"

structure RecoveryOutcomeResult where
  recoveryActionId : Uuid
  caseId : Uuid
  observationId : Uuid
  attributionId : Option Uuid
  providerMode : ProviderMode
  providerStatus : String
  outcomeStatus : RecoveryOutcomeStatus
  caseState : CaseState
  reasonCode : String
  recoveredAmountMinor : Option Nat
  currency : String
  idempotent : Bool

/-- What an observer keeps of the action while the provider is read. -/
structure ObservationClaim where
  expected : ExpectedPaymentLinkEvidence
  caseId : Uuid
  providerMode : ProviderMode
  deriving DecidableEq, Repr

def lockActionAndCase (db : Db) (recoveryActionId : Uuid) :
    Except Error (RecoveryActionRecord × PaymentCase) := do
  let action ← requireSome (db.recoveryActions.get? recoveryActionId)
    (.recoveryObservationNotFound "Recovery action was not found")
  let c ← requireSome (db.cases.get? action.caseId)
    (.recoveryObservationNotFound "Recovery action context was not found")
  return (action, c)

def observableStates : List CaseState := [.waitingForOutcome, .recovered, .exhausted, .escalated]

/-- `_validate_observable` -/
def validateObservable (action : RecoveryActionRecord) (c : PaymentCase) :
    Except Error ExpectedPaymentLinkEvidence := do
  require (action.action = .createRecoveryLink ∧ action.executionStatus = .succeeded ∧
      action.provider = .razorpay)
    (.recoveryObservationConfiguration "Recovery action does not support outcome observation")
  let linkId ← requireSome action.externalReferenceId
    (.recoveryObservationConfiguration "Recovery action is missing provider identifiers")
  let reference ← requireSome action.externalReference
    (.recoveryObservationConfiguration "Recovery action is missing provider identifiers")
  let amount ← requireSome (c.amount.filter fun a => 0 < a)
    (.recoveryObservationConfiguration "Recovery case has no positive expected amount")
  let currency := upperStripped (c.currency.getD "")
  require (currency.length = 3)
    (.recoveryObservationConfiguration "Recovery case has no valid currency")
  require (c.currentState ∈ observableStates)
    (.recoveryObservationConfiguration "Recovery case is not observable in its current state")
  return {
    recoveryActionId := action.id
    paymentLinkId := linkId
    referenceId := reference
    amountMinor := amount
    currency := currency }

/-- `_prepare_claim` -/
def prepareObservation (db : Db) (recoveryActionId : Uuid) (providerMode : ProviderMode) :
    Except Error ObservationClaim := do
  let (action, c) ← lockActionAndCase db recoveryActionId
  let expected ← validateObservable action c
  return ⟨expected, c.id, providerMode⟩

/-- The attribution of an action; there is at most one. -/
def Db.attributionForAction (db : Db) (recoveryActionId : Uuid) : Option RecoveryAttribution :=
  db.attributions.first? fun a => a.recoveryActionId == recoveryActionId

/-- The attribution that counts a provider payment; there is at most one. -/
def Db.attributionForPayment (db : Db) (paymentId : String) : Option RecoveryAttribution :=
  db.attributions.first? fun a => a.providerPaymentId == paymentId

def asReview (classification : OutcomeClassification) (reasonCode : String) :
    OutcomeClassification :=
  { classification with outcomeStatus := .reviewRequired, reasonCode := reasonCode }

/-- `_protect_existing_case_and_attribution` -/
def protectExistingCaseAndAttribution (db : Db) (c : PaymentCase) (action : RecoveryActionRecord)
    (classification : OutcomeClassification) (existing : Option RecoveryAttribution) :
    OutcomeClassification :=
  if classification.outcomeStatus ≠ .recovered then classification
  else
    match classification.providerPaymentId with
    | none => asReview classification "RECOVERY_OUTCOME_CAPTURE_MISSING"
    | some paymentId =>
        if (db.attributionForPayment paymentId).any fun a => a.recoveryActionId != action.id then
          asReview classification "RECOVERY_ATTRIBUTION_PAYMENT_ALREADY_COUNTED"
        else
          match existing with
          | some attribution =>
              if attribution.providerPaymentId = paymentId then classification
              else asReview classification "RECOVERY_ATTRIBUTION_ACTION_ALREADY_COUNTED"
          | none =>
              if c.currentState = .recovered then
                asReview classification "RECOVERY_ATTRIBUTION_CASE_ALREADY_RECOVERED"
              else classification

/-- One `INSERT` of an attribution, with its unique constraints checked. -/
def insertAttribution (attributions : Table RecoveryAttribution) (a : RecoveryAttribution) :
    Option (Table RecoveryAttribution) :=
  if attributions.any fun x => x.recoveryActionId == a.recoveryActionId ||
      x.outcomeObservationId == a.outcomeObservationId ||
      x.providerPaymentId == a.providerPaymentId then
    none
  else attributions.insert? a

/-- One `INSERT` of an observation, with its unique constraint checked. -/
def insertObservation (observations : Table RecoveryOutcomeObservation)
    (o : RecoveryOutcomeObservation) : Except Error (Table RecoveryOutcomeObservation) :=
  if observations.any fun x => x.recoveryActionId == o.recoveryActionId &&
      x.evidenceFingerprint == o.evidenceFingerprint then
    .error .integrity
  else requireSome (observations.insert? o) .integrity

/-- The identifiers of the rows an observation may insert, and its instant. -/
structure ObservationFresh where
  observationId : Uuid
  attributionId : Uuid
  observedAt : Int

def newAttribution (claim : ObservationClaim) (c : PaymentCase)
    (current : ExpectedPaymentLinkEvidence) (snapshot : PaymentLinkSnapshot)
    (classification : OutcomeClassification) (fingerprint : Digest) (fresh : ObservationFresh) :
    RecoveryAttribution where
  id := fresh.attributionId
  caseId := c.id
  recoveryActionId := current.recoveryActionId
  outcomeObservationId := fresh.observationId
  providerMode := claim.providerMode
  providerPaymentLinkId := snapshot.id
  providerReferenceId := snapshot.referenceId
  providerPaymentId := classification.providerPaymentId.getD ""
  recoveredAmountMinor := current.amountMinor
  currency := current.currency
  attributionReasonCode := attributionReasonCode
  evidenceFingerprint := fingerprint
  attributedAt := fresh.observedAt

/-- The attributions after an observation, the action's attribution, and the final verdict. -/
structure AttributionOutcome where
  attributions : Table RecoveryAttribution
  attribution : Option RecoveryAttribution
  classification : OutcomeClassification

/-- Insert an attribution for a recovered outcome that has none; a refusal asks for review. -/
def attributeRevenue (db : Db) (classification : OutcomeClassification)
    (existing : Option RecoveryAttribution) (new : RecoveryAttribution) : AttributionOutcome :=
  if classification.outcomeStatus = .recovered ∧ existing = none then
    match insertAttribution db.attributions new with
    | some attributions => ⟨attributions, some new, classification⟩
    | none =>
        ⟨db.attributions, none,
          asReview classification "RECOVERY_ATTRIBUTION_UNIQUENESS_CONFLICT"⟩
  else ⟨db.attributions, existing, classification⟩

def newObservation (claim : ObservationClaim) (c : PaymentCase)
    (current : ExpectedPaymentLinkEvidence) (snapshot : PaymentLinkSnapshot)
    (classification : OutcomeClassification) (source : OutcomeObservationSource)
    (fingerprint : Digest) (fresh : ObservationFresh) : RecoveryOutcomeObservation where
  id := fresh.observationId
  caseId := c.id
  recoveryActionId := current.recoveryActionId
  source := source
  providerMode := claim.providerMode
  providerStatus := snapshot.status
  outcomeStatus := classification.outcomeStatus
  amountExpectedMinor := current.amountMinor
  amountPaidMinor := snapshot.amountPaid
  currency := current.currency
  providerPaymentId := classification.providerPaymentId
  providerPaymentStatus := classification.providerPaymentStatus
  evidenceFingerprint := fingerprint
  observedAt := fresh.observedAt

def outcomeAudit (c : PaymentCase) (eventType reasonCode : String) : CaseEvent where
  caseId := c.id
  eventType := eventType
  source := outcomeAuditSource
  reasonCode := some reasonCode

/-- A case that waits for its outcome is closed in the given state; any other is left alone. -/
def closeWaitingCase (w : CaseWork) (state : CaseState) (reasonCode : String) (observedAt : Int) :
    Except Error CaseWork :=
  if w.row.currentState = .waitingForOutcome then do
    let w ← transitionCase w state reasonCode outcomeAuditSource
    return { w with row := { w.row with resolvedAt := some observedAt } }
  else .ok w

/-- `_apply_outcome_transition` -/
def applyOutcomeTransition (w : CaseWork) (classification : OutcomeClassification)
    (attribution : Option RecoveryAttribution) (observedAt : Int) : Except Error CaseWork :=
  let w := w.audit (outcomeAudit w.row "RECOVERY_OUTCOME_OBSERVED" classification.reasonCode)
  let w := w.audit (outcomeAudit w.row
    ("RECOVERY_OUTCOME_" ++ classification.outcomeStatus.value) classification.reasonCode)
  match classification.outcomeStatus with
  | .pending => .ok w
  | .recovered =>
      if attribution = none then
        .error (.recoveryObservationConfiguration "Recovered outcome has no durable attribution")
      else
        closeWaitingCase (w.audit (outcomeAudit w.row "RECOVERY_ATTRIBUTED" attributionReasonCode))
          .recovered "RECOVERY_PAYMENT_CAPTURED" observedAt
  | .expired | .cancelled => closeWaitingCase w .exhausted classification.reasonCode observedAt
  | .reviewRequired =>
      closeWaitingCase
        (w.audit (outcomeAudit w.row "RECOVERY_ATTRIBUTION_CONFLICT" classification.reasonCode))
        .escalated classification.reasonCode observedAt

def outcomeResult (observation : RecoveryOutcomeObservation)
    (attribution : Option RecoveryAttribution) (c : PaymentCase) (reasonCode : String)
    (idempotent : Bool) : RecoveryOutcomeResult where
  recoveryActionId := observation.recoveryActionId
  caseId := observation.caseId
  observationId := observation.id
  attributionId := attribution.map RecoveryAttribution.id
  providerMode := observation.providerMode
  providerStatus := observation.providerStatus
  outcomeStatus := observation.outcomeStatus
  caseState := c.currentState
  reasonCode := reasonCode
  recoveredAmountMinor := attribution.map RecoveryAttribution.recoveredAmountMinor
  currency := observation.currency
  idempotent := idempotent

/-- Store new evidence: the observation, the attribution it earns, and the outcome of the case. -/
def recordEvidence (db : Db) (claim : ObservationClaim) (action : RecoveryActionRecord)
    (c : PaymentCase) (current : ExpectedPaymentLinkEvidence) (snapshot : PaymentLinkSnapshot)
    (source : OutcomeObservationSource) (fingerprint : Digest) (fresh : ObservationFresh) :
    Except Error (Db × RecoveryOutcomeResult) := do
  let existing := db.attributionForAction action.id
  let classification := protectExistingCaseAndAttribution db c action
    (classifyPaymentLinkOutcome current snapshot) existing
  let outcome := attributeRevenue db classification existing
    (newAttribution claim c current snapshot classification fingerprint fresh)
  let observation := newObservation claim c current snapshot outcome.classification source
    fingerprint fresh
  let observations ← insertObservation db.outcomeObservations observation
  let w ← applyOutcomeTransition (.lock c) outcome.classification outcome.attribution
    fresh.observedAt
  return ({ db with
      outcomeObservations := observations
      attributions := outcome.attributions
      recoveryActions :=
        db.recoveryActions.put { action with externalStatus := some snapshot.status } }.commitCase w,
    outcomeResult observation outcome.attribution w.row outcome.classification.reasonCode false)

/-- `_persist_observation` -/
def persistObservation (db : Db) (claim : ObservationClaim) (snapshot : PaymentLinkSnapshot)
    (source : OutcomeObservationSource) (fresh : ObservationFresh) :
    Except Error (Db × RecoveryOutcomeResult) := do
  let fingerprint := buildOutcomeEvidenceFingerprint claim.expected.recoveryActionId snapshot
  let (action, c) ← lockActionAndCase db claim.expected.recoveryActionId
  let current ← validateObservable action c
  require (current = claim.expected ∧ c.id = claim.caseId)
    (.recoveryObservationConfiguration
      "Recovery action context changed during provider read")
  match db.outcomeObservations.first? fun o =>
      o.recoveryActionId == action.id && o.evidenceFingerprint == fingerprint with
  | some existing =>
      return (db, outcomeResult existing (db.attributionForAction action.id) c
        "RECOVERY_OUTCOME_ALREADY_OBSERVED" true)
  | none => recordEvidence db claim action c current snapshot source fingerprint fresh

end Arc
