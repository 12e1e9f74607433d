/-
Assessment of a case: eligibility, and a diagnosis when it is eligible.

One transaction under the case lock, without external calls.
-/
import Arc.Diagnosis.FailureClassifier
import Arc.Policy.Eligibility
import Arc.Reconciliation.StateMachine

namespace Arc

open Store

variable [Platform]

def assessmentSource : String := "DETERMINISTIC_ASSESSMENT"

structure CaseAssessmentResult where
  caseId : Uuid
  caseState : CaseState
  eligibilityStatus : Option EligibilityDecision
  eligibilityReasonCode : Option String
  failureCategory : Option FailureCategory
  recoveryDisposition : Option RecoveryDisposition
  diagnosisReasonCode : Option String
  assessmentFingerprint : Option Digest
  idempotent : Bool

/-- The stored assessment is the one just computed. -/
def isFullyAssessed (c : PaymentCase) (eligibility : EligibilityResult)
    (diagnosis : Option FailureDiagnosis) : Bool :=
  c.assessmentFingerprint == some eligibility.assessmentFingerprint &&
    c.eligibilityStatus == some eligibility.decision &&
    c.eligibilityReasonCode == some eligibility.reasonCode &&
    c.eligibilityEvaluatedAt.isSome &&
    match diagnosis with
    | some diagnosis =>
        c.failureCategory == some diagnosis.failureCategory &&
          c.recoveryDisposition == some diagnosis.recoveryDisposition &&
          c.diagnosisReasonCode == some diagnosis.diagnosisReasonCode &&
          c.diagnosedAt.isSome
    | none =>
        c.failureCategory.isNone && c.recoveryDisposition.isNone &&
          c.diagnosisReasonCode.isNone && c.diagnosedAt.isNone

def PaymentCase.withEligibility (c : PaymentCase) (eligibility : EligibilityResult)
    (assessedAt : Int) : PaymentCase :=
  { c with
    eligibilityStatus := some eligibility.decision
    eligibilityReasonCode := some eligibility.reasonCode
    eligibilityEvaluatedAt := some assessedAt
    assessmentFingerprint := some eligibility.assessmentFingerprint }

def PaymentCase.withoutDiagnosis (c : PaymentCase) : PaymentCase :=
  { c with
    failureCategory := none
    recoveryDisposition := none
    diagnosisReasonCode := none
    diagnosedAt := none }

def PaymentCase.withDiagnosis (c : PaymentCase) (diagnosis : FailureDiagnosis)
    (assessedAt : Int) : PaymentCase :=
  { c with
    failureCategory := some diagnosis.failureCategory
    recoveryDisposition := some diagnosis.recoveryDisposition
    diagnosisReasonCode := some diagnosis.diagnosisReasonCode
    diagnosedAt := some assessedAt }

def eligibilityAudit (c : PaymentCase) (previousState : CaseState) : CaseEvent where
  caseId := c.id
  eventType := "ELIGIBILITY_EVALUATED"
  source := assessmentSource
  previousState := some previousState
  newState := some c.currentState

def diagnosisAudit (c : PaymentCase) (previousState : CaseState) (rediagnosed : Bool) :
    CaseEvent where
  caseId := c.id
  eventType := if rediagnosed then "FAILURE_REDIAGNOSED" else "FAILURE_DIAGNOSED"
  source := assessmentSource
  previousState := some previousState
  newState := some c.currentState

/-- A case that is being reconciled becomes diagnosed; any other keeps its state. -/
def moveReconcilingCaseToDiagnosed (w : CaseWork) : Except Error CaseWork :=
  if w.row.currentState = .reconciling then
    transitionCase w .diagnosed "DETERMINISTIC_FAILURE_DIAGNOSED" assessmentSource
  else .ok w

/-- The changes of an assessment that is not the stored one. -/
def persistAssessment (c : PaymentCase) (eligibility : EligibilityResult)
    (diagnosis : Option FailureDiagnosis) (assessedAt : Int) : Except Error CaseWork := do
  let previousState := c.currentState
  let previouslyDiagnosed := c.diagnosedAt.isSome || previousState == .diagnosed
  let assessed := c.withEligibility eligibility assessedAt
  let w := (CaseWork.lock assessed).audit (eligibilityAudit assessed previousState)
  match diagnosis with
  | none => return { w with row := w.row.withoutDiagnosis }
  | some diagnosis =>
      let w ← moveReconcilingCaseToDiagnosed
        { w with row := w.row.withDiagnosis diagnosis assessedAt }
      return w.audit (diagnosisAudit w.row previousState previouslyDiagnosed)

/-- The projection of the stored assessment. -/
def assessmentResult (c : PaymentCase) (idempotent : Bool) : CaseAssessmentResult where
  caseId := c.id
  caseState := c.currentState
  eligibilityStatus := c.eligibilityStatus
  eligibilityReasonCode := c.eligibilityReasonCode
  failureCategory := c.failureCategory
  recoveryDisposition := c.recoveryDisposition
  diagnosisReasonCode := c.diagnosisReasonCode
  assessmentFingerprint := c.assessmentFingerprint
  idempotent := idempotent

/-- Persist one current assessment, or return the stored one when nothing changed. -/
def assessCase (db : Db) (caseId : Uuid) (assessedAt : Int) :
    Except Error (Db × CaseAssessmentResult) := do
  let c ← requireSome (db.cases.get? caseId) (.paymentCaseNotFound "Payment case was not found")
  let eligibility := assessEligibility c assessedAt
  let diagnosis :=
    if eligibility.decision = .eligible then some (classifyFailure c) else none
  if isFullyAssessed c eligibility diagnosis then return (db, assessmentResult c true)
  else
    let w ← persistAssessment c eligibility diagnosis assessedAt
    return (db.commitCase w, assessmentResult w.row false)

end Arc
