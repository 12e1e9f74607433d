/-
Human approvals, bound to one policy decision each.

Both operations read a row before they hold the case lock and read it again after.
The second read locks the row but does not refresh it: a session keeps one object per
row, and a locking select returns the object it already holds with the columns it
already has.  So each operation is two steps, `…Hint` before the lock and the rest
after it, and the copy read by the first is what the second decides on.
-/
import Arc.Policy.Authorization
import Arc.Reconciliation.StateMachine

namespace Arc

open Store

variable [Platform]

def approvalAuditSource : String := "HUMAN_APPROVAL"

/-- Whether this exact current decision may reach the executor. -/
def isExecutionPermitted (decision : PolicyDecision) (approval : Option ApprovalRequest) : Bool :=
  isExecutionAuthorized decision ||
    (decision.result == .requiresApproval && decision.supersededAt.isNone &&
      approval.any fun a => a.caseId == decision.caseId && a.policyDecisionId == decision.id &&
        a.status == .approved)

structure ApprovalRequestResult where
  approvalRequestId : Uuid
  caseId : Uuid
  policyDecisionId : Uuid
  status : ApprovalStatus
  caseState : CaseState
  idempotent : Bool

def approvalResult (approval : ApprovalRequest) (c : PaymentCase) (idempotent : Bool) :
    ApprovalRequestResult where
  approvalRequestId := approval.id
  caseId := approval.caseId
  policyDecisionId := approval.policyDecisionId
  status := approval.status
  caseState := c.currentState
  idempotent := idempotent

def approvalEventType : ApprovalStatus → String
  | .pending => "APPROVAL_REQUESTED"
  | .approved => "APPROVAL_APPROVED"
  | .rejected => "APPROVAL_REJECTED"

def approvalAudit (approval : ApprovalRequest) : CaseEvent where
  caseId := approval.caseId
  eventType := approvalEventType approval.status
  source := approvalAuditSource

def lockApprovalCase (db : Db) (caseId : Uuid) : Except Error PaymentCase :=
  requireSome (db.cases.get? caseId) (.approvalNotFound "Payment case was not found")

/-- The case and the decision can take a human decision. -/
def validateCurrentApprovalContext (c : PaymentCase) (decision : PolicyDecision) :
    Except Error Unit := do
  require (c.currentState = .policyValidated)
    (.approvalNotAllowed "Case state does not allow a human approval decision")
  require (decision.caseId = c.id ∧ decision.supersededAt = none ∧
      decision.result = .requiresApproval)
    (.approvalNotAllowed
      "Only the current approval-required policy decision may be approved")

/-- The approval of a decision; there is at most one. -/
def Db.approvalFor (db : Db) (policyDecisionId : Uuid) : Option ApprovalRequest :=
  db.approvalRequests.first? fun a => a.policyDecisionId == policyDecisionId

/-! ### Requesting -/

/-- The unlocked read of a decision that starts a request. -/
def ensureApprovalHint (db : Db) (policyDecisionId : Uuid) : Except Error PolicyDecision :=
  requireSome (db.policyDecisions.get? policyDecisionId)
    (.approvalNotFound "Policy decision was not found")

def newApprovalRequest (c : PaymentCase) (decision : PolicyDecision) (newId : Uuid)
    (requestedAt : Int) : ApprovalRequest where
  id := newId
  caseId := c.id
  policyDecisionId := decision.id
  status := .pending
  requestedAt := requestedAt

/-- Create one pending request for a decision, whose columns are the hint's. -/
def ensureApprovalRequest (db : Db) (decision : PolicyDecision) (newId : Uuid)
    (requestedAt : Int) : Except Error (Db × ApprovalRequestResult) := do
  let c ← lockApprovalCase db decision.caseId
  let _ ← requireSome (db.policyDecisions.get? decision.id)
    (.approvalNotFound "Policy decision was not found")
  validateCurrentApprovalContext c decision
  match db.approvalFor decision.id with
  | some existing => return (db, approvalResult existing c true)
  | none =>
      let approval := newApprovalRequest c decision newId requestedAt
      let approvals ← requireSome (db.approvalRequests.insert? approval) .integrity
      return ({ db with approvalRequests := approvals }.commitCase
          ((CaseWork.lock c).audit (approvalAudit approval)),
        approvalResult approval c false)

/-! ### Deciding

The row is read without a lock, then the case is locked, and then the row is read again
with a lock. The second read returns the object that is in the session already, so the
decision is made on the copy of the first read.
-/

def boundedRequired (value : String) (maximum : Nat) (name : String) : Except Error String :=
  let normalized := strip value
  if normalized = "" ∨ maximum < normalized.length then
    .error (.approvalNotAllowed ("Approval " ++ name ++ " is invalid"))
  else .ok normalized

def boundedOptional (value : Option String) (maximum : Nat) (name : String) :
    Except Error (Option String) :=
  match value.map strip with
  | none => .ok none
  | some normalized =>
      if normalized = "" then .ok none
      else if maximum < normalized.length then
        .error (.approvalNotAllowed ("Approval " ++ name ++ " is invalid"))
      else .ok (some normalized)

/-- The unlocked read of an approval that starts a decision. -/
def decideApprovalHint (db : Db) (approvalRequestId : Uuid) : Except Error ApprovalRequest :=
  requireSome (db.approvalRequests.get? approvalRequestId)
    (.approvalNotFound "Approval request was not found")

/-- What an operator decides. -/
structure OperatorDecision where
  decision : ApprovalStatus
  decidedBy : String
  note : Option String
  deriving DecidableEq, Repr

/-- The stored row after a decision; a note that is the hint's own is not written. -/
def ApprovalRequest.decided (stored hint : ApprovalRequest) (decision : ApprovalStatus)
    (operator : String) (note : Option String) (decidedAt : Int) : ApprovalRequest :=
  { stored with
    status := decision
    decidedAt := some decidedAt
    decidedBy := some operator
    decisionNote := if note = hint.decisionNote then stored.decisionNote else note }

/-- A rejection escalates the case. -/
def escalateRejected (w : CaseWork) (decision : ApprovalStatus) : Except Error CaseWork :=
  if decision = .rejected then
    transitionCase w .escalated "HUMAN_APPROVAL_REJECTED" approvalAuditSource
  else .ok w

/--
Record one operator decision.  The columns of the approval are the hint's, so whether
it is still pending is what the hint said.
-/
def decideApproval (db : Db) (approval : ApprovalRequest) (decision : OperatorDecision)
    (decidedAt : Int) : Except Error (Db × ApprovalRequestResult) := do
  require (decision.decision = .approved ∨ decision.decision = .rejected)
    (.approvalNotAllowed "Approval decision must be APPROVED or REJECTED")
  let operator ← boundedRequired decision.decidedBy 100 "operator"
  let note ← boundedOptional decision.note 500 "note"
  let c ← lockApprovalCase db approval.caseId
  let stored ← requireSome (db.approvalRequests.get? approval.id)
    (.approvalNotFound "Approval request was not found")
  if approval.status ≠ .pending then
    require (approval.status = decision.decision)
      (.approvalDecisionConflict "A terminal approval decision cannot be changed")
    return (db, approvalResult approval c true)
  else
    let policyDecision ← requireSome (db.policyDecisions.get? approval.policyDecisionId)
      (.approvalNotFound "Policy decision was not found")
    validateCurrentApprovalContext c policyDecision
    require (approval.caseId = c.id)
      (.approvalNotAllowed "Approval request does not belong to the current case")
    let decided := stored.decided approval decision.decision operator note decidedAt
    let w ← escalateRejected ((CaseWork.lock c).audit (approvalAudit decided)) decision.decision
    return ({ db with approvalRequests := db.approvalRequests.put decided }.commitCase w,
      approvalResult decided w.row false)

end Arc
