/-
The timeline of a case.

Every row that hangs on a case becomes an entry of its timeline: the entries of the trail
the table of stages knows, the proposals, the decisions, the approvals (two entries once an
operator has answered), the actions, the observations and the attributions.  The entries
are sorted by their instant, then by their stage, then by the order in which they were
added.

Of an entry of the trail only bounded texts are shown: members of an enumeration and short
codes.  `event_data` and `created_at` of the trail are read by this query alone, so they are
a parameter of it: `columns n` are those of the `n`-th entry the database holds.
-/
import Arc.ReadModels.Cases

namespace Arc

open Store

/-! ### Entries -/

inductive TimelineStage
  | demo
  | detected
  | reconciled
  | eligibility
  | diagnosed
  | strategy
  | policy
  | approval
  | execution
  | outcome
  | attribution
  deriving DecidableEq, Repr

/-- `_TIMELINE_STAGE_ORDER`; every stage is in it. -/
def TimelineStage.order : TimelineStage → Nat
  | demo => 0
  | detected => 1
  | reconciled => 2
  | eligibility => 3
  | diagnosed => 4
  | strategy => 5
  | policy => 6
  | approval => 7
  | execution => 8
  | outcome => 9
  | attribution => 10

inductive TimelineStatus
  | complete
  | pending
  | blocked
  deriving DecidableEq, Repr

def StrategyProvenance.value : StrategyProvenance → String
  | bypassed => "BYPASSED"
  | deterministicRule => "DETERMINISTIC_RULE"
  | offlineSimulation => "OFFLINE_SIMULATION"
  | openai => "OPENAI"

structure TimelineItem where
  stage : TimelineStage
  title : String
  status : TimelineStatus
  timestamp : Int
  detail : Option String := none
  action : Option RecoveryAction := none
  authority : Option String := none
  strategyProvenance : Option StrategyProvenance := none
  strategyModel : Option String := none
  result : Option String := none
  amountMinor : Option Nat := none
  currency : Option String := none
  providerMode : Option ProviderMode := none
  dataOrigin : Option DataOrigin := none
  deriving DecidableEq

/-! ### The trail -/

/-- The columns of an entry of the trail that only the timeline reads. -/
structure EventColumns where
  eventData : Json
  createdAt : Int

/-- `_bounded_event_value` -/
def boundedEventValue (eventData : Json) (key : String) (allowedValues : List String) :
    Option String :=
  match eventData.field? key with
  | some (.str value) => if value ∈ allowedValues then some value else none
  | _ => none

/-- `[A-Z][A-Z0-9_]{0,99}` -/
def isTimelineReasonCode (s : String) : Bool :=
  isBoundedName Char.isUpper (fun c => c.isUpper || c.isDigit || c == '_') s

/-- `_bounded_event_reason` -/
def boundedEventReason (eventData : Json) (key : String) : Option String :=
  match eventData.field? key with
  | some (.str value) => if isTimelineReasonCode value then some value else none
  | _ => none

/-- `_RECONCILIATION_TIMELINE`: title and detail of the reports of a reconciliation. -/
def reconciliationTimeline : List (String × String × String) := [
  ("RECONCILIATION_CONFIRMED_FAILURE", "Razorpay state reconciled", "Payment confirmed failed"),
  ("RECONCILIATION_FOUND_ALREADY_CAPTURED", "Razorpay state reconciled",
    "Payment confirmed captured"),
  ("PAYMENT_CAPTURE_SIGNAL_NOT_CONFIRMED", "Razorpay state reconciled",
    "Capture signal was not confirmed"),
  ("PAYMENT_STATE_NOT_RECOVERY_READY", "Razorpay state reconciled",
    "Payment is not recovery-ready"),
  ("PAYMENT_REFUNDED", "Razorpay state reconciled", "Payment was refunded")]

def eligibilityTimelineValues : List String :=
  [EligibilityDecision.eligible, .wait, .stop, .review].map EligibilityDecision.value

def failureCategoryTimelineValues : List String := FailureCategory.all.map FailureCategory.value

def recoveryDispositionTimelineValues : List String :=
  [RecoveryDisposition.customerActionRequired, .retryLater, .alternateMethodPreferred,
    .merchantFixRequired, .recoveryStrategyRequired, .manualReview, .unknown].map
      RecoveryDisposition.value

section

variable (columns : EventColumns) (origin : Option DataOrigin)

def syntheticInputEntry : TimelineItem where
  stage := .demo
  title := "Synthetic input case created"
  status := .complete
  timestamp := columns.createdAt
  detail := some "No provider payment or customer interaction"
  authority := some "CONTROLLED_SYNTHETIC_INPUT"
  dataOrigin := some .syntheticInput

def syntheticDemoEntry : TimelineItem where
  stage := .demo
  title := "Synthetic demo scenario seeded"
  status := .complete
  timestamp := columns.createdAt
  detail := some "Controlled offline scenario"
  authority := some "CONTROLLED_SIMULATION"
  dataOrigin := some .syntheticDemo

def detectedEntry (timestamp : Int) : TimelineItem where
  stage := .detected
  title := "Revenue risk detected"
  status := .complete
  timestamp := timestamp
  authority := some "ARC_CONTROL_PLANE"
  dataOrigin := origin

def syntheticTruthEntry : TimelineItem where
  stage := .reconciled
  title := "Synthetic case truth established"
  status := .complete
  timestamp := columns.createdAt
  detail := some "Controlled failed-payment input"
  authority := some "CONTROLLED_SYNTHETIC_INPUT"
  dataOrigin := origin

def reconciledEntry (title detail : String) : TimelineItem where
  stage := .reconciled
  title := title
  status := .complete
  timestamp := columns.createdAt
  detail := some detail
  authority := some "AUTHORITATIVE_RECONCILIATION"
  dataOrigin := origin

def eligibilityEntry : TimelineItem where
  stage := .eligibility
  title := "Recovery eligibility evaluated"
  status := .complete
  timestamp := columns.createdAt
  detail := some <| (boundedEventReason columns.eventData "eligibility_reason").getD
    "Historical eligibility detail unavailable"
  authority := some "DETERMINISTIC_PRECONDITIONS"
  result := boundedEventValue columns.eventData "eligibility_decision" eligibilityTimelineValues
  dataOrigin := origin

/-- The detail of a diagnosis: its category and its disposition, as far as they are known. -/
def diagnosedDetail : String :=
  " / ".intercalate <|
    [boundedEventValue columns.eventData "failure_category" failureCategoryTimelineValues,
      boundedEventValue columns.eventData "recovery_disposition"
        recoveryDispositionTimelineValues].filterMap id

def diagnosedEntry : TimelineItem where
  stage := .diagnosed
  title := "Failure diagnosed"
  status := .complete
  timestamp := columns.createdAt
  detail := some <| if diagnosedDetail columns = "" then "Historical diagnosis detail unavailable"
    else diagnosedDetail columns
  authority := some "DETERMINISTIC_DIAGNOSIS"
  result := boundedEventReason columns.eventData "diagnosis_reason"
  dataOrigin := origin

/-- `_timeline_from_case_event` -/
def timelineFromCaseEvent (event : CaseEvent) : Option TimelineItem :=
  if event.eventType = openaiEvidenceEventType ∧ event.source = openaiEvidenceEventSource then
    some (syntheticInputEntry columns)
  else if event.eventType = demoEventType ∧ event.source = demoEventSource then
    some (syntheticDemoEntry columns)
  else if event.eventType = "CASE_DETECTED" then some (detectedEntry origin columns.createdAt)
  else if origin = some .syntheticInput ∧ event.eventType = "RECONCILIATION_CONFIRMED_FAILURE" then
    some (syntheticTruthEntry columns origin)
  else
    match reconciliationTimeline.lookup event.eventType with
    | some (title, detail) => some (reconciledEntry columns origin title detail)
    | none =>
        if event.eventType = "ELIGIBILITY_EVALUATED" then some (eligibilityEntry columns origin)
        else if event.eventType = "FAILURE_DIAGNOSED" ∨ event.eventType = "FAILURE_REDIAGNOSED" then
          some (diagnosedEntry columns origin)
        else none

end

/-! ### The rows -/

/-- `_execution_timeline_status` -/
def executionTimelineStatus : RecoveryExecutionStatus → TimelineStatus
  | .prepared | .inProgress => .pending
  | .failed | .indeterminate | .compensationRequired => .blocked
  | .succeeded | .cancelled => .complete

/-- `_outcome_timeline_status` -/
def outcomeTimelineStatus : RecoveryOutcomeStatus → TimelineStatus
  | .pending => .pending
  | .reviewRequired => .blocked
  | .recovered | .expired | .cancelled => .complete

section

variable [Platform] (createdAt : CaseRowsCreatedAt) (origin : Option DataOrigin)

def strategyEntry (proposal : StrategyProposal) : TimelineItem where
  stage := .strategy
  title := "Recovery strategy proposed"
  status := .complete
  timestamp := createdAt.strategyProposals proposal.id
  detail := some proposal.reasonCode
  action := some proposal.action
  authority := some (strategyProvenance (some proposal)).value
  strategyProvenance := some (strategyProvenance (some proposal))
  strategyModel := safeStrategyModel proposal
  dataOrigin := origin

def policyEntry (decision : PolicyDecision) : TimelineItem where
  stage := .policy
  title := "Merchant policy evaluated"
  status := if decision.result = .blocked then .blocked else .complete
  timestamp := decision.evaluatedAt
  detail := some decision.reasonCode
  authority := some "DETERMINISTIC_POLICY"
  result := some decision.result.value
  dataOrigin := origin

def requestedEntry (approval : ApprovalRequest) : TimelineItem where
  stage := .approval
  title := "Human approval requested"
  status := .pending
  timestamp := approval.requestedAt
  authority := some "HUMAN_APPROVAL"
  result := some "PENDING"
  dataOrigin := origin

def decidedEntry (approval : ApprovalRequest) (decidedAt : Int) : TimelineItem where
  stage := .approval
  title := "Human approval decided"
  status := if approval.status = .rejected then .blocked else .complete
  timestamp := decidedAt
  authority := some "HUMAN_APPROVAL"
  result := some approval.status.value
  dataOrigin := origin

def approvalEntries (approval : ApprovalRequest) : List TimelineItem :=
  requestedEntry origin approval :: (approval.decidedAt.map (decidedEntry origin approval)).toList

def executionEntry (action : RecoveryActionRecord) : TimelineItem where
  stage := .execution
  title := "Governed recovery action recorded"
  status := executionTimelineStatus action.executionStatus
  timestamp := action.executedAt.getD (createdAt.recoveryActions action.id)
  detail := action.externalStatus
  action := some action.action
  authority := some "GOVERNED_EXECUTOR"
  result := some action.executionStatus.value
  dataOrigin := origin

def outcomeEntry (observation : RecoveryOutcomeObservation) : TimelineItem where
  stage := .outcome
  title := "Authoritative recovery outcome observed"
  status := outcomeTimelineStatus observation.outcomeStatus
  timestamp := observation.observedAt
  detail := some observation.providerStatus
  authority := some "AUTHORITATIVE_PROVIDER_EVIDENCE"
  result := some observation.outcomeStatus.value
  amountMinor := some observation.amountPaidMinor
  currency := some observation.currency
  providerMode := some observation.providerMode
  dataOrigin := origin

def attributionEntry (item : RecoveryAttribution) : TimelineItem where
  stage := .attribution
  title := "Revenue recovered"
  status := .complete
  timestamp := item.attributedAt
  detail := some item.attributionReasonCode
  authority := some "EVIDENCE_BACKED_ATTRIBUTION"
  result := some "ATTRIBUTED"
  amountMinor := some item.recoveredAmountMinor
  currency := some item.currency
  providerMode := some item.providerMode
  dataOrigin := origin

end

/-! ### The timeline -/

/-- The rows of a relationship with an `order_by`. -/
def orderedBy {α : Type} (key : α → Int) (rows : List α) : List α :=
  rows.insertionSort fun a b => key a ≤ key b

/-- The key of `ordered.sort`: the instant, the stage and the sequence number. -/
def TimelineItem.place (entry : TimelineItem × Nat) : Int ×ₗ Nat ×ₗ Nat :=
  toLex (entry.1.timestamp, toLex (entry.1.stage.order, entry.2))

/-- The entries in their order, numbered as they were added. -/
def sortTimeline (ordered : List TimelineItem) : List TimelineItem :=
  (ordered.zipIdx.insertionSort fun a b => TimelineItem.place a ≤ TimelineItem.place b).map Prod.fst

section

variable [Platform] (createdAt : CaseRowsCreatedAt) (columns : Nat → EventColumns) (db : Db)

/-- The trail of a case, with the columns of its entries. -/
def trailOf (caseId : Uuid) : List (CaseEvent × EventColumns) :=
  (db.caseEvents.zipIdx.filter fun e => e.1.caseId == caseId).map fun e => (e.1, columns e.2)

/-- The entries that the trail shows. -/
def trailEntries (caseId : Uuid) (origin : Option DataOrigin) : List TimelineItem :=
  (orderedBy (fun e => e.2.createdAt) (trailOf columns db caseId)).filterMap fun e =>
    timelineFromCaseEvent e.2 origin e.1

/-- `mapped_detection` -/
def mappedDetection (caseId : Uuid) (origin : Option DataOrigin) : Bool :=
  (trailOf columns db caseId).any fun e =>
    (timelineFromCaseEvent e.2 origin e.1).isSome && e.1.eventType == "CASE_DETECTED"

/-- What is added to the timeline, in the order in which it is added. -/
def addedEntries (c : PaymentCase) (origin : Option DataOrigin) : List TimelineItem :=
  trailEntries columns db c.id origin ++
  (if mappedDetection columns db c.id origin then [] else [detectedEntry origin c.detectedAt]) ++
  (orderedBy (fun p => createdAt.strategyProposals p.id)
    (db.strategyProposals.select fun p => p.caseId == c.id)).map (strategyEntry createdAt origin) ++
  (orderedBy PolicyDecision.evaluatedAt
    (db.policyDecisions.select fun d => d.caseId == c.id)).map (policyEntry origin) ++
  (orderedBy ApprovalRequest.requestedAt
    (db.approvalRequests.select fun a => a.caseId == c.id)).flatMap (approvalEntries origin) ++
  (orderedBy (fun r => createdAt.recoveryActions r.id)
    (db.recoveryActions.select fun r => r.caseId == c.id)).map (executionEntry createdAt origin) ++
  (orderedBy RecoveryOutcomeObservation.observedAt
    (db.outcomeObservations.select fun o => o.caseId == c.id)).map (outcomeEntry origin) ++
  (orderedBy RecoveryAttribution.attributedAt
    (db.attributions.select fun a => a.caseId == c.id)).map (attributionEntry origin)

def caseTimeline (c : PaymentCase) : List TimelineItem :=
  sortTimeline <| addedEntries createdAt columns db c (caseOrigin createdAt.toRowsCreatedAt db c.id)

def getCaseTimeline (reference : CaseReference) : Option (List TimelineItem) :=
  (db.caseByReference reference).map (caseTimeline createdAt columns db)

end

end Arc
