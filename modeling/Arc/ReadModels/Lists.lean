/-
The read models that show where a case comes from.

A case made by a seeding script is marked by an entry of its trail; any other case is as
genuine as the mode of the provider its outcomes were read in.  The case list and the
case detail derive the origin from the rows of the case; the approval queue and the
action list look the markers up again, and take the mode from their caller.
-/
import Arc.Outcomes.Queries
import Arc.ReadModels.Queries
import Mathlib.Data.List.Sort

namespace Arc

open Store

attribute [local instance] instantOrder

/-- A page of a list. -/
def page {α : Type} (limit offset : Nat) (rows : List α) : List α := (rows.drop offset).take limit

theorem mem_of_mem_page {α : Type} {limit offset : Nat} {rows : List α} {row : α}
    (h : row ∈ page limit offset rows) : row ∈ rows :=
  List.mem_of_mem_drop (List.mem_of_mem_take h)

/-- A page that is long enough shows everything. -/
theorem exists_mem_page {α : Type} {rows : List α} {row : α} (h : row ∈ rows) :
    ∃ limit offset, row ∈ page limit offset rows := by
  refine ⟨rows.length, 0, ?_⟩
  unfold page
  rw [List.drop_zero, List.take_length]
  exact h

def demoEventType : String := "DEMO_SCENARIO_SEEDED"
def demoEventSource : String := "DEMO_SEED"
def offlineDemoStrategyModel : String := "arc-demo-offline-strategy-v1"
def openaiEvidenceEventType : String := "OPENAI_EVIDENCE_CASE_CREATED"
def openaiEvidenceEventSource : String := "OPENAI_EVIDENCE_SCRIPT"

/-- Display label that prevents synthetic or test evidence being called live. -/
inductive DataOrigin
  | testMode
  | liveMode
  | syntheticDemo
  | syntheticInput
  deriving DecidableEq, Repr

inductive StrategyProvenance
  | bypassed
  | deterministicRule
  | offlineSimulation
  | openai
  deriving DecidableEq, Repr

def originFromMode : Option ProviderMode → Option DataOrigin
  | some .test => some .testMode
  | some .live => some .liveMode
  | none => none

theorem originFromMode_injective : Function.Injective originFromMode := by
  intro m m' h
  rcases m with - | _ | _ <;> rcases m' with - | _ | _ <;> first | rfl | cases h

variable [Platform]

/-- An entry of the type and the source is in the trail of the case. -/
def hasEvent (db : Db) (caseId : Uuid) (eventType source : String) : Bool :=
  db.caseEvents.any fun e => e.caseId == caseId && e.eventType == eventType && e.source == source

def isSynthetic (db : Db) (caseId : Uuid) : Bool :=
  hasEvent db caseId demoEventType demoEventSource

def isSyntheticInput (db : Db) (caseId : Uuid) : Bool :=
  hasEvent db caseId openaiEvidenceEventType openaiEvidenceEventSource

def strategyProvenance : Option StrategyProposal → StrategyProvenance
  | none => .bypassed
  | some proposal =>
      if proposal.source = .rule then .deterministicRule
      else if proposal.model = some offlineDemoStrategyModel then .offlineSimulation
      else .openai

/-- When the database created the rows that the lists order. -/
structure RowsCreatedAt extends CreatedAt where
  outcomeObservations : Uuid → Int

/-! ### The case list and the case detail -/

section

variable (createdAt : RowsCreatedAt) (db : Db)

/-- `_latest` of observations. -/
def latestOutcome (rows : List RecoveryOutcomeObservation) : Option RecoveryOutcomeObservation :=
  rows.argmax (RecoveryOutcomeObservation.recency createdAt.outcomeObservations)

def dataOrigin (caseId : Uuid) (outcome : Option RecoveryOutcomeObservation)
    (attribution : Option RecoveryAttribution) : Option DataOrigin :=
  if isSyntheticInput db caseId then some .syntheticInput
  else if isSynthetic db caseId then some .syntheticDemo
  else
    originFromMode <|
      match attribution with
      | some a => some a.providerMode
      | none => outcome.map RecoveryOutcomeObservation.providerMode

/-- The outcome the case list and the case detail show. -/
def caseOutcome (caseId : Uuid) : Option RecoveryOutcomeObservation :=
  latestOutcome createdAt (db.outcomeObservations.select fun o => o.caseId == caseId)

/-- The origin the case list and the case detail show. -/
def caseOrigin (caseId : Uuid) : Option DataOrigin :=
  dataOrigin db caseId (caseOutcome createdAt db caseId)
    (latestAttribution createdAt.toCreatedAt db caseId)

end

/-! ### The approval queue and the action list -/

section

variable (createdAt : RowsCreatedAt) (db : Db)

def originForCaseId (caseId : Uuid) (providerMode : Option ProviderMode) : Option DataOrigin :=
  if isSynthetic db caseId then some .syntheticDemo
  else if isSyntheticInput db caseId then some .syntheticInput
  else originFromMode providerMode

structure ApprovalQueueItem where
  approvalRequestId : Uuid
  caseReference : CaseReference
  amountMinor : Option Nat
  currency : Option String
  strategyAction : RecoveryAction
  strategyProvenance : StrategyProvenance
  policyReasonCode : String
  approvalStatus : ApprovalStatus
  requestedAt : Int
  decidedAt : Option Int
  dataOrigin : Option DataOrigin

/-- A row of the query behind the approval queue. -/
structure ApprovalQueueRow where
  approval : ApprovalRequest
  paymentCase : PaymentCase
  decision : PolicyDecision
  proposal : StrategyProposal

/-- An approval request joined with its case, its decision and the proposal decided on. -/
def joinApproval (a : ApprovalRequest) : Option ApprovalQueueRow := do
  let c ← db.cases.get? a.caseId
  let d ← db.policyDecisions.get? a.policyDecisionId
  let p ← db.strategyProposals.get? d.strategyProposalId
  return ⟨a, c, d, p⟩

def approvalQueueRows (status : ApprovalStatus) (limit offset : Nat) : List ApprovalQueueRow :=
  page limit offset <|
    ((db.approvalRequests.select fun a => a.status == status).filterMap
        (joinApproval db)).insertionSort
      fun x y => y.approval.requestedAt ≤ x.approval.requestedAt

def approvalQueueItem (row : ApprovalQueueRow) : ApprovalQueueItem where
  approvalRequestId := row.approval.id
  caseReference := row.paymentCase.caseReference
  amountMinor := row.paymentCase.amount
  currency := row.paymentCase.currency
  strategyAction := row.proposal.action
  strategyProvenance := strategyProvenance (some row.proposal)
  policyReasonCode := row.decision.reasonCode
  approvalStatus := row.approval.status
  requestedAt := row.approval.requestedAt
  decidedAt := row.approval.decidedAt
  dataOrigin := originForCaseId db row.paymentCase.id none

def listApprovalQueue (status : ApprovalStatus) (limit offset : Nat) : List ApprovalQueueItem :=
  (approvalQueueRows db status limit offset).map (approvalQueueItem db)

structure RecoveryActionItem where
  caseReference : CaseReference
  action : RecoveryAction
  strategyProvenance : StrategyProvenance
  executionStatus : RecoveryExecutionStatus
  provider : ActionProvider
  externalStatus : Option String
  executionAttemptCount : Nat
  executedAt : Option Int
  nextEvaluationAt : Option Int
  outcomeStatus : Option RecoveryOutcomeStatus
  providerMode : Option ProviderMode
  dataOrigin : Option DataOrigin

/-- A row of the query behind the action list. -/
structure RecoveryActionRow where
  action : RecoveryActionRecord
  paymentCase : PaymentCase

def recoveryActionRows (limit offset : Nat) : List RecoveryActionRow :=
  page limit offset <|
    ((db.recoveryActions.select fun _ => true).filterMap fun r =>
        (db.cases.get? r.caseId).map (RecoveryActionRow.mk r)).insertionSort
      fun x y => createdAt.recoveryActions y.action.id ≤ createdAt.recoveryActions x.action.id

/-- The outcome the action list shows. -/
def actionOutcome (actionId : Uuid) : Option RecoveryOutcomeObservation :=
  latestOutcome createdAt (db.outcomeObservations.select fun o => o.recoveryActionId == actionId)

def recoveryActionItem (row : RecoveryActionRow) : RecoveryActionItem :=
  let outcome := actionOutcome createdAt db row.action.id
  { caseReference := row.paymentCase.caseReference
    action := row.action.action
    strategyProvenance := strategyProvenance (db.strategyProposals.get? row.action.strategyProposalId)
    executionStatus := row.action.executionStatus
    provider := row.action.provider
    externalStatus := row.action.externalStatus
    executionAttemptCount := row.action.executionAttemptCount
    executedAt := row.action.executedAt
    nextEvaluationAt := row.action.nextEvaluationAt
    outcomeStatus := outcome.map RecoveryOutcomeObservation.outcomeStatus
    providerMode := outcome.map RecoveryOutcomeObservation.providerMode
    dataOrigin := originForCaseId db row.paymentCase.id
      (outcome.map RecoveryOutcomeObservation.providerMode) }

def listRecoveryActions (limit offset : Nat) : List RecoveryActionItem :=
  (recoveryActionRows createdAt db limit offset).map (recoveryActionItem createdAt db)

end

/-! ### Which rows are listed -/

section

variable {createdAt : RowsCreatedAt} {db : Db}

/-- Every approval request that can be joined is on some page of the queue, and no other. -/
theorem mem_approvalQueueRows {row : ApprovalQueueRow} :
    (∃ status limit offset, row ∈ approvalQueueRows db status limit offset) ↔
      ∃ a ∈ db.approvalRequests, joinApproval db a = some row := by
  unfold approvalQueueRows
  constructor
  · rintro ⟨status, limit, offset, hrow⟩
    obtain ⟨a, ha, hjoin⟩ :=
      List.mem_filterMap.mp ((List.mem_insertionSort _).mp (mem_of_mem_page hrow))
    exact ⟨a, (Table.mem_select.mp ha).1, hjoin⟩
  · rintro ⟨a, ha, hjoin⟩
    refine ⟨a.status, exists_mem_page ((List.mem_insertionSort _).mpr (List.mem_filterMap.mpr ?_))⟩
    exact ⟨a, Table.mem_select.mpr ⟨ha, by simp⟩, hjoin⟩

theorem mem_recoveryActionRows {row : RecoveryActionRow} :
    (∃ limit offset, row ∈ recoveryActionRows createdAt db limit offset) ↔
      row.action ∈ db.recoveryActions ∧ db.cases.get? row.action.caseId = some row.paymentCase := by
  unfold recoveryActionRows
  constructor
  · rintro ⟨limit, offset, hrow⟩
    obtain ⟨r, hr, hjoin⟩ :=
      List.mem_filterMap.mp ((List.mem_insertionSort _).mp (mem_of_mem_page hrow))
    obtain ⟨c, hc, rfl⟩ := Option.map_eq_some_iff.mp hjoin
    exact ⟨(Table.mem_select.mp hr).1, hc⟩
  · rintro ⟨hr, hc⟩
    refine exists_mem_page ((List.mem_insertionSort _).mpr (List.mem_filterMap.mpr ?_))
    refine ⟨row.action, Table.mem_select.mpr ⟨hr, rfl⟩, ?_⟩
    rw [hc]
    rfl

end

end Arc
