/-
What the executor commits.

Each transaction of the executor is read back once: which rows it locked, which
branch it took, and the database it left.  Everything proved about executions starts
from these lemmas and never unfolds a transaction again.
-/
import Arc.Execution.Service
import Arc.Proofs.CaseEffect

namespace Arc

open Store

variable [Platform]

/-! ### Rows -/

theorem insertRecord_eq_ok {records records' : Table RecoveryActionRecord}
    {r : RecoveryActionRecord} (h : insertRecord records r = .ok records') :
    records.insert? r = some records' ∧ ∀ x ∈ records,
      x.policyDecisionId ≠ r.policyDecisionId ∧ x.idempotencyKey ≠ r.idempotencyKey ∧
      (r.externalReference.isSome → x.externalReference ≠ r.externalReference) := by
  unfold insertRecord at h
  split at h
  · cases h
  · rename_i hfree
    refine ⟨requireSome_eq_ok.mp h, fun x hx => ?_⟩
    have hx' := Table.any_eq_false.mp (by simpa using hfree) x hx
    simp only [Bool.or_eq_false_iff, beq_eq_false_iff_ne, Bool.and_eq_false_iff] at hx'
    refine ⟨hx'.1.1, hx'.1.2, fun hsome => ?_⟩
    rcases hx'.2 with hnone | hne
    · rw [hsome] at hnone
      cases hnone
    · exact hne

theorem flushRecord_eq_ok {records records' : Table RecoveryActionRecord}
    {r : RecoveryActionRecord} :
    flushRecord records r = .ok records' ↔
      (∀ x ∈ records, x.id ≠ r.id → r.externalReference.isSome →
        x.externalReference ≠ r.externalReference) ∧ records' = records.put r := by
  unfold flushRecord
  split
  · rename_i htaken
    obtain ⟨x, hx, hsame⟩ := Table.any_eq_true.mp htaken
    simp only [Bool.and_eq_true, bne_iff_ne, beq_iff_eq] at hsame
    refine ⟨fun h => (by cases h), fun h => ?_⟩
    exact absurd hsame.2 (h.1 x hx hsame.1.1 hsame.1.2)
  · rename_i hfree
    have hfree' := Table.any_eq_false.mp (by simpa using hfree)
    constructor
    · intro h
      cases h
      refine ⟨fun x hx hid hsome hsame => ?_, rfl⟩
      have hx' := hfree' x hx
      simp [hid, hsome, hsame] at hx'
    · rintro ⟨-, rfl⟩
      rfl

/-- The request of a claim names the claim's reference. -/
theorem paymentLinkRequest_reference {claim : ExecutionClaim} {request : PaymentLinkCreateRequest}
    (h : paymentLinkRequest claim = .ok request) :
    claim.referenceId = some request.referenceId := by
  unfold paymentLinkRequest at h
  split at h
  · rename_i hreference hexpire
    split at h
    · cases h
      assumption
    · cases h
  · cases h

/-- The identity of an action row: what no transaction ever writes again. -/
structure RecoveryActionRecord.SameAction (r r' : RecoveryActionRecord) : Prop where
  id_eq : r'.id = r.id
  case_eq : r'.caseId = r.caseId
  decision_eq : r'.policyDecisionId = r.policyDecisionId
  action_eq : r'.action = r.action

theorem RecoveryActionRecord.SameAction.refl (r : RecoveryActionRecord) : r.SameAction r :=
  ⟨rfl, rfl, rfl, rfl⟩

theorem RecoveryActionRecord.SameAction.trans {r r' r'' : RecoveryActionRecord}
    (h : r.SameAction r') (h' : r'.SameAction r'') : r.SameAction r'' :=
  ⟨h'.id_eq.trans h.id_eq, h'.case_eq.trans h.case_eq, h'.decision_eq.trans h.decision_eq,
    h'.action_eq.trans h.action_eq⟩

/-! ### Claiming

`_prepare_and_claim` reads the inputs, asks the policy once more and only then writes.
So a claim that was committed proves that everything before it passed; `Authority` holds
all of it, in the state of the claim.
-/

/-- **The authority a claim is committed under**, read from the state it is committed in. -/
structure Authority (db : Db) (c : PaymentCase) (proposal : StrategyProposal)
    (decision : PolicyDecision) (inputs : CurrentAuthorizationInputs) (now : Int) : Prop where
  stored : db.cases.get? c.id = some c
  state : c.currentState = .policyValidated
  proposal_current : db.currentProposal c.id = some proposal
  decision_current : db.currentDecision c.id = some decision
  inputs_eq : currentInputs db c proposal decision now = .ok inputs
  permitted : isExecutionPermitted decision (db.approvalFor decision.id) = true

/-- The database after a claim: the started row, and its entry in the trail. -/
def claimedDb (db : Db) (records : Table RecoveryActionRecord) (record : RecoveryActionRecord)
    (w : CaseWork) (now : Int) : Db :=
  ({ db with recoveryActions := records.put (record.start now) }).commitCase
    (w.audit (executionAudit (record.start now) "RECOVERY_ACTION_STARTED"))

/-- A claim was committed: on a row built for it, or on the stored row of the decision. -/
inductive Claims (db : Db) (caseId newId : Uuid) (now : Int) : Db → ExecutionClaim → Prop
  | built {c : PaymentCase} {proposal : StrategyProposal} {decision : PolicyDecision}
      {inputs : CurrentAuthorizationInputs} {record : RecoveryActionRecord}
      {records : Table RecoveryActionRecord} (hid : c.id = caseId)
      (hauth : Authority db c proposal decision inputs now)
      (hnone : db.actionFor decision.id = none)
      (hbuild : buildRecord c proposal decision (db.approvalFor decision.id) inputs newId now
        = .ok record)
      (hinsert : insertRecord db.recoveryActions record = .ok records) :
      Claims db caseId newId now
        (claimedDb db records record
          ((CaseWork.lock c).audit (executionAudit record "RECOVERY_ACTION_PREPARED")) now)
        (toClaim (record.start now) c)
  | stored {c : PaymentCase} {proposal : StrategyProposal} {decision : PolicyDecision}
      {inputs : CurrentAuthorizationInputs} {record : RecoveryActionRecord} (hid : c.id = caseId)
      (hauth : Authority db c proposal decision inputs now)
      (hsome : db.actionFor decision.id = some record)
      (hopen : record.executionStatus ∉ finalExecutionStatuses)
      (hvalid : validateExistingRecord record c proposal decision = .ok ())
      (hlease : hasFreshLease record now = false) :
      Claims db caseId newId now (claimedDb db db.recoveryActions record (.lock c) now)
        (toClaim (record.start now) c)

theorem buildRecord_eq_ok {c : PaymentCase} {proposal : StrategyProposal}
    {decision : PolicyDecision} {approval : Option ApprovalRequest}
    {inputs : CurrentAuthorizationInputs} {newId : Uuid} {now : Int}
    {record : RecoveryActionRecord}
    (h : buildRecord c proposal decision approval inputs newId now = .ok record) :
    record.id = newId ∧ record.caseId = c.id ∧ record.policyDecisionId = decision.id ∧
      record.strategyProposalId = proposal.id ∧ record.action = proposal.action ∧
      record.executionStatus = .prepared ∧ record.executionStartedAt = none ∧
      record.executionAttemptCount = 0 ∧ record.executedAt = none ∧
      record.externalReferenceId = none ∧
      record.externalReference =
        (if proposal.action = .createRecoveryLink then some (referenceOf newId) else none) := by
  unfold buildRecord at h
  split at h
  · rename_i haction
    obtain ⟨intent, -, h⟩ := bind_eq_ok.mp h
    cases h
    simp [haction]
  · rename_i haction
    cases h
    simp [haction]

theorem currentInputs_belongs {db : Db} {c : PaymentCase} {proposal : StrategyProposal}
    {decision : PolicyDecision} {now : Int} {inputs : CurrentAuthorizationInputs}
    (h : currentInputs db c proposal decision now = .ok inputs) :
    decision.strategyProposalId = proposal.id := by
  obtain ⟨_, hbelongs, -⟩ := bind_eq_ok.mp h
  exact require_eq_ok.mp hbelongs

/-- **What `prepareAndClaim` commits**: a claim under full authority, or nothing. -/
theorem prepareAndClaim_eq_ok {db db' : Db} {caseId newId : Uuid} {now : Int}
    {outcome : ExecutionClaim ⊕ RecoveryExecutionResult}
    (h : prepareAndClaim db caseId newId now = .ok (db', outcome)) :
    (∃ result, outcome = .inr result ∧ db' = db) ∨
    (∃ claim, outcome = .inl claim ∧ Claims db caseId newId now db' claim) := by
  obtain ⟨c, hc, h⟩ := bind_eq_ok.mp h
  have hc := requireSome_eq_ok.mp hc
  have hid : c.id = caseId := Table.get?_key hc
  obtain ⟨proposal, hproposal, h⟩ := bind_eq_ok.mp h
  obtain ⟨decision, hdecision, h⟩ := bind_eq_ok.mp h
  simp only at h
  split at h
  · rename_i record hrecord
    cases h
    exact .inl ⟨_, rfl, rfl⟩
  rename_i hnotFinal
  obtain ⟨_, hstate, h⟩ := bind_eq_ok.mp h
  obtain ⟨inputs, hinputs, h⟩ := bind_eq_ok.mp h
  obtain ⟨_, hpermitted, h⟩ := bind_eq_ok.mp h
  obtain ⟨⟨records, record, w⟩, hprepare, h⟩ := bind_eq_ok.mp h
  have hauth : Authority db c proposal decision inputs now :=
    ⟨by rw [hid]; exact hc, require_eq_ok.mp hstate, requireSome_eq_ok.mp hproposal,
      requireSome_eq_ok.mp hdecision, hinputs, require_eq_ok.mp hpermitted⟩
  cases hexisting : db.actionFor decision.id with
  | none =>
      rw [hexisting] at hprepare
      obtain ⟨record', hbuild, hprepare⟩ := bind_eq_ok.mp hprepare
      obtain ⟨records', hinsert, hprepare⟩ := bind_eq_ok.mp hprepare
      cases hprepare
      -- a row just built is not in progress, so its lease cannot be running
      have hlease : hasFreshLease record now = false := by
        simp [hasFreshLease, (buildRecord_eq_ok hbuild).2.2.2.2.2.1]
      simp only [claimRecord, hlease] at h
      cases h
      exact .inr ⟨_, rfl, .built hid hauth hexisting hbuild hinsert⟩
  | some stored =>
      rw [hexisting] at hprepare
      obtain ⟨_, hvalid, hprepare⟩ := bind_eq_ok.mp hprepare
      cases hprepare
      have hopen : record.executionStatus ∉ finalExecutionStatuses := by
        intro hfinal
        rw [hexisting, Option.filter_some_pos (by simpa using hfinal)] at hnotFinal
        cases hnotFinal
      by_cases hlease : hasFreshLease record now = true
      · simp only [claimRecord, hlease] at h
        cases h
        refine .inl ⟨_, rfl, ?_⟩
        exact commitCase_lock (Table.mem_of_get? hauth.stored)
      · rw [Bool.not_eq_true] at hlease
        simp only [claimRecord, hlease] at h
        cases h
        exact .inr ⟨_, rfl, .stored hid hauth hexisting hopen hvalid hlease⟩

/-! ### Locks and entries of the finalizers

Every finalizer begins with the same lock: the case of the claim, then its row. `Locked`
is what that gives, and it is little: neither the status of the row nor the worker that
claimed it last is compared.
-/

/-- The case and the row a finalizer has locked for its claim. -/
structure Locked (db : Db) (claim : ExecutionClaim) (c : PaymentCase)
    (record : RecoveryActionRecord) : Prop where
  case_eq : db.cases.get? claim.caseId = some c
  record_eq : db.recoveryActions.get? claim.recoveryActionId = some record

theorem Locked.of_eq_ok {db : Db} {claim : ExecutionClaim} {c : PaymentCase}
    {record : RecoveryActionRecord} (hc : lockExecutionCase db claim.caseId = .ok c)
    (hr : lockRecord db claim.recoveryActionId = .ok record) : Locked db claim c record :=
  ⟨requireSome_eq_ok.mp hc, requireSome_eq_ok.mp hr⟩

theorem executionAudit_advances {w : CaseWork} {record : RecoveryActionRecord} {kind : String}
    (hcase : record.caseId = w.row.id) (hkind : kind ≠ caseStateTransition)
    (hkind' : kind ∉ reservedEventTypes) : Advances w (w.audit (executionAudit record kind)) :=
  .audit hcase hkind hkind'

theorem moveCaseToWaiting_eq_ok {w w' : CaseWork} (h : moveCaseToWaiting w = .ok w') :
    Advances w w' ∧ w'.row = { w.row with currentState := .waitingForOutcome } := by
  obtain ⟨w₁, hactioned, hwaiting⟩ := bind_eq_ok.mp h
  refine ⟨(transitionCase_advances hactioned).trans (transitionCase_advances hwaiting), ?_⟩
  rw [transitionCase_row hwaiting, transitionCase_row hactioned]

/-- A context that is current leaves the case where a claim found it. -/
theorem postRequestContextIsCurrent_true {db : Db} {c : PaymentCase}
    {record : RecoveryActionRecord} {now : Int}
    (h : postRequestContextIsCurrent db c record now = .ok true) :
    c.currentState = .policyValidated := by
  unfold postRequestContextIsCurrent at h
  split at h
  · cases h
  · rename_i hstate
    exact not_not.mp hstate

/-- Outside `POLICY_VALIDATED` no context is current. -/
theorem postRequestContextIsCurrent_of_ne {db : Db} {c : PaymentCase}
    {record : RecoveryActionRecord} {now : Int} (h : c.currentState ≠ .policyValidated) :
    postRequestContextIsCurrent db c record now = .ok false := by
  unfold postRequestContextIsCurrent
  rw [if_pos h]

/-! ### Internal actions -/

theorem moveCaseForInternalAction_eq_ok {w w' : CaseWork} {action : RecoveryAction}
    (h : moveCaseForInternalAction w action = .ok w') :
    Advances w w' ∧ ∃ state, state ∈ ([.waitingForOutcome, .escalated, .exhausted] : List CaseState) ∧
      w'.row = { w.row with currentState := state } := by
  unfold moveCaseForInternalAction at h
  split at h
  · obtain ⟨hw, hrow⟩ := moveCaseToWaiting_eq_ok h
    exact ⟨hw, _, by simp, hrow⟩
  · exact ⟨transitionCase_advances h, _, by simp, transitionCase_row h⟩
  · exact ⟨transitionCase_advances h, _, by simp, transitionCase_row h⟩

/-- What an internal execution makes of its row and its case. -/
inductive InternalOutcome (db : Db) (c : PaymentCase) (record : RecoveryActionRecord)
    (now : Int) : RecoveryActionRecord → CaseWork → Prop
  | stale : InternalOutcome db c record now
      { record with
        executionStatus := .cancelled
        errorCode := some "EXECUTION_REQUIRES_POLICY_REEVALUATION" }
      ((CaseWork.lock c).audit (executionAudit record "EXECUTION_BLOCKED_STALE_AUTHORIZATION"))
  | unsupported {w : CaseWork} (hstate : c.currentState = .policyValidated)
      (hw : transitionCase
        ((CaseWork.lock c).audit (executionAudit record "EXECUTOR_ACTION_NOT_IMPLEMENTED"))
        .escalated "EXECUTOR_ACTION_NOT_IMPLEMENTED" executionAuditSource = .ok w) :
      InternalOutcome db c record now
        { record with
          executionStatus := .failed
          failedAt := some now
          errorCode := some "EXECUTOR_ACTION_NOT_IMPLEMENTED" } w
  | done {w : CaseWork} (hstate : c.currentState = .policyValidated)
      (hw : moveCaseForInternalAction (.lock c) record.action = .ok w) :
      InternalOutcome db c record now
        { record with
          executionStatus := .succeeded
          executedAt := some now
          nextEvaluationAt := nextEvaluation db record now }
        (w.audit (succeededAudit record c.currentState w.row.currentState))

theorem InternalOutcome.advances {db : Db} {c : PaymentCase} {record record' : RecoveryActionRecord}
    {now : Int} {w : CaseWork} (h : InternalOutcome db c record now record' w)
    (hcase : record.caseId = c.id) : Advances (.lock c) w ∧ record.SameAction record' := by
  cases h with
  | stale =>
      exact ⟨executionAudit_advances hcase (by decide) (by decide), ⟨rfl, rfl, rfl, rfl⟩⟩
  | unsupported hstate hw =>
      have haudit : Advances (.lock c) ((CaseWork.lock c).audit
          (executionAudit record "EXECUTOR_ACTION_NOT_IMPLEMENTED")) :=
        executionAudit_advances hcase (by decide) (by decide)
      exact ⟨haudit.trans (transitionCase_advances hw), ⟨rfl, rfl, rfl, rfl⟩⟩
  | done hstate hw =>
      obtain ⟨hmoved, -⟩ := moveCaseForInternalAction_eq_ok hw
      refine ⟨hmoved.trans (.audit ?_ (by simp [succeededAudit, executionAudit, caseStateTransition])
        (by simp [succeededAudit, executionAudit, reservedEventTypes])), ⟨rfl, rfl, rfl, rfl⟩⟩
      exact hcase.trans hmoved.id_eq.symm

/-- **What `executeInternal` commits**: nothing on a final row, else the outcome of the row. -/
theorem executeInternal_eq_ok {db db' : Db} {claim : ExecutionClaim} {now : Int}
    {result : RecoveryExecutionResult} (h : executeInternal db claim now = .ok (db', result)) :
    ∃ c record, Locked db claim c record ∧
      ((record.executionStatus ∈ finalExecutionStatuses ∧ db' = db) ∨
       (record.executionStatus ∉ finalExecutionStatuses ∧ ∃ record' w,
        InternalOutcome db c record now record' w ∧
        db' = ({ db with recoveryActions := db.recoveryActions.put record' }).commitCase w)) := by
  obtain ⟨c, hc, h⟩ := bind_eq_ok.mp h
  obtain ⟨record, hrecord, h⟩ := bind_eq_ok.mp h
  refine ⟨c, record, .of_eq_ok hc hrecord, ?_⟩
  split at h
  · rename_i hfinal
    cases h
    exact .inl ⟨hfinal, rfl⟩
  rename_i hopen
  refine .inr ⟨hopen, ?_⟩
  obtain ⟨isCurrent, hcontext, h⟩ := bind_eq_ok.mp h
  split at h
  · cases h
    exact ⟨_, _, .stale, rfl⟩
  rename_i htrue
  rw [Bool.not_eq_false] at htrue
  subst htrue
  have hstate := postRequestContextIsCurrent_true hcontext
  split at h
  · obtain ⟨w, hw, h⟩ := bind_eq_ok.mp h
    cases h
    exact ⟨_, w, .unsupported hstate hw, rfl⟩
  · obtain ⟨w, hw, h⟩ := bind_eq_ok.mp h
    cases h
    exact ⟨_, w, .unsupported hstate hw, rfl⟩
  · obtain ⟨w, hw, h⟩ := bind_eq_ok.mp h
    cases h
    exact ⟨_, _, .done hstate hw, rfl⟩
  · obtain ⟨w, hw, h⟩ := bind_eq_ok.mp h
    cases h
    exact ⟨_, _, .done hstate hw, rfl⟩
  · obtain ⟨w, hw, h⟩ := bind_eq_ok.mp h
    cases h
    exact ⟨_, _, .done hstate hw, rfl⟩
  · cases h

/-! ### Provider problems -/

/-- The row after a provider problem has been recorded. -/
def RecoveryActionRecord.withProblem (record : RecoveryActionRecord) (problem : ProviderProblem)
    (now : Int) : RecoveryActionRecord :=
  { record with
    executionStatus := problem.status
    errorCode := some (boundedErrorCode problem.errorCode)
    failedAt := if problem.status = .failed then some now else record.failedAt }

omit [Platform] in
theorem ProviderProblem.entry_plain (problem : ProviderProblem) :
    problem.eventType ≠ caseStateTransition ∧ problem.eventType ∉ reservedEventTypes := by
  rcases problem.known with ⟨-, h⟩ | ⟨-, h⟩ <;>
  · rw [h]
    decide

/-- **What `finalizeProviderProblem` commits**: nothing on a final row, else the problem. -/
theorem finalizeProviderProblem_eq_ok {db db' : Db} {claim : ExecutionClaim}
    {problem : ProviderProblem} {now : Int} {result : RecoveryExecutionResult}
    (h : finalizeProviderProblem db claim problem now = .ok (db', result)) :
    ∃ c record, Locked db claim c record ∧
      ((record.executionStatus ∈ finalExecutionStatuses ∧ db' = db) ∨
       (record.executionStatus ∉ finalExecutionStatuses ∧
        db' = ({ db with
          recoveryActions := db.recoveryActions.put (record.withProblem problem now)
          }).commitCase
          ((CaseWork.lock c).audit
            (executionAudit (record.withProblem problem now) problem.eventType)))) := by
  obtain ⟨c, hc, h⟩ := bind_eq_ok.mp h
  obtain ⟨record, hrecord, h⟩ := bind_eq_ok.mp h
  refine ⟨c, record, .of_eq_ok hc hrecord, ?_⟩
  split at h
  · rename_i hfinal
    cases h
    exact .inl ⟨hfinal, rfl⟩
  · rename_i hopen
    cases h
    exact .inr ⟨hopen, rfl⟩

/-- A problem is always recorded on a row that is not final. -/
theorem finalizeProviderProblem_ok {db : Db} {claim : ExecutionClaim} {c : PaymentCase}
    {record : RecoveryActionRecord} (hlocked : Locked db claim c record)
    (hopen : record.executionStatus ∉ finalExecutionStatuses) (problem : ProviderProblem)
    (now : Int) : ∃ db' result, finalizeProviderProblem db claim problem now = .ok (db', result) ∧
      db'.recoveryActions = db.recoveryActions.put (record.withProblem problem now) := by
  unfold finalizeProviderProblem lockExecutionCase lockRecord
  rw [hlocked.case_eq, hlocked.record_eq]
  simp only [requireSome, bind, Except.bind, hopen, if_false]
  exact ⟨_, _, rfl, rfl⟩

/-! ### Links

A finalizer of a confirmed link compares the context with the one of the claim and
writes `SUCCEEDED` or `COMPENSATION_REQUIRED`. It never looks at the status it
overwrites, so the two outcomes are stated for every status of the row it finds.
-/

/-- The row of a link that is handed to the customer. -/
def RecoveryActionRecord.succeededWith (record : RecoveryActionRecord)
    (snapshot : PaymentLinkSnapshot) (now : Int) : RecoveryActionRecord :=
  { record.withProjection snapshot with
    executionStatus := .succeeded
    executedAt := some now
    failedAt := none
    errorCode := none }

/-- The row of a link that has to be cancelled again. -/
def RecoveryActionRecord.staleWith (record : RecoveryActionRecord)
    (snapshot : PaymentLinkSnapshot) : RecoveryActionRecord :=
  { record.withProjection snapshot with
    executionStatus := .compensationRequired
    errorCode := some "EXECUTION_BLOCKED_STALE_AUTHORIZATION" }

/-- The case of a successful execution, with its attempt counted. -/
def PaymentCase.attempted (c : PaymentCase) (action : RecoveryAction) : PaymentCase :=
  { c with
    attemptCount := c.attemptCount + 1
    contactAttemptCount :=
      if action ∈ customerContactActions then c.contactAttemptCount + 1
      else c.contactAttemptCount
    currentState := .waitingForOutcome }

/-- What the finalization of a link makes of its row and its case. -/
inductive LinkOutcome (db : Db) (c : PaymentCase) (record : RecoveryActionRecord)
    (snapshot : PaymentLinkSnapshot) (now : Int) : Bool → RecoveryActionRecord → CaseWork → Prop
  | succeeded {w : CaseWork}
      (hcontext : postRequestContextIsCurrent db c (record.withProjection snapshot) now = .ok true)
      (hrow : w.row = c.attempted record.action)
      (hw : record.caseId = c.id → Advances (.lock c) w) :
      LinkOutcome db c record snapshot now false (record.succeededWith snapshot now) w
  | stale
      (hcontext : postRequestContextIsCurrent db c (record.withProjection snapshot) now = .ok false) :
      LinkOutcome db c record snapshot now true (record.staleWith snapshot)
        ((CaseWork.lock c).audit
          (executionAudit (record.staleWith snapshot) "EXECUTION_BLOCKED_STALE_AUTHORIZATION"))

theorem LinkOutcome.advances {db : Db} {c : PaymentCase} {record record' : RecoveryActionRecord}
    {snapshot : PaymentLinkSnapshot} {now : Int} {required : Bool} {w : CaseWork}
    (h : LinkOutcome db c record snapshot now required record' w) (hcase : record.caseId = c.id) :
    Advances (.lock c) w ∧ record.SameAction record' := by
  cases h with
  | succeeded hcontext hrow hw => exact ⟨hw hcase, ⟨rfl, rfl, rfl, rfl⟩⟩
  | stale hcontext =>
      exact ⟨executionAudit_advances hcase (by decide) (by decide), ⟨rfl, rfl, rfl, rfl⟩⟩

theorem succeedExternal_eq_ok {db db' : Db} {c : PaymentCase} {record : RecoveryActionRecord}
    {snapshot : PaymentLinkSnapshot} {adopted : Bool} {now : Int}
    {finalization : ExternalFinalization}
    (h : succeedExternal db c (record.withProjection snapshot) adopted now
      = .ok (db', finalization)) :
    ∃ records w, flushRecord db.recoveryActions (record.succeededWith snapshot now) = .ok records ∧
      w.row = c.attempted record.action ∧ (record.caseId = c.id → Advances (.lock c) w) ∧
      finalization.compensationRequired = false ∧
      db' = ({ db with recoveryActions := records }).commitCase w := by
  obtain ⟨w₁, hmove, h⟩ := bind_eq_ok.mp h
  obtain ⟨records, hflush, h⟩ := bind_eq_ok.mp h
  cases h
  obtain ⟨hmoved, hrow⟩ := moveCaseToWaiting_eq_ok hmove
  refine ⟨records, _, hflush, ?_, fun hcase => ?_, rfl, rfl⟩
  · cases adopted <;> exact hrow
  · have hcounted : Advances (.lock c) w₁ := by
      refine Advances.trans ?_ hmoved
      exact .write _ rfl rfl rfl rfl
    have hid : w₁.row.id = c.id := hcounted.id_eq
    refine hcounted.trans ?_
    cases adopted
    · refine .audit (hcase.trans hid.symm) ?_ ?_ <;>
        simp [succeededAudit, executionAudit, caseStateTransition, reservedEventTypes]
    · refine (executionAudit_advances (hcase.trans hid.symm) (by decide) (by decide)).trans
        (.audit (hcase.trans hid.symm) ?_ ?_) <;>
        simp [succeededAudit, executionAudit, caseStateTransition, reservedEventTypes]

/-- **What `finalizeExternalSuccess` commits**, whatever the status of the row it finds. -/
theorem finalizeExternalSuccess_eq_ok {db db' : Db} {claim : ExecutionClaim}
    {snapshot : PaymentLinkSnapshot} {adopted : Bool} {now : Int}
    {finalization : ExternalFinalization}
    (h : finalizeExternalSuccess db claim snapshot adopted now = .ok (db', finalization)) :
    ∃ c record record' w, Locked db claim c record ∧
      LinkOutcome db c record snapshot now finalization.compensationRequired record' w ∧
      (∀ x ∈ db.recoveryActions, x.id ≠ record.id →
        x.externalReference ≠ some snapshot.referenceId) ∧
      db' = ({ db with recoveryActions := db.recoveryActions.put record' }).commitCase w := by
  obtain ⟨c, hc, h⟩ := bind_eq_ok.mp h
  obtain ⟨record, hrecord, h⟩ := bind_eq_ok.mp h
  have hlocked := Locked.of_eq_ok hc hrecord
  obtain ⟨isCurrent, hcontext, h⟩ := bind_eq_ok.mp h
  cases isCurrent with
  | true =>
      obtain ⟨records, w, hflush, hrow, hw, hrequired, hdb⟩ := succeedExternal_eq_ok h
      obtain ⟨hfree, rfl⟩ := flushRecord_eq_ok.mp hflush
      refine ⟨c, record, _, w, hlocked, ?_, fun x hx hid => hfree x hx hid rfl, hdb⟩
      rw [hrequired]
      exact .succeeded hcontext hrow hw
  | false =>
      obtain ⟨records, hflush, h⟩ := bind_eq_ok.mp h
      cases h
      obtain ⟨hfree, rfl⟩ := flushRecord_eq_ok.mp hflush
      exact ⟨c, record, _, _, hlocked, .stale hcontext, fun x hx hid => hfree x hx hid rfl, rfl⟩

/-- The row after a compensation keeps its identity, and ends final. -/
theorem compensatedRecord_cases (record : RecoveryActionRecord) (original : PaymentLinkSnapshot)
    (outcome : CancellationOutcome) :
    record.SameAction (compensatedRecord record original outcome).1 ∧
    (compensatedRecord record original outcome).1.executedAt = record.executedAt ∧
    (compensatedRecord record original outcome).1.executionAttemptCount
      = record.executionAttemptCount ∧
    (compensatedRecord record original outcome).1.executionStartedAt = record.executionStartedAt ∧
    (compensatedRecord record original outcome).1.executionStatus
      = (match outcome with | .inl _ => .cancelled | .inr _ => .compensationRequired) ∧
    (compensatedRecord record original outcome).1.externalReference
      = some (match outcome with
          | .inl cancelled => cancelled.referenceId
          | .inr _ => original.referenceId) ∧
    (compensatedRecord record original outcome).2 ≠ caseStateTransition ∧
    (compensatedRecord record original outcome).2 ∉ reservedEventTypes := by
  cases outcome with
  | inl cancelled =>
      refine ⟨⟨rfl, rfl, rfl, rfl⟩, rfl, rfl, rfl, rfl, rfl, ?_, ?_⟩ <;>
        simp [compensatedRecord, caseStateTransition, reservedEventTypes]
  | inr errorCode =>
      refine ⟨⟨rfl, rfl, rfl, rfl⟩, rfl, rfl, rfl, rfl, rfl, ?_, ?_⟩ <;>
        simp [compensatedRecord, caseStateTransition, reservedEventTypes]

/-- **What `finalizeCompensation` commits**, whatever the status of the row it finds. -/
theorem finalizeCompensation_eq_ok {db db' : Db} {claim : ExecutionClaim}
    {original : PaymentLinkSnapshot} {outcome : CancellationOutcome}
    {result : RecoveryExecutionResult}
    (h : finalizeCompensation db claim original outcome = .ok (db', result)) :
    ∃ c record, Locked db claim c record ∧
      (∀ x ∈ db.recoveryActions, x.id ≠ record.id →
        x.externalReference ≠ (compensatedRecord record original outcome).1.externalReference) ∧
      db' = ({ db with
        recoveryActions := db.recoveryActions.put (compensatedRecord record original outcome).1
        }).commitCase
        ((CaseWork.lock c).audit
          (executionAudit (compensatedRecord record original outcome).1
            (compensatedRecord record original outcome).2)) := by
  obtain ⟨c, hc, h⟩ := bind_eq_ok.mp h
  obtain ⟨record, hrecord, h⟩ := bind_eq_ok.mp h
  obtain ⟨records, hflush, h⟩ := bind_eq_ok.mp h
  cases h
  obtain ⟨hsame, -, -, -, -, href, -⟩ := compensatedRecord_cases record original outcome
  obtain ⟨hfree, rfl⟩ := flushRecord_eq_ok.mp hflush
  refine ⟨c, record, .of_eq_ok hc hrecord, fun x hx hid => hfree x hx ?_ ?_, rfl⟩
  · show x.id ≠ (compensatedRecord record original outcome).1.id
    rw [hsame.id_eq]
    exact hid
  · show (compensatedRecord record original outcome).1.externalReference.isSome = true
    rw [href]
    rfl

/-- Another action has the provider reference, so the database refuses to write it. -/
def ReferenceTaken (db : Db) (r : RecoveryActionRecord) (reference : Option String) : Prop :=
  ∃ x ∈ db.recoveryActions, x.id ≠ r.id ∧ x.externalReference = reference

/-- The finalization of a link whose authority is gone asks for its compensation. -/
theorem finalizeExternalSuccess_stale {db : Db} {claim : ExecutionClaim} {c : PaymentCase}
    {record : RecoveryActionRecord} (hlocked : Locked db claim c record)
    {snapshot : PaymentLinkSnapshot} (adopted : Bool) (now : Int)
    (hcontext : postRequestContextIsCurrent db c (record.withProjection snapshot) now = .ok false)
    (hfree : ∀ x ∈ db.recoveryActions, x.id ≠ record.id →
      x.externalReference ≠ some snapshot.referenceId) :
    ∃ result, finalizeExternalSuccess db claim snapshot adopted now =
      .ok (({ db with
          recoveryActions := db.recoveryActions.put (record.staleWith snapshot) }).commitCase
        ((CaseWork.lock c).audit
          (executionAudit (record.staleWith snapshot) "EXECUTION_BLOCKED_STALE_AUTHORIZATION")),
        ⟨result, true⟩) := by
  have hflush : flushRecord db.recoveryActions (record.staleWith snapshot)
      = .ok (db.recoveryActions.put (record.staleWith snapshot)) :=
    flushRecord_eq_ok.mpr ⟨fun x hx hne _ => hfree x hx hne, rfl⟩
  have hrequire : ∃ result, requireCompensation db c (record.withProjection snapshot) =
      .ok (({ db with
          recoveryActions := db.recoveryActions.put (record.staleWith snapshot) }).commitCase
        ((CaseWork.lock c).audit
          (executionAudit (record.staleWith snapshot) "EXECUTION_BLOCKED_STALE_AUTHORIZATION")),
        ⟨result, true⟩) := by
    unfold requireCompensation
    simp only [RecoveryActionRecord.staleWith] at hflush ⊢
    simp only [hflush, bind, Except.bind]
    exact ⟨_, rfl⟩
  unfold finalizeExternalSuccess lockExecutionCase lockRecord
  rw [hlocked.case_eq, hlocked.record_eq]
  simp only [requireSome, bind, Except.bind, hcontext]
  exact hrequire

/-- A compensation is always finalized, unless the database refuses its reference. -/
theorem finalizeCompensation_ok {db : Db} {claim : ExecutionClaim} {c : PaymentCase}
    {record : RecoveryActionRecord} (original : PaymentLinkSnapshot)
    (outcome : CancellationOutcome) (hlocked : Locked db claim c record)
    (hfree : ∀ x ∈ db.recoveryActions, x.id ≠ record.id →
      x.externalReference ≠ (compensatedRecord record original outcome).1.externalReference) :
    ∃ result, finalizeCompensation db claim original outcome =
      .ok (({ db with
        recoveryActions := db.recoveryActions.put (compensatedRecord record original outcome).1
        }).commitCase
        ((CaseWork.lock c).audit
          (executionAudit (compensatedRecord record original outcome).1
            (compensatedRecord record original outcome).2)), result) := by
  obtain ⟨hsame, -⟩ := compensatedRecord_cases record original outcome
  have hflush : flushRecord db.recoveryActions (compensatedRecord record original outcome).1
      = .ok (db.recoveryActions.put (compensatedRecord record original outcome).1) := by
    refine flushRecord_eq_ok.mpr ⟨fun x hx hne _ href => hfree x hx ?_ href, rfl⟩
    rwa [hsame.id_eq] at hne
  unfold finalizeCompensation lockExecutionCase lockRecord
  rw [hlocked.case_eq, hlocked.record_eq]
  simp only [requireSome, bind, Except.bind, hflush]
  exact ⟨_, rfl⟩

end Arc
