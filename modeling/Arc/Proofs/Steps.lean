/-
What one step of the deployment can do.

`ExecutorStep` reads one step of an executor back: the phase it was in, the
transaction it committed or the answer it got, and the phase it is in afterwards.
`Commit` does the same for the database alone, over all kinds of workers.  The
invariants of the later files are proved by cases on these two relations.
-/
import Arc.Proofs.Decisions
import Arc.Proofs.Executions
import Arc.Proofs.Observations
import Arc.System.Step

namespace Arc

open Store

variable [Platform]

/-! ### Executors -/

/-- One step of an executor, from its phase to the database, the provider and its next phase. -/
inductive ExecutorStep (s : System) : ExecutorPhase → ExecutorLabel → ExecutorMove → Prop
  /-- The call ends without a commit: there was nothing to do, it raised, or it crashed. -/
  | ended {phase : ExecutorPhase} {l : ExecutorLabel} :
      ExecutorStep s phase l ⟨s.db, s.provider, .idle⟩
  | claimed {caseId newId : Uuid} {now : Int} {db : Db} {claim : ExecutionClaim}
      (hnow : now ≤ s.clock) (h : Claims s.db caseId newId now db claim)
      (hprepare : prepareAndClaim s.db caseId newId now = .ok (db, .inl claim)) :
      ExecutorStep s .idle (.prepare caseId newId now)
        ⟨db, s.provider, .claimed ⟨claim, leaseOf db claim.recoveryActionId⟩⟩
  | internal {held : HeldClaim} {now : Int} {c : PaymentCase} {record record' : RecoveryActionRecord}
      {w : CaseWork} (hnow : now ≤ s.clock) (haction : held.claim.action ≠ .createRecoveryLink)
      (hlocked : Locked s.db held.claim c record)
      (hopen : record.executionStatus ∉ finalExecutionStatuses)
      (h : InternalOutcome s.db c record now record' w) :
      ExecutorStep s (.claimed held) (.internal now)
        ⟨({ s.db with recoveryActions := s.db.recoveryActions.put record' }).commitCase w,
          s.provider, .idle⟩
  | lookedUp {held : HeldClaim} {request : PaymentLinkCreateRequest}
      {out : HttpOutcome (List PaymentLinkSnapshot)}
      (haction : held.claim.action = .createRecoveryLink)
      (hrequest : paymentLinkRequest held.claim = .ok request) :
      ExecutorStep s (.claimed held) (.lookup out)
        ⟨s.db, s.provider, afterLookup held request out⟩
  | sent {held : HeldClaim} {request : PaymentLinkCreateRequest}
      (hrequest : paymentLinkRequest held.claim = .ok request) :
      ExecutorStep s (.creating held) .sendCreate
        ⟨s.db, s.provider.send request held.lease, .awaiting held s.provider.calls⟩
  | answered {held : HeldClaim} {call : Nat} {request : PaymentLinkCreateRequest}
      {out : HttpOutcome PaymentLinkSnapshot}
      (hrequest : paymentLinkRequest held.claim = .ok request) :
      ExecutorStep s (.awaiting held call) (.createAnswer out)
        ⟨s.db, s.provider, afterCreate held request out⟩
  | problem {held : HeldClaim} {problem : ProviderProblem} {now : Int} {c : PaymentCase}
      {record : RecoveryActionRecord} (hnow : now ≤ s.clock)
      (hlocked : Locked s.db held.claim c record)
      (hopen : record.executionStatus ∉ finalExecutionStatuses) :
      ExecutorStep s (.troubled held problem) (.finalizeProblem now)
        ⟨({ s.db with
            recoveryActions := s.db.recoveryActions.put (record.withProblem problem now)
            }).commitCase
            ((CaseWork.lock c).audit
              (executionAudit (record.withProblem problem now) problem.eventType)),
          s.provider, .idle⟩
  | finalized {held : HeldClaim} {snapshot : PaymentLinkSnapshot} {adopted required : Bool}
      {now : Int} {c : PaymentCase} {record record' : RecoveryActionRecord} {w : CaseWork}
      (hnow : now ≤ s.clock) (hlocked : Locked s.db held.claim c record)
      (h : LinkOutcome s.db c record snapshot now required record' w)
      (hfree : ∀ x ∈ s.db.recoveryActions, x.id ≠ record.id →
        x.externalReference ≠ some snapshot.referenceId) :
      ExecutorStep s (.linked held snapshot adopted) (.finalizeSuccess now)
        ⟨({ s.db with recoveryActions := s.db.recoveryActions.put record' }).commitCase w,
          s.provider, if required then .compensating held snapshot else .idle⟩
  | cancelSent {held : HeldClaim} {snapshot : PaymentLinkSnapshot} :
      ExecutorStep s (.compensating held snapshot) .sendCancel
        ⟨s.db, s.provider, .cancelling held snapshot⟩
  | cancelAnswered {held : HeldClaim} {snapshot : PaymentLinkSnapshot}
      {out : HttpOutcome PaymentLinkSnapshot} :
      ExecutorStep s (.cancelling held snapshot) (.cancelAnswer out)
        ⟨s.db, s.provider, .compensated held snapshot (cancellationOutcome snapshot.id out)⟩
  | compensated {held : HeldClaim} {snapshot : PaymentLinkSnapshot} {outcome : CancellationOutcome}
      {c : PaymentCase} {record : RecoveryActionRecord} (hlocked : Locked s.db held.claim c record)
      (hfree : ∀ x ∈ s.db.recoveryActions, x.id ≠ record.id →
        x.externalReference ≠ (compensatedRecord record snapshot outcome).1.externalReference) :
      ExecutorStep s (.compensated held snapshot outcome) .finalizeCompensation
        ⟨({ s.db with
            recoveryActions :=
              s.db.recoveryActions.put (compensatedRecord record snapshot outcome).1
            }).commitCase
            ((CaseWork.lock c).audit
              (executionAudit (compensatedRecord record snapshot outcome).1
                (compensatedRecord record snapshot outcome).2)),
          s.provider, .idle⟩

theorem executorStep_prepare {s : System} {caseId newId : Uuid} {now : Int} {m : ExecutorMove}
    (h : executorStep s .idle (.prepare caseId newId now) = some m) :
    ExecutorStep s .idle (.prepare caseId newId now) m := by
  unfold executorStep at h
  simp only at h
  split at h
  · rename_i hnow
    split at h
    · rename_i db claim hprepare
      rcases prepareAndClaim_eq_ok hprepare with ⟨result, hout, -⟩ | ⟨claim', hout, hclaims⟩
      · cases hout
      · cases hout
        cases h
        exact .claimed hnow hclaims hprepare
    · rename_i db result hprepare
      rcases prepareAndClaim_eq_ok hprepare with ⟨result', -, hdb⟩ | ⟨claim, hout, -⟩
      · cases h
        rw [hdb]
        exact .ended
      · cases hout
    · cases h
      exact .ended
  · cases h

theorem executorStep_internal {s : System} {held : HeldClaim} {now : Int} {m : ExecutorMove}
    (h : executorStep s (.claimed held) (.internal now) = some m) :
    ExecutorStep s (.claimed held) (.internal now) m := by
  unfold executorStep at h
  simp only at h
  split at h
  · rename_i hcond
    split at h
    · rename_i db result hexecute
      cases h
      obtain ⟨c, record, hlocked, ⟨-, hdb⟩ | ⟨hopen, record', w, hout, hdb⟩⟩ :=
        executeInternal_eq_ok hexecute
      · rw [hdb]
        exact .ended
      · rw [hdb]
        exact .internal hcond.1 hcond.2 hlocked hopen hout
    · cases h
      exact .ended
  · cases h

theorem executorStep_finalizeProblem {s : System} {held : HeldClaim} {problem : ProviderProblem}
    {now : Int} {m : ExecutorMove}
    (h : executorStep s (.troubled held problem) (.finalizeProblem now) = some m) :
    ExecutorStep s (.troubled held problem) (.finalizeProblem now) m := by
  unfold executorStep at h
  simp only at h
  split at h
  · rename_i hnow
    split at h
    · rename_i db result hfinalize
      cases h
      obtain ⟨c, record, hlocked, ⟨-, hdb⟩ | ⟨hopen, hdb⟩⟩ := finalizeProviderProblem_eq_ok hfinalize
      · rw [hdb]
        exact .ended
      · rw [hdb]
        exact .problem hnow hlocked hopen
    · cases h
      exact .ended
  · cases h

theorem executorStep_finalizeSuccess {s : System} {held : HeldClaim}
    {snapshot : PaymentLinkSnapshot} {adopted : Bool} {now : Int} {m : ExecutorMove}
    (h : executorStep s (.linked held snapshot adopted) (.finalizeSuccess now) = some m) :
    ExecutorStep s (.linked held snapshot adopted) (.finalizeSuccess now) m := by
  unfold executorStep at h
  simp only at h
  split at h
  · rename_i hnow
    split at h
    · rename_i db finalization hfinalize
      cases h
      obtain ⟨c, record, record', w, hlocked, hout, hfree, hdb⟩ :=
        finalizeExternalSuccess_eq_ok hfinalize
      rw [hdb]
      exact .finalized hnow hlocked hout hfree
    · cases h
      exact .ended
  · cases h

/-- **Every step of an executor is one of `ExecutorStep`.** -/
theorem executorStep_cases {s : System} {phase : ExecutorPhase} {l : ExecutorLabel}
    {m : ExecutorMove} (h : executorStep s phase l = some m) : ExecutorStep s phase l m := by
  cases l with
  | prepare caseId newId now =>
      cases phase with
      | idle => exact executorStep_prepare h
      | _ => cases h
  | internal now =>
      cases phase with
      | claimed held => exact executorStep_internal h
      | _ => cases h
  | lookup out =>
      cases phase with
      | claimed held =>
          unfold executorStep at h
          simp only at h
          split at h
          · rename_i haction
            split at h
            · rename_i request hrequest
              cases h
              exact .lookedUp haction hrequest
            · cases h
              exact .ended
          · cases h
      | _ => cases h
  | sendCreate =>
      cases phase with
      | creating held =>
          unfold executorStep at h
          simp only at h
          split at h
          · rename_i request hrequest
            cases h
            exact .sent hrequest
          · cases h
      | _ => cases h
  | createAnswer out =>
      cases phase with
      | awaiting held call =>
          unfold executorStep at h
          simp only at h
          split at h
          · rename_i request hrequest
            cases h
            exact .answered hrequest
          · cases h
      | _ => cases h
  | finalizeProblem now =>
      cases phase with
      | troubled held problem => exact executorStep_finalizeProblem h
      | _ => cases h
  | finalizeSuccess now =>
      cases phase with
      | linked held snapshot adopted => exact executorStep_finalizeSuccess h
      | _ => cases h
  | sendCancel =>
      cases phase with
      | compensating held snapshot =>
          cases h
          exact .cancelSent
      | _ => cases h
  | cancelAnswer out =>
      cases phase with
      | cancelling held snapshot =>
          cases h
          exact .cancelAnswered
      | _ => cases h
  | finalizeCompensation =>
      cases phase with
      | compensated held snapshot outcome =>
          unfold executorStep at h
          simp only at h
          split at h
          · rename_i db result hfinalize
            cases h
            obtain ⟨c, record, hlocked, hfree, hdb⟩ := finalizeCompensation_eq_ok hfinalize
            rw [hdb]
            exact .compensated hlocked hfree
          · cases h
            exact .ended
      | _ => cases h
  | crash =>
      cases phase <;>
      · cases h
        exact .ended

/-! ### The webhook ledger -/

/-- A claim whose row is locked, still its own, and in processing. -/
structure Owns (db : Db) (claimed : ClaimedEvent) (event : WebhookEvent) : Prop where
  stored : db.webhookEvents.get? claimed.id = some event
  attempt : event.processingAttemptCount = claimed.processingAttemptCount
  not_processed : event.processingStatus ≠ .processed

theorem lockClaimed_eq_ok {db : Db} {claimed : ClaimedEvent} {caseId : Option Uuid}
    {outcome : WebhookEvent ⊕ WebhookProcessingResult}
    (h : lockClaimed db claimed caseId = .ok outcome) :
    (∃ event, outcome = .inl event ∧ Owns db claimed event) ∨ ∃ result, outcome = .inr result := by
  obtain ⟨event, hevent, h⟩ := bind_eq_ok.mp h
  have hstored := requireSome_eq_ok.mp hevent
  split at h
  · cases h
    exact .inr ⟨_, rfl⟩
  rename_i hopen
  split at h
  · cases h
    exact .inr ⟨_, rfl⟩
  · rename_i hattempt
    cases h
    exact .inl ⟨event, rfl, hstored, not_not.mp hattempt, hopen⟩

/-- The row of an event that has failed. -/
def WebhookEvent.failedWith (event : WebhookEvent) (safeError : String) (now : Int) :
    WebhookEvent :=
  { event with
    processingStatus := .failed
    processingError := some (boundedError safeError)
    processedAt := some now }

theorem markProcessedWithoutCase_eq_ok {db db' : Db} {claimed : ClaimedEvent} {reason : String}
    {caseId : Option Uuid} {at' : Int} {result : WebhookProcessingResult}
    (h : markProcessedWithoutCase db claimed reason caseId at' = .ok (db', result)) :
    db' = db ∨ ∃ event, Owns db claimed event ∧ event.processingStatus = .processing ∧
      db' = { db with webhookEvents := db.webhookEvents.put (event.finish at') } := by
  obtain ⟨outcome, hlock, h⟩ := bind_eq_ok.mp h
  rcases lockClaimed_eq_ok hlock with ⟨event, rfl, howns⟩ | ⟨result', rfl⟩
  · obtain ⟨_, hstatus, h⟩ := bind_eq_ok.mp h
    cases h
    exact .inr ⟨event, howns, require_eq_ok.mp hstatus, rfl⟩
  · cases h
    exact .inl rfl

theorem markFailed_eq_ok {db db' : Db} {claimed : ClaimedEvent} {safeError : String} {now : Int}
    {result : WebhookProcessingResult} (h : markFailed db claimed safeError now = .ok (db', result)) :
    db' = db ∨ ∃ event, Owns db claimed event ∧
      db' = { db with webhookEvents := db.webhookEvents.put (event.failedWith safeError now) } := by
  obtain ⟨outcome, hlock, h⟩ := bind_eq_ok.mp h
  rcases lockClaimed_eq_ok hlock with ⟨event, rfl, howns⟩ | ⟨result', rfl⟩
  · cases h
    exact .inr ⟨event, howns, rfl⟩
  · cases h
    exact .inl rfl

theorem applyReconciliation_eq_ok {db db' : Db} {claimed : ClaimedEvent}
    {snapshot : EntitySnapshot} {fresh : Fresh} {now at' : Int} {result : WebhookProcessingResult}
    (h : applyReconciliation db claimed snapshot fresh now at' = .ok (db', result)) :
    db' = db ∨ ∃ event reconciled, Owns db claimed event ∧ event.processingStatus = .processing ∧
      reconcileEntity db event snapshot fresh now = .ok reconciled ∧
      db' = { reconciled.db with
        webhookEvents := reconciled.db.webhookEvents.put (event.finish at') } := by
  obtain ⟨outcome, hlock, h⟩ := bind_eq_ok.mp h
  rcases lockClaimed_eq_ok hlock with ⟨event, rfl, howns⟩ | ⟨result', rfl⟩
  · obtain ⟨_, hstatus, h⟩ := bind_eq_ok.mp h
    obtain ⟨reconciled, hresult, h⟩ := bind_eq_ok.mp h
    cases h
    exact .inr ⟨event, reconciled, howns, require_eq_ok.mp hstatus, hresult, rfl⟩
  · cases h
    exact .inl rfl

/-- An event may be claimed: it is supported, not processed, and no lease is running. -/
structure Claimable (event : WebhookEvent) (now : Int) : Prop where
  supported : event.processingStatus ≠ .unsupported
  type : event.eventType ∈ supportedRazorpayEvents
  not_processed : event.processingStatus ≠ .processed
  lease : ¬ (event.processingStatus = .processing ∧ leaseIsRunning event now = true)

theorem claimEvent_eq_ok {db db' : Db} {eventId : Uuid} {now : Int}
    {outcome : ClaimedEvent ⊕ WebhookProcessingResult}
    (h : claimEvent db eventId now = .ok (db', outcome)) :
    ((∃ result, outcome = .inr result) ∧ db' = db) ∨
    (∃ event result, db.webhookEvents.get? eventId = some event ∧ outcome = .inr result ∧
      (event.processingStatus = .unsupported ∨ event.eventType ∉ supportedRazorpayEvents) ∧
      db' = { db with
        webhookEvents := db.webhookEvents.put { event with processingStatus := .unsupported } }) ∨
    (∃ event, db.webhookEvents.get? eventId = some event ∧ Claimable event now ∧
      outcome = .inl (claimedEvent (event.claim now)) ∧
      db' = { db with webhookEvents := db.webhookEvents.put (event.claim now) }) := by
  obtain ⟨event, hevent, h⟩ := bind_eq_ok.mp h
  have hstored := requireSome_eq_ok.mp hevent
  split at h
  · rename_i hunsupported
    cases h
    exact .inr (.inl ⟨event, _, hstored, rfl, hunsupported, rfl⟩)
  rename_i hsupported
  rw [not_or, not_not] at hsupported
  split at h
  · cases h
    exact .inl ⟨⟨_, rfl⟩, rfl⟩
  rename_i hopen
  split at h
  · cases h
    exact .inl ⟨⟨_, rfl⟩, rfl⟩
  · rename_i hlease
    cases h
    exact .inr (.inr ⟨event, hstored, ⟨hsupported.1, hsupported.2, hopen, hlease⟩, rfl, rfl⟩)

/-! ### Copies read before a lock -/

/-- The copies approvers hold are of stored requests. -/
def HintsOk (s : System) : Prop :=
  ∀ worker approval decision, s.approvers worker = .deciding approval decision →
    ∃ stored ∈ s.db.approvalRequests, stored.SameRequest approval

/-! ### The database

A step commits one transaction or none. `Commit` lists the transactions with what each
has found, and is the only place where the steps of all workers are opened; every
invariant of the database is proved from it.
-/

/-- What a step leaves in the database. -/
inductive Commit (s : System) : Label → Db → Prop
  | same {l : Label} : Commit s l s.db
  | policies {policy : MerchantPolicy} {policies : Table MerchantPolicy} :
      Commit s (.service (.setPolicy policy)) { s.db with merchantPolicies := policies }
  | ingested {payload : Json} {eventId : String} {digest : Digest} {event : WebhookEvent}
      {events : Table WebhookEvent} (hinsert : s.db.webhookEvents.insert? event = some events)
      (hstatus : event.processingStatus = .received ∨ event.processingStatus = .unsupported)
      (hattempt : event.processingAttemptCount = 0) :
      Commit s (.service (.ingest payload eventId digest event.id))
        { s.db with webhookEvents := events }
  | unsupported {worker : Nat} {eventId : Uuid} {event : WebhookEvent}
      (hphase : s.processors worker = .idle) (hstored : s.db.webhookEvents.get? eventId = some event)
      (hunsupported : event.processingStatus = .unsupported ∨
        event.eventType ∉ supportedRazorpayEvents) :
      Commit s (.processor worker (.claim eventId))
        { s.db with
          webhookEvents := s.db.webhookEvents.put { event with processingStatus := .unsupported } }
  | eventClaimed {worker : Nat} {eventId : Uuid} {event : WebhookEvent}
      (hphase : s.processors worker = .idle)
      (hstored : s.db.webhookEvents.get? eventId = some event) (hclaim : Claimable event s.clock) :
      Commit s (.processor worker (.claim eventId))
        { s.db with webhookEvents := s.db.webhookEvents.put (event.claim s.clock) }
  | eventFinished {worker : Nat} {claimed : ClaimedEvent} {reason : String} {caseId : Option Uuid}
      {event : WebhookEvent} (hphase : s.processors worker = .finishing claimed reason caseId)
      (howns : Owns s.db claimed event) (hstatus : event.processingStatus = .processing) :
      Commit s (.processor worker .finish)
        { s.db with webhookEvents := s.db.webhookEvents.put (event.finish s.clock) }
  | eventFailed {worker : Nat} {claimed : ClaimedEvent} {safeError : String} {event : WebhookEvent}
      (hphase : s.processors worker = .failing claimed safeError)
      (howns : Owns s.db claimed event) :
      Commit s (.processor worker .markFailed)
        { s.db with webhookEvents := s.db.webhookEvents.put (event.failedWith safeError s.clock) }
  | reconciled {worker : Nat} {claimed : ClaimedEvent} {snapshot : EntitySnapshot} {fetchedAt : Int}
      {fresh : Fresh} {event : WebhookEvent} {result : ReconciliationResult}
      (hphase : s.processors worker = .fetched claimed snapshot fetchedAt)
      (howns : Owns s.db claimed event) (hstatus : event.processingStatus = .processing)
      (hresult : reconcileEntity s.db event snapshot fresh s.clock = .ok result) :
      Commit s (.processor worker (.apply fresh))
        { result.db with webhookEvents := result.db.webhookEvents.put (event.finish s.clock) }
  /-- A case has been worked on, and nothing else: an assessment, or an entry in the trail. -/
  | worked {l : Label} {c : PaymentCase} {w : CaseWork}
      (hlabel : (∃ caseId, l = .service (.assess caseId)) ∨ ∃ worker sl, l = .strategist worker sl)
      (hc : c ∈ s.db.cases) (hw : Advances (.lock c) w) : Commit s l (s.db.commitCase w)
  | proposed {worker : Nat} {newId : Uuid} {snapshot : StrategySnapshot}
      {modelResult : Option StrategyModelResult} {action : RecoveryAction} {c : PaymentCase}
      {proposals : Table StrategyProposal} {w : CaseWork}
      (hphase : s.strategists worker = .answered snapshot modelResult)
      (hc : s.db.cases.get? snapshot.caseId = some c)
      (hcurrent : snapshotIsCurrent c snapshot s.clock = true)
      (hstate : generationStateAllowed s.db c = true)
      (hreplace : replaceProposal s.db.strategyProposals (s.db.currentProposal c.id)
        (buildProposal snapshot action modelResult newId) s.clock = .ok proposals)
      (hw : Advances (.lock c) w) :
      Commit s (.strategist worker (.persist newId))
        (({ s.db with strategyProposals := proposals }).commitCase w)
  | evaluated {caseId newId : Uuid} {proposalId : Option Uuid} {c : PaymentCase}
      {proposal : StrategyProposal} {inputs : CurrentAuthorizationInputs}
      {decisions : Table PolicyDecision} {decision : PolicyDecision} {w : CaseWork}
      (hc : s.db.cases.get? caseId = some c)
      (hstate : c.currentState = .decisioned ∨ c.currentState = .policyValidated)
      (hproposal : s.db.currentProposal c.id = some proposal)
      (hinputs : recomputeCurrentAuthorizationInputs s.db c proposal s.clock = .ok inputs)
      (hreplace : replaceDecision s.db.policyDecisions (s.db.currentDecision c.id)
        (findIdenticalDecision s.db c.id inputs.authorizationInputFingerprint)
        (buildDecision c proposal inputs newId s.clock) s.clock = .ok (decisions, decision))
      (hw : applyPolicyTransition (.lock c) decision = .ok w) :
      Commit s (.service (.evaluatePolicy caseId proposalId newId))
        (({ s.db with policyDecisions := decisions }).commitCase
          (appendPolicyAudit w decision c.currentState (s.db.currentDecision c.id).isSome))
  | requested {worker : Nat} {newId : Uuid} {decision : PolicyDecision} {c : PaymentCase}
      {approvals : Table ApprovalRequest} {w : CaseWork}
      (hphase : s.approvers worker = .requesting decision)
      (hc : s.db.cases.get? decision.caseId = some c) (hstate : c.currentState = .policyValidated)
      (hnone : s.db.approvalFor decision.id = none)
      (hinsert : s.db.approvalRequests.insert? (newApprovalRequest c decision newId s.clock)
        = some approvals)
      (hw : Advances (.lock c) w) :
      Commit s (.approver worker (.request newId))
        (({ s.db with approvalRequests := approvals }).commitCase w)
  | answered {worker : Nat} {approval stored : ApprovalRequest} {decision : OperatorDecision}
      {operator : String} {note : Option String} {c : PaymentCase} {w : CaseWork}
      (hphase : s.approvers worker = .deciding approval decision)
      (hc : s.db.cases.get? approval.caseId = some c)
      (hstored : s.db.approvalRequests.get? approval.id = some stored)
      (hsame : stored.SameRequest approval) (hpending : approval.status = .pending)
      (hstate : c.currentState = .policyValidated) (hw : Advances (.lock c) w) :
      Commit s (.approver worker .decide)
        (({ s.db with
          approvalRequests := s.db.approvalRequests.put
            (stored.decided approval decision.decision operator note s.clock) }).commitCase w)
  | executed {worker : Nat} {l : ExecutorLabel} {m : ExecutorMove}
      (h : ExecutorStep s (s.executors worker) l m) : Commit s (.executor worker l) m.db
  | observed {l : Label} {claim : ObservationClaim} {snapshot : PaymentLinkSnapshot}
      {source : OutcomeObservationSource} {fresh : ObservationFresh} {action : RecoveryActionRecord}
      {c : PaymentCase} {attributions : Table RecoveryAttribution}
      {observation : RecoveryOutcomeObservation}
      {observations : Table RecoveryOutcomeObservation} {w : CaseWork}
      (hworker : (∃ worker, s.observers worker = .fetched claim snapshot ∧
          l = .observer worker (.persist fresh)) ∨
        (∃ worker event, s.processors worker = .observed event claim snapshot ∧
          l = .processor worker (.persistObservation fresh)))
      (hobservable : Observable s.db action c claim.expected)
      (hevidence : Evidence s.db claim snapshot source fresh action c attributions observation)
      (hinsert : s.db.outcomeObservations.insert? observation = some observations)
      (hw : Advances (.lock c) w) (hmoves : OutcomeMoves c w.row) :
      Commit s l
        (({ s.db with
          outcomeObservations := observations
          attributions := attributions
          recoveryActions :=
            s.db.recoveryActions.put { action with externalStatus := some snapshot.status }
          }).commitCase w)

theorem processorStep_commit {s : System} {worker : Nat} {l : ProcessorLabel}
    {m : Move ProcessorPhase} (h : processorStep s (s.processors worker) l = some m) :
    Commit s (.processor worker l) m.db := by
  generalize hphase : s.processors worker = phase at h
  cases l with
  | claim eventId =>
      cases phase with
      | idle =>
          unfold processorStep at h
          simp only at h
          split at h
          · rename_i db event hclaim
            cases h
            obtain ⟨⟨result, hout⟩, -⟩ | ⟨event', result, -, hout, -⟩ | ⟨row, hstored, hok, -, hdb⟩ :=
              claimEvent_eq_ok hclaim
            · cases hout
            · cases hout
            · rw [hdb]
              exact .eventClaimed hphase hstored hok
          · rename_i db result hclaim
            cases h
            obtain ⟨-, hdb⟩ | ⟨row, result', hstored, -, hun, hdb⟩ | ⟨row, -, -, hout, -⟩ :=
              claimEvent_eq_ok hclaim
            · rw [hdb]
              exact .same
            · rw [hdb]
              exact .unsupported hphase hstored hun
            · cases hout
          · cases h
            exact .same
      | _ => cases h
  | fetch payment subscription =>
      cases phase with
      | claimed event =>
          unfold processorStep at h
          simp only at h
          split at h
          · cases h
          · split at h <;>
            · cases h
              exact .same
      | _ => cases h
  | apply fresh =>
      cases phase with
      | fetched event snapshot fetchedAt =>
          unfold processorStep at h
          simp only at h
          split at h
          · split at h
            · rename_i db result happly
              cases h
              obtain hdb | ⟨row, reconciled, howns, hstatus, hresult, hdb⟩ :=
                applyReconciliation_eq_ok happly
              · rw [hdb]
                exact .same
              · rw [hdb]
                exact .reconciled hphase howns hstatus hresult
            · cases h
              exact .same
          · cases h
      | _ => cases h
  | matchAction =>
      cases phase with
      | claimed event =>
          unfold processorStep at h
          simp only at h
          split at h
          · split at h <;>
            · cases h
              exact .same
          · cases h
      | _ => cases h
  | prepareObservation providerMode =>
      cases phase with
      | matched event recoveryActionId =>
          unfold processorStep at h
          simp only at h
          split at h <;>
          · cases h
            exact .same
      | _ => cases h
  | fetchLink out =>
      cases phase with
      | observing event claim =>
          unfold processorStep at h
          simp only at h
          split at h <;>
          · cases h
            exact .same
      | _ => cases h
  | persistObservation fresh =>
      cases phase with
      | observed event claim snapshot =>
          unfold processorStep at h
          simp only at h
          split at h
          · split at h
            · rename_i db result hpersist
              cases h
              obtain hdb | ⟨action, c, attributions, observation, observations, w, hobs, -, hev, hins,
                hw, hmoves, hdb⟩ := persistObservation_eq_ok hpersist
              · rw [hdb]
                exact .same
              · rw [hdb]
                exact .observed (.inr ⟨worker, event, hphase, rfl⟩) hobs hev hins hw hmoves
            · cases h
              exact .same
          · cases h
      | _ => cases h
  | finish =>
      cases phase with
      | finishing event reasonCode caseId =>
          unfold processorStep at h
          simp only at h
          split at h
          · rename_i db result hfinish
            cases h
            obtain hdb | ⟨row, howns, hstatus, hdb⟩ := markProcessedWithoutCase_eq_ok hfinish
            · rw [hdb]
              exact .same
            · rw [hdb]
              exact .eventFinished hphase howns hstatus
          · cases h
            exact .same
      | _ => cases h
  | markFailed =>
      cases phase with
      | failing event safeError =>
          unfold processorStep at h
          simp only at h
          split at h
          · rename_i db result hfail
            cases h
            obtain hdb | ⟨row, howns, hdb⟩ := markFailed_eq_ok hfail
            · rw [hdb]
              exact .same
            · rw [hdb]
              exact .eventFailed hphase howns
          · cases h
            exact .same
      | _ => cases h
  | unexpected safeError =>
      cases phase <;> cases h <;> exact .same
  | crash =>
      cases phase <;>
      · cases h
        exact .same

theorem observerStep_commit {s : System} {worker : Nat} {l : ObserverLabel} {m : Move ObserverPhase}
    (h : observerStep s (s.observers worker) l = some m) : Commit s (.observer worker l) m.db := by
  generalize hphase : s.observers worker = phase at h
  cases l with
  | prepare recoveryActionId providerMode =>
      cases phase with
      | idle =>
          unfold observerStep at h
          simp only at h
          split at h <;>
          · cases h
            exact .same
      | _ => cases h
  | fetch out =>
      cases phase with
      | claimed claim =>
          unfold observerStep at h
          simp only at h
          split at h <;>
          · cases h
            exact .same
      | _ => cases h
  | persist fresh =>
      cases phase with
      | fetched claim snapshot =>
          unfold observerStep at h
          simp only at h
          split at h
          · split at h
            · rename_i db result hpersist
              cases h
              obtain hdb | ⟨action, c, attributions, observation, observations, w, hobs, -, hev, hins,
                hw, hmoves, hdb⟩ := persistObservation_eq_ok hpersist
              · rw [hdb]
                exact .same
              · rw [hdb]
                exact .observed (.inl ⟨worker, hphase, rfl⟩) hobs hev hins hw hmoves
            · cases h
              exact .same
          · cases h
      | _ => cases h
  | crash =>
      cases phase <;>
      · cases h
        exact .same

theorem strategistStep_commit {s : System} {worker : Nat} {l : StrategistLabel}
    {m : Move StrategistPhase} (h : strategistStep s (s.strategists worker) l = some m) :
    Commit s (.strategist worker l) m.db := by
  generalize hphase : s.strategists worker = phase at h
  cases l with
  | prepare caseId model =>
      cases phase with
      | idle =>
          unfold strategistStep at h
          simp only at h
          split at h <;>
          · cases h
            exact .same
      | _ => cases h
  | answer result =>
      cases phase <;> cases h
      exact .same
  | modelFailure reasonCode =>
      cases phase <;> cases h
      exact .same
  | persist newId =>
      cases phase with
      | answered snapshot modelResult =>
          unfold strategistStep at h
          simp only at h
          split at h
          · rename_i db outcome hpersist
            cases h
            obtain hdb | ⟨c, w, hc, hw, -, hdb⟩ |
              ⟨c, action, proposals, w, hc, hcurrent, hstate, hreplace, hw, hdb⟩ :=
                persistLocked_eq_ok hpersist
            · rw [hdb]
              exact .same
            · rw [hdb]
              exact .worked (.inr ⟨_, _, rfl⟩) (Table.mem_of_get? hc) hw
            · rw [hdb]
              exact .proposed hphase hc hcurrent hstate hreplace hw
          · cases h
            exact .same
          · cases h
            exact .same
      | _ => cases h
  | recordFailure =>
      cases phase with
      | failing snapshot reasonCode =>
          cases h
          obtain hdb | ⟨c, w, hc, hw, -, hdb⟩ :=
            recordGenerationFailure_cases s.db snapshot reasonCode
          · rw [hdb]
            exact .same
          · rw [hdb]
            exact .worked (.inr ⟨_, _, rfl⟩) (Table.mem_of_get? hc) hw
      | _ => cases h
  | recover =>
      cases phase <;> cases h
      exact .same
  | crash =>
      cases phase <;>
      · cases h
        exact .same

theorem approverStep_commit {s : System} {worker : Nat} {l : ApproverLabel}
    {m : Move ApproverPhase} (hok : HintsOk s)
    (h : approverStep s (s.approvers worker) l = some m) : Commit s (.approver worker l) m.db := by
  generalize hphase : s.approvers worker = phase at h
  cases l with
  | requestHint policyDecisionId =>
      cases phase with
      | idle =>
          unfold approverStep at h
          simp only at h
          split at h <;>
          · cases h
            exact .same
      | _ => cases h
  | request newId =>
      cases phase with
      | requesting decision =>
          unfold approverStep at h
          simp only at h
          split at h
          · rename_i db result hrequest
            cases h
            obtain hdb | ⟨c, approvals, w, hc, hstate, hnone, hinsert, hw, -, hdb⟩ :=
              ensureApprovalRequest_eq_ok hrequest
            · rw [hdb]
              exact .same
            · rw [hdb]
              exact .requested hphase hc hstate hnone hinsert hw
          · cases h
            exact .same
      | _ => cases h
  | decideHint approvalRequestId decision =>
      cases phase with
      | idle =>
          unfold approverStep at h
          simp only at h
          split at h <;>
          · cases h
            exact .same
      | _ => cases h
  | decide =>
      cases phase with
      | deciding approval decision =>
          unfold approverStep at h
          simp only at h
          split at h
          · rename_i db result hdecide
            cases h
            obtain hdb | ⟨c, stored, operator, note, w, hc, hstored, hsame, hpending, hstate, hw, hdb⟩ :=
              decideApproval_eq_ok (hok worker approval decision hphase) hdecide
            · rw [hdb]
              exact .same
            · rw [hdb]
              exact .answered hphase hc hstored hsame hpending hstate hw
          · cases h
            exact .same
      | _ => cases h
  | crash =>
      cases phase <;>
      · cases h
        exact .same

theorem serviceStep_commit (s : System) (l : ServiceLabel) :
    Commit s (.service l) (serviceStep s.db s.clock l) := by
  cases l with
  | ingest payload eventId digest newId =>
      unfold serviceStep
      simp only
      split
      · rename_i db hingest
        obtain hdb | ⟨event, events, hinsert, rfl, -, -, hstatus, hattempt, hdb⟩ :=
          ingestWebhook_eq_ok hingest
        · rw [hdb]
          exact .same
        · rw [hdb]
          exact .ingested hinsert hstatus hattempt
      · exact .same
  | assess caseId =>
      unfold serviceStep
      simp only
      split
      · rename_i db result hassess
        obtain hdb | ⟨c, w, hc, hw, hdb⟩ := assessCase_eq_ok hassess
        · rw [hdb]
          exact .same
        · rw [hdb]
          exact .worked (.inl ⟨_, rfl⟩) (Table.mem_of_get? hc) hw
      · exact .same
  | evaluatePolicy caseId strategyProposalId newId =>
      unfold serviceStep
      simp only
      split
      · rename_i db result hevaluate
        obtain hdb | ⟨c, proposal, inputs, decisions, decision, w, hc, hstate, hproposal, hinputs,
          hreplace, hw, hdb⟩ := evaluatePolicy_eq_ok hevaluate
        · rw [hdb]
          exact .same
        · rw [hdb]
          exact .evaluated hc hstate hproposal hinputs hreplace hw
      · exact .same
  | setPolicy policy =>
      unfold serviceStep setMerchantPolicy
      simp only
      split
      · exact .policies
      · split
        · exact .policies
        · exact .same

/-- **What any step commits**, once the copies approvers hold are of stored requests. -/
theorem step_commit {s s' : System} {l : Label} (hok : HintsOk s) (h : step s l = some s') :
    Commit s l s'.db := by
  cases l with
  | executor worker l =>
      obtain ⟨m, hm, rfl⟩ := Option.map_eq_some_iff.mp h
      exact .executed (executorStep_cases hm)
  | processor worker l =>
      obtain ⟨m, hm, rfl⟩ := Option.map_eq_some_iff.mp h
      exact processorStep_commit hm
  | observer worker l =>
      obtain ⟨m, hm, rfl⟩ := Option.map_eq_some_iff.mp h
      exact observerStep_commit hm
  | strategist worker l =>
      obtain ⟨m, hm, rfl⟩ := Option.map_eq_some_iff.mp h
      exact strategistStep_commit hm
  | approver worker l =>
      obtain ⟨m, hm, rfl⟩ := Option.map_eq_some_iff.mp h
      exact approverStep_commit hok hm
  | provider l =>
      obtain ⟨p, -, rfl⟩ := Option.map_eq_some_iff.mp h
      exact .same
  | service l =>
      cases h
      exact serviceStep_commit s l
  | tick d =>
      cases h
      exact .same

/-! ### Phases

A phase belongs to one worker and is changed by that worker's own steps. So an invariant
about the phases of one kind of worker is kept by everybody else's steps as soon as it
is kept by what they write.
-/

/-- A worker of one kind moves only in its own steps. -/
theorem step_executors {s s' : System} {l : Label} (h : step s l = some s') (worker : Nat) :
    s'.executors worker = s.executors worker ∨
    ∃ el m, l = .executor worker el ∧ ExecutorStep s (s.executors worker) el m ∧
      s'.executors worker = m.phase ∧ s'.db = m.db ∧ s'.provider = m.provider := by
  cases l with
  | executor moved l =>
      obtain ⟨m, hm, rfl⟩ := Option.map_eq_some_iff.mp h
      by_cases hw : worker = moved
      · subst hw
        exact .inr ⟨l, m, rfl, executorStep_cases hm, by simp, rfl, rfl⟩
      · exact .inl (by simp [Function.update_of_ne hw])
  | processor moved l => obtain ⟨m, -, rfl⟩ := Option.map_eq_some_iff.mp h; exact .inl rfl
  | observer moved l => obtain ⟨m, -, rfl⟩ := Option.map_eq_some_iff.mp h; exact .inl rfl
  | strategist moved l => obtain ⟨m, -, rfl⟩ := Option.map_eq_some_iff.mp h; exact .inl rfl
  | approver moved l => obtain ⟨m, -, rfl⟩ := Option.map_eq_some_iff.mp h; exact .inl rfl
  | provider l => obtain ⟨p, -, rfl⟩ := Option.map_eq_some_iff.mp h; exact .inl rfl
  | service l => cases h; exact .inl rfl
  | tick d => cases h; exact .inl rfl

theorem step_processors {s s' : System} {l : Label} (h : step s l = some s') (worker : Nat) :
    s'.processors worker = s.processors worker ∨
    ∃ pl m, l = .processor worker pl ∧ processorStep s (s.processors worker) pl = some m ∧
      s'.processors worker = m.phase ∧ s'.db = m.db := by
  cases l with
  | processor moved l =>
      obtain ⟨m, hm, rfl⟩ := Option.map_eq_some_iff.mp h
      by_cases hw : worker = moved
      · subst hw
        exact .inr ⟨l, m, rfl, hm, by simp, rfl⟩
      · exact .inl (by simp [Function.update_of_ne hw])
  | executor moved l => obtain ⟨m, -, rfl⟩ := Option.map_eq_some_iff.mp h; exact .inl rfl
  | observer moved l => obtain ⟨m, -, rfl⟩ := Option.map_eq_some_iff.mp h; exact .inl rfl
  | strategist moved l => obtain ⟨m, -, rfl⟩ := Option.map_eq_some_iff.mp h; exact .inl rfl
  | approver moved l => obtain ⟨m, -, rfl⟩ := Option.map_eq_some_iff.mp h; exact .inl rfl
  | provider l => obtain ⟨p, -, rfl⟩ := Option.map_eq_some_iff.mp h; exact .inl rfl
  | service l => cases h; exact .inl rfl
  | tick d => cases h; exact .inl rfl

theorem step_approvers {s s' : System} {l : Label} (h : step s l = some s') (worker : Nat) :
    s'.approvers worker = s.approvers worker ∨
    ∃ al m, l = .approver worker al ∧ approverStep s (s.approvers worker) al = some m ∧
      s'.approvers worker = m.phase ∧ s'.db = m.db := by
  cases l with
  | approver moved l =>
      obtain ⟨m, hm, rfl⟩ := Option.map_eq_some_iff.mp h
      by_cases hw : worker = moved
      · subst hw
        exact .inr ⟨l, m, rfl, hm, by simp, rfl⟩
      · exact .inl (by simp [Function.update_of_ne hw])
  | executor moved l => obtain ⟨m, -, rfl⟩ := Option.map_eq_some_iff.mp h; exact .inl rfl
  | processor moved l => obtain ⟨m, -, rfl⟩ := Option.map_eq_some_iff.mp h; exact .inl rfl
  | observer moved l => obtain ⟨m, -, rfl⟩ := Option.map_eq_some_iff.mp h; exact .inl rfl
  | strategist moved l => obtain ⟨m, -, rfl⟩ := Option.map_eq_some_iff.mp h; exact .inl rfl
  | provider l => obtain ⟨p, -, rfl⟩ := Option.map_eq_some_iff.mp h; exact .inl rfl
  | service l => cases h; exact .inl rfl
  | tick d => cases h; exact .inl rfl

/-- The clock never goes back. -/
theorem step_clock {s s' : System} {l : Label} (h : step s l = some s') : s.clock ≤ s'.clock := by
  cases l with
  | tick d => cases h; exact Int.le_add_of_nonneg_right (Int.natCast_nonneg d)
  | executor moved l => obtain ⟨m, -, rfl⟩ := Option.map_eq_some_iff.mp h; exact le_refl _
  | processor moved l => obtain ⟨m, -, rfl⟩ := Option.map_eq_some_iff.mp h; exact le_refl _
  | observer moved l => obtain ⟨m, -, rfl⟩ := Option.map_eq_some_iff.mp h; exact le_refl _
  | strategist moved l => obtain ⟨m, -, rfl⟩ := Option.map_eq_some_iff.mp h; exact le_refl _
  | approver moved l => obtain ⟨m, -, rfl⟩ := Option.map_eq_some_iff.mp h; exact le_refl _
  | provider l => obtain ⟨p, -, rfl⟩ := Option.map_eq_some_iff.mp h; exact le_refl _
  | service l => cases h; exact le_refl _

/-- How a webhook processor moves from phase to phase. -/
inductive ProcessorMove (s : System) : ProcessorPhase → ProcessorLabel → ProcessorPhase → Prop
  | ended {phase : ProcessorPhase} {l : ProcessorLabel} : ProcessorMove s phase l .idle
  | claimed {eventId : Uuid} {event : WebhookEvent}
      (hstored : s.db.webhookEvents.get? eventId = some event) (hclaim : Claimable event s.clock) :
      ProcessorMove s .idle (.claim eventId) (.claimed (claimedEvent (event.claim s.clock)))
  | fetched {event : ClaimedEvent} {payment : HttpOutcome PaymentSnapshot}
      {subscription : HttpOutcome SubscriptionSnapshot} {snapshot : EntitySnapshot}
      (hkind : isPaymentLinkEvent event = false)
      (hfetch : fetchAuthoritativeEntity event payment subscription = .ok snapshot) :
      ProcessorMove s (.claimed event) (.fetch payment subscription)
        (.fetched event snapshot s.clock)
  | matched {event : ClaimedEvent} {recoveryActionId : Uuid}
      (hkind : isPaymentLinkEvent event = true) :
      ProcessorMove s (.claimed event) .matchAction (.matched event recoveryActionId)
  | unmatched {event : ClaimedEvent} {reason : String} (hkind : isPaymentLinkEvent event = true) :
      ProcessorMove s (.claimed event) .matchAction (.finishing event reason none)
  | prepared {event : ClaimedEvent} {recoveryActionId : Uuid} {providerMode : ProviderMode}
      {claim : ObservationClaim} :
      ProcessorMove s (.matched event recoveryActionId) (.prepareObservation providerMode)
        (.observing event claim)
  | linkFetched {event : ClaimedEvent} {claim : ObservationClaim}
      {out : HttpOutcome PaymentLinkSnapshot} {snapshot : PaymentLinkSnapshot} :
      ProcessorMove s (.observing event claim) (.fetchLink out) (.observed event claim snapshot)
  | persisted {event : ClaimedEvent} {claim : ObservationClaim} {snapshot : PaymentLinkSnapshot}
      {fresh : ObservationFresh} {reason : String} {caseId : Option Uuid} :
      ProcessorMove s (.observed event claim snapshot) (.persistObservation fresh)
        (.finishing event reason caseId)
  | failing {phase : ProcessorPhase} {l : ProcessorLabel} {event : ClaimedEvent} {text : String}
      (hevent : phase.event? = some event) : ProcessorMove s phase l (.failing event text)

theorem processorStep_move {s : System} {phase : ProcessorPhase} {l : ProcessorLabel}
    {m : Move ProcessorPhase} (h : processorStep s phase l = some m) :
    ProcessorMove s phase l m.phase := by
  cases phase with
  | idle =>
      cases l with
      | claim eventId =>
          simp only [processorStep] at h
          split at h
          · rename_i db event hclaim
            cases h
            obtain ⟨⟨result, hout⟩, -⟩ | ⟨row, result, -, hout, -⟩ | ⟨row, hstored, hok, hout, -⟩ :=
              claimEvent_eq_ok hclaim
            · cases hout
            · cases hout
            · cases hout
              exact .claimed hstored hok
          all_goals
            cases h
            exact .ended
      | crash => cases h; exact .ended
      | _ => cases h
  | claimed event =>
      cases l with
      | fetch payment subscription =>
          simp only [processorStep] at h
          split at h
          · cases h
          · rename_i hkind
            split at h
            · rename_i snapshot hfetch
              cases h
              exact .fetched (by simpa using hkind) hfetch
            · cases h
              exact .failing rfl
      | matchAction =>
          simp only [processorStep] at h
          split at h
          · rename_i hkind
            split at h <;> cases h
            · exact .unmatched hkind
            · exact .matched hkind
            · exact .failing rfl
          · cases h
      | unexpected text => cases h; exact .failing rfl
      | crash => cases h; exact .ended
      | _ => cases h
  | fetched event snapshot fetchedAt =>
      cases l with
      | apply fresh =>
          simp only [processorStep] at h
          split at h
          · split at h <;> cases h
            · exact .ended
            · exact .failing rfl
          · cases h
      | unexpected text => cases h; exact .failing rfl
      | crash => cases h; exact .ended
      | _ => cases h
  | matched event recoveryActionId =>
      cases l with
      | prepareObservation providerMode =>
          simp only [processorStep] at h
          split at h <;> cases h
          · exact .prepared
          · exact .failing rfl
      | unexpected text => cases h; exact .failing rfl
      | crash => cases h; exact .ended
      | _ => cases h
  | observing event claim =>
      cases l with
      | fetchLink out =>
          simp only [processorStep] at h
          split at h <;> cases h
          · exact .linkFetched
          · exact .failing rfl
      | unexpected text => cases h; exact .failing rfl
      | crash => cases h; exact .ended
      | _ => cases h
  | observed event claim snapshot =>
      cases l with
      | persistObservation fresh =>
          simp only [processorStep] at h
          split at h
          · split at h <;> cases h
            · exact .persisted
            · exact .failing rfl
          · cases h
      | unexpected text => cases h; exact .failing rfl
      | crash => cases h; exact .ended
      | _ => cases h
  | finishing event reason caseId =>
      cases l with
      | finish =>
          simp only [processorStep] at h
          split at h <;> cases h
          · exact .ended
          · exact .failing rfl
      | unexpected text => cases h; exact .failing rfl
      | crash => cases h; exact .ended
      | _ => cases h
  | failing event safeError =>
      cases l with
      | markFailed =>
          simp only [processorStep] at h
          split at h <;> cases h <;> exact .ended
      | crash => cases h; exact .ended
      | _ => cases h

end Arc
