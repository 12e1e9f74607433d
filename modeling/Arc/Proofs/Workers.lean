/-
What workers rely on between their transactions.

An approver holds a copy of a stored request, and an executor holds a claim on a
stored row.  The rows they were read from are still there, with the same identity,
whatever has been committed since: no transaction deletes a row or changes what it is
about.  With that, every step has one of the effects of `CaseEffect`.
-/
import Arc.Proofs.Steps

namespace Arc

open Store

variable [Platform]

/-! ### Frames -/

/-- Reconciliation of an entity writes the cases and their trail, and nothing else. -/
theorem Reported.frame {reference : CaseReference} {upd : PaymentCase → PaymentCase} {db db' : Db}
    (h : Reported reference upd db db') :
    db' = { db with cases := db'.cases, caseEvents := db'.caseEvents } := by
  cases h with
  | ignored hnone hdb => rw [hdb]
  | worked hc href hw htruth hdb => rw [hdb]; rfl
  | created hinsert hnone href hstate hw htruth hdb => rw [hdb]; rfl

theorem reconcileEntity_frame {db : Db} {event : WebhookEvent} {snapshot : EntitySnapshot}
    {fresh : Fresh} {now : Int} {result : ReconciliationResult}
    (h : reconcileEntity db event snapshot fresh now = .ok result) :
    result.db = { db with cases := result.db.cases, caseEvents := result.db.caseEvents } := by
  cases snapshot with
  | inl payment =>
      obtain ⟨-, reference, -, hreported⟩ := reconcilePayment_eq_ok h
      exact hreported.frame
  | inr subscription =>
      obtain ⟨-, reference, -, hreported⟩ := reconcileSubscription_eq_ok h
      exact hreported.frame

/-- An executor writes the actions, the cases and their trail, and nothing else. -/
theorem ExecutorStep.frame {s : System} {phase : ExecutorPhase} {l : ExecutorLabel}
    {m : ExecutorMove} (h : ExecutorStep s phase l m) :
    m.db = { s.db with
      recoveryActions := m.db.recoveryActions
      cases := m.db.cases
      caseEvents := m.db.caseEvents } := by
  cases h with
  | claimed hnow h => cases h <;> rfl
  | _ => rfl

/-! ### Actions

No transaction deletes an action, and each one that rewrites it keeps its identity and
does not lower its attempts. This is what a worker can rely on between two of its
transactions, whatever the others do in the meantime.
-/

/-- The row is still there, with at least as many attempts. -/
def Persists (records : Table RecoveryActionRecord) (r : RecoveryActionRecord) : Prop :=
  ∃ r' ∈ records, r.SameAction r' ∧ r.executionAttemptCount ≤ r'.executionAttemptCount

theorem Persists.of_mem {records : Table RecoveryActionRecord} {r : RecoveryActionRecord}
    (h : r ∈ records) : Persists records r := ⟨r, h, .refl r, le_refl _⟩

/-- An update of one row that keeps its identity keeps all rows. -/
theorem persists_put {records : Table RecoveryActionRecord} {r r' x : RecoveryActionRecord}
    (hr : r ∈ records) (hsame : r.SameAction r')
    (hcount : r.executionAttemptCount ≤ r'.executionAttemptCount) (hx : x ∈ records) :
    Persists (records.put r') x := by
  by_cases hkey : x.id = r.id
  · obtain rfl : x = r := Table.eq_of_key_eq hx hr hkey
    exact ⟨r', (Table.mem_put_of_mem hr hsame.id_eq).mpr (.inr rfl), hsame, hcount⟩
  · refine .of_mem ((Table.mem_put_of_mem hr hsame.id_eq).mpr (.inl ⟨hx, ?_⟩))
    exact fun h => hkey (h.trans hsame.id_eq)

theorem LinkOutcome.count {db : Db} {c : PaymentCase} {record record' : RecoveryActionRecord}
    {snapshot : PaymentLinkSnapshot} {now : Int} {required : Bool} {w : CaseWork}
    (h : LinkOutcome db c record snapshot now required record' w) :
    record.SameAction record' ∧ record'.executionAttemptCount = record.executionAttemptCount ∧
      record'.executionStartedAt = record.executionStartedAt := by
  cases h <;> exact ⟨⟨rfl, rfl, rfl, rfl⟩, rfl, rfl⟩

theorem InternalOutcome.count {db : Db} {c : PaymentCase} {record record' : RecoveryActionRecord}
    {now : Int} {w : CaseWork} (h : InternalOutcome db c record now record' w) :
    record.SameAction record' ∧ record'.executionAttemptCount = record.executionAttemptCount ∧
      record'.executionStartedAt = record.executionStartedAt := by
  cases h <;> exact ⟨⟨rfl, rfl, rfl, rfl⟩, rfl, rfl⟩

theorem actionFor_eq_some {db : Db} {id : Uuid} {r : RecoveryActionRecord}
    (h : db.actionFor id = some r) : r ∈ db.recoveryActions ∧ r.policyDecisionId = id := by
  obtain ⟨hr, hid⟩ := Table.first?_mem h
  exact ⟨hr, by simpa using hid⟩

theorem Claims.persists {db db' : Db} {caseId newId : Uuid} {now : Int} {claim : ExecutionClaim}
    (h : Claims db caseId newId now db' claim) {r : RecoveryActionRecord}
    (hr : r ∈ db.recoveryActions) : Persists db'.recoveryActions r := by
  cases h with
  | @built c proposal decision inputs record records hid hauth hnone hbuild hinsert =>
      have hinserted := (insertRecord_eq_ok hinsert).1
      exact persists_put ((Table.insert?_mem hinserted).mpr (.inr rfl))
        (⟨rfl, rfl, rfl, rfl⟩ : record.SameAction (record.start now)) (Nat.le_succ _)
        ((Table.insert?_mem hinserted).mpr (.inl hr))
  | @stored c proposal decision inputs record hid hauth hsome hopen hvalid hlease =>
      exact persists_put (actionFor_eq_some hsome).1
        (⟨rfl, rfl, rfl, rfl⟩ : record.SameAction (record.start now)) (Nat.le_succ _) hr

theorem ExecutorStep.persists {s : System} {phase : ExecutorPhase} {l : ExecutorLabel}
    {m : ExecutorMove} (h : ExecutorStep s phase l m) {r : RecoveryActionRecord}
    (hr : r ∈ s.db.recoveryActions) : Persists m.db.recoveryActions r := by
  cases h with
  | claimed hnow h => exact h.persists hr
  | internal hnow haction hlocked hopen h =>
      obtain ⟨hsame, hcount, -⟩ := h.count
      exact persists_put (Table.mem_of_get? hlocked.record_eq) hsame hcount.ge hr
  | @problem held problem now c record hnow hlocked hopen =>
      exact persists_put (Table.mem_of_get? hlocked.record_eq)
        (⟨rfl, rfl, rfl, rfl⟩ : record.SameAction (record.withProblem problem now)) (le_refl _) hr
  | finalized hnow hlocked h hfree =>
      obtain ⟨hsame, hcount, -⟩ := h.count
      exact persists_put (Table.mem_of_get? hlocked.record_eq) hsame hcount.ge hr
  | @compensated held snapshot outcome c record hlocked hfree =>
      obtain ⟨hsame, -, hcount, -⟩ := compensatedRecord_cases record snapshot outcome
      exact persists_put (Table.mem_of_get? hlocked.record_eq) hsame hcount.ge hr
  | _ => exact .of_mem hr

/-- **No step deletes an action or changes what it is about.** -/
theorem Commit.persists {s : System} {l : Label} {db' : Db} (h : Commit s l db')
    {r : RecoveryActionRecord} (hr : r ∈ s.db.recoveryActions) : Persists db'.recoveryActions r := by
  cases h with
  | executed h => exact h.persists hr
  | reconciled hphase howns hstatus hresult =>
      have hframe := congrArg Db.recoveryActions (reconcileEntity_frame hresult)
      exact .of_mem (by simpa [hframe] using hr)
  | @observed l claim snapshot source fresh action c attributions observation observations w
      hworker hobservable hevidence hinsert hw hmoves =>
      exact persists_put (Table.mem_of_get? hobservable.action_eq)
        (⟨rfl, rfl, rfl, rfl⟩ :
          action.SameAction { action with externalStatus := some snapshot.status }) (le_refl _) hr
  | _ => exact .of_mem hr

/-! ### Requests for approval -/

/-- A request is still there. -/
def StillRequested (approvals : Table ApprovalRequest) (copy : ApprovalRequest) : Prop :=
  ∃ stored ∈ approvals, stored.SameRequest copy

theorem Commit.stillRequested {s : System} {l : Label} {db' : Db} (h : Commit s l db')
    {copy : ApprovalRequest} (hcopy : StillRequested s.db.approvalRequests copy) :
    StillRequested db'.approvalRequests copy := by
  cases h with
  | executed h =>
      rw [h.frame]
      exact hcopy
  | reconciled hphase howns hstatus hresult =>
      rw [reconcileEntity_frame hresult]
      exact hcopy
  | requested hphase hc hstate hnone hinsert hw =>
      obtain ⟨stored, hstored, hsame⟩ := hcopy
      exact ⟨stored, (Table.insert?_mem hinsert).mpr (.inl hstored), hsame⟩
  | @answered worker approval stored decision operator note c w hphase hc hstored hsame hpending
      hstate hw =>
      obtain ⟨row, hrow, hrowsame⟩ := hcopy
      have hmem := Table.mem_of_get? hstored
      have hid : (stored.decided approval decision.decision operator note s.clock).id = stored.id :=
        rfl
      by_cases hkey : row.id = stored.id
      · obtain rfl : row = stored := Table.eq_of_key_eq hrow hmem hkey
        exact ⟨_, (Table.mem_put_of_mem hmem hid).mpr (.inr rfl),
          ⟨hrowsame.id_eq, hrowsame.case_eq, hrowsame.decision_eq⟩⟩
      · exact ⟨row, (Table.mem_put_of_mem hmem hid).mpr (.inl ⟨hrow, hkey⟩), hrowsame⟩
  | _ => exact hcopy

/-! ### What the workers hold

A worker holds a claim in its phase, and the row the claim is on is stored. The identity
of the row and of its case are those of the claim, and its attempt number is at least
the claim's.
-/

/-- A row carries the claim an executor holds. -/
structure RecoveryActionRecord.Carries (r : RecoveryActionRecord) (held : HeldClaim) : Prop where
  id_eq : r.id = held.claim.recoveryActionId
  case_eq : r.caseId = held.claim.caseId
  action_eq : r.action = held.claim.action
  attempt_le : held.lease.attempt ≤ r.executionAttemptCount

/-- Every claim an executor holds is on a stored row. -/
def HeldOk (s : System) : Prop :=
  ∀ worker held, (s.executors worker).held? = some held →
    ∃ r ∈ s.db.recoveryActions, r.Carries held

/-- Where the copy an approver decides on comes from. -/
theorem approverStep_deciding {s : System} {phase : ApproverPhase} {l : ApproverLabel}
    {m : Move ApproverPhase} {approval : ApprovalRequest} {decision : OperatorDecision}
    (h : approverStep s phase l = some m) (hphase : m.phase = .deciding approval decision) :
    approval ∈ s.db.approvalRequests := by
  cases l with
  | decideHint approvalRequestId decision' =>
      cases phase with
      | idle =>
          unfold approverStep at h
          simp only at h
          split at h
          · rename_i read hread
            cases h
            cases hphase
            exact Table.mem_of_get? (requireSome_eq_ok.mp hread)
          · cases h
            cases hphase
      | _ => cases h
  | requestHint policyDecisionId =>
      cases phase with
      | idle =>
          unfold approverStep at h
          simp only at h
          split at h <;>
          · cases h
            cases hphase
      | _ => cases h
  | request newId =>
      cases phase with
      | requesting decision' =>
          unfold approverStep at h
          simp only at h
          split at h <;>
          · cases h
            cases hphase
      | _ => cases h
  | decide =>
      cases phase with
      | deciding approval' decision' =>
          unfold approverStep at h
          simp only at h
          split at h <;>
          · cases h
            cases hphase
      | _ => cases h
  | crash =>
      cases phase <;>
      · cases h
        cases hphase

theorem hintsOk_step {s s' : System} {l : Label} (hok : HintsOk s) (h : step s l = some s') :
    HintsOk s' := by
  intro worker approval decision hphase
  refine (step_commit hok h).stillRequested ?_
  rcases step_approvers h worker with hsame | ⟨al, m, rfl, hm, hnew, -⟩
  · exact hok worker approval decision (hsame ▸ hphase)
  · exact ⟨approval, approverStep_deciding hm (hnew ▸ hphase), rfl, rfl, rfl⟩

theorem hintsOk_reachable {clock : Int} {s : System}
    (h : Run.Reachable step (System.initial clock) s) : HintsOk s :=
  h.invariant (by intro worker approval decision hphase; cases hphase)
    fun _ _ _ hok hs => hintsOk_step hok hs

/-- The claim an executor holds after a step is the one it held before, or was just made. -/
theorem ExecutorStep.held {s : System} {phase : ExecutorPhase} {l : ExecutorLabel}
    {m : ExecutorMove} {held : HeldClaim} (h : ExecutorStep s phase l m)
    (hheld : m.phase.held? = some held) :
    phase.held? = some held ∨
    ∃ caseId newId now claim, l = .prepare caseId newId now ∧ phase = .idle ∧
      Claims s.db caseId newId now m.db claim ∧
      held = ⟨claim, leaseOf m.db claim.recoveryActionId⟩ := by
  cases h with
  | ended => cases hheld
  | claimed hnow h =>
      cases hheld
      exact .inr ⟨_, _, _, _, rfl, rfl, h, rfl⟩
  | lookedUp haction hrequest =>
      left
      simp only [afterLookup] at hheld
      split at hheld
      · exact hheld
      · exact hheld
      · split at hheld <;> exact hheld
      · exact hheld
  | answered hrequest =>
      left
      simp only [afterCreate] at hheld
      split at hheld <;> exact hheld
  | @finalized held' snapshot adopted required now c record record' w hnow hlocked h hfree =>
      left
      cases required
      · cases hheld
      · exact hheld
  | internal | problem | compensated => cases hheld
  | sent | cancelSent | cancelAnswered => exact .inl hheld

/-- A row that was built for the claim just committed. -/
structure Built (db : Db) (record : RecoveryActionRecord) (newId : Uuid) : Prop where
  id_eq : record.id = newId
  new : ∀ x ∈ db.recoveryActions, x.id ≠ record.id
  unused : ∀ x ∈ db.recoveryActions, record.externalReference.isSome →
    x.externalReference ≠ record.externalReference
  unclaimed : ∀ x ∈ db.recoveryActions, x.policyDecisionId ≠ record.policyDecisionId
  status : record.executionStatus = .prepared
  attempts : record.executionAttemptCount = 0
  not_executed : record.executedAt = none
  reference : record.externalReference =
    (if record.action = .createRecoveryLink then some (referenceOf newId) else none)

/-- The stored row of the decision, which was open to the claim just committed. -/
structure Reclaimed (db : Db) (decision : PolicyDecision) (record : RecoveryActionRecord)
    (now : Int) : Prop where
  mem : record ∈ db.recoveryActions
  found : db.actionFor decision.id = some record
  not_final : record.executionStatus ∉ finalExecutionStatuses
  lease : hasFreshLease record now = false

/-- The row `record` of a claim just committed, as it was before it was started. -/
structure ClaimedRow (db db' : Db) (caseId newId : Uuid) (now : Int) (claim : ExecutionClaim)
    (c : PaymentCase) (proposal : StrategyProposal) (decision : PolicyDecision)
    (inputs : CurrentAuthorizationInputs) (record : RecoveryActionRecord) : Prop where
  case_id : c.id = caseId
  authority : Authority db c proposal decision inputs now
  claim_eq : claim = toClaim (record.start now) c
  case_eq : record.caseId = c.id
  decision_eq : record.policyDecisionId = decision.id
  action_eq : record.action = proposal.action
  origin : Built db record newId ∨ Reclaimed db decision record now
  rows : ∀ x, x ∈ db'.recoveryActions ↔
    (x ∈ db.recoveryActions ∧ x.id ≠ record.id) ∨ x = record.start now

theorem Claims.row {db db' : Db} {caseId newId : Uuid} {now : Int} {claim : ExecutionClaim}
    (h : Claims db caseId newId now db' claim) :
    ∃ c proposal decision inputs record,
      ClaimedRow db db' caseId newId now claim c proposal decision inputs record := by
  cases h with
  | @built c proposal decision inputs record records hid hauth hnone hbuild hinsert =>
      obtain ⟨hinserted, hunique⟩ := insertRecord_eq_ok hinsert
      have hmem := fun x => Table.insert?_mem hinserted (x := x)
      obtain ⟨hnewId, hcase, hdecision, -, haction, hstatus, -, hattempts, hexecuted, -, href⟩ :=
        buildRecord_eq_ok hbuild
      have hnew : ∀ x ∈ db.recoveryActions, x.id ≠ record.id :=
        fun x hx => Table.insert?_fresh hinserted hx
      refine ⟨c, proposal, decision, inputs, record, hid, hauth, rfl, hcase, hdecision, haction,
        .inl ⟨hnewId, hnew, fun x hx => (hunique x hx).2.2,
          fun x hx => (hunique x hx).1, hstatus, hattempts, hexecuted, ?_⟩,
        fun x => ?_⟩
      · rw [href, haction]
      · have hid : (record.start now).id = record.id := rfl
        refine (Table.mem_put_of_mem ((hmem record).mpr (.inr rfl)) hid).trans ?_
        refine or_congr ⟨?_, ?_⟩ Iff.rfl
        · rintro ⟨hx, hne⟩
          rcases (hmem x).mp hx with hx | rfl
          · exact ⟨hx, hne⟩
          · exact absurd rfl hne
        · rintro ⟨hx, hne⟩
          exact ⟨(hmem x).mpr (.inl hx), hne⟩
  | @stored c proposal decision inputs record hid hauth hsome hopen hvalid hlease =>
      obtain ⟨hrecord, hdecision⟩ := actionFor_eq_some hsome
      obtain ⟨_, hmatches, -⟩ := bind_eq_ok.mp hvalid
      rw [require_eq_ok] at hmatches
      have hstart : (record.start now).id = record.id := rfl
      exact ⟨c, proposal, decision, inputs, record, hid, hauth, rfl, hmatches.1, hdecision,
        hmatches.2.2.1, .inr ⟨hrecord, hsome, hopen, hlease⟩,
        fun x => Table.mem_put_of_mem hrecord hstart⟩

/-- The lease of a claim is what its row records. -/
theorem ClaimedRow.lease {db db' : Db} {caseId newId : Uuid} {now : Int} {claim : ExecutionClaim}
    {c : PaymentCase} {proposal : StrategyProposal} {decision : PolicyDecision}
    {inputs : CurrentAuthorizationInputs} {record : RecoveryActionRecord}
    (h : ClaimedRow db db' caseId newId now claim c proposal decision inputs record) :
    leaseOf db' claim.recoveryActionId = ⟨record.executionAttemptCount + 1, now⟩ := by
  have hget : db'.recoveryActions.get? (record.start now).id = some (record.start now) :=
    Table.get?_of_mem ((h.rows _).mpr (.inr rfl))
  have hid : claim.recoveryActionId = (record.start now).id := by rw [h.claim_eq]; rfl
  unfold leaseOf
  rw [hid, hget]
  rfl

theorem heldOk_step {s s' : System} {l : Label} (hhints : HintsOk s) (hok : HeldOk s)
    (h : step s l = some s') : HeldOk s' := by
  have hcommit := step_commit hhints h
  -- a row that carried a claim before the step still carries it
  have hkeep : ∀ {held : HeldClaim}, (∃ r ∈ s.db.recoveryActions, r.Carries held) →
      ∃ r ∈ s'.db.recoveryActions, r.Carries held := by
    rintro held ⟨r, hr, hcarries⟩
    obtain ⟨r', hr', hsame, hcount⟩ := hcommit.persists hr
    exact ⟨r', hr', hsame.id_eq.trans hcarries.id_eq, hsame.case_eq.trans hcarries.case_eq,
      hsame.action_eq.trans hcarries.action_eq, hcarries.attempt_le.trans hcount⟩
  intro worker held hheld
  rcases step_executors h worker with hsame | ⟨el, m, rfl, hm, hphase, hdb, -⟩
  · exact hkeep (hok worker held (hsame ▸ hheld))
  · rw [hphase] at hheld
    rcases hm.held hheld with hold | ⟨caseId, newId, now, claim, rfl, hidle, hclaims, rfl⟩
    · exact hkeep (hok worker held hold)
    · obtain ⟨c, proposal, decision, inputs, record, hrow⟩ := hclaims.row
      rw [hdb, hrow.lease, hrow.claim_eq]
      exact ⟨record.start now, (hrow.rows _).mpr (.inr rfl), rfl, rfl, rfl, le_refl _⟩

/-- **No run deletes an action or changes what it is about.** -/
theorem action_kept {s s' : System} {tr : List (Run.Step System Label)} (hhints : HintsOk s)
    (h : Run.Trace step s tr s') {r : RecoveryActionRecord} (hr : r ∈ s.db.recoveryActions) :
    ∃ r' ∈ s'.db.recoveryActions, r.SameAction r' := by
  have hboth : HintsOk s' ∧ ∃ r' ∈ s'.db.recoveryActions, r.SameAction r' := by
    refine h.invariant (I := fun s => HintsOk s ∧ ∃ r' ∈ s.db.recoveryActions, r.SameAction r')
      ⟨hhints, r, hr, .refl r⟩ ?_
    rintro x - ⟨hhints, r', hr', hsame⟩ hx
    obtain ⟨r'', hr'', hsame', -⟩ := (step_commit hhints hx).persists hr'
    exact ⟨hintsOk_step hhints hx, r'', hr'', hsame.trans hsame'⟩
  exact hboth.2

end Arc
