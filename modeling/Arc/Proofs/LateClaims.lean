/-
What a late worker can still do to an executed action.

The finalizers of links and of compensations look neither at the status of the row
they find nor at who claimed it last, and the finalizer of a problem looks at the
status only.  `Safe` is the condition under which a step does no harm; it speaks of
the state before the step alone, and a run is harmless exactly when all its steps
meet it.
-/
import Arc.Proofs.Actions

namespace Arc

open Store

variable [Platform]

/-! ### Which row a step writes -/

/-- What a step of an executor writes: nothing, a claimed row, or the row of its own claim. -/
inductive RowWrite (s : System) (phase : ExecutorPhase) (l : ExecutorLabel) (m : ExecutorMove) : Prop
  | none (hdb : m.db = s.db)
  | claimed {caseId newId : Uuid} {now : Int} {claim : ExecutionClaim} (hphase : phase = .idle)
      (hnow : now ≤ s.clock) (hlabel : l = .prepare caseId newId now)
      (h : Claims s.db caseId newId now m.db claim)
  | own {held : HeldClaim} {c : PaymentCase} {record record' : RecoveryActionRecord}
      (hheld : phase.held? = some held) (hlocked : Locked s.db held.claim c record)
      (hsame : record.SameAction record')
      (hrows : m.db.recoveryActions = s.db.recoveryActions.put record')

theorem ExecutorStep.rowWrite {s : System} {phase : ExecutorPhase} {l : ExecutorLabel}
    {m : ExecutorMove} (h : ExecutorStep s phase l m) : RowWrite s phase l m := by
  cases h with
  | claimed hnow h => exact .claimed rfl hnow rfl h
  | internal hnow haction hlocked hopen h => exact .own rfl hlocked h.count.1 rfl
  | @problem held problem now c record hnow hlocked hopen =>
      exact .own rfl hlocked (⟨rfl, rfl, rfl, rfl⟩ : record.SameAction (record.withProblem problem now))
        rfl
  | finalized hnow hlocked h hfree => exact .own rfl hlocked h.count.1 rfl
  | @compensated held snapshot outcome c record hlocked hfree =>
      exact .own rfl hlocked (compensatedRecord_cases record snapshot outcome).1 rfl
  | _ => exact .none rfl

/-! ### The property

What a late worker may not do is stated of the steps of the run, in the state each is
taken in: a row that has succeeded is not finalized anew and its link not cancelled, and
a row under a newer running claim is not taken out of it.
-/

/-- The step is one of an executor that holds a claim on the row `r`. -/
structure ActsOn (x : Run.Step System Label) (held : HeldClaim) (r : RecoveryActionRecord) :
    Prop where
  worker : ∃ worker l, x.label = .executor worker l ∧ (x.pre.executors worker).held? = some held
  row : x.pre.db.recoveryActions.get? held.claim.recoveryActionId = some r

/-- The step asks the provider to cancel the link. -/
def Cancels (x : Run.Step System Label) (held : HeldClaim) (linkId : String) : Prop :=
  ∃ worker snapshot, x.label = .executor worker .sendCancel ∧
    x.pre.executors worker = .compensating held snapshot ∧ snapshot.id = linkId

/-- The step leaves the status of the row, the state of its case, and its link alone. -/
structure Keeps (x : Run.Step System Label) (held : HeldClaim) (r : RecoveryActionRecord) :
    Prop where
  status : (x.post.db.recoveryActions.get? r.id).map RecoveryActionRecord.executionStatus
    = some r.executionStatus
  state : (x.post.db.cases.get? r.caseId).map PaymentCase.currentState
    = (x.pre.db.cases.get? r.caseId).map PaymentCase.currentState
  cancel : ∀ linkId, r.externalReferenceId = some linkId → ¬ Cancels x held linkId

/-- The step records a provider problem for the claim. -/
def RecordsProblem (x : Run.Step System Label) (held : HeldClaim) : Prop :=
  ∃ worker problem now, x.label = .executor worker (.finalizeProblem now) ∧
    x.pre.executors worker = .troubled held problem

/-- The row is in progress under a newer claim than `held`, whose lease is running. -/
structure RunningNewer (s : System) (held : HeldClaim) (r : RecoveryActionRecord) : Prop where
  status : r.executionStatus = .inProgress
  newer : held.lease.attempt < r.executionAttemptCount
  lease : hasFreshLease r s.clock = true

/--
**Final results are never undone.**  After a row has been committed as succeeded, no
step of a claim that is still held on it changes its status or the state of its case,
or cancels its link; and no problem of an older claim takes a row out of progress while
the lease of a newer claim is running.  A claim that is held on a row that has
succeeded is an older one, since a final row is not claimed again.
-/
structure NeverUndone (clock : Int) (tr : List (Run.Step System Label)) : Prop where
  final : ∀ before after m, tr = before ++ after → RunTrace clock before m →
    ∀ r ∈ m.db.recoveryActions, r.executionStatus = .succeeded →
    ∀ y ∈ after, ∀ held r', ActsOn y held r' → r'.id = r.id → Keeps y held r'
  running : ∀ y ∈ tr, ∀ held r, ActsOn y held r → RecordsProblem y held →
    RunningNewer y.pre held r →
    (y.post.db.recoveryActions.get? r.id).map RecoveryActionRecord.executionStatus
      = some .inProgress

/-! ### The condition -/

/--
What a step must meet to undo nothing: a link or a compensation is finalized only on a
row that has not succeeded (or the database refuses the write), a link is cancelled
only while its row has not succeeded with it, and a problem is not recorded on a row
in progress under a newer claim whose lease is running.
-/
structure Safe (x : Run.Step System Label) : Prop where
  success : ∀ worker now held snapshot adopted r,
    x.label = .executor worker (.finalizeSuccess now) →
    x.pre.executors worker = .linked held snapshot adopted →
    x.pre.db.recoveryActions.get? held.claim.recoveryActionId = some r →
    r.executionStatus = .succeeded → ReferenceTaken x.pre.db r (some snapshot.referenceId)
  compensation : ∀ worker held snapshot outcome r,
    x.label = .executor worker .finalizeCompensation →
    x.pre.executors worker = .compensated held snapshot outcome →
    x.pre.db.recoveryActions.get? held.claim.recoveryActionId = some r →
    r.executionStatus = .succeeded →
    ReferenceTaken x.pre.db r (compensatedRecord r snapshot outcome).1.externalReference
  cancel : ∀ worker held snapshot r, x.label = .executor worker .sendCancel →
    x.pre.executors worker = .compensating held snapshot →
    x.pre.db.recoveryActions.get? held.claim.recoveryActionId = some r →
    r.executionStatus = .succeeded → r.externalReferenceId ≠ some snapshot.id
  problem : ∀ worker now held problem r, x.label = .executor worker (.finalizeProblem now) →
    x.pre.executors worker = .troubled held problem →
    x.pre.db.recoveryActions.get? held.claim.recoveryActionId = some r →
    ¬ RunningNewer x.pre held r

/-! ### The condition is enough -/

/-- A safe step of an executor leaves the database of a succeeded row's holder as it is. -/
theorem Safe.db_eq {s s' : System} {worker : Nat} {l : ExecutorLabel} {m : ExecutorMove}
    {held : HeldClaim} {r : RecoveryActionRecord} (hsafe : Safe ⟨s, .executor worker l, s'⟩)
    (h : ExecutorStep s (s.executors worker) l m) (hheld : (s.executors worker).held? = some held)
    (hrow : s.db.recoveryActions.get? held.claim.recoveryActionId = some r)
    (hstatus : r.executionStatus = .succeeded) : m.db = s.db := by
  have hsuccess := fun now held snapshot adopted r (hl : l = .finalizeSuccess now) =>
    hsafe.success worker now held snapshot adopted r (congrArg (Label.executor worker) hl)
  have hcompensation := fun held snapshot outcome r (hl : l = .finalizeCompensation) =>
    hsafe.compensation worker held snapshot outcome r (congrArg (Label.executor worker) hl)
  simp only at hsuccess hcompensation
  -- the row a finalizer has locked is the row of the claim
  have hfinal : ∀ {c : PaymentCase} {record : RecoveryActionRecord},
      Locked s.db held.claim c record → record = r := by
    intro c record hlocked
    exact Option.some.inj (hlocked.record_eq.symm.trans hrow)
  generalize s.executors worker = phase at h hheld hsuccess hcompensation
  cases h with
  | claimed hnow h => cases hheld
  | internal hnow haction hlocked hopen h =>
      cases hheld
      rw [hfinal hlocked, hstatus] at hopen
      exact absurd (by decide) hopen
  | problem hnow hlocked hopen =>
      cases hheld
      rw [hfinal hlocked, hstatus] at hopen
      exact absurd (by decide) hopen
  | finalized hnow hlocked h hfree =>
      cases hheld
      obtain rfl := hfinal hlocked
      obtain ⟨x, hx, hne, hsame⟩ := hsuccess _ _ _ _ _ rfl rfl hrow hstatus
      exact absurd hsame (hfree x hx hne)
  | compensated hlocked hfree =>
      cases hheld
      obtain rfl := hfinal hlocked
      obtain ⟨x, hx, hne, hsame⟩ := hcompensation _ _ _ _ rfl rfl hrow hstatus
      exact absurd hsame (hfree x hx hne)
  | _ => rfl

/-- A safe step keeps what a succeeded row stands for. -/
theorem Safe.keeps {x : Run.Step System Label} {held : HeldClaim} {r : RecoveryActionRecord}
    (hsafe : Safe x) (hs : step x.pre x.label = some x.post) (hacts : ActsOn x held r)
    (hstatus : r.executionStatus = .succeeded) : Keeps x held r := by
  obtain ⟨⟨worker, l, hlabel, hheld⟩, hrow⟩ := hacts
  obtain ⟨s, label, s'⟩ := x
  simp only at hlabel hheld hrow hs
  subst hlabel
  have hdb : s'.db = s.db := by
    obtain ⟨m, hm, rfl⟩ := Option.map_eq_some_iff.mp hs
    exact hsafe.db_eq (executorStep_cases hm) hheld hrow hstatus
  have hid : r.id = held.claim.recoveryActionId := Table.get?_key hrow
  refine ⟨?_, ?_, ?_⟩
  · simp only
    rw [hdb, hid, hrow, Option.map_some]
  · simp only
    rw [hdb]
  · rintro linkId hlink ⟨worker', snapshot, hlabel, hphase, rfl⟩
    exact hsafe.cancel worker' held snapshot r hlabel hphase hrow hstatus hlink

/-- A safe step, of whatever worker, leaves a succeeded row succeeded. -/
theorem Safe.succeeded {s s' : System} {l : Label} (hsafe : Safe ⟨s, l, s'⟩) (hok : HintsOk s)
    (hs : step s l = some s') {r : RecoveryActionRecord} (hr : r ∈ s.db.recoveryActions)
    (hstatus : r.executionStatus = .succeeded) :
    ∃ r' ∈ s'.db.recoveryActions, r'.id = r.id ∧ r'.executionStatus = .succeeded := by
  have hcommit := step_commit hok hs
  generalize hdb : s'.db = db' at hcommit
  cases hcommit with
  | @executed worker l m h =>
      cases h.rowWrite with
      | none hnone => exact ⟨r, by rwa [hnone], rfl, hstatus⟩
      | claimed hphase hnow hlabel hclaims =>
          obtain ⟨c, proposal, decision, inputs, record, hrow⟩ := hclaims.row
          refine ⟨r, (hrow.rows r).mpr (.inl ⟨hr, fun hkey => ?_⟩), rfl, hstatus⟩
          rcases hrow.origin with hbuilt | hreclaimed
          · exact hbuilt.new r hr hkey
          · obtain rfl : r = record := Table.eq_of_key_eq hr hreclaimed.mem hkey
            have hopen := hreclaimed.not_final
            rw [hstatus] at hopen
            exact hopen (by decide)
      | @own held c record record' hheld hlocked hsame hrows =>
          have hrecord := Table.mem_of_get? hlocked.record_eq
          by_cases hkey : r.id = record.id
          · obtain rfl : r = record := Table.eq_of_key_eq hr hrecord hkey
            have hkept := hsafe.db_eq h hheld hlocked.record_eq hstatus
            exact ⟨r, by rwa [hkept], rfl, hstatus⟩
          · refine ⟨r, ?_, rfl, hstatus⟩
            rw [hrows]
            exact (Table.mem_put_of_mem hrecord hsame.id_eq).mpr
              (.inl ⟨hr, fun h => hkey (h.trans hsame.id_eq)⟩)
  | @reconciled worker claimed snapshot fetchedAt fresh event result hphase howns hopen hresult =>
      have hrows : result.db.recoveryActions = s.db.recoveryActions := by
        rw [reconcileEntity_frame hresult]
      exact ⟨r, by simpa [hrows] using hr, rfl, hstatus⟩
  | @observed l claim snapshot source fresh action c attributions observation observations w
      hworker hobservable hevidence hinsert hw hmoves =>
      have haction := Table.mem_of_get? hobservable.action_eq
      have hid : ({ action with externalStatus := some snapshot.status } :
        RecoveryActionRecord).id = action.id := rfl
      have hput := fun x => Table.mem_put_of_mem haction hid (x := x)
      by_cases hkey : r.id = action.id
      · obtain rfl : r = action := Table.eq_of_key_eq hr haction hkey
        exact ⟨_, (hput _).mpr (.inr rfl), rfl, hstatus⟩
      · exact ⟨r, (hput r).mpr (.inl ⟨hr, hkey⟩), rfl, hstatus⟩
  | _ => exact ⟨r, hr, rfl, hstatus⟩

/-! ### The condition is needed

The equivalence needs the other direction step by step. A finalization of a succeeded
row changes its status, and a problem recorded under a newer running lease ends it; so a
step that is not safe is seen in the state it leaves.
-/

/-- The case of a row that a claim is held on is stored. -/
theorem Executed.locked {s : System} (hexecuted : Executed s.db) (hok : HeldOk s) {worker : Nat}
    {held : HeldClaim} (hheld : (s.executors worker).held? = some held)
    {r : RecoveryActionRecord}
    (hrow : s.db.recoveryActions.get? held.claim.recoveryActionId = some r) :
    ∃ c, Locked s.db held.claim c r ∧ c.id = r.caseId ∧
      (r.executionStatus = .succeeded → c.currentState ≠ .policyValidated) := by
  have hr := Table.mem_of_get? hrow
  obtain ⟨c, hc, hid⟩ := hexecuted.owned r hr
  obtain ⟨r', hr', hcarries⟩ := hok worker held hheld
  obtain rfl : r' = r :=
    Table.eq_of_key_eq hr' hr (hcarries.id_eq.trans (Table.get?_key hrow).symm)
  refine ⟨c, ⟨?_, hrow⟩, hid, fun hsucceeded hstate => ?_⟩
  · rw [← hcarries.case_eq, ← hid]
    exact Table.get?_of_mem hc
  · have hpast := hexecuted.past r' hr (hexecuted.succeeded r' hr hsucceeded) c hc hid
    rw [hstate] at hpast
    simp [observableStates] at hpast

/-- The status a written row has after the step. -/
theorem status_put {records : Table RecoveryActionRecord} {r : RecoveryActionRecord}
    (hr : records.get? r.id = some r) (r' : RecoveryActionRecord) (hid : r'.id = r.id) :
    ((records.put r').get? r.id).map RecoveryActionRecord.executionStatus
      = some r'.executionStatus := by
  have hget : (records.put r').get? r'.id = some r' :=
    Table.get?_put_self (by rw [← hr, ← hid]; rfl)
  rw [← hid, hget, Option.map_some]

/-- A step that keeps every succeeded row it acts on, and every running newer claim, is safe. -/
theorem safe_of_keeps {x : Run.Step System Label} (hok : HeldOk x.pre)
    (hexecuted : Executed x.pre.db) (hs : step x.pre x.label = some x.post)
    (hfinal : ∀ held r, ActsOn x held r → r.executionStatus = .succeeded → Keeps x held r)
    (hrunning : ∀ held r, ActsOn x held r → RecordsProblem x held → RunningNewer x.pre held r →
      (x.post.db.recoveryActions.get? r.id).map RecoveryActionRecord.executionStatus
        = some .inProgress) : Safe x := by
  obtain ⟨s, label, s'⟩ := x
  simp only at hok hexecuted hs hfinal hrunning
  refine ⟨?_, ?_, ?_, ?_⟩
  · intro worker now held snapshot adopted r hlabel hphase hrow hstatus
    simp only at hlabel hphase hrow ⊢
    subst hlabel
    by_contra hfree
    have hheld : (s.executors worker).held? = some held := by rw [hphase]; rfl
    have hkeeps := (hfinal held r ⟨⟨worker, _, rfl, hheld⟩, hrow⟩ hstatus).status
    obtain ⟨c, hlocked, -, hstate⟩ := hexecuted.locked hok hheld hrow
    obtain ⟨result, hfinalize⟩ := finalizeExternalSuccess_stale hlocked adopted now
      (postRequestContextIsCurrent_of_ne (hstate hstatus))
      fun x hx hne hsame => hfree ⟨x, hx, hne, hsame⟩
    obtain ⟨m, hm, rfl⟩ := Option.map_eq_some_iff.mp hs
    rw [hphase] at hm
    simp only [executorStep, hfinalize, Option.ite_none_right_eq_some, Option.some.injEq] at hm
    obtain ⟨-, rfl⟩ := hm
    have hput := status_put (Table.get?_of_mem (Table.mem_of_get? hrow)) (r.staleWith snapshot) rfl
    simp only [commitCase_recoveryActions] at hkeeps
    rw [hput, hstatus] at hkeeps
    cases hkeeps
  · intro worker held snapshot outcome r hlabel hphase hrow hstatus
    simp only at hlabel hphase hrow ⊢
    subst hlabel
    by_contra hfree
    have hheld : (s.executors worker).held? = some held := by rw [hphase]; rfl
    have hkeeps := (hfinal held r ⟨⟨worker, _, rfl, hheld⟩, hrow⟩ hstatus).status
    obtain ⟨c, hlocked, -, -⟩ := hexecuted.locked hok hheld hrow
    obtain ⟨result, hfinalize⟩ := finalizeCompensation_ok snapshot outcome hlocked
      fun x hx hne hsame => hfree ⟨x, hx, hne, hsame⟩
    obtain ⟨m, hm, rfl⟩ := Option.map_eq_some_iff.mp hs
    rw [hphase] at hm
    simp only [executorStep, hfinalize, Option.some.injEq] at hm
    subst hm
    obtain ⟨hsame, -, -, -, hstatus', -⟩ := compensatedRecord_cases r snapshot outcome
    have hput := status_put (Table.get?_of_mem (Table.mem_of_get? hrow)) _ hsame.id_eq
    simp only [commitCase_recoveryActions] at hkeeps
    rw [hput, hstatus, hstatus'] at hkeeps
    cases outcome <;> cases hkeeps
  · intro worker held snapshot r hlabel hphase hrow hstatus hlink
    have hheld : (s.executors worker).held? = some held := by rw [hphase]; rfl
    exact (hfinal held r ⟨⟨worker, _, hlabel, hheld⟩, hrow⟩ hstatus).cancel snapshot.id hlink
      ⟨worker, snapshot, hlabel, hphase, rfl⟩
  · intro worker now held problem r hlabel hphase hrow hnewer
    simp only at hlabel hphase hrow hnewer
    subst hlabel
    have hheld : (s.executors worker).held? = some held := by rw [hphase]; rfl
    have hkeeps := hrunning held r ⟨⟨worker, _, rfl, hheld⟩, hrow⟩
      ⟨worker, problem, now, rfl, hphase⟩ hnewer
    obtain ⟨c, hlocked, -, -⟩ := hexecuted.locked hok hheld hrow
    have hopen : r.executionStatus ∉ finalExecutionStatuses := by
      rw [hnewer.status]
      decide
    obtain ⟨db', result, hfinalize, hrows⟩ := finalizeProviderProblem_ok hlocked hopen problem now
    obtain ⟨m, hm, rfl⟩ := Option.map_eq_some_iff.mp hs
    rw [hphase] at hm
    simp only [executorStep, hfinalize, Option.ite_none_right_eq_some, Option.some.injEq] at hm
    obtain ⟨-, rfl⟩ := hm
    have hput := status_put (Table.get?_of_mem (Table.mem_of_get? hrow)) (r.withProblem problem now)
      rfl
    simp only [hrows] at hkeeps
    rw [hput, Option.some.injEq] at hkeeps
    rcases problem.known with ⟨hproblem, -⟩ | ⟨hproblem, -⟩ <;>
    · rw [show (r.withProblem problem now).executionStatus = problem.status from rfl, hproblem]
        at hkeeps
      cases hkeeps

/-! ### Runs -/

/-- In a run of safe steps, a row that has succeeded has succeeded for good. -/
theorem Safe.succeeded_run {clock : Int} {before after : List (Run.Step System Label)}
    {m s : System} (hbefore : RunTrace clock before m) (hafter : Run.Trace step m after s)
    (hsafe : ∀ x ∈ after, Safe x) {r : RecoveryActionRecord} (hr : r ∈ m.db.recoveryActions)
    (hstatus : r.executionStatus = .succeeded) {y : Run.Step System Label} (hy : y ∈ after) :
    ∃ r' ∈ y.pre.db.recoveryActions, r'.id = r.id ∧ r'.executionStatus = .succeeded := by
  refine hafter.invariant_pre (I := fun s => Run.Reachable step (System.initial clock) s ∧
    ∃ r' ∈ s.db.recoveryActions, r'.id = r.id ∧ r'.executionStatus = .succeeded)
    ⟨⟨before, hbefore⟩, r, hr, rfl, hstatus⟩ (fun x hx hpre hs => ?_) hy |>.2
  obtain ⟨⟨steps, hsteps⟩, r', hr', hid, hstatus'⟩ := hpre
  obtain ⟨hhints, -⟩ := executed_reachable ⟨steps, hsteps⟩
  obtain ⟨r'', hr'', hid', hstatus''⟩ := (hsafe x hx).succeeded hhints hs hr' hstatus'
  exact ⟨⟨_, hsteps.snoc hs⟩, r'', hr'', hid'.trans hid, hstatus''⟩

/--
**When final results are never undone.**  A run undoes nothing exactly when each of
its steps meets `Safe` in the state it is taken in.
-/
theorem never_undone_iff {clock : Int} {tr : List (Run.Step System Label)} {s : System}
    (h : RunTrace clock tr s) : NeverUndone clock tr ↔ ∀ x ∈ tr, Safe x := by
  constructor
  · intro hnever x hx
    obtain ⟨-, hheld, hexecuted⟩ := executed_reachable (h.reachable_pre hx)
    refine safe_of_keeps hheld hexecuted (h.step_of_mem hx) ?_ ?_
    · intro held r hacts hstatus
      obtain ⟨before, after, rfl, hbefore, -⟩ := h.split hx
      exact hnever.final before (x :: after) x.pre rfl hbefore r (Table.mem_of_get? hacts.row)
        hstatus x (by simp) held r hacts rfl
    · intro held r hacts hproblem hnewer
      exact hnever.running x hx held r hacts hproblem hnewer
  · intro hsafe
    refine ⟨?_, ?_⟩
    · rintro before after m rfl hbefore r hr hstatus y hy held r' hacts hid
      obtain ⟨m', hbefore', hafter⟩ := Run.Trace.of_append h
      obtain rfl : m = m' := hbefore.unique hbefore'
      obtain ⟨r'', hr'', hid', hstatus'⟩ := Safe.succeeded_run hbefore hafter
        (fun x hx => hsafe x (List.mem_append_right _ hx)) hr hstatus hy
      obtain rfl : r' = r'' :=
        Table.eq_of_key_eq (Table.mem_of_get? hacts.row) hr'' (hid.trans hid'.symm)
      exact (hsafe y (List.mem_append_right _ hy)).keeps (hafter.step_of_mem hy) hacts hstatus'
    · rintro y hy held r hacts ⟨worker, problem, now, hlabel, hphase⟩ hnewer
      exact absurd hnewer ((hsafe y hy).problem worker now held problem r hlabel hphase hacts.row)

end Arc

/-! ### A worker that comes late -/

namespace Arc

open Store

attribute [local instance] asciiPlatform

/--
The first worker has made the link and stalls; its lease ends, the second worker
claims the row, finds the link, and hands it to the customer.
-/
def reclaimedRun : List Label := authorizedRun ++ [
  .executor 0 (.prepare 10 40 0),
  .executor 0 (.lookup (.response 200 (some []))),
  .executor 0 .sendCreate,
  .provider (.applyCreate 0 "plink_1"),
  .executor 0 (.createAnswer (.response 200 (some sampleLink))),
  .tick 120000000,
  .executor 1 (.prepare 10 41 120000000),
  .executor 1 (.lookup (.response 200 (some [sampleLink]))),
  .executor 1 (.finalizeSuccess 120000000)]

/-- The step finalizes or cancels nothing for a row that has succeeded, and records no problem. -/
def undoesNothing (s : System) : Label → Bool
  | .executor worker (.finalizeSuccess _) | .executor worker .finalizeCompensation
  | .executor worker .sendCancel =>
      (s.executors worker).held?.all fun held =>
        (s.db.recoveryActions.get? held.claim.recoveryActionId).all fun r =>
          r.executionStatus != .succeeded
  | .executor _ (.finalizeProblem _) => false
  | _ => true

theorem safe_of_undoesNothing {x : Run.Step System Label} (h : undoesNothing x.pre x.label = true) :
    Safe x := by
  obtain ⟨s, label, s'⟩ := x
  have hopen : ∀ {held : HeldClaim} {r : RecoveryActionRecord} {phase : Option HeldClaim},
      phase.all (fun held => (s.db.recoveryActions.get? held.claim.recoveryActionId).all fun r =>
        r.executionStatus != .succeeded) = true → phase = some held →
      s.db.recoveryActions.get? held.claim.recoveryActionId = some r →
      r.executionStatus ≠ .succeeded := by
    rintro held r _ hall rfl hr
    simpa [hr] using hall
  refine ⟨?_, ?_, ?_, ?_⟩
  · rintro worker now held snapshot adopted r rfl hphase hr hstatus
    exact absurd hstatus (hopen h (by rw [hphase]; rfl) hr)
  · rintro worker held snapshot outcome r rfl hphase hr hstatus
    exact absurd hstatus (hopen h (by rw [hphase]; rfl) hr)
  · rintro worker held snapshot r rfl hphase hr hstatus
    exact absurd hstatus (hopen h (by rw [hphase]; rfl) hr)
  · rintro worker now held problem r rfl
    cases h

/-- The first worker does not come back. -/
theorem never_undone_iff_reclaimed : ∃ tr s, RunTrace 0 tr s ∧
    tr.map Run.Step.label = reclaimedRun ++ [.executor 0 .crash] ∧ (∀ x ∈ tr, Safe x) ∧
    NeverUndone 0 tr := by
  have hrun : (Run.replay (Run.guarded (fun s l => undoesNothing s l = true) step)
      (System.initial 0) (reclaimedRun ++ [.executor 0 .crash])).isSome = true := by
    decide +kernel
  obtain ⟨tr, s, htr, hlabels, -⟩ := Run.Trace.of_isSome hrun
  obtain ⟨htr, hall⟩ := htr.of_guarded
  have hsafe : ∀ x ∈ tr, Safe x := fun x hx => safe_of_undoesNothing (hall x hx)
  exact ⟨tr, s, htr, hlabels, hsafe, (never_undone_iff htr).mpr hsafe⟩

/-- The late finalization takes the row out of `SUCCEEDED`, and the link is to be cancelled. -/
theorem late_finalization_undoes : ∃ tr s, RunTrace 0 tr s ∧
    tr.map Run.Step.label = reclaimedRun ++ [.executor 0 (.finalizeSuccess 120000000)] ∧
    ¬ NeverUndone 0 tr ∧
    (s.db.recoveryActions.get? 40).map RecoveryActionRecord.executionStatus
      = some .compensationRequired ∧
    (step s (.executor 0 .sendCancel)).isSome = true := by
  have hrun : (Run.replay step (System.initial 0) reclaimedRun).isSome = true := by decide +kernel
  obtain ⟨before, m, hbefore, hlabels, hm⟩ := Run.Trace.of_isSome hrun
  -- before the late step: the row has succeeded, and the first worker still holds its claim
  have hrow : ((Run.replay step (System.initial 0) reclaimedRun).bind fun s =>
      s.db.recoveryActions.get? 40).map RecoveryActionRecord.executionStatus
        = some .succeeded := by decide +kernel
  have hholds : ((Run.replay step (System.initial 0) reclaimedRun).bind fun s =>
      (s.executors 0).held?).map (fun held => held.claim.recoveryActionId) = some 40 := by
    decide +kernel
  have hlate : ((Run.replay step (System.initial 0) reclaimedRun).bind fun s =>
      step s (.executor 0 (.finalizeSuccess 120000000))).map (fun s =>
        ((s.db.recoveryActions.get? 40).map RecoveryActionRecord.executionStatus,
          (step s (.executor 0 .sendCancel)).isSome))
        = some (some .compensationRequired, true) := by decide +kernel
  rw [hm, Option.bind_some] at hrow hholds hlate
  obtain ⟨r, hr, hsucceeded⟩ := Option.map_eq_some_iff.mp hrow
  obtain ⟨held, hheld, hid⟩ := Option.map_eq_some_iff.mp hholds
  obtain ⟨s, hs, hundone⟩ := Option.map_eq_some_iff.mp hlate
  rw [Prod.mk.injEq] at hundone
  obtain ⟨hundone, hcancels⟩ := hundone
  refine ⟨_, s, hbefore.snoc hs, by simp [hlabels], fun hnever => ?_, hundone, hcancels⟩
  have hkey : r.id = 40 := Table.get?_key hr
  have hkeeps := (hnever.final before _ m rfl hbefore r (Table.mem_of_get? hr) hsucceeded _
    (List.mem_singleton.mpr rfl) held r ⟨⟨0, _, rfl, hheld⟩, by rw [hid]; exact hr⟩ rfl).status
  rw [hkey, hundone, hsucceeded] at hkeeps
  cases hkeeps

end Arc
