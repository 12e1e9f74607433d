/-
What a step does to the actions.

`ActionEffect` says it once for all transactions: which row was written, and whether
the write is the one that executes the action.  Executing an action takes its case out
of `POLICY_VALIDATED`, and nothing brings a case back, so a case has one executed
action at most.
-/
import Arc.Proofs.Lifecycle

namespace Arc

open Store

variable [Platform]

/-- The effect of a step on the rows of the actions. -/
inductive ActionEffect (db db' : Db) : Prop
  | unchanged (hrows : db'.recoveryActions = db.recoveryActions)
  /-- A row was built, and its action is not executed yet. -/
  | added {r : RecoveryActionRecord} {c : PaymentCase} (hnew : ∀ x ∈ db.recoveryActions, x.id ≠ r.id)
      (hc : c ∈ db.cases) (hcase : r.caseId = c.id) (hexecuted : r.executedAt = none)
      (hstatus : r.executionStatus ≠ .succeeded)
      (hrows : ∀ x, x ∈ db'.recoveryActions ↔ x ∈ db.recoveryActions ∨ x = r)
  /-- A row was written, and it was not executed by it. -/
  | rewritten {r r' : RecoveryActionRecord} (hr : r ∈ db.recoveryActions) (hsame : r.SameAction r')
      (hexecuted : r'.executedAt = r.executedAt)
      (hstatus : r'.executionStatus = .succeeded → r.executionStatus = .succeeded)
      (hrows : ∀ x, x ∈ db'.recoveryActions ↔ (x ∈ db.recoveryActions ∧ x.id ≠ r.id) ∨ x = r')
  /-- An action was executed, out of `POLICY_VALIDATED`. -/
  | executed {r r' : RecoveryActionRecord} {c c' : PaymentCase} (hr : r ∈ db.recoveryActions)
      (hsame : r.SameAction r') (hexecuted : r'.executedAt ≠ none) (hc : c ∈ db.cases)
      (hcase : r.caseId = c.id) (hstate : c.currentState = .policyValidated)
      (hc' : c' ∈ db'.cases) (hid : c'.id = c.id) (hstate' : c'.currentState ∈ observableStates)
      (hrows : ∀ x, x ∈ db'.recoveryActions ↔ (x ∈ db.recoveryActions ∧ x.id ≠ r.id) ∨ x = r')

/-- A transaction that writes one row, its case, and nothing else of the two. -/
theorem ActionEffect.of_put {db db' : Db} {r r' : RecoveryActionRecord} {w : CaseWork}
    (hdb : db' = ({ db with recoveryActions := db.recoveryActions.put r' }).commitCase w)
    (hr : r ∈ db.recoveryActions) (hsame : r.SameAction r') (hexecuted : r'.executedAt = r.executedAt)
    (hstatus : r'.executionStatus = .succeeded → r.executionStatus = .succeeded) :
    ActionEffect db db' := by
  refine .rewritten hr hsame hexecuted hstatus fun x => ?_
  rw [hdb, ← hsame.id_eq]
  exact Table.mem_put_of_mem hr hsame.id_eq

theorem ActionEffect.of_executed {db db' : Db} {r r' : RecoveryActionRecord} {c : PaymentCase}
    {w : CaseWork}
    (hdb : db' = ({ db with recoveryActions := db.recoveryActions.put r' }).commitCase w)
    (hr : r ∈ db.recoveryActions) (hsame : r.SameAction r') (hexecuted : r'.executedAt ≠ none)
    (hc : c ∈ db.cases) (hcase : r.caseId = c.id) (hstate : c.currentState = .policyValidated)
    (hid : w.row.id = c.id) (hstate' : w.row.currentState ∈ observableStates) :
    ActionEffect db db' := by
  refine .executed hr hsame hexecuted hc hcase hstate ?_ hid hstate' fun x => ?_
  · rw [hdb]
    exact (Table.mem_put_of_mem hc hid).mpr (.inr rfl)
  · rw [hdb, ← hsame.id_eq]
    exact Table.mem_put_of_mem hr hsame.id_eq

theorem Claims.actionEffect {db db' : Db} {caseId newId : Uuid} {now : Int} {claim : ExecutionClaim}
    (h : Claims db caseId newId now db' claim) : ActionEffect db db' := by
  obtain ⟨c, proposal, decision, inputs, record, hrow⟩ := h.row
  rcases hrow.origin with hbuilt | hreclaimed
  · refine .added (r := record.start now) hbuilt.new (Table.mem_of_get? hrow.authority.stored)
      hrow.case_eq hbuilt.not_executed (by simp [RecoveryActionRecord.start]) fun x => ?_
    rw [hrow.rows]
    refine or_congr ⟨fun hx => hx.1, fun hx => ⟨hx, hbuilt.new x hx⟩⟩ Iff.rfl
  · exact .rewritten hreclaimed.mem (⟨rfl, rfl, rfl, rfl⟩ : record.SameAction (record.start now))
      rfl (by simp [RecoveryActionRecord.start]) hrow.rows

omit [Platform] in
theorem ProviderProblem.status_ne_succeeded (problem : ProviderProblem) :
    problem.status ≠ .succeeded := by
  rcases problem.known with ⟨h, -⟩ | ⟨h, -⟩ <;>
  · rw [h]
    decide

theorem InternalOutcome.actionEffect {db db' : Db} {c : PaymentCase}
    {record record' : RecoveryActionRecord} {now : Int} {w : CaseWork}
    (h : InternalOutcome db c record now record' w) (hrecord : record ∈ db.recoveryActions)
    (hc : c ∈ db.cases) (hcase : record.caseId = c.id)
    (hdb : db' = ({ db with recoveryActions := db.recoveryActions.put record' }).commitCase w) :
    ActionEffect db db' := by
  cases h with
  | stale => exact .of_put hdb hrecord ⟨rfl, rfl, rfl, rfl⟩ rfl (fun h => (by cases h))
  | unsupported hstate hw =>
      exact .of_put hdb hrecord ⟨rfl, rfl, rfl, rfl⟩ rfl (fun h => (by cases h))
  | @done w₁ hstate hw =>
      obtain ⟨hmoved, state, hmem, hrow⟩ := moveCaseForInternalAction_eq_ok hw
      refine .of_executed hdb hrecord ⟨rfl, rfl, rfl, rfl⟩ (by simp) hc hcase hstate hmoved.id_eq ?_
      have hobservable : state ∈ observableStates := by
        simp only [List.mem_cons, List.not_mem_nil, or_false] at hmem
        rcases hmem with rfl | rfl | rfl <;> decide
      show w₁.row.currentState ∈ observableStates
      rw [hrow]
      exact hobservable

theorem LinkOutcome.actionEffect {db db' : Db} {c : PaymentCase}
    {record record' : RecoveryActionRecord} {snapshot : PaymentLinkSnapshot} {now : Int}
    {required : Bool} {w : CaseWork}
    (h : LinkOutcome db c record snapshot now required record' w)
    (hrecord : record ∈ db.recoveryActions) (hc : c ∈ db.cases) (hcase : record.caseId = c.id)
    (hdb : db' = ({ db with recoveryActions := db.recoveryActions.put record' }).commitCase w) :
    ActionEffect db db' := by
  cases h with
  | succeeded hcontext hrow hw =>
      refine .of_executed hdb hrecord ⟨rfl, rfl, rfl, rfl⟩
        (by simp [RecoveryActionRecord.succeededWith]) hc hcase
        (postRequestContextIsCurrent_true hcontext) ?_ ?_
      · rw [hrow]
        rfl
      · rw [hrow]
        simp [PaymentCase.attempted, observableStates]
  | stale hcontext => exact .of_put hdb hrecord ⟨rfl, rfl, rfl, rfl⟩ rfl (fun h => (by cases h))

theorem ExecutorStep.actionEffect {s : System} (hok : HeldOk s) {worker : Nat} {l : ExecutorLabel}
    {m : ExecutorMove} (h : ExecutorStep s (s.executors worker) l m) : ActionEffect s.db m.db := by
  have hlocks := fun held hheld c record => @HeldOk.locked _ s hok worker held hheld c record
  revert hlocks
  generalize s.executors worker = phase at h
  intro hlocks
  cases h with
  | claimed hnow h => exact h.actionEffect
  | internal hnow haction hlocked hopen h =>
      exact h.actionEffect (Table.mem_of_get? hlocked.record_eq) (Table.mem_of_get? hlocked.case_eq)
        (hlocks _ rfl _ _ hlocked).2 rfl
  | @problem held problem now c record hnow hlocked hopen =>
      exact .of_put rfl (Table.mem_of_get? hlocked.record_eq) ⟨rfl, rfl, rfl, rfl⟩ rfl
        fun h => absurd h problem.status_ne_succeeded
  | finalized hnow hlocked h hfree =>
      exact h.actionEffect (Table.mem_of_get? hlocked.record_eq) (Table.mem_of_get? hlocked.case_eq)
        (hlocks _ rfl _ _ hlocked).2 rfl
  | @compensated held snapshot outcome c record hlocked hfree =>
      obtain ⟨hsame, hexecuted, -, -, hstatus, -⟩ := compensatedRecord_cases record snapshot outcome
      refine .of_put rfl (Table.mem_of_get? hlocked.record_eq) hsame hexecuted fun h => ?_
      rw [hstatus] at h
      cases outcome <;> cases h
  | _ => exact .unchanged rfl

theorem Commit.actionEffect {s : System} (hok : HeldOk s) {l : Label} {db' : Db}
    (h : Commit s l db') : ActionEffect s.db db' := by
  cases h with
  | executed h => exact h.actionEffect hok
  | reconciled hphase howns hstatus hresult =>
      have hframe := congrArg Db.recoveryActions (reconcileEntity_frame hresult)
      exact .unchanged hframe
  | @observed l claim snapshot source fresh action c attributions observation observations w
      hworker hobservable hevidence hinsert hw hmoves =>
      have hsame : action.SameAction { action with externalStatus := some snapshot.status } :=
        ⟨rfl, rfl, rfl, rfl⟩
      exact .rewritten (Table.mem_of_get? hobservable.action_eq) hsame rfl (fun h => h)
        fun x => Table.mem_put_of_mem (Table.mem_of_get? hobservable.action_eq) hsame.id_eq
  | _ => exact .unchanged rfl

/-! ### One executed action for a case

An action is executed by a transition of its case out of `POLICY_VALIDATED`, in the same
transaction. So of two executed actions of one case the second would have found the case
past its execution, which `Executed` rules out. The invariant is stronger than the
uniqueness: it also says which states the case of an executed action can be in.
-/

/-- What an executed action says about its case. -/
structure Executed (db : Db) : Prop where
  owned : ∀ r ∈ db.recoveryActions, ∃ c ∈ db.cases, c.id = r.caseId
  succeeded : ∀ r ∈ db.recoveryActions, r.executionStatus = .succeeded → r.executedAt ≠ none
  /-- The case of an executed action is past its execution. -/
  past : ∀ r ∈ db.recoveryActions, r.executedAt ≠ none →
    ∀ c ∈ db.cases, c.id = r.caseId → c.currentState ∈ observableStates
  unique : ∀ r ∈ db.recoveryActions, ∀ r' ∈ db.recoveryActions, r.executedAt ≠ none →
    r'.executedAt ≠ none → r.caseId = r'.caseId → r = r'

theorem executed_empty : Executed Db.empty :=
  ⟨fun _ hr => absurd hr (Table.not_mem_empty _), fun _ hr => absurd hr (Table.not_mem_empty _),
    fun _ hr => absurd hr (Table.not_mem_empty _), fun _ hr => absurd hr (Table.not_mem_empty _)⟩

omit [Platform] in
/-- A case that is past its execution stays past it. -/
theorem Chain.observable {s t : CaseState} {xs : List (Option CaseState × Option CaseState)}
    (h : Chain s xs t) (hs : s ∈ observableStates) : t ∈ observableStates := by
  refine h.keeps (fun s hs t ht => ?_) hs
  simp only [observableStates, List.mem_cons, List.not_mem_nil, or_false] at hs
  rcases hs with rfl | rfl | rfl | rfl <;>
    simp [allowedTransitions, terminalCaseStates, observableStates] at ht ⊢
  rcases ht with rfl | rfl | rfl <;> simp

/-- What is known of the rows after a step, but for the unchanged ones. -/
theorem Executed.step {db db' : Db} (h : Executed db) (hcases : CaseEffect db db')
    (hactions : ActionEffect db db') : Executed db' := by
  -- the case of a row, and its state, before and after
  have hcase : ∀ c ∈ db.cases, ∃ c' ∈ db'.cases, c'.id = c.id ∧
      (c.currentState ∈ observableStates → c'.currentState ∈ observableStates) := by
    intro c hc
    obtain ⟨c', hc', hprogressed⟩ := hcases.progressed hc
    obtain ⟨new, -, hchain⟩ := hprogressed.added
    exact ⟨c', hc', hprogressed.id_eq, hchain.observable⟩
  have howned : ∀ r ∈ db.recoveryActions, ∃ c' ∈ db'.cases, c'.id = r.caseId := by
    intro r hr
    obtain ⟨c, hc, hid⟩ := h.owned r hr
    obtain ⟨c', hc', hid', -⟩ := hcase c hc
    exact ⟨c', hc', hid'.trans hid⟩
  have hpast : ∀ r ∈ db.recoveryActions, r.executedAt ≠ none →
      ∀ c' ∈ db'.cases, c'.id = r.caseId → c'.currentState ∈ observableStates := by
    intro r hr hexecuted c' hc' hid
    obtain ⟨c, hc, hcid⟩ := h.owned r hr
    obtain ⟨c'', hc'', hid'', hstays⟩ := hcase c hc
    obtain rfl : c' = c'' := Table.eq_of_key_eq hc' hc'' (hid.trans (hid''.trans hcid).symm)
    exact hstays (h.past r hr hexecuted c hc hcid)
  cases hactions with
  | unchanged hrows =>
      refine ⟨?_, ?_, ?_, ?_⟩ <;> rw [hrows]
      · exact howned
      · exact h.succeeded
      · exact hpast
      · exact h.unique
  | @added r c hnew hc hrcase hexecuted hstatus hrows =>
      refine ⟨?_, ?_, ?_, ?_⟩
      · intro x hx
        rcases (hrows x).mp hx with hx | rfl
        · exact howned x hx
        · obtain ⟨c', hc', hid, -⟩ := hcase c hc
          exact ⟨c', hc', hid.trans hrcase.symm⟩
      · intro x hx hsucceeded
        rcases (hrows x).mp hx with hx | rfl
        · exact h.succeeded x hx hsucceeded
        · exact absurd hsucceeded hstatus
      · intro x hx hxexecuted
        rcases (hrows x).mp hx with hx | rfl
        · exact hpast x hx hxexecuted
        · exact absurd hexecuted hxexecuted
      · intro x hx y hy hxexecuted hyexecuted hxy
        rcases (hrows x).mp hx with hx | rfl
        · rcases (hrows y).mp hy with hy | rfl
          · exact h.unique x hx y hy hxexecuted hyexecuted hxy
          · exact absurd hexecuted hyexecuted
        · exact absurd hexecuted hxexecuted
  | @rewritten r r' hr hsame hexecuted hstatus hrows =>
      -- every row after the step was there before, executed or not as before
      have hback : ∀ x ∈ db'.recoveryActions, ∃ y ∈ db.recoveryActions, y.SameAction x ∧
          x.executedAt = y.executedAt ∧
          (x.executionStatus = .succeeded → y.executionStatus = .succeeded) ∧
          (x = y ∨ (y = r ∧ x = r')) := by
        intro x hx
        rcases (hrows x).mp hx with ⟨hx, -⟩ | rfl
        · exact ⟨x, hx, .refl x, rfl, fun h => h, .inl rfl⟩
        · exact ⟨r, hr, hsame, hexecuted, hstatus, .inr ⟨rfl, rfl⟩⟩
      refine ⟨?_, ?_, ?_, ?_⟩
      · intro x hx
        obtain ⟨y, hy, hyx, -⟩ := hback x hx
        obtain ⟨c', hc', hid⟩ := howned y hy
        exact ⟨c', hc', hid.trans hyx.case_eq.symm⟩
      · intro x hx hsucceeded
        obtain ⟨y, hy, -, hyexecuted, hystatus, -⟩ := hback x hx
        rw [hyexecuted]
        exact h.succeeded y hy (hystatus hsucceeded)
      · intro x hx hxexecuted c' hc' hid
        obtain ⟨y, hy, hyx, hyexecuted, -⟩ := hback x hx
        exact hpast y hy (hyexecuted ▸ hxexecuted) c' hc' (hid.trans hyx.case_eq)
      · intro x hx y hy hxexecuted hyexecuted hxy
        obtain ⟨x₀, hx₀, hxsame, hxe, -, -⟩ := hback x hx
        obtain ⟨y₀, hy₀, hysame, hye, -, -⟩ := hback y hy
        have hsame₀ : x₀ = y₀ := h.unique x₀ hx₀ y₀ hy₀ (hxe ▸ hxexecuted) (hye ▸ hyexecuted)
          (hxsame.case_eq.symm.trans (hxy.trans hysame.case_eq))
        refine Table.eq_of_key_eq hx hy (hxsame.id_eq.trans ?_)
        rw [hsame₀]
        exact hysame.id_eq.symm
  | @executed r r' c c' hr hsame hexecuted hc hrcase hstate hc' hid hstate' hrows =>
      -- no other action of the case was executed before
      have hnone : ∀ x ∈ db.recoveryActions, x.caseId = r.caseId → x.executedAt = none := by
        intro x hx hxr
        by_contra hxexecuted
        have hobservable := h.past x hx hxexecuted c hc (hrcase.symm.trans hxr.symm)
        rw [hstate] at hobservable
        simp [observableStates] at hobservable
      refine ⟨?_, ?_, ?_, ?_⟩
      · intro x hx
        rcases (hrows x).mp hx with ⟨hx, -⟩ | rfl
        · exact howned x hx
        · obtain ⟨c'', hc'', hid''⟩ := howned r hr
          exact ⟨c'', hc'', hid''.trans hsame.case_eq.symm⟩
      · intro x hx hsucceeded
        rcases (hrows x).mp hx with ⟨hx, -⟩ | rfl
        · exact h.succeeded x hx hsucceeded
        · exact hexecuted
      · intro x hx hxexecuted c'' hc'' hid''
        rcases (hrows x).mp hx with ⟨hx, -⟩ | rfl
        · exact hpast x hx hxexecuted c'' hc'' hid''
        · have hkey : c''.id = c'.id := by rw [hid'', hsame.case_eq, hrcase, hid]
          rw [Table.eq_of_key_eq hc'' hc' hkey]
          exact hstate'
      · intro x hx y hy hxexecuted hyexecuted hxy
        rcases (hrows x).mp hx with ⟨hx, -⟩ | rfl <;> rcases (hrows y).mp hy with ⟨hy, -⟩ | rfl
        · exact h.unique x hx y hy hxexecuted hyexecuted hxy
        · exact absurd (hnone x hx (hxy.trans hsame.case_eq)) hxexecuted
        · exact absurd (hnone y hy (hxy.symm.trans hsame.case_eq)) hyexecuted
        · rfl

theorem executed_reachable {clock : Int} {s : System}
    (h : Run.Reachable step (System.initial clock) s) : HintsOk s ∧ HeldOk s ∧ Executed s.db := by
  refine h.invariant (I := fun s => HintsOk s ∧ HeldOk s ∧ Executed s.db)
    ⟨?_, ?_, executed_empty⟩ fun s l s' ⟨hhints, hheld, hexecuted⟩ hs => ?_
  · intro worker approval decision hphase
    cases hphase
  · intro worker held hheld
    cases hheld
  · have hcommit := step_commit hhints hs
    exact ⟨hintsOk_step hhints hs, heldOk_step hhints hheld hs,
      hexecuted.step (hcommit.caseEffect hheld) (hcommit.actionEffect hheld)⟩

end Arc
