/-
The request of an action row.

A row is built once, and the columns that say what it asks for are never written
again: its proposal, its two fingerprints and its expiry.  Its reference is rewritten
only where the row becomes final, and a final row stays final.  A claim builds its
request partly from the case as it is now, but only after the fingerprint of that
request has been compared with the stored one; so all claims of one row ask for one
link.
-/
import Arc.Proofs.Assessments
import Arc.Proofs.Authority
import Arc.Proofs.Proposals

namespace Arc

open Store

variable [Platform]

/-! ### What is kept of a row

What a row asks for is fixed when it is built. Every later write goes through one of the
finalizers or a claim, and each of them is shown to keep those columns, so the row
retains them to the end of the run.
-/

/-- A row and a later version of it. -/
structure RecoveryActionRecord.Retains (r r' : RecoveryActionRecord) : Prop
    extends r.SameAction r' where
  strategy_eq : r'.strategyProposalId = r.strategyProposalId
  key_eq : r'.idempotencyKey = r.idempotencyKey
  fingerprint_eq : r'.requestFingerprint = r.requestFingerprint
  expiry_eq : r'.externalExpiresAt = r.externalExpiresAt
  /-- A row that is still open was open before, under the same reference. -/
  not_final : r'.executionStatus ∉ finalExecutionStatuses →
    r.executionStatus ∉ finalExecutionStatuses ∧ r'.externalReference = r.externalReference

theorem RecoveryActionRecord.Retains.refl (r : RecoveryActionRecord) : r.Retains r :=
  ⟨.refl r, rfl, rfl, rfl, rfl, fun h => ⟨h, rfl⟩⟩

theorem RecoveryActionRecord.Retains.trans {r r' r'' : RecoveryActionRecord} (h : r.Retains r')
    (h' : r'.Retains r'') : r.Retains r'' := by
  refine ⟨h.toSameAction.trans h'.toSameAction, h'.strategy_eq.trans h.strategy_eq,
    h'.key_eq.trans h.key_eq, h'.fingerprint_eq.trans h.fingerprint_eq,
    h'.expiry_eq.trans h.expiry_eq, fun hopen => ?_⟩
  obtain ⟨hopen', href'⟩ := h'.not_final hopen
  obtain ⟨hopen'', href⟩ := h.not_final hopen'
  exact ⟨hopen'', href'.trans href⟩

/-- A claim starts an open row, and keeps what it asks for. -/
theorem RecoveryActionRecord.Retains.start {r : RecoveryActionRecord} {now : Int}
    (hopen : r.executionStatus ∉ finalExecutionStatuses) : r.Retains (r.start now) :=
  ⟨⟨rfl, rfl, rfl, rfl⟩, rfl, rfl, rfl, rfl, fun _ => ⟨hopen, rfl⟩⟩

/-- A write that leaves the row final keeps what it asks for. -/
theorem InternalOutcome.retains {db : Db} {c : PaymentCase} {record record' : RecoveryActionRecord}
    {now : Int} {w : CaseWork} (h : InternalOutcome db c record now record' w) :
    record.Retains record' := by
  cases h <;>
    exact ⟨⟨rfl, rfl, rfl, rfl⟩, rfl, rfl, rfl, rfl,
      fun hopen => absurd (by simp [finalExecutionStatuses]) hopen⟩

theorem LinkOutcome.retains {db : Db} {c : PaymentCase} {record record' : RecoveryActionRecord}
    {snapshot : PaymentLinkSnapshot} {now : Int} {required : Bool} {w : CaseWork}
    (h : LinkOutcome db c record snapshot now required record' w) : record.Retains record' := by
  cases h <;>
    exact ⟨⟨rfl, rfl, rfl, rfl⟩, rfl, rfl, rfl, rfl, fun hopen =>
      absurd (by simp [RecoveryActionRecord.succeededWith, RecoveryActionRecord.staleWith,
        finalExecutionStatuses]) hopen⟩

theorem compensatedRecord_retains (record : RecoveryActionRecord) (original : PaymentLinkSnapshot)
    (outcome : CancellationOutcome) :
    record.Retains (compensatedRecord record original outcome).1 := by
  cases outcome <;>
    exact ⟨⟨rfl, rfl, rfl, rfl⟩, rfl, rfl, rfl, rfl, fun hopen =>
      absurd (by simp [compensatedRecord, finalExecutionStatuses]) hopen⟩

/-- The row is still there. -/
def Retained (records : Table RecoveryActionRecord) (r : RecoveryActionRecord) : Prop :=
  ∃ r' ∈ records, r.Retains r'

theorem Retained.of_mem {records : Table RecoveryActionRecord} {r : RecoveryActionRecord}
    (h : r ∈ records) : Retained records r := ⟨r, h, .refl r⟩

theorem retained_put {records : Table RecoveryActionRecord} {r r' x : RecoveryActionRecord}
    (hr : r ∈ records) (hkept : r.Retains r') (hx : x ∈ records) :
    Retained (records.put r') x := by
  by_cases hkey : x.id = r.id
  · obtain rfl : x = r := Table.eq_of_key_eq hx hr hkey
    exact ⟨r', (Table.mem_put_of_mem hr hkept.id_eq).mpr (.inr rfl), hkept⟩
  · refine .of_mem ((Table.mem_put_of_mem hr hkept.id_eq).mpr (.inl ⟨hx, ?_⟩))
    exact fun h => hkey (h.trans hkept.id_eq)

theorem Claims.retained {db db' : Db} {caseId newId : Uuid} {now : Int} {claim : ExecutionClaim}
    (h : Claims db caseId newId now db' claim) {r : RecoveryActionRecord}
    (hr : r ∈ db.recoveryActions) : Retained db'.recoveryActions r := by
  cases h with
  | @built c proposal decision inputs record records hid hauth hnone hbuild hinsert =>
      have hinserted := (insertRecord_eq_ok hinsert).1
      have hstatus : record.executionStatus = .prepared :=
        (buildRecord_eq_ok hbuild).2.2.2.2.2.1
      exact retained_put ((Table.insert?_mem hinserted).mpr (.inr rfl))
        (.start (by rw [hstatus]; decide)) ((Table.insert?_mem hinserted).mpr (.inl hr))
  | @stored c proposal decision inputs record hid hauth hsome hopen hvalid hlease =>
      exact retained_put (actionFor_eq_some hsome).1 (.start hopen) hr

theorem ExecutorStep.retained {s : System} {phase : ExecutorPhase} {l : ExecutorLabel}
    {m : ExecutorMove} (h : ExecutorStep s phase l m) {r : RecoveryActionRecord}
    (hr : r ∈ s.db.recoveryActions) : Retained m.db.recoveryActions r := by
  cases h with
  | claimed hnow h => exact h.retained hr
  | internal hnow haction hlocked hopen h =>
      exact retained_put (Table.mem_of_get? hlocked.record_eq) h.retains hr
  | @problem held problem now c record hnow hlocked hopen =>
      have hkept : record.Retains (record.withProblem problem now) :=
        ⟨⟨rfl, rfl, rfl, rfl⟩, rfl, rfl, rfl, rfl, fun _ => ⟨hopen, rfl⟩⟩
      exact retained_put (Table.mem_of_get? hlocked.record_eq) hkept hr
  | finalized hnow hlocked h hfree =>
      exact retained_put (Table.mem_of_get? hlocked.record_eq) h.retains hr
  | @compensated held snapshot outcome c record hlocked hfree =>
      exact retained_put (Table.mem_of_get? hlocked.record_eq)
        (compensatedRecord_retains record snapshot outcome) hr
  | _ => exact .of_mem hr

/-- **No step writes what a row asks for.** -/
theorem Commit.retained {s : System} {l : Label} {db' : Db} (h : Commit s l db')
    {r : RecoveryActionRecord} (hr : r ∈ s.db.recoveryActions) : Retained db'.recoveryActions r := by
  cases h with
  | executed h => exact h.retained hr
  | reconciled hphase howns hstatus hresult =>
      have hframe := congrArg Db.recoveryActions (reconcileEntity_frame hresult)
      exact .of_mem (by simpa [hframe] using hr)
  | @observed l claim snapshot source fresh action c attributions observation observations w
      hworker hobservable hevidence hinsert hw hmoves =>
      have hkept : action.Retains { action with externalStatus := some snapshot.status } :=
        ⟨⟨rfl, rfl, rfl, rfl⟩, rfl, rfl, rfl, rfl, fun h => ⟨h, rfl⟩⟩
      exact retained_put (Table.mem_of_get? hobservable.action_eq) hkept hr
  | _ => exact .of_mem hr

theorem action_retained {s s' : System} {tr : List (Run.Step System Label)} (hhints : HintsOk s)
    (h : Run.Trace step s tr s') {r : RecoveryActionRecord} (hr : r ∈ s.db.recoveryActions) :
    Retained s'.db.recoveryActions r := by
  have hboth : HintsOk s' ∧ Retained s'.db.recoveryActions r := by
    refine h.invariant (I := fun s => HintsOk s ∧ Retained s.db.recoveryActions r)
      ⟨hhints, .of_mem hr⟩ ?_
    rintro x - ⟨hhints, r', hr', hkept⟩ hx
    obtain ⟨r'', hr'', hkept'⟩ := (step_commit hhints hx).retained hr'
    exact ⟨hintsOk_step hhints hx, r'', hr'', hkept.trans hkept'⟩
  exact hboth.2

/-! ### What a row was built from -/

/-- A payment link row, and what it was built from. -/
structure BuiltLink (c : PaymentCase) (proposal : StrategyProposal) (decision : PolicyDecision)
    (inputs : CurrentAuthorizationInputs) (builtAt : Int) (r : RecoveryActionRecord) (amount : Nat)
    (currency : String) (windowEnd expiresAt : Int) : Prop where
  case_eq : r.caseId = c.id
  strategy_eq : r.strategyProposalId = proposal.id
  decision_eq : r.policyDecisionId = decision.id
  action_eq : r.action = proposal.action
  key_eq : r.idempotencyKey = buildExecutionIdempotencyKey decision.id
    inputs.authorizationInputFingerprint proposal.id proposal.action
  amount_eq : c.amount = some amount
  currency_eq : c.currency = some currency
  window_eq : decision.recoveryWindowEndsAt = some windowEnd
  expires_eq : expiresAt = min windowEnd (builtAt + paymentLinkOperationalExpiry)
  expiry_eq : r.externalExpiresAt = some expiresAt
  later : unixSeconds builtAt < unixSeconds expiresAt
  reference : r.externalReference = some (referenceOf r.id)
  fingerprint_eq : r.requestFingerprint = buildPaymentLinkRequestFingerprint .createRecoveryLink
    amount currency (referenceOf r.id) (unixSeconds expiresAt)

theorem buildLinkIntent_eq_ok {c : PaymentCase} {decision : PolicyDecision} {now : Int}
    {intent : LinkIntent} (h : buildLinkIntent c decision now = .ok intent) :
    c.amount = some intent.amount ∧ c.currency = some intent.currency ∧
      ∃ windowEnd, decision.recoveryWindowEndsAt = some windowEnd ∧
        intent.expiresAt = min windowEnd (now + paymentLinkOperationalExpiry) ∧
        unixSeconds now < unixSeconds intent.expiresAt := by
  obtain ⟨amount, hamount, h⟩ := bind_eq_ok.mp h
  obtain ⟨currency, hcurrency, h⟩ := bind_eq_ok.mp h
  obtain ⟨windowEnd, hwindow, h⟩ := bind_eq_ok.mp h
  obtain ⟨_, hlater, h⟩ := bind_eq_ok.mp h
  rw [requireSome_eq_ok, Option.filter_eq_some_iff] at hamount hcurrency hwindow
  cases h
  exact ⟨hamount.1, hcurrency.1, windowEnd, hwindow.1, rfl, require_eq_ok.mp hlater⟩

theorem buildRecord_link {c : PaymentCase} {proposal : StrategyProposal}
    {decision : PolicyDecision} {approval : Option ApprovalRequest}
    {inputs : CurrentAuthorizationInputs} {newId : Uuid} {now : Int} {r : RecoveryActionRecord}
    (h : buildRecord c proposal decision approval inputs newId now = .ok r)
    (hlink : r.action = .createRecoveryLink) : ∃ amount currency windowEnd expiresAt,
      BuiltLink c proposal decision inputs now r amount currency windowEnd expiresAt := by
  unfold buildRecord at h
  split at h
  · rename_i haction
    obtain ⟨intent, hintent, h⟩ := bind_eq_ok.mp h
    obtain ⟨hamount, hcurrency, windowEnd, hwindow, hexpires, hlater⟩ :=
      buildLinkIntent_eq_ok hintent
    cases h
    exact ⟨intent.amount, intent.currency, windowEnd, intent.expiresAt,
      { case_eq := rfl
        strategy_eq := rfl
        decision_eq := rfl
        action_eq := rfl
        key_eq := rfl
        amount_eq := hamount
        currency_eq := hcurrency
        window_eq := hwindow
        expires_eq := hexpires
        expiry_eq := rfl
        later := hlater
        reference := rfl
        fingerprint_eq := by rw [haction] }⟩
  · rename_i haction
    cases h
    exact absurd hlink haction

/-- The step built the row, under full authority. -/
structure BuildStep (x : Run.Step System Label) (worker : Nat) (c : PaymentCase)
    (proposal : StrategyProposal) (decision : PolicyDecision) (inputs : CurrentAuthorizationInputs)
    (builtAt : Int) (r : RecoveryActionRecord) : Prop where
  label : x.label = .executor worker (.prepare c.id r.id builtAt)
  now_le : builtAt ≤ x.pre.clock
  authority : Authority x.pre.db c proposal decision inputs builtAt
  build : buildRecord c proposal decision (x.pre.db.approvalFor decision.id) inputs r.id builtAt =
    .ok r
  stored : r.start builtAt ∈ x.post.db.recoveryActions

/-- Writing a stored row adds none. -/
theorem exists_of_put {records : Table RecoveryActionRecord} {r r' x : RecoveryActionRecord}
    (hr : r ∈ records) (hid : r'.id = r.id) (hx : x ∈ records.put r') :
    ∃ y ∈ records, y.id = x.id := by
  rcases (Table.mem_put_of_mem hr hid).mp hx with ⟨hx, -⟩ | rfl
  · exact ⟨x, hx, rfl⟩
  · exact ⟨r, hr, hid.symm⟩

/-- The row an executor has just added was built by its claim. -/
theorem ExecutorStep.builds {s : System} {phase : ExecutorPhase} {l : ExecutorLabel}
    {m : ExecutorMove} (h : ExecutorStep s phase l m) {r : RecoveryActionRecord}
    (hr : r ∈ m.db.recoveryActions) (hnew : ∀ y ∈ s.db.recoveryActions, y.id ≠ r.id) :
    ∃ c proposal decision inputs builtAt record, r = record.start builtAt ∧
      l = .prepare c.id record.id builtAt ∧ builtAt ≤ s.clock ∧
      Authority s.db c proposal decision inputs builtAt ∧
      buildRecord c proposal decision (s.db.approvalFor decision.id) inputs record.id builtAt =
        .ok record := by
  have hold : ∀ {P : Prop}, (∃ y ∈ s.db.recoveryActions, y.id = r.id) → P := by
    rintro P ⟨y, hy, hid⟩
    exact absurd hid (hnew y hy)
  cases h with
  | @claimed caseId newId now db claim hnow h =>
      cases h with
      | @built c proposal decision inputs record records hid hauth hnone hbuild hinsert =>
          have hinserted := (insertRecord_eq_ok hinsert).1
          have hnewId : record.id = newId := (buildRecord_eq_ok hbuild).1
          subst hid hnewId
          have hmem : record ∈ records := (Table.insert?_mem hinserted).mpr (.inr rfl)
          have hstart : (record.start now).id = record.id := rfl
          rcases (Table.mem_put_of_mem hmem hstart).mp hr with ⟨hr, hne⟩ | rfl
          · rcases (Table.insert?_mem hinserted).mp hr with hr | rfl
            · exact hold ⟨r, hr, rfl⟩
            · exact absurd rfl hne
          · exact ⟨c, proposal, decision, inputs, now, record, rfl, rfl, hnow, hauth, hbuild⟩
      | @stored c proposal decision inputs record hid hauth hsome hopen hvalid hlease =>
          have hstart : (record.start now).id = record.id := rfl
          exact hold (exists_of_put (actionFor_eq_some hsome).1 hstart hr)
  | internal hnow haction hlocked hopen h =>
      exact hold (exists_of_put (Table.mem_of_get? hlocked.record_eq) h.retains.id_eq hr)
  | @problem held problem now c record hnow hlocked hopen =>
      have hwritten : (record.withProblem problem now).id = record.id := rfl
      exact hold (exists_of_put (Table.mem_of_get? hlocked.record_eq) hwritten hr)
  | finalized hnow hlocked h hfree =>
      exact hold (exists_of_put (Table.mem_of_get? hlocked.record_eq) h.retains.id_eq hr)
  | @compensated held snapshot outcome c record hlocked hfree =>
      exact hold (exists_of_put (Table.mem_of_get? hlocked.record_eq)
        (compensatedRecord_retains record snapshot outcome).id_eq hr)
  | _ => exact hold ⟨r, hr, rfl⟩

/-- **A row is new only in the step that builds it.** -/
theorem step_builds {x : Run.Step System Label} (hhints : HintsOk x.pre)
    (h : step x.pre x.label = some x.post) {r : RecoveryActionRecord}
    (hr : r ∈ x.post.db.recoveryActions) (hnew : ∀ y ∈ x.pre.db.recoveryActions, y.id ≠ r.id) :
    ∃ worker c proposal decision inputs builtAt record,
      BuildStep x worker c proposal decision inputs builtAt record ∧ r = record.start builtAt := by
  have hold : ∀ {P : Prop}, (∃ y ∈ x.pre.db.recoveryActions, y.id = r.id) → P := by
    rintro P ⟨y, hy, hid⟩
    exact absurd hid (hnew y hy)
  have hcommit := step_commit hhints h
  obtain ⟨pre, l, post⟩ := x
  simp only at hcommit hr hnew hold h ⊢
  generalize hdb : post.db = db' at hcommit
  cases hcommit with
  | @executed worker el m hexecuted =>
      rw [hdb] at hr
      obtain ⟨c, proposal, decision, inputs, builtAt, record, rfl, rfl, hnow, hauth, hbuild⟩ :=
        hexecuted.builds hr hnew
      refine ⟨worker, c, proposal, decision, inputs, builtAt, record,
        ⟨rfl, hnow, hauth, hbuild, ?_⟩, rfl⟩
      show record.start builtAt ∈ post.db.recoveryActions
      rw [hdb]
      exact hr
  | reconciled hphase howns hstatus hresult =>
      have hframe := congrArg Db.recoveryActions (reconcileEntity_frame hresult)
      rw [hdb] at hr
      exact hold ⟨r, by simpa [hframe] using hr, rfl⟩
  | @observed l claim snapshot source fresh action c attributions observation observations w
      hworker hobservable hevidence hinsert hw hmoves =>
      rw [hdb] at hr
      have hwritten : { action with externalStatus := some snapshot.status }.id = action.id := rfl
      exact hold (exists_of_put (Table.mem_of_get? hobservable.action_eq) hwritten hr)
  | _ =>
      rw [hdb] at hr
      exact hold ⟨r, hr, rfl⟩

/-- **Every row was built in a step of the run**, and asks for what it was built for. -/
theorem action_built {clock : Int} {tr : List (Run.Step System Label)} {s : System}
    (h : RunTrace clock tr s) {r : RecoveryActionRecord} (hr : r ∈ s.db.recoveryActions) :
    ∃ before x after, tr = before ++ x :: after ∧ RunTrace clock before x.pre ∧
      Run.Trace step x.post after s ∧
      (∀ y ∈ x.pre.db.recoveryActions, y.id ≠ r.id) ∧
      ∃ worker c proposal decision inputs builtAt record,
        BuildStep x worker c proposal decision inputs builtAt record ∧ record.Retains r := by
  obtain ⟨x, hx, hpre, q, hq, hid⟩ := h.exists_step
    (P := fun s => ∃ q ∈ s.db.recoveryActions, q.id = r.id) (by
      rintro ⟨q, hq, -⟩
      exact Table.not_mem_empty q hq) ⟨r, hr, rfl⟩
  have hnew : ∀ y ∈ x.pre.db.recoveryActions, y.id ≠ r.id := fun y hy hy' => hpre ⟨y, hy, hy'⟩
  obtain ⟨before, after, rfl, hbefore, hafter⟩ := h.split hx
  have hhints := hintsOk_reachable ⟨before, hbefore⟩
  have hs := h.step_of_mem hx
  obtain ⟨worker, c, proposal, decision, inputs, builtAt, record, hbuild, rfl⟩ :=
    step_builds hhints hs hq (by rwa [hid])
  obtain ⟨r', hr', hkept⟩ := action_retained (hintsOk_step hhints hs) hafter hq
  obtain rfl : r' = r := Table.eq_of_key_eq hr' hr (hkept.id_eq.trans hid)
  have hstatus : record.executionStatus = .prepared :=
    (buildRecord_eq_ok hbuild.build).2.2.2.2.2.1
  refine ⟨before, x, after, rfl, hbefore, hafter, hnew, worker, c, proposal, decision, inputs,
    builtAt, record, hbuild, ?_⟩
  exact (RecoveryActionRecord.Retains.start (by rw [hstatus]; decide)).trans hkept

/-! ### What a claim asks for

A claim is made from a row that was just built, or from a stored one that was just
compared with the current inputs. In the first case the request is computed from the
row, in the second the fingerprint that was compared stands for it.
-/

/-- One fingerprint stands for one request. -/
theorem request_of_fingerprint (hhash : Function.Injective Platform.hashFacts)
    {action action' : RecoveryAction} {amount amount' : Nat}
    {currency currency' referenceId referenceId' : String} {expireBy expireBy' : Int}
    (h : buildPaymentLinkRequestFingerprint action amount currency referenceId expireBy =
      buildPaymentLinkRequestFingerprint action' amount' currency' referenceId' expireBy') :
    amount = amount' ∧ upperStripped currency = upperStripped currency' ∧
      referenceId = referenceId' ∧ expireBy = expireBy' := by
  have hfacts := hhash h
  simp only [Json.obj.injEq, List.cons.injEq, Prod.mk.injEq, true_and, and_true, Json.int.injEq,
    Json.str.injEq, Int.natCast_inj] at hfacts
  exact hfacts.2

/-- A complete claim, of the request that a fingerprint stands for. -/
structure ExecutionClaim.Asks (claim : ExecutionClaim) (fingerprint : Digest) (amount : Nat)
    (currency referenceId : String) (expireBy : Int) : Prop where
  amount_eq : claim.amountMinor = some amount
  currency_eq : claim.currency = some currency
  reference_eq : claim.referenceId = some referenceId
  expiry_eq : claim.expireBy = some expireBy
  fingerprint_eq : fingerprint =
    buildPaymentLinkRequestFingerprint .createRecoveryLink amount currency referenceId expireBy

/-- **A claim asks for what its row stands for**: it was built so, or has just been compared. -/
theorem Claims.asks {db db' : Db} {caseId newId : Uuid} {now : Int} {claim : ExecutionClaim}
    (h : Claims db caseId newId now db' claim) (hlink : claim.action = .createRecoveryLink) :
    ∃ record : RecoveryActionRecord, record.start now ∈ db'.recoveryActions ∧ record.id = claim.recoveryActionId ∧
      ∃ amount currency referenceId expireBy,
        claim.Asks record.requestFingerprint amount currency referenceId expireBy := by
  cases h with
  | @built c proposal decision inputs record records hid hauth hnone hbuild hinsert =>
      obtain ⟨amount, currency, windowEnd, expiresAt, hbuilt⟩ := buildRecord_link hbuild hlink
      have hmem : record ∈ records :=
        (Table.insert?_mem (insertRecord_eq_ok hinsert).1).mpr (.inr rfl)
      have hstart : (record.start now).id = record.id := rfl
      refine ⟨record, (Table.mem_put_of_mem hmem hstart).mpr (.inr rfl), rfl, amount, currency,
        referenceOf record.id, unixSeconds expiresAt, ?_⟩
      exact
        { amount_eq := hbuilt.amount_eq
          currency_eq := hbuilt.currency_eq
          reference_eq := hbuilt.reference
          expiry_eq := congrArg (Option.map unixSeconds) hbuilt.expiry_eq
          fingerprint_eq := hbuilt.fingerprint_eq }
  | @stored c proposal decision inputs record hid hauth hsome hopen hvalid hlease =>
      obtain ⟨_, -, hvalid⟩ := bind_eq_ok.mp hvalid
      obtain ⟨expected, hexpected, hvalid⟩ := bind_eq_ok.mp hvalid
      rw [require_eq_ok] at hvalid
      unfold expectedRequestFingerprint at hexpected
      rw [if_pos (show record.action = _ from hlink)] at hexpected
      split at hexpected
      · rename_i amount currency referenceId expiresAt hamount hcurrency hreference hexpires
        have hstart : (record.start now).id = record.id := rfl
        refine ⟨record, (Table.mem_put_of_mem (actionFor_eq_some hsome).1 hstart).mpr (.inr rfl),
          rfl, amount, currency, referenceId, unixSeconds expiresAt, ?_⟩
        have hfingerprint := hvalid.trans (Except.ok.inj hexpected).symm
        rw [show record.action = .createRecoveryLink from hlink] at hfingerprint
        exact
          { amount_eq := hamount
            currency_eq := hcurrency
            reference_eq := hreference
            expiry_eq := congrArg (Option.map unixSeconds) hexpires
            fingerprint_eq := hfingerprint }
      · cases hexpected

/-- The request a claim makes of its columns. -/
theorem ExecutionClaim.Asks.request {claim : ExecutionClaim} {fingerprint : Digest} {amount : Nat}
    {currency referenceId : String} {expireBy : Int} {request : PaymentLinkCreateRequest}
    (h : claim.Asks fingerprint amount currency referenceId expireBy)
    (hrequest : paymentLinkRequest claim = .ok request) :
    request = ⟨amount, upperStripped (upperStripped currency), referenceId, expireBy⟩ := by
  unfold paymentLinkRequest at hrequest
  rw [h.amount_eq, h.currency_eq, h.reference_eq, h.expiry_eq] at hrequest
  simp only at hrequest
  split at hrequest
  · cases hrequest
    rfl
  · cases hrequest

/-! ### The stored row is accepted

The validation recomputes the request of the row from the current case and decision.
They are the ones the row was built from, as far as the fingerprint of the proposal says
it, and the clock enters only through the columns that are stored.
-/

/-- A current proposal stands for the facts of its case. -/
theorem ProposalCurrent.facts {c : PaymentCase} {proposal : StrategyProposal} {now : Int}
    (h : ProposalCurrent c proposal now) :
    proposal.assessmentFingerprint = Platform.hashFacts (assessmentFacts c) := by
  have heligible := h.eligible
  unfold PaymentCase.eligibilityIsCurrent at heligible
  simp only [Bool.and_eq_true, beq_iff_eq] at heligible
  exact Option.some.inj (h.assessment.symm.trans heligible.1.1.2)

/-- The currency is among the facts, in its normal form. -/
theorem currency_of_facts {c c' : PaymentCase} (h : assessmentFacts c = assessmentFacts c') :
    c.currency.map upperStripped = c'.currency.map upperStripped := by
  simp only [assessmentFacts, Json.obj.injEq, List.cons.injEq, Prod.mk.injEq, true_and,
    and_true] at h
  exact ofText_injective h.2.2.2.2.2.2.2.2.2.2.2.1

/--
While the authority a row was built under is still current, its case has the amount and
the currency it had, and the row is accepted as it is stored.
-/
theorem BuiltLink.accepted (hhash : Function.Injective Platform.hashFacts)
    {db₀ db : Db} {c₀ c : PaymentCase} {proposal₀ proposal : StrategyProposal}
    {decision₀ decision : PolicyDecision} {inputs₀ inputs : CurrentAuthorizationInputs}
    {builtAt now : Int} {record r : RecoveryActionRecord} {amount : Nat} {currency : String}
    {windowEnd expiresAt : Int}
    (h : BuiltLink c₀ proposal₀ decision₀ inputs₀ builtAt record amount currency windowEnd expiresAt)
    (hlink : record.action = .createRecoveryLink)
    (hinputs₀ : currentInputs db₀ c₀ proposal₀ decision₀ builtAt = .ok inputs₀)
    (hkept : record.Retains r) (href : r.externalReference = some (referenceOf r.id))
    (hdecision : decision.reactivated = decision₀.reactivated)
    (hproposal : proposal.reopened = proposal₀.reopened)
    (hinputs : currentInputs db c proposal decision now = .ok inputs) :
    validateExistingRecord r c proposal decision = .ok () := by
  obtain ⟨-, hcurrent₀, -, hmatches₀, -⟩ := currentInputs_eq_ok hinputs₀
  obtain ⟨-, hcurrent, -, hmatches, -⟩ := currentInputs_eq_ok hinputs
  simp only [PolicyDecision.matchesInputs, Bool.and_eq_true, beq_iff_eq] at hmatches₀ hmatches
  -- the columns of the decision and the proposal are those the row was built with
  have hdecisionId := congrArg PolicyDecision.id hdecision
  have hauthorization := congrArg PolicyDecision.authorizationInputFingerprint hdecision
  have hobserved := congrArg PolicyDecision.observedAmountMinor hdecision
  have hproposalId := congrArg StrategyProposal.id hproposal
  have haction := congrArg StrategyProposal.action hproposal
  have hcase := congrArg StrategyProposal.caseId hproposal
  have hassessment := congrArg StrategyProposal.assessmentFingerprint hproposal
  simp only [PolicyDecision.reactivated] at hdecisionId hauthorization hobserved
  simp only [StrategyProposal.reopened] at hproposalId haction hcase hassessment
  have hid : c.id = c₀.id := by rw [← hcurrent.case_eq, hcase, hcurrent₀.case_eq]
  have hamount : c.amount = some amount := by
    rw [← hmatches.1.1.2, hobserved, hmatches₀.1.1.2, h.amount_eq]
  have hcurrency : c.currency.map upperStripped = some (upperStripped currency) := by
    rw [hcurrent.facts, hcurrent₀.facts] at hassessment
    rw [currency_of_facts (hhash hassessment), h.currency_eq]
    rfl
  obtain ⟨currency', hcurrency', hsame⟩ := Option.map_eq_some_iff.mp hcurrency
  -- so both comparisons succeed
  have hlink' : r.action = .createRecoveryLink := hkept.action_eq.trans hlink
  have hmatch : r.caseId = c.id ∧ r.strategyProposalId = proposal.id ∧
      r.action = proposal.action ∧ r.idempotencyKey = buildExecutionIdempotencyKey decision.id
        decision.authorizationInputFingerprint proposal.id proposal.action := by
    refine ⟨?_, ?_, ?_, ?_⟩
    · rw [hkept.case_eq, h.case_eq, hid]
    · rw [hkept.strategy_eq, h.strategy_eq, hproposalId]
    · rw [hkept.action_eq, h.action_eq, haction]
    · rw [hkept.key_eq, h.key_eq, hdecisionId, hauthorization, hmatches₀.1.1.1.1.1.1.2,
        hproposalId, haction]
  have hexpected : expectedRequestFingerprint r c proposal decision = .ok r.requestFingerprint := by
    unfold expectedRequestFingerprint
    rw [if_pos hlink', hamount, hcurrency', href, hkept.expiry_eq, h.expiry_eq]
    simp only
    rw [hkept.fingerprint_eq, h.fingerprint_eq, hlink', hkept.id_eq]
    unfold buildPaymentLinkRequestFingerprint
    rw [hsame]
  unfold validateExistingRecord
  simp only [require, if_pos hmatch, hexpected, bind, Except.bind, if_true]

/-- What a claim along a run asks for is what its row still stands for at the end. -/
theorem ClaimStep.asks {clock : Int} {tr : List (Run.Step System Label)} {s : System}
    (h : RunTrace clock tr s) {y : Run.Step System Label} (hy : y ∈ tr) {worker : Nat}
    {caseId newId : Uuid} {now : Int} {held : HeldClaim}
    (hclaim : ClaimStep y worker caseId newId now held) {r : RecoveryActionRecord}
    (hr : r ∈ s.db.recoveryActions) (hlink : r.action = .createRecoveryLink)
    (hid : held.claim.recoveryActionId = r.id) : ∃ amount currency referenceId expireBy,
      held.claim.Asks r.requestFingerprint amount currency referenceId expireBy := by
  obtain ⟨before, after, rfl, hbefore, hafter⟩ := h.split hy
  have hs := h.step_of_mem hy
  obtain ⟨-, hclaims, -⟩ := hclaim.claims hs
  obtain ⟨c, proposal, decision, inputs, row, hrow⟩ := hclaims.row
  have hhints := hintsOk_step (hintsOk_reachable ⟨before, hbefore⟩) hs
  -- the row of the claim is the row at the end
  have hsame : ∀ q : RecoveryActionRecord, q ∈ y.post.db.recoveryActions → q.id = r.id →
      q.Retains r := by
    intro q hq hqid
    obtain ⟨r', hr', hkept⟩ := action_retained hhints hafter hq
    obtain rfl : r' = r := Table.eq_of_key_eq hr' hr (hkept.id_eq.trans hqid)
    exact hkept
  have haction : held.claim.action = .createRecoveryLink := by
    have hkept := hsame (row.start now) ((hrow.rows _).mpr (.inr rfl))
      (by rw [← hid, hrow.claim_eq]; rfl)
    rw [hrow.claim_eq]
    exact hkept.action_eq.symm.trans hlink
  obtain ⟨record, hmem, hrecord, amount, currency, referenceId, expireBy, hasks⟩ :=
    hclaims.asks haction
  refine ⟨amount, currency, referenceId, expireBy, { hasks with fingerprint_eq := ?_ }⟩
  rw [(hsame _ hmem (hrecord.trans hid)).fingerprint_eq]
  exact hasks.fingerprint_eq

/--
**One row, one request.**  Along every run, a payment link row was built in a step of it,
at a clock before its expiry and within the recovery window and the operational limit;
all its claims ask for one link, with the reference of the row; and as long as the
current inputs are accepted under its decision, so is the stored row.
-/
theorem request_stable (hhash : Function.Injective Platform.hashFacts) {clock : Int}
    {tr : List (Run.Step System Label)} {s : System} (h : RunTrace clock tr s)
    {r : RecoveryActionRecord} (hr : r ∈ s.db.recoveryActions)
    (hlink : r.action = .createRecoveryLink) :
    ∃ x ∈ tr, ∃ worker c proposal decision inputs builtAt record,
      BuildStep x worker c proposal decision inputs builtAt record ∧ record.Retains r ∧
    ∃ amount currency windowEnd expireBy, decision.recoveryWindowEndsAt = some windowEnd ∧
      builtAt < seconds expireBy ∧ seconds expireBy ≤ windowEnd ∧
      seconds expireBy ≤ builtAt + paymentLinkOperationalExpiry ∧
    (∀ y ∈ tr, ∀ worker caseId newId now held, ClaimStep y worker caseId newId now held →
      held.claim.recoveryActionId = r.id → ∀ request, paymentLinkRequest held.claim = .ok request →
      request = ⟨amount, upperStripped (upperStripped currency), referenceOf r.id, expireBy⟩) ∧
    ∀ c' proposal' decision' inputs' now, proposal' ∈ s.db.strategyProposals →
      decision' ∈ s.db.policyDecisions → decision'.id = r.policyDecisionId →
      currentInputs s.db c' proposal' decision' now = .ok inputs' →
      r.executionStatus ∉ finalExecutionStatuses ∨ r.externalReference = some (referenceOf r.id) →
      validateExistingRecord r c' proposal' decision' = .ok () := by
  obtain ⟨before, x, after, rfl, hbefore, hafter, -, worker, c, proposal, decision, inputs, builtAt,
    record, hbuild, hkept⟩ := action_built h hr
  have hx : x ∈ before ++ x :: after := by simp
  have hhints := hintsOk_reachable ⟨before, hbefore⟩
  obtain ⟨amount, currency, windowEnd, expiresAt, hbuilt⟩ :=
    buildRecord_link hbuild.build (hkept.action_eq.symm.trans hlink)
  have hlater := hbuilt.later
  have hexpires := hbuilt.expires_eq
  unfold unixSeconds at hlater
  refine ⟨x, hx, worker, c, proposal, decision, inputs, builtAt, record, hbuild, hkept,
    amount, currency, windowEnd, unixSeconds expiresAt, hbuilt.window_eq, ?_, ?_, ?_, ?_, ?_⟩
  · unfold seconds unixSeconds
    omega
  · unfold seconds unixSeconds
    omega
  · unfold seconds unixSeconds
    omega
  · intro y hy worker' caseId newId now held hclaim hid request hrequest
    obtain ⟨amount', currency', referenceId, expireBy, hasks⟩ := hclaim.asks h hy hr hlink hid
    have hfingerprint := hasks.fingerprint_eq
    rw [hkept.fingerprint_eq, hbuilt.fingerprint_eq] at hfingerprint
    obtain ⟨hamount, hcurrency, hreference, hexpiry⟩ := request_of_fingerprint hhash hfingerprint
    rw [hasks.request hrequest, ← hamount, ← hcurrency, ← hreference, ← hexpiry, hkept.id_eq]
  · intro c' proposal' decision' inputs' now hproposal' hdecision' hid hinputs href
    have hwhole : Run.Trace step x.pre (x :: after) s := hafter.cons (h.step_of_mem hx)
    obtain ⟨d, hd, hsame⟩ :=
      decision_kept hhints hwhole (currentDecision_eq_some hbuild.authority.decision_current).1
    obtain ⟨p, hp, hsame'⟩ :=
      proposal_kept hhints hwhole (currentProposal_eq_some hbuild.authority.proposal_current).1
    have hids := congrArg PolicyDecision.id hsame
    have hstrategy := congrArg PolicyDecision.strategyProposalId hsame
    have hids' := congrArg StrategyProposal.id hsame'
    simp only [PolicyDecision.reactivated] at hids hstrategy
    simp only [StrategyProposal.reopened] at hids'
    -- the decision and the proposal are those the row was built under
    obtain rfl : decision' = d := by
      refine Table.eq_of_key_eq hdecision' hd ?_
      show decision'.id = d.id
      rw [hid, hids, hkept.decision_eq, hbuilt.decision_eq]
    obtain rfl : proposal' = p := by
      refine Table.eq_of_key_eq hproposal' hp ?_
      show proposal'.id = p.id
      rw [hids', ← currentInputs_belongs hinputs, hstrategy,
        currentInputs_belongs hbuild.authority.inputs_eq]
    have hreference : r.externalReference = some (referenceOf r.id) := by
      rcases href with hopen | href
      · rw [(hkept.not_final hopen).2, hbuilt.reference, hkept.id_eq]
      · exact href
    exact hbuilt.accepted hhash (hkept.action_eq.symm.trans hlink) hbuild.authority.inputs_eq hkept
      hreference hsame hsame' hinputs

end Arc

/-! ### A row claimed twice -/

namespace Arc

attribute [local instance] asciiPlatform

/-- The first worker stops after its claim; its lease ends, and the second one claims the row. -/
def claimedTwice : List Label := authorizedRun ++ [
  .executor 0 (.prepare 10 40 0),
  .tick 120000000,
  .executor 1 (.prepare 10 41 120000000)]

theorem request_stable_claimedTwice : ∃ tr s, RunTrace 0 tr s ∧
    tr.map Run.Step.label = claimedTwice ∧ ∃ amount currency expireBy,
      ∀ y ∈ tr, ∀ worker caseId newId now held, ClaimStep y worker caseId newId now held →
        held.claim.recoveryActionId = 40 → ∀ request, paymentLinkRequest held.claim = .ok request →
        request = ⟨amount, currency, referenceOf 40, expireBy⟩ := by
  have hrow : ((Run.replay step (System.initial 0) claimedTwice).bind fun s =>
      s.db.recoveryActions.get? 40).map RecoveryActionRecord.action = some .createRecoveryLink := by
    decide +kernel
  obtain ⟨r, hr, hlink⟩ := Option.map_eq_some_iff.mp hrow
  obtain ⟨s, hs, hr⟩ := Option.bind_eq_some_iff.mp hr
  obtain ⟨tr, htr, hlabels⟩ := Run.Trace.of_replay hs
  have hid : r.id = 40 := Store.Table.get?_key hr
  obtain ⟨-, -, -, -, -, -, -, -, -, -, -, amount, currency, -, expireBy, -, -, -, -, hrequest, -⟩ :=
    request_stable Function.injective_id htr (Store.Table.mem_of_get? hr) hlink
  rw [hid] at hrequest
  exact ⟨tr, s, htr, hlabels, amount, _, expireBy, hrequest⟩

end Arc
