/-
What a step does to the rows of the cases.

A transaction writes one case at most, or creates one; `Touches` says how the row it
leaves is related to the row it found.  For every step that is not an executor's the
relation is the same: the row is at rest, or stamped, or closed without a stamp in a
situation that `ClosesUnstamped` lists.
-/
import Arc.Proofs.Stamps

namespace Arc

open Store

variable [Platform]

/-- The step closes the case, and does not stamp it. -/
inductive ClosesUnstamped (s : System) : Label → PaymentCase → Prop
  | blocked {caseId newId : Uuid} {proposalId : Option Uuid} {c : PaymentCase}
      {decisions : Table PolicyDecision} {decision : PolicyDecision}
      (h : Evaluates s.db caseId proposalId newId s.clock c decisions decision)
      (hblocked : decision.result = .blocked) :
      ClosesUnstamped s (.service (.evaluatePolicy caseId proposalId newId)) c
  | rejected {worker : Nat} {approval : ApprovalRequest} {decision : OperatorDecision}
      {c : PaymentCase} (hphase : s.approvers worker = .deciding approval decision)
      (h : Rejects s.db approval decision c) : ClosesUnstamped s (.approver worker .decide) c
  | internal {worker : Nat} {held : HeldClaim} {now : Int} {c : PaymentCase}
      {record : RecoveryActionRecord} (hphase : s.executors worker = .claimed held)
      (hnow : now ≤ s.clock) (haction : held.claim.action ≠ .createRecoveryLink)
      (h : ClosesInternally s.db held.claim now c record) :
      ClosesUnstamped s (.executor worker (.internal now)) c

/-! ### Rows

A relation between the row that was found and the row that was left is enough for
everything that is said about stamps, counters and closed cases. `Touches` is monotone
in the relation, so a service proves the strongest one it can and the users weaken it.
-/

/-- A transaction leaves a row that is related to the one it found, or to the one it created. -/
inductive Touches (R : PaymentCase → PaymentCase → Prop) (db db' : Db) : Prop
  | unchanged (hcases : db'.cases = db.cases)
  | worked {c row : PaymentCase} (hc : c ∈ db.cases) (hid : row.id = c.id) (hrow : R c row)
      (hcases : db'.cases = db.cases.put row)
  | created {new row : PaymentCase} {cases : Table PaymentCase}
      (hinsert : db.cases.insert? new = some cases) (hid : row.id = new.id)
      (hstate : new.currentState = .detected) (hcounters : new.counters = (0, 0))
      (hstamp : new.resolvedAt = none) (hrow : R new row) (hcases : db'.cases = cases.put row)

theorem Touches.refl {R : PaymentCase → PaymentCase → Prop} (db : Db) : Touches R db db :=
  .unchanged rfl

theorem Touches.mono {R R' : PaymentCase → PaymentCase → Prop} {db db' : Db}
    (h : Touches R db db') (hR : ∀ c row, R c row → R' c row) : Touches R' db db' := by
  cases h with
  | unchanged hcases => exact .unchanged hcases
  | worked hc hid hrow hcases => exact .worked hc hid (hR _ _ hrow) hcases
  | created hinsert hid hstate hcounters hstamp hrow hcases =>
      exact .created hinsert hid hstate hcounters hstamp (hR _ _ hrow) hcases

/-- Only the cases matter. -/
theorem Touches.congr {R : PaymentCase → PaymentCase → Prop} {db db' db'' : Db}
    (h : Touches R db db') (hcases : db''.cases = db'.cases) : Touches R db db'' := by
  cases h with
  | unchanged hc => exact .unchanged (hcases.trans hc)
  | worked hc hid hrow hc' => exact .worked hc hid hrow (hcases.trans hc')
  | created hinsert hid hstate hcounters hstamp hrow hc =>
      exact .created hinsert hid hstate hcounters hstamp hrow (hcases.trans hc)

/-- Where a row of the new table comes from. -/
theorem Touches.row {R : PaymentCase → PaymentCase → Prop} {db db' : Db} (h : Touches R db db')
    {c' : PaymentCase} (hc' : c' ∈ db'.cases) :
    (∃ c ∈ db.cases, c'.id = c.id ∧ (c' = c ∨ R c c')) ∨
      ((∀ c ∈ db.cases, c.id ≠ c'.id) ∧ ∃ new : PaymentCase, new.currentState = .detected ∧
        new.resolvedAt = none ∧ R new c') := by
  cases h with
  | unchanged hcases => exact .inl ⟨c', hcases ▸ hc', rfl, .inl rfl⟩
  | @worked c row hc hid hrow hcases =>
      rw [hcases] at hc'
      rcases (Table.mem_put_of_mem hc hid).mp hc' with ⟨hc', -⟩ | rfl
      · exact .inl ⟨c', hc', rfl, .inl rfl⟩
      · exact .inl ⟨c, hc, hid, .inr hrow⟩
  | @created new row cases hinsert hid hstate hcounters hstamp hrow hcases =>
      rw [hcases] at hc'
      have hmem : new ∈ cases := (Table.insert?_mem hinsert).mpr (.inr rfl)
      rcases (Table.mem_put_of_mem hmem hid).mp hc' with ⟨hc', hne⟩ | rfl
      · rcases (Table.insert?_mem hinsert).mp hc' with hc' | rfl
        · exact .inl ⟨c', hc', rfl, .inl rfl⟩
        · exact absurd hid.symm hne
      · refine .inr ⟨fun c hc h => Table.insert?_fresh hinsert hc ?_, new, hstate, hstamp, hrow⟩
        exact h.trans hid

/-- No row is lost. -/
theorem Touches.kept {R : PaymentCase → PaymentCase → Prop} {db db' : Db} (h : Touches R db db')
    {c : PaymentCase} (hc : c ∈ db.cases) :
    ∃ c' ∈ db'.cases, c'.id = c.id ∧ (c' = c ∨ R c c') := by
  cases h with
  | unchanged hcases => exact ⟨c, hcases ▸ hc, rfl, .inl rfl⟩
  | @worked c₀ row hc₀ hid hrow hcases =>
      by_cases hkey : c.id = c₀.id
      · obtain rfl : c = c₀ := Table.eq_of_key_eq hc hc₀ hkey
        exact ⟨row, hcases ▸ (Table.mem_put_of_mem hc hid).mpr (.inr rfl), hid, .inr hrow⟩
      · refine ⟨c, hcases ▸ (Table.mem_put_of_mem hc₀ hid).mpr (.inl ⟨hc, ?_⟩), rfl, .inl rfl⟩
        exact fun h => hkey (h.trans hid)
  | @created new row cases hinsert hid hstate hcounters hstamp hrow hcases =>
      have hmem : new ∈ cases := (Table.insert?_mem hinsert).mpr (.inr rfl)
      have hold : c ∈ cases := (Table.insert?_mem hinsert).mpr (.inl hc)
      refine ⟨c, hcases ▸ (Table.mem_put_of_mem hmem hid).mpr (.inl ⟨hold, ?_⟩), rfl, .inl rfl⟩
      exact fun h => Table.insert?_fresh hinsert hc (h.trans hid)

/-! ### Transactions

One lemma for each transaction of the services but the executor's. The relation differs
with what the service may close and stamp: an assessment leaves it at rest, a policy
evaluation may close it without a stamp, and a report stamps what it closes.
-/

theorem assessCase_touches {db db' : Db} {caseId : Uuid} {at' : Int}
    {result : CaseAssessmentResult} (h : assessCase db caseId at' = .ok (db', result)) :
    Touches PaymentCase.AtRest db db' := by
  obtain ⟨c, hc, h⟩ := bind_eq_ok.mp h
  rw [requireSome_eq_ok] at hc
  simp only at h
  generalize (if (assessEligibility c at').decision = .eligible then some (classifyFailure c)
    else none) = diagnosis at h
  split at h
  · cases h
    exact .refl _
  · obtain ⟨w, hw, h⟩ := bind_eq_ok.mp h
    cases h
    exact .worked (Table.mem_of_get? hc) (persistAssessment_advances hw).id_eq
      (persistAssessment_atRest hw) rfl

theorem persistLocked_touches {db db' : Db} {snapshot : StrategySnapshot}
    {modelResult : Option StrategyModelResult} {newId : Uuid} {now at' : Int}
    {outcome : Except Error StrategyGenerationResult}
    (h : persistLocked db snapshot modelResult newId now at' = .ok (db', outcome)) :
    Touches PaymentCase.AtRest db db' := by
  obtain ⟨c, hc, h⟩ := bind_eq_ok.mp h
  have hmem := Table.mem_of_get? (lockStrategyCase_eq_ok.mp hc)
  split at h
  · cases h
    exact .worked hmem rfl (.refl _) rfl
  split at h
  · cases h
    exact .refl _
  obtain ⟨_, hstate, h⟩ := bind_eq_ok.mp h
  obtain ⟨action, haction, h⟩ := bind_eq_ok.mp h
  split at h
  · cases h
    exact .worked hmem rfl (.refl _) rfl
  · obtain ⟨⟨db₁, result⟩, haccept, h⟩ := bind_eq_ok.mp h
    cases h
    obtain ⟨proposals, hreplace, haccept⟩ := bind_eq_ok.mp haccept
    obtain ⟨w, hmove, haccept⟩ := bind_eq_ok.mp haccept
    cases haccept
    exact .worked hmem (moveDiagnosedCaseToDecisioned_advances hmove).id_eq
      (moveDiagnosedCaseToDecisioned_atRest hmove) rfl

theorem recordGenerationFailure_touches (db : Db) (snapshot : StrategySnapshot)
    (reasonCode : String) :
    Touches PaymentCase.AtRest db (recordGenerationFailure db snapshot reasonCode) := by
  rcases recordGenerationFailure_cases db snapshot reasonCode with hdb | ⟨c, w, hc, -, hrow, hdb⟩
  · rw [hdb]
    exact .refl _
  · rw [hdb]
    exact .worked (Table.mem_of_get? hc) (congrArg PaymentCase.id hrow) (hrow ▸ .refl _) rfl

theorem persistObservation_touches {db db' : Db} {claim : ObservationClaim}
    {snapshot : PaymentLinkSnapshot} {source : OutcomeObservationSource} {fresh : ObservationFresh}
    {result : RecoveryOutcomeResult}
    (h : persistObservation db claim snapshot source fresh = .ok (db', result)) :
    Touches PaymentCase.Stamps db db' := by
  obtain ⟨⟨action, c⟩, hlocks, h⟩ := bind_eq_ok.mp h
  have hc := Table.mem_of_get? (lockActionAndCase_eq_ok hlocks).2
  obtain ⟨current, -, h⟩ := bind_eq_ok.mp h
  obtain ⟨_, -, h⟩ := bind_eq_ok.mp h
  split at h
  · cases h
    exact .refl _
  · obtain ⟨observations, -, h⟩ := bind_eq_ok.mp h
    obtain ⟨w, hw, h⟩ := bind_eq_ok.mp h
    cases h
    exact .worked hc (applyOutcomeTransition_eq_ok hw).1.id_eq (applyOutcomeTransition_stamps hw)
      rfl

/-- A case that a report creates starts open, without a stamp and with nothing counted. -/
theorem Touches.of_created {R : PaymentCase → PaymentCase → Prop} {db : Db}
    {kind : CaseIdentityKind} {externalId merchantId : String} {customerId : Option String}
    {newId : Uuid} {at' : Int} {reference : CaseReference} {result : GetOrCreateCaseResult}
    {w : CaseWork} (href : deterministicCaseReference kind externalId = .ok reference)
    (hnone : db.caseByReference reference = none)
    (hcreate : getOrCreateCase db kind externalId merchantId customerId newId at' = .ok result)
    (hid : w.row.id = result.paymentCase.id) (hrow : R result.paymentCase w.row) :
    Touches R db (result.db.commitCase w) := by
  obtain ⟨cases, -, hnew, hinsert, hdb⟩ := getOrCreateCase_eq_ok href hnone hcreate
  refine .created hinsert hid ?_ ?_ ?_ hrow ?_
  · rw [hnew]
    rfl
  · rw [hnew]
    rfl
  · rw [hnew]
    rfl
  · rw [hdb]
    rfl

theorem reconcilePayment_touches {db : Db} {event : WebhookEvent} {snapshot : PaymentSnapshot}
    {fresh : Fresh} {now : Int} {result : ReconciliationResult}
    (h : reconcilePayment db event snapshot fresh now = .ok result) :
    Touches PaymentCase.Stamps db result.db := by
  obtain ⟨paymentId, -, h⟩ := bind_eq_ok.mp h
  obtain ⟨_, -, h⟩ := bind_eq_ok.mp h
  obtain ⟨found, hlock, h⟩ := bind_eq_ok.mp h
  obtain ⟨reference, href, rfl⟩ := lockCaseByIdentity_eq_ok hlock
  split at h
  · rename_i row hrow
    obtain ⟨⟨w, reason⟩, happly, h⟩ := bind_eq_ok.mp h
    cases h
    exact .worked (caseByReference_some hrow).1 (applyPaymentTruth_eq_ok happly).1.id_eq
      (applyPaymentTruth_stamps happly) rfl
  · rename_i hnone
    split at h
    · split at h <;>
      · cases h
        exact .refl _
    · obtain ⟨created, hcreate, h⟩ := bind_eq_ok.mp h
      obtain ⟨⟨w, reason⟩, happly, h⟩ := bind_eq_ok.mp h
      cases h
      refine .of_created href hnone hcreate ?_ (applyPaymentTruth_stamps happly)
      rw [(applyPaymentTruth_eq_ok happly).1.id_eq, initializeCaseAudit_row]
      rfl

theorem reconcileSubscription_touches {db : Db} {event : WebhookEvent}
    {snapshot : SubscriptionSnapshot} {fresh : Fresh} {now : Int} {result : ReconciliationResult}
    (h : reconcileSubscription db event snapshot fresh now = .ok result) :
    Touches PaymentCase.Stamps db result.db := by
  obtain ⟨subscriptionId, -, h⟩ := bind_eq_ok.mp h
  obtain ⟨_, -, h⟩ := bind_eq_ok.mp h
  obtain ⟨found, hlock, h⟩ := bind_eq_ok.mp h
  obtain ⟨reference, href, rfl⟩ := lockCaseByIdentity_eq_ok hlock
  split at h
  · rename_i row hrow
    obtain ⟨⟨w, reason⟩, happly, h⟩ := bind_eq_ok.mp h
    cases h
    exact .worked (caseByReference_some hrow).1 (applySubscriptionTruth_eq_ok happly).1.id_eq
      (applySubscriptionTruth_stamps happly) rfl
  · rename_i hnone
    split at h
    · split at h
      · cases h
        exact .refl _
      · split at h <;>
        · cases h
          exact .refl _
    · obtain ⟨created, hcreate, h⟩ := bind_eq_ok.mp h
      obtain ⟨⟨w, reason⟩, happly, h⟩ := bind_eq_ok.mp h
      cases h
      refine .of_created href hnone hcreate ?_ (applySubscriptionTruth_stamps happly)
      rw [(applySubscriptionTruth_eq_ok happly).1.id_eq, initializeCaseAudit_row]
      rfl

theorem reconcileEntity_touches {db : Db} {event : WebhookEvent} {snapshot : EntitySnapshot}
    {fresh : Fresh} {now : Int} {result : ReconciliationResult}
    (h : reconcileEntity db event snapshot fresh now = .ok result) :
    Touches PaymentCase.Stamps db result.db := by
  cases snapshot with
  | inl payment => exact reconcilePayment_touches h
  | inr subscription => exact reconcileSubscription_touches h

/-! ### Steps -/

theorem strategistStep_touches {s : System} {phase : StrategistPhase} {l : StrategistLabel}
    {m : Move StrategistPhase} (h : strategistStep s phase l = some m) :
    Touches PaymentCase.AtRest s.db m.db := by
  cases phase with
  | idle =>
      cases l with
      | prepare caseId model =>
          simp only [strategistStep] at h
          split at h <;>
          · cases h
            exact .refl _
      | crash => cases h; exact .refl _
      | _ => cases h
  | asking snapshot =>
      cases l <;> cases h <;> exact .refl _
  | answered snapshot modelResult =>
      cases l with
      | persist newId =>
          simp only [strategistStep] at h
          split at h
          · rename_i db outcome hpersist
            cases h
            exact persistLocked_touches hpersist
          · cases h
            exact .refl _
          · cases h
            exact .refl _
      | crash => cases h; exact .refl _
      | _ => cases h
  | failing snapshot reasonCode =>
      cases l with
      | recordFailure => cases h; exact recordGenerationFailure_touches _ _ _
      | crash => cases h; exact .refl _
      | _ => cases h
  | refused snapshot =>
      cases l <;> cases h <;> exact .refl _

/-- The row is at rest or stamped, or it is closed without a stamp where that happens. -/
def Rewrites (s : System) (l : Label) (c row : PaymentCase) : Prop :=
  c.Stamps row ∨ ClosesUnstamped s l c ∧ c.Unstamped row

/-- The step applies a report of a payment or a subscription, or an observation of a link. -/
inductive Label.Reports : Label → Prop
  | applied {worker : Nat} {fresh : Fresh} : Label.Reports (.processor worker (.apply fresh))
  | polled {worker : Nat} {fresh : ObservationFresh} :
      Label.Reports (.observer worker (.persist fresh))
  | delivered {worker : Nat} {fresh : ObservationFresh} :
      Label.Reports (.processor worker (.persistObservation fresh))

/-- The row is at rest, or a report stamps it, or it is given up where that happens. -/
def Works (s : System) (l : Label) (c row : PaymentCase) : Prop :=
  c.AtRest row ∨ (l.Reports ∧ c.Stamps row) ∨ (ClosesUnstamped s l c ∧ c.GivenUp row)

theorem Works.rewrites {s : System} {l : Label} {c row : PaymentCase} (h : Works s l c row) :
    Rewrites s l c row := by
  rcases h with hrest | ⟨-, hstamps⟩ | ⟨hcloses, hgiven⟩
  · exact .inl (.rests hrest)
  · exact .inl hstamps
  · exact .inr ⟨hcloses, hgiven.toUnstamped⟩

theorem Rewrites.counters_eq {s : System} {l : Label} {c row : PaymentCase}
    (h : Rewrites s l c row) : row.counters = c.counters :=
  h.elim PaymentCase.Stamps.counters_eq fun h => h.2.counters_eq

theorem Touches.stamped {s : System} {l : Label} {db' : Db}
    (h : Touches PaymentCase.Stamps s.db db') (hl : l.Reports) : Touches (Works s l) s.db db' :=
  h.mono fun _ _ hstamps => .inr (.inl ⟨hl, hstamps⟩)

theorem Touches.rested {s : System} {l : Label} {db' : Db}
    (h : Touches PaymentCase.AtRest s.db db') : Touches (Works s l) s.db db' :=
  h.mono fun _ _ hrest => .inl hrest

theorem evaluatePolicy_touches {s : System} {caseId newId : Uuid} {proposalId : Option Uuid}
    {db' : Db} {result : PolicyEvaluationResult}
    (h : evaluatePolicy s.db caseId proposalId newId s.clock = .ok (db', result)) :
    Touches (Works s (.service (.evaluatePolicy caseId proposalId newId))) s.db db' := by
  obtain hdb | ⟨c, decisions, decision, w, hevaluates, hw, hcases⟩ := evaluatePolicy_cases h
  · rw [hdb]
    exact .refl _
  · refine .worked (Table.mem_of_get? hevaluates.stored) (transitionCase_advances hw).id_eq ?_ hcases
    by_cases hblocked : decision.result = .blocked
    · have hopen : c.currentState ∉ terminalCaseStates := by
        rcases hevaluates.state with h | h <;>
        · rw [h]
          decide
      exact .inr (.inr ⟨.blocked hevaluates hblocked, transitionCase_givenUp hw
        (policyTarget_terminal.mpr hblocked) (policyTarget_unrecovered decision) hopen⟩)
    · have htarget := fun h => hblocked (policyTarget_terminal.mp h)
      exact .inl (transitionCase_atRest hw htarget)

theorem decideApproval_touches {s : System} {worker : Nat} {approval : ApprovalRequest}
    {decision : OperatorDecision} {db' : Db} {result : ApprovalRequestResult}
    (hphase : s.approvers worker = .deciding approval decision)
    (h : decideApproval s.db approval decision s.clock = .ok (db', result)) :
    Touches (Works s (.approver worker .decide)) s.db db' := by
  obtain hdb | ⟨c, row, hc, hid, hrow, hcases⟩ := decideApproval_cases h
  · rw [hdb]
    exact .refl _
  · refine .worked (Table.mem_of_get? hc) hid ?_ hcases
    rcases hrow with hrest | ⟨hrejects, hclosed⟩
    · exact .inl hrest
    · exact .inr (.inr ⟨.rejected hphase hrejects, hclosed⟩)

/-- What a step other than an executor's does to the cases. -/
theorem step_works {s s' : System} {l : Label} (hhints : HintsOk s) (h : step s l = some s')
    (hother : ∀ worker el, l ≠ .executor worker el) : Touches (Works s l) s.db s'.db := by
  have hcommit := step_commit hhints h
  generalize hdb : s'.db = db' at hcommit ⊢
  cases hcommit with
  | executed hm => exact absurd rfl (hother _ _)
  | reconciled hphase howns hstatus hresult =>
      exact ((reconcileEntity_touches hresult).stamped .applied).congr rfl
  | worked hlabel hc hw =>
      rcases hlabel with ⟨caseId, rfl⟩ | ⟨worker, sl, rfl⟩
      · cases h
        rw [← hdb]
        show Touches _ s.db (serviceStep s.db s.clock (.assess caseId))
        unfold serviceStep
        simp only
        split
        · rename_i hassess
          exact (assessCase_touches hassess).rested
        · exact .refl _
      · obtain ⟨m, hm, rfl⟩ := Option.map_eq_some_iff.mp h
        rw [← hdb]
        exact (strategistStep_touches hm).rested
  | proposed hphase hc hcurrent hstate hreplace hw =>
      obtain ⟨m, hm, rfl⟩ := Option.map_eq_some_iff.mp h
      rw [← hdb]
      exact (strategistStep_touches hm).rested
  | @evaluated caseId newId proposalId =>
      cases h
      rw [← hdb]
      show Touches _ s.db (serviceStep s.db s.clock (.evaluatePolicy caseId proposalId newId))
      unfold serviceStep
      simp only
      split
      · rename_i hevaluate
        exact evaluatePolicy_touches hevaluate
      · exact .refl _
  | requested hphase =>
      obtain ⟨m, hm, rfl⟩ := Option.map_eq_some_iff.mp h
      rw [← hdb]
      rw [hphase] at hm
      simp only [approverStep] at hm
      split at hm
      · rename_i hrequest
        cases hm
        obtain hdb | ⟨c, approvals, w, hc, -, -, -, -, hrow, hdb⟩ :=
          ensureApprovalRequest_eq_ok hrequest
        · rw [hdb]
          exact .refl _
        · rw [hdb]
          exact .worked (Table.mem_of_get? hc) (congrArg PaymentCase.id hrow)
            (.inl (hrow ▸ .refl _)) rfl
      · cases hm
        exact .refl _
  | answered hphase =>
      obtain ⟨m, hm, rfl⟩ := Option.map_eq_some_iff.mp h
      rw [← hdb]
      rw [hphase] at hm
      simp only [approverStep] at hm
      split at hm
      · rename_i hdecide
        cases hm
        exact decideApproval_touches hphase hdecide
      · cases hm
        exact .refl _
  | observed hworker =>
      have hpersisted : s'.db = s.db ∨ ∃ source claim snapshot fresh result,
          persistObservation s.db claim snapshot source fresh = .ok (s'.db, result) := by
        rcases hworker with ⟨worker, hphase, rfl⟩ | ⟨worker, event, hphase, rfl⟩
        · exact ((ObserveStep.poll hphase).persisted h).2.imp_right fun h => ⟨_, _, _, _, h⟩
        · exact ((ObserveStep.webhook hphase).persisted h).2.imp_right fun h => ⟨_, _, _, _, h⟩
      have hl : l.Reports := by
        rcases hworker with ⟨worker, -, rfl⟩ | ⟨worker, event, -, rfl⟩
        · exact .polled
        · exact .delivered
      rw [← hdb]
      rcases hpersisted with hsame | ⟨source, claim, snapshot, fresh, result, hpersist⟩
      · rw [hsame]
        exact .refl _
      · exact (persistObservation_touches hpersist).stamped hl
  | _ => exact .unchanged rfl

theorem step_touches {s s' : System} {l : Label} (hhints : HintsOk s) (h : step s l = some s')
    (hother : ∀ worker el, l ≠ .executor worker el) : Touches (Rewrites s l) s.db s'.db :=
  (step_works hhints h hother).mono fun _ _ => Works.rewrites

/-! ### Executors

The executor's transactions are told apart by the phase the worker is in. Only the
finalization of a confirmed link moves a case to the wait for its outcome; an internal
action may close it, and a link that is withheld leaves it as it is.
-/

/-- What any step does to a row: a delivery moves the case and leaves the stamp. -/
def Handles (s : System) (l : Label) (c row : PaymentCase) : Prop :=
  Works s l c row ∨ (row.resolvedAt = c.resolvedAt ∧
    (row.currentState ∈ terminalCaseStates ↔ c.currentState ∈ terminalCaseStates))

/-- A step that leaves the row of a locked case as it is. -/
theorem Touches.same {s : System} {l : Label} {c : PaymentCase} {db' : Db} (hc : c ∈ s.db.cases)
    (hcases : db'.cases = s.db.cases.put c) : Touches (Handles s l) s.db db' :=
  .worked hc rfl (.inl (.inl (.refl c))) hcases

theorem LinkOutcome.touches {s : System} {l : Label} {c : PaymentCase}
    {record record' : RecoveryActionRecord} {snapshot : PaymentLinkSnapshot} {now : Int}
    {required : Bool} {w : CaseWork} {db' : Db}
    (h : LinkOutcome s.db c record snapshot now required record' w) (hc : c ∈ s.db.cases)
    (hcases : db'.cases = s.db.cases.put w.row) : Touches (Handles s l) s.db db' := by
  cases h with
  | succeeded hcontext hrow hw =>
      have hid : (c.attempted record.action).id = c.id := rfl
      have hclosed : (c.attempted record.action).currentState ∈ terminalCaseStates ↔
          c.currentState ∈ terminalCaseStates := by
        rw [postRequestContextIsCurrent_true hcontext]
        exact iff_of_false (by simp [PaymentCase.attempted, terminalCaseStates]) (by decide)
      rw [hrow] at hcases
      exact .worked hc hid (.inr ⟨rfl, hclosed⟩) hcases
  | stale hcontext => exact .same hc hcases

theorem executorStep_touches {s : System} {worker : Nat} {l : ExecutorLabel} {m : ExecutorMove}
    (h : executorStep s (s.executors worker) l = some m) :
    Touches (Handles s (.executor worker l)) s.db m.db := by
  have hcases := executorStep_cases h
  generalize hphase : s.executors worker = phase at h hcases
  cases hcases with
  | claimed hnow hclaims =>
      cases hclaims with
      | built hid hauth hnone hbuild hinsert => exact .same (Table.mem_of_get? hauth.stored) rfl
      | stored hid hauth hsome hopen hvalid hlease =>
          exact .same (Table.mem_of_get? hauth.stored) rfl
  | @internal held now c record record' w hnow haction hlocked hopen houtcome =>
      simp only [executorStep, if_pos (And.intro hnow haction)] at h
      split at h
      · rename_i db result hexecute
        rw [← Option.some.inj h]
        obtain hdb | ⟨c, record, row, hlocked, hid, hrow, hcases⟩ := executeInternal_cases hexecute
        · rw [hdb]
          exact .refl _
        · refine .worked (Table.mem_of_get? hlocked.case_eq) hid (.inl ?_) hcases
          rcases hrow with hrest | ⟨hcloses, hclosed⟩
          · exact .inl hrest
          · exact .inr (.inr ⟨.internal hphase hnow haction hcloses, hclosed⟩)
      · rw [← Option.some.inj h]
        exact .refl _
  | problem hnow hlocked hopen => exact .same (Table.mem_of_get? hlocked.case_eq) rfl
  | finalized hnow hlocked houtcome hfree =>
      exact houtcome.touches (Table.mem_of_get? hlocked.case_eq) rfl
  | compensated hlocked hfree => exact .same (Table.mem_of_get? hlocked.case_eq) rfl
  | _ => exact .refl _

/-- What any step does to the cases. -/
theorem step_handles {s s' : System} {l : Label} (hhints : HintsOk s) (h : step s l = some s') :
    Touches (Handles s l) s.db s'.db := by
  cases l with
  | executor worker el =>
      obtain ⟨m, hm, rfl⟩ := Option.map_eq_some_iff.mp h
      exact executorStep_touches hm
  | _ => exact (step_works hhints h (by simp)).mono fun _ _ hrow => .inl hrow

end Arc
