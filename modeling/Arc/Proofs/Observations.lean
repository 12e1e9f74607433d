/-
What an observation commits.

Evidence that is stored already changes nothing.  New evidence adds one observation,
may add one attribution, and closes the case when it waits for its outcome.
-/
import Arc.Outcomes.Service
import Arc.Proofs.CaseEffect

namespace Arc

open Store

variable [Platform]

/-- The rows an observation has locked, and the evidence they expect. -/
structure Observable (db : Db) (action : RecoveryActionRecord) (c : PaymentCase)
    (expected : ExpectedPaymentLinkEvidence) : Prop where
  action_eq : db.recoveryActions.get? expected.recoveryActionId = some action
  case_eq : db.cases.get? action.caseId = some c
  link : action.action = .createRecoveryLink
  succeeded : action.executionStatus = .succeeded
  link_id : action.externalReferenceId = some expected.paymentLinkId
  reference : action.externalReference = some expected.referenceId
  amount : c.amount = some expected.amountMinor
  positive : 0 < expected.amountMinor
  currency : expected.currency = upperStripped (c.currency.getD "")
  state : c.currentState ∈ observableStates

theorem lockActionAndCase_eq_ok {db : Db} {id : Uuid} {action : RecoveryActionRecord}
    {c : PaymentCase} (h : lockActionAndCase db id = .ok (action, c)) :
    db.recoveryActions.get? id = some action ∧ db.cases.get? action.caseId = some c := by
  obtain ⟨action', haction, h⟩ := bind_eq_ok.mp h
  obtain ⟨c', hc, h⟩ := bind_eq_ok.mp h
  cases h
  exact ⟨requireSome_eq_ok.mp haction, requireSome_eq_ok.mp hc⟩

theorem validateObservable_eq_ok {db : Db} {action : RecoveryActionRecord} {c : PaymentCase}
    {expected : ExpectedPaymentLinkEvidence} {id : Uuid}
    (haction : db.recoveryActions.get? id = some action)
    (hc : db.cases.get? action.caseId = some c)
    (h : validateObservable action c = .ok expected) :
    id = expected.recoveryActionId ∧ Observable db action c expected := by
  obtain ⟨_, hkind, h⟩ := bind_eq_ok.mp h
  rw [require_eq_ok] at hkind
  obtain ⟨linkId, hlink, h⟩ := bind_eq_ok.mp h
  rw [requireSome_eq_ok] at hlink
  obtain ⟨reference, href, h⟩ := bind_eq_ok.mp h
  rw [requireSome_eq_ok] at href
  obtain ⟨amount, hamount, h⟩ := bind_eq_ok.mp h
  rw [requireSome_eq_ok, Option.filter_eq_some_iff] at hamount
  obtain ⟨_, -, h⟩ := bind_eq_ok.mp h
  obtain ⟨_, hstate, h⟩ := bind_eq_ok.mp h
  rw [require_eq_ok] at hstate
  cases h
  have hid : action.id = id := Table.get?_key haction
  refine ⟨hid.symm, ?_⟩
  exact
    { action_eq := by rw [hid]; exact haction
      case_eq := hc
      link := hkind.1
      succeeded := hkind.2.1
      link_id := hlink
      reference := href
      amount := hamount.1
      positive := by simpa using hamount.2
      currency := rfl
      state := hstate }

theorem prepareObservation_eq_ok {db : Db} {recoveryActionId : Uuid} {providerMode : ProviderMode}
    {claim : ObservationClaim}
    (h : prepareObservation db recoveryActionId providerMode = .ok claim) :
    ∃ action c, lockActionAndCase db claim.expected.recoveryActionId = .ok (action, c) ∧
      validateObservable action c = .ok claim.expected ∧ c.id = claim.caseId ∧
      Observable db action c claim.expected := by
  obtain ⟨⟨action, c⟩, hlocks, h⟩ := bind_eq_ok.mp h
  obtain ⟨expected, hvalid, h⟩ := bind_eq_ok.mp h
  cases h
  obtain ⟨haction, hc⟩ := lockActionAndCase_eq_ok hlocks
  obtain ⟨rfl, hobservable⟩ := validateObservable_eq_ok haction hc hvalid
  exact ⟨action, c, hlocks, hvalid, rfl, hobservable⟩

/-! ### The case

What an outcome does to the case depends on the verdict and on the state it finds.
`outcomeState` computes the state that is left. Every outcome can be applied to a case
that is observed, a recovered one once its attribution is there.
-/

omit [Platform] in
theorem outcomeStatus_entry_plain (status : RecoveryOutcomeStatus) :
    "RECOVERY_OUTCOME_" ++ status.value ≠ caseStateTransition ∧
      "RECOVERY_OUTCOME_" ++ status.value ∉ reservedEventTypes := by
  cases status <;> decide

theorem outcomeAudit_advances {w : CaseWork} (kind reason : String)
    (hkind : kind ≠ caseStateTransition) (hkind' : kind ∉ reservedEventTypes) :
    Advances w (w.audit (outcomeAudit w.row kind reason)) :=
  .audit rfl hkind hkind'

/-- The states an outcome can leave a case in. -/
def OutcomeMoves (c c' : PaymentCase) : Prop :=
  c' = c ∨ (c.currentState = .waitingForOutcome ∧ c'.currentState ∈ terminalCaseStates)

theorem closeWaitingCase_eq_ok {w w' : CaseWork} {state : CaseState} {reason : String} {at' : Int}
    (hstate : state ∈ terminalCaseStates) (h : closeWaitingCase w state reason at' = .ok w') :
    Advances w w' ∧ OutcomeMoves w.row w'.row := by
  unfold closeWaitingCase at h
  split at h
  · rename_i hwaiting
    obtain ⟨w₁, hmove, h⟩ := bind_eq_ok.mp h
    cases h
    refine ⟨(transitionCase_advances hmove).trans (.write _ rfl rfl rfl rfl), .inr ⟨hwaiting, ?_⟩⟩
    show w₁.row.currentState ∈ terminalCaseStates
    rw [transitionCase_row hmove]
    exact hstate
  · cases h
    exact ⟨.refl _, .inl rfl⟩

theorem applyOutcomeTransition_eq_ok {c : PaymentCase} {w : CaseWork}
    {classification : OutcomeClassification} {attribution : Option RecoveryAttribution}
    {at' : Int}
    (h : applyOutcomeTransition (.lock c) classification attribution at' = .ok w) :
    Advances (.lock c) w ∧ OutcomeMoves c w.row ∧
      (classification.outcomeStatus = .recovered → attribution ≠ none) := by
  have hstatus := outcomeStatus_entry_plain classification.outcomeStatus
  have hobserved : Advances (.lock c) ((CaseWork.lock c).audit
      (outcomeAudit c "RECOVERY_OUTCOME_OBSERVED" classification.reasonCode)) :=
    .audit rfl (by simp [outcomeAudit, caseStateTransition])
      (by simp [outcomeAudit, reservedEventTypes])
  have hentered := hobserved.trans
    (outcomeAudit_advances _ classification.reasonCode hstatus.1 hstatus.2)
  unfold applyOutcomeTransition at h
  simp only at h
  split at h
  · rename_i hout
    cases h
    exact ⟨hentered, .inl rfl, by simp [hout]⟩
  · rename_i hout
    split at h
    · cases h
    · rename_i hsome
      obtain ⟨hclosed, hmoves⟩ := closeWaitingCase_eq_ok (by decide) h
      have hattributed := hentered.trans
        (outcomeAudit_advances "RECOVERY_ATTRIBUTED" attributionReasonCode (by decide) (by decide))
      exact ⟨hattributed.trans hclosed, hmoves, fun _ => hsome⟩
  · rename_i hout
    obtain ⟨hclosed, hmoves⟩ := closeWaitingCase_eq_ok (by decide) h
    exact ⟨hentered.trans hclosed, hmoves, by simp [hout]⟩
  · rename_i hout
    obtain ⟨hclosed, hmoves⟩ := closeWaitingCase_eq_ok (by decide) h
    exact ⟨hentered.trans hclosed, hmoves, by simp [hout]⟩
  · rename_i hout
    obtain ⟨hclosed, hmoves⟩ := closeWaitingCase_eq_ok (by decide) h
    have hconflict := hentered.trans
      (outcomeAudit_advances "RECOVERY_ATTRIBUTION_CONFLICT" classification.reasonCode (by decide)
        (by decide))
    exact ⟨hconflict.trans hclosed, hmoves, by simp [hout]⟩

/-- The state an outcome leaves a case in. -/
def outcomeState (status : RecoveryOutcomeStatus) (state : CaseState) : CaseState :=
  if state = .waitingForOutcome then
    match status with
    | .pending => .waitingForOutcome
    | .recovered => .recovered
    | .expired | .cancelled => .exhausted
    | .reviewRequired => .escalated
  else state

theorem closeWaitingCase_ok (w : CaseWork) {state : CaseState}
    (hallowed : state ∈ allowedTransitions .waitingForOutcome) (reason : String) (at' : Int) :
    ∃ w', closeWaitingCase w state reason at' = .ok w' ∧
      w'.row.currentState =
        (if w.row.currentState = .waitingForOutcome then state else w.row.currentState) := by
  unfold closeWaitingCase
  split
  · rename_i hwaiting
    have hmove : transitionCase w state reason outcomeAuditSource =
        .ok { row := { w.row with currentState := state },
              events := w.events ++
                [transitionEvent w.row.id w.row.currentState state reason outcomeAuditSource] } := by
      refine transitionCase_eq_ok.mpr (.inr ⟨?_, hwaiting ▸ hallowed, rfl⟩)
      rintro hsame
      rw [← hsame, hwaiting] at hallowed
      exact absurd hallowed (by decide)
    rw [hmove]
    exact ⟨_, rfl, rfl⟩
  · exact ⟨w, rfl, rfl⟩

/-- An outcome can always be applied; a recovered one once it has its attribution. -/
theorem applyOutcomeTransition_ok (c : PaymentCase) {classification : OutcomeClassification}
    {attribution : Option RecoveryAttribution}
    (h : classification.outcomeStatus = .recovered → attribution ≠ none) (at' : Int) :
    ∃ w, applyOutcomeTransition (.lock c) classification attribution at' = .ok w ∧
      w.row.currentState = outcomeState classification.outcomeStatus c.currentState := by
  unfold applyOutcomeTransition outcomeState
  cases hstatus : classification.outcomeStatus with
  | pending =>
      refine ⟨_, rfl, ?_⟩
      show c.currentState = _
      split <;> simp [*]
  | recovered =>
      simp only [if_neg (h hstatus)]
      exact closeWaitingCase_ok _ (by decide) _ _
  | expired => exact closeWaitingCase_ok _ (by decide) _ _
  | cancelled => exact closeWaitingCase_ok _ (by decide) _ _
  | reviewRequired => exact closeWaitingCase_ok _ (by decide) _ _

/-! ### Evidence

New evidence is stored with a verdict that may differ from the classifier's. The
attribution that is there already may protect the case from it, and the insert of a
second attribution may be refused; either way the verdict becomes a review.
-/

theorem insertAttribution_eq_some {attributions attributions' : Table RecoveryAttribution}
    {a : RecoveryAttribution} (h : insertAttribution attributions a = some attributions') :
    attributions.insert? a = some attributions' ∧ ∀ x ∈ attributions,
      x.recoveryActionId ≠ a.recoveryActionId ∧ x.outcomeObservationId ≠ a.outcomeObservationId ∧
      x.providerPaymentId ≠ a.providerPaymentId := by
  unfold insertAttribution at h
  split at h
  · cases h
  · rename_i hfree
    refine ⟨h, fun x hx => ?_⟩
    have hx' := Table.any_eq_false.mp (by simpa using hfree) x hx
    simpa [and_assoc] using hx'

theorem insertObservation_eq_ok {observations observations' : Table RecoveryOutcomeObservation}
    {o : RecoveryOutcomeObservation} (h : insertObservation observations o = .ok observations') :
    observations.insert? o = some observations' := by
  unfold insertObservation at h
  split at h
  · cases h
  · exact requireSome_eq_ok.mp h

/-- The verdict on new evidence, before it is known whether an attribution can be inserted. -/
def protectedClassification (db : Db) (action : RecoveryActionRecord) (c : PaymentCase)
    (expected : ExpectedPaymentLinkEvidence) (snapshot : PaymentLinkSnapshot) :
    OutcomeClassification :=
  protectExistingCaseAndAttribution db c action (classifyPaymentLinkOutcome expected snapshot)
    (db.attributionForAction action.id)

/-- A protected verdict that is RECOVERED is the classification's own. -/
theorem protect_recovered {db : Db} {c : PaymentCase} {action : RecoveryActionRecord}
    {classification : OutcomeClassification} {existing : Option RecoveryAttribution}
    (h : (protectExistingCaseAndAttribution db c action classification existing).outcomeStatus
      = .recovered) :
    protectExistingCaseAndAttribution db c action classification existing = classification ∧
      (existing = none → c.currentState ≠ .recovered) := by
  unfold protectExistingCaseAndAttribution at h ⊢
  by_cases hrecovered : classification.outcomeStatus ≠ .recovered
  · rw [if_pos hrecovered] at h
    exact absurd h hrecovered
  · rw [if_neg hrecovered] at h ⊢
    cases hpayment : classification.providerPaymentId with
    | none => simp [hpayment, asReview] at h
    | some paymentId =>
        simp only [hpayment] at h ⊢
        split at h
        · simp [asReview] at h
        rename_i hcounted
        rw [if_neg hcounted]
        cases existing with
        | some attribution =>
            simp only at h ⊢
            split at h
            · rename_i hsame
              simp [hsame]
            · simp [asReview] at h
        | none =>
            simp only at h ⊢
            split at h
            · simp [asReview] at h
            · rename_i hopen
              simp [hopen]

/-- New evidence, as it is stored with what it earns. -/
inductive Evidence (db : Db) (claim : ObservationClaim) (snapshot : PaymentLinkSnapshot)
    (source : OutcomeObservationSource) (fresh : ObservationFresh) (action : RecoveryActionRecord)
    (c : PaymentCase) : Table RecoveryAttribution → RecoveryOutcomeObservation → Prop
  /-- No attribution is added. -/
  | kept {classification : OutcomeClassification} :
      Evidence db claim snapshot source fresh action c db.attributions
        (newObservation claim c claim.expected snapshot classification source
          (buildOutcomeEvidenceFingerprint claim.expected.recoveryActionId snapshot) fresh)
  /-- The link was paid in full by one payment, and the action has no attribution yet. -/
  | attributed {payment : CapturedPaymentProjection} {attributions : Table RecoveryAttribution}
      {classification : OutcomeClassification}
      (hpayments : snapshot.payments = [payment]) (hcaptured : payment.status = "captured")
      (hamount : payment.amount = claim.expected.amountMinor)
      (hpaid : snapshot.amountPaid = claim.expected.amountMinor)
      (hstatus : classification.outcomeStatus = .recovered)
      (hpayment : classification.providerPaymentId = some payment.paymentId)
      (hopen : c.currentState ≠ .recovered)
      (hinsert : insertAttribution db.attributions
        (newAttribution claim c claim.expected snapshot classification
          (buildOutcomeEvidenceFingerprint claim.expected.recoveryActionId snapshot) fresh)
        = some attributions) :
      Evidence db claim snapshot source fresh action c attributions
        (newObservation claim c claim.expected snapshot classification source
          (buildOutcomeEvidenceFingerprint claim.expected.recoveryActionId snapshot) fresh)

/-- New evidence, with the attribution it earns and the verdict it ends with. -/
def evidenceOutcome (db : Db) (claim : ObservationClaim) (snapshot : PaymentLinkSnapshot)
    (fresh : ObservationFresh) (action : RecoveryActionRecord) (c : PaymentCase) :
    AttributionOutcome :=
  let classification := protectedClassification db action c claim.expected snapshot
  attributeRevenue db classification (db.attributionForAction action.id)
    (newAttribution claim c claim.expected snapshot classification
      (buildOutcomeEvidenceFingerprint claim.expected.recoveryActionId snapshot) fresh)

/-- The observation new evidence is stored as. -/
def evidenceObservation (db : Db) (claim : ObservationClaim) (snapshot : PaymentLinkSnapshot)
    (source : OutcomeObservationSource) (fresh : ObservationFresh) (action : RecoveryActionRecord)
    (c : PaymentCase) : RecoveryOutcomeObservation :=
  newObservation claim c claim.expected snapshot
    (evidenceOutcome db claim snapshot fresh action c).classification source
    (buildOutcomeEvidenceFingerprint claim.expected.recoveryActionId snapshot) fresh

/-- The evidence of a snapshot is stored for an action. -/
def EvidenceStored (db : Db) (recoveryActionId : Uuid) (snapshot : PaymentLinkSnapshot) : Prop :=
  ∃ o ∈ db.outcomeObservations, o.recoveryActionId = recoveryActionId ∧
    o.evidenceFingerprint = buildOutcomeEvidenceFingerprint recoveryActionId snapshot

/-- New evidence on a link is stored, and its case is moved. -/
structure Recorded (db : Db) (claim : ObservationClaim) (snapshot : PaymentLinkSnapshot)
    (source : OutcomeObservationSource) (fresh : ObservationFresh) (action : RecoveryActionRecord)
    (c : PaymentCase) (observations : Table RecoveryOutcomeObservation) (w : CaseWork) :
    Prop where
  observable : Observable db action c claim.expected
  case_id : c.id = claim.caseId
  new : ¬ EvidenceStored db claim.expected.recoveryActionId snapshot
  inserted : db.outcomeObservations.insert?
    (evidenceObservation db claim snapshot source fresh action c) = some observations
  moved : applyOutcomeTransition (.lock c)
    (evidenceOutcome db claim snapshot fresh action c).classification
    (evidenceOutcome db claim snapshot fresh action c).attribution fresh.observedAt = .ok w

/-- The database after new evidence. -/
def Db.withEvidence (db : Db) (claim : ObservationClaim) (snapshot : PaymentLinkSnapshot)
    (fresh : ObservationFresh) (action : RecoveryActionRecord) (c : PaymentCase)
    (observations : Table RecoveryOutcomeObservation) (w : CaseWork) : Db :=
  ({ db with
    outcomeObservations := observations
    attributions := (evidenceOutcome db claim snapshot fresh action c).attributions
    recoveryActions :=
      db.recoveryActions.put { action with externalStatus := some snapshot.status }
    }).commitCase w

/-- **What an observation commits**: nothing when its evidence is stored, else the new evidence. -/
theorem persistObservation_cases {db db' : Db} {claim : ObservationClaim}
    {snapshot : PaymentLinkSnapshot} {source : OutcomeObservationSource}
    {fresh : ObservationFresh} {result : RecoveryOutcomeResult}
    (h : persistObservation db claim snapshot source fresh = .ok (db', result)) :
    (db' = db ∧ EvidenceStored db claim.expected.recoveryActionId snapshot) ∨
    ∃ action c observations w, Recorded db claim snapshot source fresh action c observations w ∧
      db' = db.withEvidence claim snapshot fresh action c observations w := by
  obtain ⟨⟨action, c⟩, hlocks, h⟩ := bind_eq_ok.mp h
  obtain ⟨haction, hc⟩ := lockActionAndCase_eq_ok hlocks
  obtain ⟨current, hvalid, h⟩ := bind_eq_ok.mp h
  obtain ⟨_, hsame, h⟩ := bind_eq_ok.mp h
  rw [require_eq_ok] at hsame
  obtain ⟨hcurrent, hcase⟩ := hsame
  subst hcurrent
  have hobservable := (validateObservable_eq_ok haction hc hvalid).2
  have hid : action.id = claim.expected.recoveryActionId := Table.get?_key haction
  split at h
  · rename_i o hstored
    cases h
    obtain ⟨ho, hmatches⟩ := Table.first?_mem hstored
    simp only [Bool.and_eq_true, beq_iff_eq] at hmatches
    exact .inl ⟨rfl, o, ho, hmatches.1.trans hid, hmatches.2⟩
  · rename_i hnone
    obtain ⟨observations, hinsert, h⟩ := bind_eq_ok.mp h
    obtain ⟨w, hw, h⟩ := bind_eq_ok.mp h
    cases h
    refine .inr ⟨action, c, observations, w,
      ⟨hobservable, hcase, ?_, insertObservation_eq_ok hinsert, hw⟩, rfl⟩
    rintro ⟨o, ho, haction', hfingerprint⟩
    have hother := Table.first?_eq_none.mp hnone o ho
    simp [haction', hid, hfingerprint] at hother

/-- What new evidence adds to the attributions. -/
theorem evidence_of_outcome (db : Db) (claim : ObservationClaim) (snapshot : PaymentLinkSnapshot)
    (source : OutcomeObservationSource) (fresh : ObservationFresh) (action : RecoveryActionRecord)
    (c : PaymentCase) :
    Evidence db claim snapshot source fresh action c
      (evidenceOutcome db claim snapshot fresh action c).attributions
      (evidenceObservation db claim snapshot source fresh action c) := by
  unfold evidenceObservation evidenceOutcome attributeRevenue
  simp only
  split
  · rename_i hnew
    obtain ⟨hstatus, hexisting⟩ := hnew
    obtain ⟨hprotected, hopen⟩ := protect_recovered hstatus
    unfold protectedClassification at hstatus ⊢
    rw [hprotected] at hstatus ⊢
    obtain ⟨payment, hpayments, hcaptured, hamount, hpaid, hpayment⟩ := classify_recovered hstatus
    split
    · rename_i attributions hinserted
      exact .attributed hpayments hcaptured hamount hpaid hstatus hpayment (hopen hexisting)
        hinserted
    · exact .kept
  · exact .kept

/-- A recovered verdict comes with its attribution. -/
theorem attributeRevenue_recovered (db : Db) (classification : OutcomeClassification)
    (existing : Option RecoveryAttribution) (new : RecoveryAttribution)
    (h : (attributeRevenue db classification existing new).classification.outcomeStatus
      = .recovered) : (attributeRevenue db classification existing new).attribution ≠ none := by
  unfold attributeRevenue at h ⊢
  by_cases hnew : classification.outcomeStatus = .recovered ∧ existing = none
  · rw [if_pos hnew] at h ⊢
    cases hinsert : insertAttribution db.attributions new with
    | some attributions => simp
    | none =>
        rw [hinsert] at h
        cases h
  · rw [if_neg hnew] at h ⊢
    exact fun hnone => hnew ⟨h, hnone⟩

/-- An observation that still expects what it was prepared for is persisted. -/
theorem persistObservation_ok {db : Db} (claim : ObservationClaim) {action : RecoveryActionRecord}
    {c : PaymentCase}
    (hlocks : lockActionAndCase db claim.expected.recoveryActionId = .ok (action, c))
    (hvalid : validateObservable action c = .ok claim.expected) (hcase : c.id = claim.caseId)
    (snapshot : PaymentLinkSnapshot) (source : OutcomeObservationSource) {fresh : ObservationFresh}
    (hfresh : ∀ o ∈ db.outcomeObservations, o.id ≠ fresh.observationId) :
    ∃ db' result, persistObservation db claim snapshot source fresh = .ok (db', result) := by
  have hid : action.id = claim.expected.recoveryActionId :=
    Table.get?_key (lockActionAndCase_eq_ok hlocks).1
  cases hstored : db.outcomeObservations.first? fun o => o.recoveryActionId == action.id &&
      o.evidenceFingerprint ==
        buildOutcomeEvidenceFingerprint claim.expected.recoveryActionId snapshot with
  | some existing =>
      unfold persistObservation
      simp only [hlocks, hvalid, hcase, hstored, require, and_self, if_true, bind, Except.bind]
      exact ⟨_, _, rfl⟩
  | none =>
      have hattributed := attributeRevenue_recovered db
        (protectedClassification db action c claim.expected snapshot)
        (db.attributionForAction action.id) (newAttribution claim c claim.expected snapshot
          (protectedClassification db action c claim.expected snapshot)
          (buildOutcomeEvidenceFingerprint claim.expected.recoveryActionId snapshot) fresh)
      obtain ⟨w, hw, -⟩ := applyOutcomeTransition_ok c hattributed fresh.observedAt
      obtain ⟨observations, hinserted⟩ := Table.exists_insert?
        (r := evidenceObservation db claim snapshot source fresh action c)
        (Table.get?_eq_none.mpr hfresh)
      have hinsert : insertObservation db.outcomeObservations
          (evidenceObservation db claim snapshot source fresh action c) = .ok observations := by
        unfold insertObservation
        rw [if_neg, hinserted]
        · rfl
        · rw [Bool.not_eq_true, Table.any_eq_false]
          intro o ho
          have hother := Table.first?_eq_none.mp hstored o ho
          rw [hid] at hother
          exact hother
      unfold persistObservation
      simp only [hlocks, hvalid, hcase, hstored, require, and_self, if_true, bind, Except.bind]
      exact ⟨_, _, bind_eq_ok.mpr ⟨observations, hinsert, bind_eq_ok.mpr ⟨w, hw, rfl⟩⟩⟩

theorem persistObservation_eq_ok {db db' : Db} {claim : ObservationClaim}
    {snapshot : PaymentLinkSnapshot} {source : OutcomeObservationSource}
    {fresh : ObservationFresh} {result : RecoveryOutcomeResult}
    (h : persistObservation db claim snapshot source fresh = .ok (db', result)) :
    db' = db ∨ ∃ action c attributions observation observations w,
      Observable db action c claim.expected ∧ c.id = claim.caseId ∧
      Evidence db claim snapshot source fresh action c attributions observation ∧
      db.outcomeObservations.insert? observation = some observations ∧
      Advances (.lock c) w ∧ OutcomeMoves c w.row ∧
      db' = ({ db with
        outcomeObservations := observations
        attributions := attributions
        recoveryActions :=
          db.recoveryActions.put { action with externalStatus := some snapshot.status }
        }).commitCase w := by
  rcases persistObservation_cases h with ⟨hdb, -⟩ | ⟨action, c, observations, w, hrecorded, hdb⟩
  · exact .inl hdb
  · obtain ⟨hadvances, hmoves, -⟩ := applyOutcomeTransition_eq_ok hrecorded.moved
    exact .inr ⟨action, c, _, _, observations, w, hrecorded.observable, hrecorded.case_id,
      evidence_of_outcome .., hrecorded.inserted, hadvances, hmoves, hdb⟩

end Arc
