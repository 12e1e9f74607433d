/-
Evidence that arrives after the recovery.

An observer reads the link outside its transaction, so a snapshot may be persisted
after a newer one that showed the recovery.  The attribution is safe from it, since
the case is closed, but the status of the action, the current outcome of the case and
the audit trail are written for every new snapshot.  `Harmless` is when none of the
three regresses.
-/
import Arc.Outcomes.Queries
import Arc.Proofs.Confluence

namespace Arc

open Store

variable [Platform]

/-! ### What a late snapshot can do

Three things can be taken back: the status of the paid link, the current outcome of the
case, and that no conflict is recorded for it. Whether a late snapshot takes one of them
back can be told from the state before the step; `Harmless` lists where it does not.
-/

/-- The conflicts recorded for a case. -/
def Db.conflictsOf (db : Db) (caseId : Uuid) : List CaseEvent :=
  db.caseEvents.filter fun e => e.caseId == caseId &&
    e.eventType == "RECOVERY_ATTRIBUTION_CONFLICT"

/-- The step takes back what the evidence of an action has shown. -/
inductive Regresses (createdAt : Uuid → Int) (x : Run.Step System Label)
    (recoveryActionId : Uuid) : Prop
  /-- The link of the action was paid, and is not any more. -/
  | status {action action' : RecoveryActionRecord}
      (hpre : x.pre.db.recoveryActions.get? recoveryActionId = some action)
      (hpost : x.post.db.recoveryActions.get? recoveryActionId = some action')
      (hpaid : action.externalStatus = some "paid")
      (hchanged : action'.externalStatus ≠ some "paid")
  /-- New evidence that shows no recovery is the current outcome of the case. -/
  | current {o : RecoveryOutcomeObservation} (hnew : o ∉ x.pre.db.outcomeObservations)
      (haction : o.recoveryActionId = recoveryActionId)
      (hcurrent : getCurrentOutcomeForCase createdAt x.post.db o.caseId = some o)
      (hstatus : o.outcomeStatus ≠ .recovered)
  /-- A conflict is recorded for the case of the action. -/
  | conflict {action : RecoveryActionRecord}
      (hpre : x.pre.db.recoveryActions.get? recoveryActionId = some action)
      (hconflict : x.post.db.conflictsOf action.caseId ≠ x.pre.db.conflictsOf action.caseId)

/-- The state before the step says that a late snapshot regresses nothing. -/
inductive Harmless (createdAt : Uuid → Int) (db : Db) (claim : ObservationClaim)
    (snapshot : PaymentLinkSnapshot) (fresh : ObservationFresh) (a : RecoveryAttribution) : Prop
  | stored (hstored : EvidenceStored db claim.expected.recoveryActionId snapshot)
  /-- It shows the recovery that is attributed. -/
  | same (hshows : ShowsRecovery claim snapshot)
      (hpayment : (classifyPaymentLinkOutcome claim.expected snapshot).providerPaymentId =
        some a.providerPaymentId)
  /-- It asks for no review, a more recent outcome is there, and the status is lost already. -/
  | outdated {action : RecoveryActionRecord} {o : RecoveryOutcomeObservation}
      (hnone : ¬ ShowsRecovery claim snapshot)
      (hreview : (classifyPaymentLinkOutcome claim.expected snapshot).outcomeStatus ≠
        .reviewRequired)
      (haction : db.recoveryActions.get? claim.expected.recoveryActionId = some action)
      (hstatus : action.externalStatus ≠ some "paid")
      (hcurrent : getCurrentOutcomeForCase createdAt db claim.caseId = some o)
      (hlater : toLex (fresh.observedAt, createdAt fresh.observationId) ≤ o.recency createdAt)

/-- The step committed an observation that is classified RECOVERED, with its attribution. -/
structure Recovers (x : Run.Step System Label) (a : RecoveryAttribution) : Prop where
  new : a ∉ x.pre.db.attributions
  added : a ∈ x.post.db.attributions
  observed : ∃ o ∈ x.post.db.outcomeObservations, o ∉ x.pre.db.outcomeObservations ∧
    o.outcomeStatus = .recovered ∧ o.Attests a

/-- The step persists a snapshot of the link whose recovery is attributed. -/
structure PersistsFor (x : Run.Step System Label) (a : RecoveryAttribution)
    (claim : ObservationClaim) (snapshot : PaymentLinkSnapshot) (fresh : ObservationFresh) :
    Prop where
  action_eq : claim.expected.recoveryActionId = a.recoveryActionId
  persisted : ∃ source result, ObserveStep x.pre x.label claim snapshot source fresh ∧
    persistObservation x.pre.db claim snapshot source fresh = .ok (x.post.db, result)

/-! ### The entries of an outcome -/

theorem closeWaitingCase_events {w w' : CaseWork} {state : CaseState} {reason : String}
    {at' : Int} (h : closeWaitingCase w state reason at' = .ok w') :
    w'.events = w.events ∨ ∃ e, e.eventType = caseStateTransition ∧ w'.events = w.events ++ [e] := by
  unfold closeWaitingCase at h
  split at h
  · obtain ⟨w₁, hmove, h⟩ := bind_eq_ok.mp h
    cases h
    rcases transitionCase_eq_ok.mp hmove with ⟨-, rfl⟩ | ⟨-, -, rfl⟩
    · exact .inl rfl
    · exact .inr ⟨_, rfl, rfl⟩
  · cases h
    exact .inl rfl

/-- A conflict is recorded exactly for an outcome that asks for a review. -/
theorem applyOutcomeTransition_conflict {c : PaymentCase} {w : CaseWork}
    {classification : OutcomeClassification} {attribution : Option RecoveryAttribution}
    {at' : Int} (h : applyOutcomeTransition (.lock c) classification attribution at' = .ok w) :
    (w.events.filter fun e => e.caseId == c.id &&
        e.eventType == "RECOVERY_ATTRIBUTION_CONFLICT") ≠ [] ↔
      classification.outcomeStatus = .reviewRequired := by
  have hclosed : ∀ {w₀ w' state reason}, closeWaitingCase w₀ state reason at' = .ok w' →
      ((w'.events.filter fun e => e.caseId == c.id &&
          e.eventType == "RECOVERY_ATTRIBUTION_CONFLICT") ≠ [] ↔
        (w₀.events.filter fun e => e.caseId == c.id &&
          e.eventType == "RECOVERY_ATTRIBUTION_CONFLICT") ≠ []) := by
    intro w₀ w' state reason hclose
    rcases closeWaitingCase_events hclose with hevents | ⟨e, hkind, hevents⟩
    · rw [hevents]
    · rw [hevents, List.filter_append]
      simp [hkind, caseStateTransition]
  unfold applyOutcomeTransition at h
  simp only at h
  split at h
  · rename_i hout
    cases h
    simp [CaseWork.audit, CaseWork.lock, outcomeAudit, hout, RecoveryOutcomeStatus.value]
  · rename_i hout
    split at h
    · cases h
    · rw [hclosed h]
      simp [CaseWork.audit, CaseWork.lock, outcomeAudit, hout, RecoveryOutcomeStatus.value]
  · rename_i hout
    rw [hclosed h]
    simp [CaseWork.audit, CaseWork.lock, outcomeAudit, hout, RecoveryOutcomeStatus.value]
  · rename_i hout
    rw [hclosed h]
    simp [CaseWork.audit, CaseWork.lock, outcomeAudit, hout, RecoveryOutcomeStatus.value]
  · rename_i hout
    rw [hclosed h]
    simp [CaseWork.audit, CaseWork.lock, outcomeAudit, hout, RecoveryOutcomeStatus.value]

/-! ### The verdict on late evidence

With the attribution in place no evidence can earn another one. A snapshot that shows
the same recovery finds its own attribution, and one that shows another payment is
turned into a review.
-/

section

variable {db : Db} {claim : ObservationClaim} {snapshot : PaymentLinkSnapshot}
  {fresh : ObservationFresh} {action : RecoveryActionRecord} {c : PaymentCase}
  {a : RecoveryAttribution}

/-- The attribution an action has is the one that is found. -/
theorem attributionForAction_eq (h : Attributed db) (ha : a ∈ db.attributions) :
    db.attributionForAction a.recoveryActionId = some a :=
  Table.first?_eq_some_of_unique ha (by simp) fun x hx hsame =>
    h.action x hx a ha (by simpa using hsame)

/-- Evidence on an action that has its attribution adds none. -/
theorem evidenceOutcome_of_attributed (h : Attributed db) (ha : a ∈ db.attributions)
    (hid : action.id = a.recoveryActionId) :
    (evidenceOutcome db claim snapshot fresh action c).classification =
      protectedClassification db action c claim.expected snapshot := by
  have hfound := attributionForAction_eq h ha
  unfold evidenceOutcome attributeRevenue
  simp only [hid, hfound]
  rw [if_neg fun hnew => by cases hnew.2]

/-- A recovery by any payment but the one attributed asks for a review. -/
theorem protectedClassification_of_attributed (h : Attributed db) (ha : a ∈ db.attributions)
    (hid : action.id = a.recoveryActionId) (hshows : ShowsRecovery claim snapshot) :
    (protectedClassification db action c claim.expected snapshot).outcomeStatus =
      if (classifyPaymentLinkOutcome claim.expected snapshot).providerPaymentId =
        some a.providerPaymentId then .recovered else .reviewRequired := by
  have hstatus : (classifyPaymentLinkOutcome claim.expected snapshot).outcomeStatus =
    .recovered := hshows
  split
  · rename_i hpayment
    have hfree : Uncontested db action c a.providerPaymentId := by
      refine ⟨fun x hx hpaid => ?_, fun x hx hmine => ?_, fun hnone => absurd hid.symm (hnone a ha)⟩
      · rw [h.payment x hx a ha hpaid, hid]
      · rw [h.action x hx a ha (hmine.trans hid)]
    rw [protectedClassification_of_free hshows hpayment hfree]
    exact hstatus
  · rename_i hpayment
    unfold protectedClassification protectExistingCaseAndAttribution
    rw [if_neg (not_not.mpr hstatus)]
    cases hnamed : (classifyPaymentLinkOutcome claim.expected snapshot).providerPaymentId with
    | none => rfl
    | some paymentId =>
        simp only [hid, attributionForAction_eq h ha]
        split
        · rfl
        · rw [if_neg]
          · rfl
          · rintro rfl
            exact hpayment hnamed

end

/-- New evidence deletes no attribution. -/
theorem evidenceOutcome_keeps {db : Db} {claim : ObservationClaim} {snapshot : PaymentLinkSnapshot}
    {fresh : ObservationFresh} {action : RecoveryActionRecord} {c : PaymentCase}
    {a : RecoveryAttribution} (h : a ∈ db.attributions) :
    a ∈ (evidenceOutcome db claim snapshot fresh action c).attributions := by
  unfold evidenceOutcome attributeRevenue
  simp only
  split
  · split
    · rename_i attributions hinsert
      exact (Table.insert?_mem (insertAttribution_eq_some hinsert).1).mpr (.inl h)
    · exact h
  · exact h

/-- What new evidence takes back, from the row and the current outcome it finds. -/
theorem Recorded.regresses_iff (createdAt : Uuid → Int) {x : Run.Step System Label}
    {claim : ObservationClaim} {snapshot : PaymentLinkSnapshot} {source : OutcomeObservationSource}
    {fresh : ObservationFresh} {action : RecoveryActionRecord} {c : PaymentCase}
    {observations : Table RecoveryOutcomeObservation} {w : CaseWork}
    (h : Recorded x.pre.db claim snapshot source fresh action c observations w)
    (hdb : x.post.db = x.pre.db.withEvidence claim snapshot fresh action c observations w) :
    Regresses createdAt x claim.expected.recoveryActionId ↔
      (action.externalStatus = some "paid" ∧ snapshot.status ≠ "paid") ∨
      ((evidenceOutcome x.pre.db claim snapshot fresh action c).classification.outcomeStatus ≠
          .recovered ∧
        ∀ o, getCurrentOutcomeForCase createdAt x.pre.db claim.caseId = some o →
          o.recency createdAt < toLex (fresh.observedAt, createdAt fresh.observationId)) ∨
      (evidenceOutcome x.pre.db claim snapshot fresh action c).classification.outcomeStatus =
        .reviewRequired := by
  have haction := h.observable.action_eq
  have hid : action.id = claim.expected.recoveryActionId := Table.get?_key haction
  have hcase : c.id = action.caseId := Table.get?_key h.observable.case_eq
  have hrow : x.post.db.recoveryActions.get? claim.expected.recoveryActionId =
      some { action with externalStatus := some snapshot.status } := by
    rw [hdb, ← hid]
    exact Table.get?_put_self (hid ▸ haction)
  have hinserted : x.pre.db.outcomeObservations.insert?
      (evidenceObservation x.pre.db claim snapshot source fresh action c) =
      some x.post.db.outcomeObservations := by
    rw [hdb]
    exact h.inserted
  have hcaseId : (evidenceObservation x.pre.db claim snapshot source fresh action c).caseId =
      claim.caseId := h.case_id
  have hcurrent := getCurrentOutcomeForCase_insert createdAt hinserted
  rw [hcaseId] at hcurrent
  have hconflict : x.post.db.conflictsOf action.caseId ≠ x.pre.db.conflictsOf action.caseId ↔
      (evidenceOutcome x.pre.db claim snapshot fresh action c).classification.outcomeStatus =
        .reviewRequired := by
    rw [← applyOutcomeTransition_conflict h.moved]
    have hevents : x.post.db.caseEvents = x.pre.db.caseEvents ++ w.events := by
      rw [hdb]
      rfl
    unfold Db.conflictsOf
    rw [hevents, List.filter_append, hcase]
    simp
  constructor
  · rintro (⟨hpre, hpost, hpaid, hchanged⟩ | ⟨hnew, hmine, hlast, hstatus⟩ | ⟨hpre, hadded⟩)
    · cases haction.symm.trans hpre
      cases hrow.symm.trans hpost
      exact .inl ⟨hpaid, fun hsame => hchanged (congrArg some hsame)⟩
    · rename_i o
      have hmem : o ∈ x.post.db.outcomeObservations :=
        (Table.mem_select.mp (List.argmax_mem hlast)).1
      obtain rfl := ((Table.insert?_mem hinserted).mp hmem).resolve_left hnew
      rw [hcaseId] at hlast
      exact .inr (.inl ⟨hstatus, hcurrent.mp hlast⟩)
    · cases haction.symm.trans hpre
      exact .inr (.inr (hconflict.mp hadded))
  · rintro (⟨hpaid, hchanged⟩ | ⟨hstatus, hlast⟩ | hreview)
    · exact .status haction hrow hpaid fun hsame => hchanged (Option.some.inj hsame)
    · refine .current (o := evidenceObservation x.pre.db claim snapshot source fresh action c)
        (fun hmem => ?_) rfl ?_ hstatus
      · exact Table.insert?_fresh hinserted hmem rfl
      · rw [hcaseId]
        exact hcurrent.mpr hlast
    · exact .conflict haction (hconflict.mpr hreview)

theorem not_regresses_of_eq {createdAt : Uuid → Int} {x : Run.Step System Label}
    {recoveryActionId : Uuid} (h : x.post.db = x.pre.db) :
    ¬ Regresses createdAt x recoveryActionId := by
  rintro (⟨hpre, hpost, hpaid, hchanged⟩ | ⟨hnew, -, hlast, -⟩ | ⟨-, hadded⟩)
  · rw [h] at hpost
    cases hpre.symm.trans hpost
    exact hchanged hpaid
  · rw [h] at hlast
    exact hnew (Table.mem_select.mp (List.argmax_mem hlast)).1
  · exact hadded (by rw [h])

/-! ### Late evidence in a run -/

/-- An attribution stays. -/
theorem attribution_kept {s s' : System} {tr : List (Run.Step System Label)} (hok : HintsOk s)
    (h : Run.Trace step s tr s') {a : RecoveryAttribution} (ha : a ∈ s.db.attributions) :
    a ∈ s'.db.attributions := by
  have hboth : HintsOk s' ∧ a ∈ s'.db.attributions := by
    refine h.invariant (I := fun s => HintsOk s ∧ a ∈ s.db.attributions) ⟨hok, ha⟩ ?_
    rintro x - ⟨hhints, hmem⟩ hs
    refine ⟨hintsOk_step hhints hs, ?_⟩
    rcases step_evidence hhints hs with ⟨-, hattributions⟩ |
      ⟨claim, snapshot, source, fresh, action, c, observations, w, -, -, hdb⟩
    · rw [hattributions]
      exact hmem
    · rw [hdb]
      exact evidenceOutcome_keeps hmem
  exact hboth.2

theorem attributed_since {clock : Int} {tr : List (Run.Step System Label)} {s : System}
    (h : RunTrace clock tr s) {before between after : List (Run.Step System Label)}
    {x y : Run.Step System Label} (htr : tr = before ++ x :: between ++ y :: after)
    {a : RecoveryAttribution} (hrecovers : Recovers x a) :
    a ∈ y.pre.db.attributions ∧ Attributed y.pre.db := by
  subst htr
  obtain ⟨m, hfirst, hrest⟩ := h.of_append
  obtain ⟨rfl, -, -⟩ := hrest.of_cons
  obtain ⟨m, hbefore, hrest⟩ := hfirst.of_append
  obtain ⟨rfl, hs, hbetween⟩ := hrest.of_cons
  have hhints : HintsOk x.post := hintsOk_step (hintsOk_reachable ⟨_, hbefore⟩) hs
  exact ⟨attribution_kept hhints hbetween hrecovers.added, (attributed_reachable ⟨_, hfirst⟩).2⟩

/--
**Evidence after the recovery.**  In every run, after the step that committed the
recovery of a link with its attribution, a snapshot that is persisted later regresses
nothing exactly when it is harmless: its evidence is stored already, or it shows the
recovery that is attributed, or a more recent outcome is there, it asks for no review
and the status of the action is lost already.
-/
theorem evidence_kept_iff (createdAt : Uuid → Int) {clock : Int}
    {tr : List (Run.Step System Label)} {s : System} (h : RunTrace clock tr s)
    {before between after : List (Run.Step System Label)} {x y : Run.Step System Label}
    (htr : tr = before ++ x :: between ++ y :: after) {a : RecoveryAttribution}
    (hrecovers : Recovers x a) {claim : ObservationClaim} {snapshot : PaymentLinkSnapshot}
    {fresh : ObservationFresh} (hpersists : PersistsFor y a claim snapshot fresh) :
    ¬ Regresses createdAt y a.recoveryActionId ↔
      Harmless createdAt y.pre.db claim snapshot fresh a := by
  obtain ⟨ha, hattributed⟩ := attributed_since h htr hrecovers
  obtain ⟨source, result, -, hpersist⟩ := hpersists.persisted
  rw [← hpersists.action_eq]
  constructor
  · intro hkept
    rcases persistObservation_cases hpersist with ⟨-, hstored⟩ |
      ⟨action, c, observations, w, hrecorded, hdb⟩
    · exact .stored hstored
    have hid : action.id = a.recoveryActionId :=
      (Table.get?_key hrecorded.observable.action_eq).trans hpersists.action_eq
    rw [hrecorded.regresses_iff createdAt hdb] at hkept
    obtain ⟨hstatus, hkept⟩ := not_or.mp hkept
    obtain ⟨hcurrent, hreview⟩ := not_or.mp hkept
    by_cases hshows : ShowsRecovery claim snapshot
    · by_cases hpayment : (classifyPaymentLinkOutcome claim.expected snapshot).providerPaymentId =
          some a.providerPaymentId
      · exact .same hshows hpayment
      · rw [evidenceOutcome_of_attributed hattributed ha hid,
          protectedClassification_of_attributed hattributed ha hid hshows, if_neg hpayment]
          at hreview
        exact absurd rfl hreview
    · rw [evidenceOutcome_of_not hshows] at hcurrent hreview
      have hunpaid : snapshot.status ≠ "paid" := fun hpaid =>
        (classify_of_paid claim.expected hpaid).elim hshows hreview
      have hlost : action.externalStatus ≠ some "paid" := fun hpaid => hstatus ⟨hpaid, hunpaid⟩
      have hlater : ¬ ∀ o, getCurrentOutcomeForCase createdAt y.pre.db claim.caseId = some o →
          o.recency createdAt < toLex (fresh.observedAt, createdAt fresh.observationId) :=
        fun hlast => hcurrent ⟨hshows, hlast⟩
      obtain ⟨o, hlater⟩ := not_forall.mp hlater
      obtain ⟨ho, hlater⟩ := Classical.not_imp.mp hlater
      exact .outdated hshows hreview hrecorded.observable.action_eq hlost ho (not_lt.mp hlater)
  · intro hharmless hregresses
    rcases persistObservation_cases hpersist with ⟨hdb, -⟩ |
      ⟨action, c, observations, w, hrecorded, hdb⟩
    · exact not_regresses_of_eq hdb hregresses
    have hid : action.id = a.recoveryActionId :=
      (Table.get?_key hrecorded.observable.action_eq).trans hpersists.action_eq
    rw [hrecorded.regresses_iff createdAt hdb] at hregresses
    cases hharmless with
    | stored hstored => exact hrecorded.new hstored
    | same hshows hpayment =>
        have hpaid : snapshot.status = "paid" := (classify_status claim.expected snapshot).2 hshows
        rw [evidenceOutcome_of_attributed hattributed ha hid,
          protectedClassification_of_attributed hattributed ha hid hshows, if_pos hpayment]
          at hregresses
        rcases hregresses with ⟨-, hunpaid⟩ | ⟨hnot, -⟩ | hreview
        · exact hunpaid hpaid
        · exact hnot rfl
        · cases hreview
    | outdated hnone hreview haction hstatus hcurrent hlater =>
        cases hrecorded.observable.action_eq.symm.trans haction
        rw [evidenceOutcome_of_not hnone] at hregresses
        rcases hregresses with ⟨hpaid, -⟩ | ⟨-, hlast⟩ | hreview'
        · exact hstatus hpaid
        · exact absurd (hlast _ hcurrent) (not_lt.mpr hlater)
        · exact hreview hreview'

end Arc

namespace Arc

open Store

attribute [local instance] asciiPlatform

/-- Two observers read the link; the first to read it reads it before it is paid. -/
def lateReads : List Label := [
  .observer 0 (.prepare 40 .test),
  .observer 1 (.prepare 40 .test),
  .observer 1 (.fetch (.response 200 (some sampleLink))),
  .observer 0 (.fetch (.response 200 (some samplePaidLink)))]

/-- They persist what they have read in the other order. -/
def lateRun : List Label := recoveredRun.take 16 ++ lateReads ++ [
  .observer 0 (.persist ⟨50, 60, 0⟩),
  .tick 1,
  .observer 1 (.persist ⟨51, 61, 1⟩)]

/-- The claim and the snapshot an observer is about to persist. -/
def observing (s : System) (worker : Nat) : Option (ObservationClaim × PaymentLinkSnapshot) :=
  match s.observers worker with
  | .fetched claim snapshot => some (claim, snapshot)
  | _ => none

theorem observing_eq_some {s : System} {worker : Nat} {claim : ObservationClaim}
    {snapshot : PaymentLinkSnapshot} (h : observing s worker = some (claim, snapshot)) :
    s.observers worker = .fetched claim snapshot := by
  unfold observing at h
  split at h
  · rename_i claim' snapshot' hphase
    cases h
    exact hphase
  · cases h

/-- Where an action and its case stand: the link's status, and the current outcome. -/
def shown (s : System) : Option String × Option RecoveryOutcomeStatus :=
  ((s.db.recoveryActions.get? 40).bind RecoveryActionRecord.externalStatus,
    (getCurrentOutcomeForCase (fun _ => 0) s.db 10).map RecoveryOutcomeObservation.outcomeStatus)

/-- What the run leaves behind, in its last four steps. -/
theorem lateRun_facts : ∃ tr s before x between y after a claim,
    RunTrace 0 tr s ∧ tr.map Run.Step.label = lateRun ∧
    tr = before ++ x :: between ++ y :: after ∧
    (∃ z ∈ before, z.label = .observer 1 (.fetch (.response 200 (some sampleLink)))) ∧
    Recovers x a ∧ PersistsFor y a claim sampleLink ⟨51, 61, 1⟩ ∧ a.recoveryActionId = 40 ∧
    shown y.pre = (some "paid", some .recovered) ∧
    shown y.post = (some "created", some .pending) := by
  have hrun : ((Run.replay step (System.initial 0) (recoveredRun.take 16 ++ lateReads)).bind
      fun s₁ => (step s₁ (.observer 0 (.persist ⟨50, 60, 0⟩))).bind fun s₂ =>
        (step s₂ (.tick 1)).bind fun s₃ =>
          (step s₃ (.observer 1 (.persist ⟨51, 61, 1⟩))).map fun s₄ =>
            (decide (s₁.db.attributions.rows = [] ∧ s₁.db.outcomeObservations.rows = []) &&
              decide (s₂.db.attributions.rows.map RecoveryAttribution.recoveryActionId = [40]) &&
              decide ((observing s₃ 1).map (fun held =>
                (held.1.expected.recoveryActionId, held.2)) = some (40, sampleLink)) &&
              decide (shown s₃ = (some "paid", some .recovered)) &&
              decide (shown s₄ = (some "created", some .pending)))) = some true := by
    decide +kernel
  obtain ⟨s₁, hs₁, hrun⟩ := Option.bind_eq_some_iff.mp hrun
  obtain ⟨s₂, hs₂, hrun⟩ := Option.bind_eq_some_iff.mp hrun
  obtain ⟨s₃, hs₃, hrun⟩ := Option.bind_eq_some_iff.mp hrun
  obtain ⟨s₄, hs₄, hrun⟩ := Option.map_eq_some_iff.mp hrun
  simp only [Bool.and_eq_true, decide_eq_true_eq] at hrun
  obtain ⟨⟨⟨⟨⟨hnone, hfirst⟩, hone⟩, hheld⟩, hbefore⟩, hafter⟩ := hrun
  obtain ⟨⟨claim, snapshot⟩, hphase, hheld⟩ := Option.map_eq_some_iff.mp hheld
  obtain ⟨haction, rfl⟩ := Prod.mk.inj hheld
  obtain ⟨a, hrows, hmine⟩ : ∃ a, s₂.db.attributions.rows = [a] ∧ a.recoveryActionId = 40 := by
    obtain ⟨a, rest, hrows, hmine, hrest⟩ := List.map_eq_cons_iff.mp hone
    rw [List.map_eq_nil_iff.mp hrest] at hrows
    exact ⟨a, hrows, hmine⟩
  obtain ⟨tr, htr, hlabels⟩ := Run.Trace.of_replay hs₁
  have htr₂ := htr.snoc hs₂
  have ha : a ∈ s₂.db.attributions := by
    rw [Table.mem_def, hrows]
    exact List.mem_singleton_self a
  obtain ⟨o, ho, hattests⟩ := (attributed_reachable ⟨_, htr₂⟩).2.attested a ha
  have hrecovers : Recovers ⟨s₁, .observer 0 (.persist ⟨50, 60, 0⟩), s₂⟩ a := by
    refine ⟨?_, ha, o, ho, ?_, hattests.recovered, hattests⟩
    · rw [Table.mem_def, hnone]
      exact List.not_mem_nil
    · rw [Table.mem_def, hfirst]
      exact List.not_mem_nil
  have hobserve : ObserveStep s₃ (.observer 1 (.persist ⟨51, 61, 1⟩)) claim sampleLink .poll
      ⟨51, 61, 1⟩ := .poll (observing_eq_some hphase)
  obtain ⟨result, hpersist⟩ := (hobserve.persisted hs₄).2.resolve_left fun hdb => by
    rw [show shown s₄ = shown s₃ by unfold shown; rw [hdb], hbefore] at hafter
    exact absurd hafter (by decide)
  refine ⟨_, s₄, tr, ⟨s₁, _, s₂⟩, [⟨s₂, .tick 1, s₃⟩], ⟨s₃, _, s₄⟩, [], a, claim,
    (htr₂.snoc hs₃).snoc hs₄, ?_, by simp, ?_, hrecovers,
    ⟨haction.trans hmine.symm, .poll, result, hobserve, hpersist⟩, hmine, hbefore, hafter⟩
  · simp [lateRun, hlabels]
  · have hread : Label.observer 1 (.fetch (.response 200 (some sampleLink))) ∈
        tr.map Run.Step.label := by
      rw [hlabels]
      simp [lateReads]
    obtain ⟨z, hz, hlabel⟩ := List.mem_map.mp hread
    exact ⟨z, hz, hlabel⟩

/-- The paid link is open again, and so is the current outcome of its recovered case. -/
theorem late_snapshot_regresses : ∃ tr s before x between y after a claim,
    RunTrace 0 tr s ∧ tr.map Run.Step.label = lateRun ∧
    tr = before ++ x :: between ++ y :: after ∧
    (∃ z ∈ before, z.label = .observer 1 (.fetch (.response 200 (some sampleLink)))) ∧
    Recovers x a ∧ PersistsFor y a claim sampleLink ⟨51, 61, 1⟩ ∧ a.recoveryActionId = 40 ∧
    shown y.pre = (some "paid", some .recovered) ∧
    shown y.post = (some "created", some .pending) :=
  lateRun_facts

theorem evidence_kept_iff_late : ∃ tr s y a claim, RunTrace 0 tr s ∧
    tr.map Run.Step.label = lateRun ∧ PersistsFor y a claim sampleLink ⟨51, 61, 1⟩ ∧
    ¬ Harmless (fun _ => 0) y.pre.db claim sampleLink ⟨51, 61, 1⟩ a := by
  obtain ⟨tr, s, before, x, between, y, after, a, claim, htr, hlabels, hsplit, -, hrecovers,
    hpersists, hmine, hbefore, hafter⟩ := lateRun_facts
  refine ⟨tr, s, y, a, claim, htr, hlabels, hpersists, fun hharmless => ?_⟩
  refine (evidence_kept_iff (fun _ => 0) htr hsplit hrecovers hpersists).mpr hharmless ?_
  obtain ⟨action, hpre, hpaid⟩ := Option.bind_eq_some_iff.mp (congrArg Prod.fst hbefore)
  obtain ⟨action', hpost, hopen⟩ := Option.bind_eq_some_iff.mp (congrArg Prod.fst hafter)
  rw [hmine]
  refine .status hpre hpost hpaid ?_
  rw [hopen]
  decide

end Arc
