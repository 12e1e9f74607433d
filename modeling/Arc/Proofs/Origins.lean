/-
Where the lists disagree on the origin of a case.

The approval queue looks up the markers of a case and no mode, so it shows no origin for
a case whose outcome was read from the provider.  The action list shows the mode of each
action's own outcome, and the two look the markers up in another order than the case
list.
-/
import Arc.Proofs.Approvals
import Arc.ReadModels.Lists

namespace Arc

open Store

variable [Platform]

section

variable (createdAt : RowsCreatedAt) (db : Db) (caseId : Uuid)

/-- Every list shows the case with the origin the case list and the case detail show. -/
structure OriginsAgree : Prop where
  queue : ∀ status limit offset, ∀ row ∈ approvalQueueRows db status limit offset,
    row.paymentCase.id = caseId →
    (approvalQueueItem db row).dataOrigin = caseOrigin createdAt db caseId
  actions : ∀ limit offset, ∀ row ∈ recoveryActionRows createdAt db limit offset,
    row.paymentCase.id = caseId →
    (recoveryActionItem createdAt db row).dataOrigin = caseOrigin createdAt db caseId

/-- An approval request of the case can be joined with its decision and proposal. -/
def Queued : Prop :=
  ∃ a ∈ db.approvalRequests, a.caseId = caseId ∧ (joinApproval db a).isSome

/-- No outcome of the case was observed, and nothing is attributed to it. -/
def Unobserved : Prop :=
  (∀ o ∈ db.outcomeObservations, o.caseId ≠ caseId) ∧ ∀ a ∈ db.attributions, a.caseId ≠ caseId

/-- The mode of the attribution of the case, or else of its latest outcome. -/
def caseMode : Option ProviderMode :=
  match latestAttribution createdAt.toCreatedAt db caseId with
  | some a => some a.providerMode
  | none => (caseOutcome createdAt db caseId).map RecoveryOutcomeObservation.providerMode

/-- The mode of the latest outcome of an action. -/
def actionMode (actionId : Uuid) : Option ProviderMode :=
  (actionOutcome createdAt db actionId).map RecoveryOutcomeObservation.providerMode

/--
One marker settles the origin.  Two are read in different orders, so then the case may
not be listed; without one, a queued case may not have been observed, and each action
must have been observed in the mode of the case, or not at all where the case was not.
-/
def OneOrigin : Prop :=
  match isSynthetic db caseId, isSyntheticInput db caseId with
  | true, true => ¬ Queued db caseId ∧ ∀ r ∈ db.recoveryActions, r.caseId ≠ caseId
  | false, false => (Queued db caseId → Unobserved db caseId) ∧
      ∀ r ∈ db.recoveryActions, r.caseId = caseId →
        actionMode createdAt db r.id = caseMode createdAt db caseId
  | _, _ => True

end

section

variable {createdAt : RowsCreatedAt} {db : Db} {caseId : Uuid}

theorem latestOutcome_eq_none {rows : List RecoveryOutcomeObservation} :
    latestOutcome createdAt rows = none ↔ rows = [] :=
  List.argmax_eq_none

theorem caseMode_eq_none : caseMode createdAt db caseId = none ↔ Unobserved db caseId := by
  unfold caseMode Unobserved
  rw [← latestAttribution_eq_none createdAt.toCreatedAt]
  cases latestAttribution createdAt.toCreatedAt db caseId with
  | some a => simp
  | none =>
      simp only [and_true, Option.map_eq_none_iff, caseOutcome, latestOutcome_eq_none,
        List.eq_nil_iff_forall_not_mem]
      simp [Table.mem_select]

theorem caseOrigin_eq : caseOrigin createdAt db caseId =
    if isSyntheticInput db caseId then some .syntheticInput
    else if isSynthetic db caseId then some .syntheticDemo
    else originFromMode (caseMode createdAt db caseId) :=
  rfl

theorem joinApproval_some {a : ApprovalRequest} {row : ApprovalQueueRow}
    (h : joinApproval db a = some row) : row.paymentCase.id = a.caseId := by
  unfold joinApproval at h
  obtain ⟨c, hc, h⟩ := Option.bind_eq_some_iff.mp h
  obtain ⟨d, -, h⟩ := Option.bind_eq_some_iff.mp h
  obtain ⟨p, -, h⟩ := Option.bind_eq_some_iff.mp h
  cases h
  exact Table.get?_key hc

/-- The queue shows a case when it is queued, always with the same origin. -/
theorem queue_agrees_iff :
    (∀ status limit offset, ∀ row ∈ approvalQueueRows db status limit offset,
      row.paymentCase.id = caseId →
      (approvalQueueItem db row).dataOrigin = caseOrigin createdAt db caseId) ↔
    (Queued db caseId → originForCaseId db caseId none = caseOrigin createdAt db caseId) := by
  constructor
  · rintro h ⟨a, ha, hcase, hjoin⟩
    obtain ⟨row, hrow⟩ := Option.isSome_iff_exists.mp hjoin
    have hid : row.paymentCase.id = caseId := (joinApproval_some hrow).trans hcase
    obtain ⟨status, limit, offset, hmem⟩ := mem_approvalQueueRows.mpr ⟨a, ha, hrow⟩
    have hshown := h status limit offset row hmem hid
    rwa [approvalQueueItem, hid] at hshown
  · intro h status limit offset row hmem hid
    obtain ⟨a, ha, hrow⟩ := mem_approvalQueueRows.mp ⟨status, limit, offset, hmem⟩
    have hqueued : Queued db caseId :=
      ⟨a, ha, (joinApproval_some hrow).symm.trans hid, Option.isSome_iff_exists.mpr ⟨row, hrow⟩⟩
    rw [approvalQueueItem, hid]
    exact h hqueued

/-- The action list shows each action of the case, in the mode of its own outcome. -/
theorem actions_agree_iff {c : PaymentCase} (hc : c ∈ db.cases) :
    (∀ limit offset, ∀ row ∈ recoveryActionRows createdAt db limit offset,
      row.paymentCase.id = c.id →
      (recoveryActionItem createdAt db row).dataOrigin = caseOrigin createdAt db c.id) ↔
    ∀ r ∈ db.recoveryActions, r.caseId = c.id →
      originForCaseId db c.id (actionMode createdAt db r.id) = caseOrigin createdAt db c.id := by
  constructor
  · intro h r hr hcase
    have hget : db.cases.get? r.caseId = some c := by
      rw [hcase]
      exact Table.get?_of_mem hc
    obtain ⟨limit, offset, hmem⟩ : ∃ limit offset,
        (⟨r, c⟩ : RecoveryActionRow) ∈ recoveryActionRows createdAt db limit offset :=
      mem_recoveryActionRows.mpr ⟨hr, hget⟩
    exact h limit offset ⟨r, c⟩ hmem rfl
  · intro h limit offset row hmem hid
    obtain ⟨hr, hget⟩ := mem_recoveryActionRows.mp ⟨limit, offset, hmem⟩
    have hshown := h row.action hr ((Table.get?_key hget).symm.trans hid)
    rw [recoveryActionItem, hid]
    exact hshown

/--
**Where the origins agree.**  In every database, the lists show a case with the origin
the case list shows exactly when the evidence it carries is of one origin.
-/
theorem origins_agree_iff {c : PaymentCase} (hc : c ∈ db.cases) :
    OriginsAgree createdAt db c.id ↔ OneOrigin createdAt db c.id := by
  have hsplit : OriginsAgree createdAt db c.id ↔
      (Queued db c.id → originForCaseId db c.id none = caseOrigin createdAt db c.id) ∧
        ∀ r ∈ db.recoveryActions, r.caseId = c.id →
          originForCaseId db c.id (actionMode createdAt db r.id) = caseOrigin createdAt db c.id := by
    rw [← queue_agrees_iff, ← actions_agree_iff hc]
    exact ⟨fun h => ⟨h.queue, h.actions⟩, fun h => ⟨h.1, h.2⟩⟩
  rw [hsplit, caseOrigin_eq]
  unfold OneOrigin originForCaseId
  cases hdemo : isSynthetic db c.id with
  | true =>
      cases hinput : isSyntheticInput db c.id with
      -- the demo marker is read first in one place and last in the other
      | true => simp
      | false => simp
  | false =>
      cases hinput : isSyntheticInput db c.id with
      | true => simp
      | false =>
          rw [← (caseMode_eq_none : caseMode createdAt db c.id = none ↔ _)]
          simp only [Bool.false_eq_true, if_false, originFromMode_injective.eq_iff]
          exact and_congr (imp_congr_right fun _ => eq_comm) Iff.rfl

end

end Arc

namespace Arc

open Store

attribute [local instance] asciiPlatform

/-- An approved link is sent, and its payment is observed in test mode. -/
def approvedRecovery : List Label := approvedRun ++ recoveredRun.drop 11

/-- The rows the lists order were created at one instant. -/
def oneInstant : RowsCreatedAt := ⟨⟨fun _ => 0, fun _ => 0⟩, fun _ => 0⟩

/-- The case list shows test mode, and the approval queue shows no origin. -/
theorem queue_hides_origin : ∃ createdAt tr s c, RunTrace 0 tr s ∧
    tr.map Run.Step.label = approvedRecovery ∧ c ∈ s.db.cases ∧
    ¬ OriginsAgree createdAt s.db c.id := by
  have hrun : ((Run.replay step (System.initial 0) approvedRecovery).bind fun s =>
      (s.db.cases.get? 10).bind fun c => (approvalQueueRows s.db .approved 50 0)[0]?.map fun row =>
        (row.paymentCase.id == c.id, (approvalQueueItem s.db row).dataOrigin,
          caseOrigin oneInstant s.db c.id)) =
      some (true, none, some .testMode) := by decide +kernel
  obtain ⟨s, hs, hc⟩ := Option.bind_eq_some_iff.mp hrun
  obtain ⟨c, hc, hrow⟩ := Option.bind_eq_some_iff.mp hc
  obtain ⟨row, hrow, hshown⟩ := Option.map_eq_some_iff.mp hrow
  obtain ⟨tr, htr, hlabels⟩ := Run.Trace.of_replay hs
  simp only [Prod.mk.injEq, beq_iff_eq] at hshown
  obtain ⟨hid, hqueue, hcase⟩ := hshown
  refine ⟨oneInstant, tr, s, c, htr, hlabels, Table.mem_of_get? hc, fun hagree => ?_⟩
  have horigin := hagree.queue .approved 50 0 row (List.mem_of_getElem? hrow) hid
  rw [hqueue, hcase] at horigin
  cases horigin

theorem origins_agree_iff_recovered : ∃ tr s c, RunTrace 0 tr s ∧
    tr.map Run.Step.label = recoveredRun ∧ c ∈ s.db.cases ∧ OriginsAgree oneInstant s.db c.id := by
  have hrun : ((Run.replay step (System.initial 0) recoveredRun).bind fun s =>
      (s.db.cases.get? 10).map fun c =>
        (isSynthetic s.db c.id, isSyntheticInput s.db c.id, s.db.approvalRequests.rows.isEmpty,
          s.db.recoveryActions.rows.all fun r =>
            actionMode oneInstant s.db r.id == caseMode oneInstant s.db c.id)) =
      some (false, false, true, true) := by decide +kernel
  obtain ⟨s, hs, hc⟩ := Option.bind_eq_some_iff.mp hrun
  obtain ⟨c, hc, hrow⟩ := Option.map_eq_some_iff.mp hc
  obtain ⟨tr, htr, hlabels⟩ := Run.Trace.of_replay hs
  simp only [Prod.mk.injEq, List.isEmpty_iff, List.all_eq_true, beq_iff_eq] at hrow
  obtain ⟨hdemo, hinput, hempty, hmode⟩ := hrow
  have hone : OneOrigin oneInstant s.db c.id := by
    unfold OneOrigin
    rw [hdemo, hinput]
    refine ⟨?_, fun r hr _ => hmode r hr⟩
    rintro ⟨a, ha, -⟩
    rw [Table.mem_def, hempty] at ha
    cases ha
  exact ⟨tr, s, c, htr, hlabels, Table.mem_of_get? hc,
    (origins_agree_iff (Table.mem_of_get? hc)).mpr hone⟩

end Arc
