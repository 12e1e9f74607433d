/-
What one transaction can do to the cases and their audit trail.

There are three possibilities: nothing, work on one case that is locked, or a new case
with the entry of its detection and the work on it.  In each the new entries and the
row are tied together by `Extends`, so the state a row ends in is the state its
entries lead to.

This file shows it for reconciliation, the only service that creates cases and the
only one that writes what the provider reported.
-/
import Arc.Reconciliation.Service

namespace Arc

open Store

variable [Platform]

/-! ### Identity -/

/-- The external identifier a case is about: of its payment, or of its subscription. -/
def PaymentCase.externalId (c : PaymentCase) : Option String :=
  match c.caseReference.identityKind with
  | .payment => c.paymentId
  | .subscription => c.subscriptionId

/-- The reference of a case is the one its identity determines. -/
def PaymentCase.Identified (c : PaymentCase) : Prop :=
  ∃ externalId, c.externalId = some externalId ∧
    deterministicCaseReference c.caseReference.identityKind externalId = .ok c.caseReference

/-- Work without a new report keeps a case identified. -/
theorem Advances.identified {w w' : CaseWork} (h : Advances w w') (hw : w.row.Identified) :
    w'.row.Identified := by
  have hpay : w'.row.paymentId = w.row.paymentId := congrArg CaseTruth.paymentId h.truth_eq
  have hsub : w'.row.subscriptionId = w.row.subscriptionId :=
    congrArg CaseTruth.subscriptionId h.truth_eq
  obtain ⟨externalId, hext, href⟩ := hw
  refine ⟨externalId, ?_, ?_⟩
  · unfold PaymentCase.externalId at hext ⊢
    rwa [h.reference_eq, hpay, hsub]
  · rwa [h.reference_eq]

/-! ### The effect on the cases

One transaction works on one case at most. The effect keeps the new entries of the trail
and the new row together, and the lemmas of the services below only say which of the
three constructors applies.
-/

inductive CaseEffect (db db' : Db) : Prop
  | unchanged (hcases : db'.cases = db.cases) (hevents : db'.caseEvents = db.caseEvents)
  | worked {c : PaymentCase} {w : CaseWork} (hc : c ∈ db.cases) (hw : Extends (.lock c) w)
      (hident : c.Identified → w.row.Identified)
      (hcases : db'.cases = db.cases.put w.row)
      (hevents : db'.caseEvents = db.caseEvents ++ w.events)
  | created {row : PaymentCase} {cases : Table PaymentCase} {w : CaseWork}
      (hinsert : db.cases.insert? row = some cases)
      (hfree : ∀ c ∈ db.cases, c.caseReference ≠ row.caseReference)
      (hstate : row.currentState = .detected)
      (hw : Extends (initializeCaseAudit (.lock row) true) w) (hident : w.row.Identified)
      (hcases : db'.cases = cases.put w.row)
      (hevents : db'.caseEvents = db.caseEvents ++ w.events)

theorem CaseEffect.refl (db : Db) : CaseEffect db db := .unchanged rfl rfl

/-- Only the cases and the trail matter for the effect. -/
theorem CaseEffect.congr {db db' db'' : Db} (h : CaseEffect db db')
    (hcases : db''.cases = db'.cases) (hevents : db''.caseEvents = db'.caseEvents) :
    CaseEffect db db'' := by
  cases h with
  | unchanged hc he => exact .unchanged (hcases.trans hc) (hevents.trans he)
  | worked hc hw hid hc' he => exact .worked hc hw hid (hcases.trans hc') (hevents.trans he)
  | created hins hfree hst hw hid hc' he =>
      exact .created hins hfree hst hw hid (hcases.trans hc') (hevents.trans he)

/-- Committing what was done to a locked case. -/
theorem CaseEffect.of_advances {db db' : Db} {c : PaymentCase} {w : CaseWork} (hc : c ∈ db.cases)
    (hw : Advances (.lock c) w) (hcases : db'.cases = db.cases.put w.row)
    (hevents : db'.caseEvents = db.caseEvents ++ w.events) : CaseEffect db db' :=
  .worked hc hw.toExtends hw.identified hcases hevents

/-! ### Lifecycle changes of a report -/

theorem resolveIfAllowed_advances {w w' : CaseWork} {state : CaseState} {reason reason' : String}
    {at' : Int} (h : resolveIfAllowed w state reason at' = .ok (w', reason')) :
    Advances w w' ∧ reason' = reason := by
  obtain ⟨w₁, hmove, h⟩ := bind_eq_ok.mp h
  cases h
  refine ⟨(transitionIfAllowed_advances hmove).trans (.write _ ?_ ?_ ?_ ?_), rfl⟩ <;>
    · unfold PaymentCase.resolveIn
      split <;> rfl

omit [Platform] in
theorem paymentReasonCode_plain (eventType status : String) :
    paymentReasonCode eventType status ≠ caseStateTransition ∧
      paymentReasonCode eventType status ∉ reservedEventTypes := by
  unfold paymentReasonCode
  repeat' split
  all_goals decide

theorem paymentLifecycle_advances {w w' : CaseWork} {eventType status reason : String} {at' : Int}
    (h : paymentLifecycle w eventType status at' = .ok (w', reason)) :
    Advances w w' ∧ reason ≠ caseStateTransition ∧ reason ∉ reservedEventTypes := by
  unfold paymentLifecycle at h
  split at h
  · obtain ⟨hw, rfl⟩ := resolveIfAllowed_advances h
    exact ⟨hw, by decide, by decide⟩
  · split at h
    · obtain ⟨hw, rfl⟩ := resolveIfAllowed_advances h
      exact ⟨hw, by decide, by decide⟩
    · cases h
      exact ⟨.refl _, paymentReasonCode_plain _ _⟩

theorem subscriptionLifecycle_advances {w w' : CaseWork} {status reason : String} {at' : Int}
    (h : subscriptionLifecycle w status at' = .ok (w', reason)) :
    Advances w w' ∧ reason ≠ caseStateTransition ∧ reason ∉ reservedEventTypes := by
  unfold subscriptionLifecycle at h
  split at h
  · cases h
    exact ⟨.refl _, by decide, by decide⟩
  split at h
  · cases h
    exact ⟨.refl _, by decide, by decide⟩
  split at h
  · obtain ⟨hw, rfl⟩ := resolveIfAllowed_advances h
    exact ⟨hw, by decide, by decide⟩
  split at h
  · obtain ⟨hw, rfl⟩ := resolveIfAllowed_advances h
    exact ⟨hw, by decide, by decide⟩
  split at h
  · cases h
    exact ⟨.refl _, by decide, by decide⟩
  · cases h
    exact ⟨.refl _, by decide, by decide⟩

/-! ### A report applied to a locked case -/

/-- The truth of a case after a payment report is the report's, read at its instant. -/
theorem applyPaymentTruth_eq_ok {w w' : CaseWork} {event : WebhookEvent}
    {snapshot : PaymentSnapshot} {created : Bool} {at' : Int} {reason : String}
    (h : applyPaymentTruth w event snapshot created at' = .ok (w', reason)) :
    Extends (initializeCaseAudit w created) w' ∧
      w'.row.truth = (w.row.withPaymentTruth event snapshot at').truth := by
  obtain ⟨w₁, hmove, h⟩ := bind_eq_ok.mp h
  obtain ⟨⟨w₂, reason⟩, hlife, h⟩ := bind_eq_ok.mp h
  cases h
  have hmoved := moveDetectedCaseToReconciling_advances hmove
  obtain ⟨hlifecycle, hkind, hkind'⟩ := paymentLifecycle_advances hlife
  have hwritten : Extends w₁ { w₁ with row := w₁.row.withPaymentTruth event snapshot at' } :=
    .write rfl rfl rfl
  have haudit : Advances w₂ (appendReconciliationAudit w₂ w₁.row.currentState reason) :=
    appendReconciliationAudit_advances hkind hkind'
  refine ⟨((hmoved.toExtends.trans hwritten).trans hlifecycle.toExtends).trans haudit.toExtends, ?_⟩
  have htruth : w₁.row.truth = w.row.truth := by
    rw [hmoved.truth_eq, initializeCaseAudit_row]
  rw [haudit.truth_eq, hlifecycle.truth_eq]
  simp only [PaymentCase.truth, CaseTruth.mk.injEq] at htruth
  simp [PaymentCase.truth, PaymentCase.withPaymentTruth, htruth]

theorem startSubscriptionReconciliation_advances {w w' : CaseWork} {status : String}
    (h : startSubscriptionReconciliation w status = .ok w') : Advances w w' := by
  unfold startSubscriptionReconciliation at h
  split at h
  · exact moveDetectedCaseToReconciling_advances h
  · cases h
    exact .refl _

/-- The truth of a case after a subscription report is the report's, read at its instant. -/
theorem applySubscriptionTruth_eq_ok {w w' : CaseWork} {snapshot : SubscriptionSnapshot}
    {created : Bool} {at' : Int} {reason : String}
    (h : applySubscriptionTruth w snapshot created at' = .ok (w', reason)) :
    Extends (initializeCaseAudit w created) w' ∧
      w'.row.truth = (w.row.withSubscriptionTruth snapshot at').truth := by
  obtain ⟨w₁, hmove, h⟩ := bind_eq_ok.mp h
  obtain ⟨⟨w₂, reason⟩, hlife, h⟩ := bind_eq_ok.mp h
  cases h
  have hmoved := startSubscriptionReconciliation_advances hmove
  obtain ⟨hlifecycle, hkind, hkind'⟩ := subscriptionLifecycle_advances hlife
  have hwritten : Extends w₁ { w₁ with row := w₁.row.withSubscriptionTruth snapshot at' } :=
    .write rfl rfl rfl
  have haudit : Advances w₂ (appendReconciliationAudit w₂ w₁.row.currentState reason) :=
    appendReconciliationAudit_advances hkind hkind'
  refine ⟨((hmoved.toExtends.trans hwritten).trans hlifecycle.toExtends).trans haudit.toExtends, ?_⟩
  have htruth : w₁.row.truth = w.row.truth := by
    rw [hmoved.truth_eq, initializeCaseAudit_row]
  rw [haudit.truth_eq, hlifecycle.truth_eq]
  simp only [PaymentCase.truth, CaseTruth.mk.injEq] at htruth
  simp [PaymentCase.truth, PaymentCase.withSubscriptionTruth, htruth]

/-! ### Reconciliation of one entity

The case is found by the reference that its identity determines, or created under it.
Either way the report is applied to a row that carries the identity the report is about,
which is what keeps cases identified.
-/

/--
The report on one identity has been applied: to its case, to a new case, or to none.
`upd` writes the reported columns.
-/
inductive Reported (reference : CaseReference) (upd : PaymentCase → PaymentCase) (db db' : Db) :
    Prop
  | ignored (hnone : db.caseByReference reference = none) (hdb : db' = db)
  | worked {c : PaymentCase} {w : CaseWork} (hc : c ∈ db.cases)
      (href : c.caseReference = reference) (hw : Extends (.lock c) w)
      (htruth : w.row.truth = (upd c).truth) (hdb : db' = db.commitCase w)
  | created {row : PaymentCase} {cases : Table PaymentCase} {w : CaseWork}
      (hinsert : db.cases.insert? row = some cases)
      (hnone : db.caseByReference reference = none) (href : row.caseReference = reference)
      (hstate : row.currentState = .detected)
      (hw : Extends (initializeCaseAudit (.lock row) true) w)
      (htruth : w.row.truth = (upd row).truth)
      (hdb : db' = ({ db with cases := cases }).commitCase w)

theorem caseByReference_some {db : Db} {reference : CaseReference} {c : PaymentCase}
    (h : db.caseByReference reference = some c) : c ∈ db.cases ∧ c.caseReference = reference := by
  obtain ⟨hc, href⟩ := Table.first?_mem h
  exact ⟨hc, by simpa using href⟩

theorem caseByReference_none {db : Db} {reference : CaseReference}
    (h : db.caseByReference reference = none) : ∀ c ∈ db.cases, c.caseReference ≠ reference := by
  intro c hc href
  have := Table.first?_eq_none.mp h c hc
  simp [href] at this

theorem lockCaseByIdentity_eq_ok {db : Db} {kind : CaseIdentityKind} {externalId : String}
    {found : Option PaymentCase} (h : lockCaseByIdentity db kind externalId = .ok found) :
    ∃ reference, deterministicCaseReference kind externalId = .ok reference ∧
      found = db.caseByReference reference := by
  obtain ⟨reference, href, h⟩ := bind_eq_ok.mp h
  cases h
  exact ⟨reference, href, rfl⟩

/-- Where no case has the reference, one is created. -/
theorem getOrCreateCase_eq_ok {db : Db} {kind : CaseIdentityKind}
    {externalId merchantId : String} {customerId : Option String} {newId : Uuid} {at' : Int}
    {reference : CaseReference} {result : GetOrCreateCaseResult}
    (href : deterministicCaseReference kind externalId = .ok reference)
    (hnone : db.caseByReference reference = none)
    (h : getOrCreateCase db kind externalId merchantId customerId newId at' = .ok result) :
    ∃ cases, result.created = true ∧ result.paymentCase =
        newPaymentCase reference kind externalId merchantId customerId newId at' ∧
      db.cases.insert? result.paymentCase = some cases ∧ result.db = { db with cases := cases } := by
  obtain ⟨reference', href', h⟩ := bind_eq_ok.mp h
  rw [href] at href'
  cases href'
  simp only [hnone] at h
  obtain ⟨cases', hinsert, h⟩ := bind_eq_ok.mp h
  cases h
  exact ⟨cases', rfl, rfl, requireSome_eq_ok.mp hinsert, rfl⟩

theorem reconcilePayment_eq_ok {db : Db} {event : WebhookEvent} {snapshot : PaymentSnapshot}
    {fresh : Fresh} {now : Int} {result : ReconciliationResult}
    (h : reconcilePayment db event snapshot fresh now = .ok result) :
    event.paymentId = some snapshot.id ∧
    ∃ reference, deterministicCaseReference .payment snapshot.id = .ok reference ∧
      Reported reference (fun c => c.withPaymentTruth event snapshot now) db result.db := by
  obtain ⟨paymentId, hid, h⟩ := bind_eq_ok.mp h
  rw [requireSome_eq_ok] at hid
  obtain ⟨_, hsame, h⟩ := bind_eq_ok.mp h
  rw [require_eq_ok] at hsame
  subst hsame
  obtain ⟨found, hlock, h⟩ := bind_eq_ok.mp h
  obtain ⟨reference, href, rfl⟩ := lockCaseByIdentity_eq_ok hlock
  refine ⟨hid, reference, href, ?_⟩
  split at h
  · rename_i row hrow
    obtain ⟨hmem, hrowref⟩ := caseByReference_some hrow
    obtain ⟨⟨w, reason⟩, happly, h⟩ := bind_eq_ok.mp h
    cases h
    obtain ⟨hw, htruth⟩ := applyPaymentTruth_eq_ok happly
    exact .worked hmem hrowref hw htruth rfl
  · rename_i hnone
    split at h
    · split at h <;>
      · cases h
        exact .ignored hnone rfl
    · obtain ⟨created, hcreate, h⟩ := bind_eq_ok.mp h
      obtain ⟨⟨w, reason⟩, happly, h⟩ := bind_eq_ok.mp h
      cases h
      obtain ⟨cases, hnew, hrow, hinsert, hdb⟩ := getOrCreateCase_eq_ok href hnone hcreate
      rw [hnew] at happly
      obtain ⟨hw, htruth⟩ := applyPaymentTruth_eq_ok happly
      exact .created hinsert hnone (by rw [hrow]; rfl) (by rw [hrow]; rfl) hw htruth (by rw [hdb])

theorem reconcileSubscription_eq_ok {db : Db} {event : WebhookEvent}
    {snapshot : SubscriptionSnapshot} {fresh : Fresh} {now : Int} {result : ReconciliationResult}
    (h : reconcileSubscription db event snapshot fresh now = .ok result) :
    event.subscriptionId = some snapshot.id ∧
    ∃ reference, deterministicCaseReference .subscription snapshot.id = .ok reference ∧
      Reported reference (fun c => c.withSubscriptionTruth snapshot now) db result.db := by
  obtain ⟨subscriptionId, hid, h⟩ := bind_eq_ok.mp h
  rw [requireSome_eq_ok] at hid
  obtain ⟨_, hsame, h⟩ := bind_eq_ok.mp h
  rw [require_eq_ok] at hsame
  subst hsame
  obtain ⟨found, hlock, h⟩ := bind_eq_ok.mp h
  obtain ⟨reference, href, rfl⟩ := lockCaseByIdentity_eq_ok hlock
  refine ⟨hid, reference, href, ?_⟩
  split at h
  · rename_i row hrow
    obtain ⟨hmem, hrowref⟩ := caseByReference_some hrow
    obtain ⟨⟨w, reason⟩, happly, h⟩ := bind_eq_ok.mp h
    cases h
    obtain ⟨hw, htruth⟩ := applySubscriptionTruth_eq_ok happly
    exact .worked hmem hrowref hw htruth rfl
  · rename_i hnone
    split at h
    · split at h
      · cases h
        exact .ignored hnone rfl
      · split at h <;>
        · cases h
          exact .ignored hnone rfl
    · obtain ⟨created, hcreate, h⟩ := bind_eq_ok.mp h
      obtain ⟨⟨w, reason⟩, happly, h⟩ := bind_eq_ok.mp h
      cases h
      obtain ⟨cases, hnew, hrow, hinsert, hdb⟩ := getOrCreateCase_eq_ok href hnone hcreate
      rw [hnew] at happly
      obtain ⟨hw, htruth⟩ := applySubscriptionTruth_eq_ok happly
      exact .created hinsert hnone (by rw [hrow]; rfl) (by rw [hrow]; rfl) hw htruth (by rw [hdb])

/-- A report on an identity leaves its case identified. -/
theorem Reported.caseEffect {reference : CaseReference} {upd : PaymentCase → PaymentCase}
    {db db' : Db} (externalId : String)
    (hid : deterministicCaseReference reference.identityKind externalId = .ok reference)
    (hupd : ∀ c, match reference.identityKind with
      | .payment => (upd c).paymentId = some externalId
      | .subscription => (upd c).subscriptionId = some externalId)
    (h : Reported reference upd db db') : CaseEffect db db' := by
  have hident : ∀ {c : PaymentCase} {w : CaseWork}, w.row.caseReference = reference →
      w.row.truth = (upd c).truth → w.row.Identified := by
    intro c w hwref htruth
    have hpay : w.row.paymentId = (upd c).paymentId := congrArg CaseTruth.paymentId htruth
    have hsub : w.row.subscriptionId = (upd c).subscriptionId :=
      congrArg CaseTruth.subscriptionId htruth
    refine ⟨externalId, ?_, by rw [hwref]; exact hid⟩
    have hc := hupd c
    unfold PaymentCase.externalId
    rw [hwref, hpay, hsub]
    cases hkind : reference.identityKind <;> simpa [hkind] using hc
  cases h with
  | ignored hnone hdb => exact .unchanged (by rw [hdb]) (by rw [hdb])
  | worked hc href hw htruth hdb =>
      refine .worked hc hw (fun _ => hident ?_ htruth) (by rw [hdb]; rfl) (by rw [hdb]; rfl)
      exact hw.reference_eq.trans href
  | created hinsert hnone href hstate hw htruth hdb =>
      refine .created hinsert ?_ hstate hw (hident ?_ htruth) (by rw [hdb]; rfl) (by rw [hdb]; rfl)
      · rw [href]
        exact caseByReference_none hnone
      · rw [hw.reference_eq, initializeCaseAudit_row]
        exact href

theorem deterministicCaseReference_kind {kind : CaseIdentityKind} {externalId : String}
    {reference : CaseReference} (h : deterministicCaseReference kind externalId = .ok reference) :
    reference.identityKind = kind := by
  rw [(deterministicCaseReference_eq_ok.mp h).2.2]

theorem reconcileEntity_caseEffect {db : Db} {event : WebhookEvent} {snapshot : EntitySnapshot}
    {fresh : Fresh} {now : Int} {result : ReconciliationResult}
    (h : reconcileEntity db event snapshot fresh now = .ok result) : CaseEffect db result.db := by
  cases snapshot with
  | inl payment =>
      obtain ⟨-, reference, href, hreported⟩ := reconcilePayment_eq_ok h
      have hkind := deterministicCaseReference_kind href
      refine hreported.caseEffect payment.id (by rw [hkind]; exact href) ?_
      intro c
      rw [hkind]
      rfl
  | inr subscription =>
      obtain ⟨-, reference, href, hreported⟩ := reconcileSubscription_eq_ok h
      have hkind := deterministicCaseReference_kind href
      refine hreported.caseEffect subscription.id (by rw [hkind]; exact href) ?_
      intro c
      rw [hkind]
      rfl

end Arc
