/-
Stored evidence.

An observation keeps the fingerprint of the snapshot it was made from, and the
fingerprint determines how the snapshot is classified.  A case that still waits for its
outcome has pending observations only, and no attribution: every other verdict closes
the case in the transaction that stores it.
-/
import Arc.Proofs.Attribution
import Arc.Proofs.Fingerprints

namespace Arc

open Store

variable [Platform]

/-! ### What a fingerprint determines

The fingerprint hashes every column of the snapshot that the classifier reads, and the
payments in an order of their own. Where the order is lost the classifier does not look
at it, since a link with two payments is reviewed in either order.
-/

omit [Platform] in
theorem ofText_injective : Function.Injective Json.ofText :=
  ofOption_injective (fun _ _ h => Json.str.inj h) fun _ h => by cases h

omit [Platform] in
theorem paymentEvidence_injective : Function.Injective paymentEvidence := by
  intro p q h
  simp only [paymentEvidence, Json.obj.injEq, List.cons.injEq, Prod.mk.injEq, Json.str.injEq,
    Json.int.injEq, Int.natCast_inj, true_and, and_true] at h
  obtain ⟨hid, hamount, hstatus, hmethod, hcreated, hlink⟩ := h
  cases p
  cases q
  simp only [CapturedPaymentProjection.mk.injEq]
  exact ⟨hid, hamount, hstatus, ofText_injective hmethod, ofOption_nat hcreated,
    ofText_injective hlink⟩

omit [Platform] in
/-- The order in which a paid link lists its payments does not matter. -/
theorem paidOutcome_congr {expected : ExpectedPaymentLinkEvidence}
    {snapshot snapshot' : PaymentLinkSnapshot} (hpaid : snapshot.amountPaid = snapshot'.amountPaid)
    (hpayments : snapshot.payments.Perm snapshot'.payments) :
    paidOutcome expected snapshot = paidOutcome expected snapshot' := by
  have hone : ∀ payment, snapshot.payments = [payment] ↔ snapshot'.payments = [payment] := by
    intro payment
    constructor
    · intro h
      exact List.perm_singleton.mp (h ▸ hpayments.symm)
    · intro h
      exact List.perm_singleton.mp (h ▸ hpayments)
  unfold paidOutcome
  rw [hpaid]
  split
  · rfl
  split
  · rename_i payment hpayment
    rw [(hone payment).mp hpayment]
  · rename_i hmany
    split
    · rename_i payment hpayment
      exact absurd ((hone payment).mpr hpayment) (hmany payment)
    · rfl

omit [Platform] in
theorem unpaidOutcome_congr {snapshot snapshot' : PaymentLinkSnapshot}
    (hpaid : snapshot.amountPaid = snapshot'.amountPaid)
    (hpayments : snapshot.payments.Perm snapshot'.payments) (status : RecoveryOutcomeStatus)
    (reason conflict : String) :
    unpaidOutcome snapshot status reason conflict = unpaidOutcome snapshot' status reason conflict := by
  have hnone : snapshot.payments ≠ [] ↔ snapshot'.payments ≠ [] :=
    not_congr ⟨fun h => List.perm_nil.mp (h ▸ hpayments.symm),
      fun h => List.perm_nil.mp (h ▸ hpayments)⟩
  unfold unpaidOutcome
  simp only [hpaid, hnone]

section

variable (hhash : Function.Injective Platform.hashFacts)

include hhash

/-- What a fingerprint keeps of a snapshot; the payments are kept up to their order. -/
theorem evidence_determined {id id' : Uuid} {snapshot snapshot' : PaymentLinkSnapshot}
    (h : buildOutcomeEvidenceFingerprint id snapshot =
      buildOutcomeEvidenceFingerprint id' snapshot') :
    snapshot.id = snapshot'.id ∧ snapshot.referenceId = snapshot'.referenceId ∧
      snapshot.status = snapshot'.status ∧ snapshot.amount = snapshot'.amount ∧
      snapshot.amountPaid = snapshot'.amountPaid ∧ snapshot.currency = snapshot'.currency ∧
      snapshot.payments.Perm snapshot'.payments ∧ snapshot.updatedAt = snapshot'.updatedAt ∧
      snapshot.expireBy = snapshot'.expireBy ∧ snapshot.expiredAt = snapshot'.expiredAt ∧
      snapshot.cancelledAt = snapshot'.cancelledAt := by
  have hfacts := hhash h
  simp only [Json.obj.injEq, List.cons.injEq, Prod.mk.injEq, Json.str.injEq, Json.int.injEq,
    Json.arr.injEq, Int.natCast_inj, true_and, and_true] at hfacts
  obtain ⟨-, hid, href, hstatus, hamount, hpaid, hcurrency, hpayments, hupdated, hexpire, hexpired,
    hcancelled⟩ := hfacts
  refine ⟨hid, href, hstatus, hamount, hpaid, hcurrency, ?_, ofOption_nat hupdated,
    ofOption_nat hexpire, ofOption_nat hexpired, ofOption_nat hcancelled⟩
  have hsorted := List.map_injective_iff.mpr paymentEvidence_injective hpayments
  have hleft := List.perm_insertionSort paymentKeyLe snapshot.payments
  rw [hsorted] at hleft
  exact hleft.symm.trans (List.perm_insertionSort paymentKeyLe snapshot'.payments)

/-- **The classification of a snapshot can be read off the fingerprint of its evidence.** -/
theorem classify_determined {id id' : Uuid} {snapshot snapshot' : PaymentLinkSnapshot}
    (h : buildOutcomeEvidenceFingerprint id snapshot =
      buildOutcomeEvidenceFingerprint id' snapshot') (expected : ExpectedPaymentLinkEvidence) :
    classifyPaymentLinkOutcome expected snapshot =
      classifyPaymentLinkOutcome expected snapshot' := by
  obtain ⟨hid, href, hstatus, hamount, hpaid, hcurrency, hpayments, -⟩ := evidence_determined hhash h
  unfold classifyPaymentLinkOutcome
  rw [hid, href, hstatus, hamount, hcurrency, hpayments.any_eq, paidOutcome_congr hpaid hpayments]
  simp only [unpaidOutcome_congr hpaid hpayments]

end

/-! ### Verdicts -/

/-- Only a link that is open is pending, and only one that is paid has recovered anything. -/
theorem classify_status (expected : ExpectedPaymentLinkEvidence) (snapshot : PaymentLinkSnapshot) :
    ((classifyPaymentLinkOutcome expected snapshot).outcomeStatus = .pending →
      snapshot.status = "created" ∨ snapshot.status = "issued") ∧
    ((classifyPaymentLinkOutcome expected snapshot).outcomeStatus = .recovered →
      snapshot.status = "paid") := by
  unfold classifyPaymentLinkOutcome
  split
  · simp [reviewOutcome]
  split
  · simp [reviewOutcome]
  split
  · rename_i hopen
    exact ⟨fun _ => hopen, fun h => absurd h (unpaidOutcome_ne_recovered (by decide))⟩
  split
  · rename_i hpaid
    refine ⟨fun h => ?_, fun _ => hpaid⟩
    unfold paidOutcome at h
    split at h
    · cases h
    split at h
    · split at h <;> cases h
    · cases h
  split
  · refine ⟨fun h => ?_, fun h => absurd h (unpaidOutcome_ne_recovered (by decide))⟩
    unfold unpaidOutcome at h
    split at h <;> cases h
  split
  · refine ⟨fun h => ?_, fun h => absurd h (unpaidOutcome_ne_recovered (by decide))⟩
    unfold unpaidOutcome at h
    split at h <;> cases h
  split <;> simp [reviewOutcome]

/-- A link that is paid has recovered its amount, or asks for a review. -/
theorem classify_of_paid (expected : ExpectedPaymentLinkEvidence) {snapshot : PaymentLinkSnapshot}
    (h : snapshot.status = "paid") :
    (classifyPaymentLinkOutcome expected snapshot).outcomeStatus = .recovered ∨
      (classifyPaymentLinkOutcome expected snapshot).outcomeStatus = .reviewRequired := by
  unfold classifyPaymentLinkOutcome
  split
  · exact .inr rfl
  split
  · exact .inr rfl
  rw [h]
  simp only [String.reduceEq, or_self, if_false]
  unfold paidOutcome
  split
  · exact .inr rfl
  split
  · split
    · exact .inr rfl
    · exact .inl rfl
  · exact .inr rfl

/-- The protection of what is there already, and a refused insert, can only ask for a review. -/
theorem evidenceOutcome_status (db : Db) (claim : ObservationClaim) (snapshot : PaymentLinkSnapshot)
    (fresh : ObservationFresh) (action : RecoveryActionRecord) (c : PaymentCase) :
    (evidenceOutcome db claim snapshot fresh action c).classification.outcomeStatus =
        (classifyPaymentLinkOutcome claim.expected snapshot).outcomeStatus ∨
      (evidenceOutcome db claim snapshot fresh action c).classification.outcomeStatus =
        .reviewRequired := by
  have hprotected : ∀ classification existing,
      (protectExistingCaseAndAttribution db c action classification existing).outcomeStatus =
          classification.outcomeStatus ∨
        (protectExistingCaseAndAttribution db c action classification existing).outcomeStatus =
          .reviewRequired := by
    intro classification existing
    unfold protectExistingCaseAndAttribution
    split
    · exact .inl rfl
    split
    · exact .inr rfl
    split
    · exact .inr rfl
    split
    · split
      · exact .inl rfl
      · exact .inr rfl
    · split
      · exact .inr rfl
      · exact .inl rfl
  unfold evidenceOutcome attributeRevenue
  simp only
  split
  · split
    · exact hprotected _ _
    · exact .inr rfl
  · exact hprotected _ _

/-- New evidence adds attributions of its own action only. -/
theorem mem_evidenceOutcome {db : Db} {claim : ObservationClaim} {snapshot : PaymentLinkSnapshot}
    {fresh : ObservationFresh} {action : RecoveryActionRecord} {c : PaymentCase}
    {a : RecoveryAttribution} (h : a.recoveryActionId ≠ claim.expected.recoveryActionId) :
    a ∈ (evidenceOutcome db claim snapshot fresh action c).attributions ↔ a ∈ db.attributions := by
  unfold evidenceOutcome attributeRevenue
  simp only
  split
  · split
    · rename_i attributions hinsert
      refine (Table.insert?_mem (insertAttribution_eq_some hinsert).1).trans (or_iff_left ?_)
      rintro rfl
      exact h rfl
    · exact Iff.rfl
  · exact Iff.rfl

/-- The state new evidence leaves its case in. -/
theorem Recorded.state {db : Db} {claim : ObservationClaim} {snapshot : PaymentLinkSnapshot}
    {source : OutcomeObservationSource} {fresh : ObservationFresh} {action : RecoveryActionRecord}
    {c : PaymentCase} {observations : Table RecoveryOutcomeObservation} {w : CaseWork}
    (h : Recorded db claim snapshot source fresh action c observations w) :
    w.row.currentState = outcomeState
      (evidenceOutcome db claim snapshot fresh action c).classification.outcomeStatus
      c.currentState := by
  obtain ⟨w', hw', hstate⟩ := applyOutcomeTransition_ok c
    (applyOutcomeTransition_eq_ok h.moved).2.2 fresh.observedAt
  rw [h.moved] at hw'
  cases hw'
  exact hstate

omit [Platform] in
/-- A case that is observed is closed by every verdict but a pending one. -/
theorem outcomeState_terminal {status : RecoveryOutcomeStatus} {state : CaseState}
    (hstate : state ∈ observableStates) (hstatus : status ≠ .pending) :
    outcomeState status state ∈ terminalCaseStates := by
  unfold outcomeState
  split
  · cases status with
    | pending => exact absurd rfl hstatus
    | _ => decide
  · rename_i hwaiting
    simp only [observableStates, List.mem_cons, List.not_mem_nil, or_false] at hstate
    simp only [terminalCaseStates, List.mem_cons, List.not_mem_nil, or_false]
    exact hstate.resolve_left hwaiting

/-! ### Observations in a run

An observation is stored with the verdict on its evidence. `Backed` keeps the two
together for the rest of the run: the stored fingerprint still says what the verdict was
given for, although the snapshot itself is not stored.
-/

/-- A step leaves observations and attributions alone, or stores new evidence. -/
theorem step_evidence {s s' : System} {l : Label} (hok : HintsOk s) (hs : step s l = some s') :
    (s'.db.outcomeObservations = s.db.outcomeObservations ∧
      s'.db.attributions = s.db.attributions) ∨
    ∃ claim snapshot source fresh action c observations w,
      ObserveStep s l claim snapshot source fresh ∧
      Recorded s.db claim snapshot source fresh action c observations w ∧
      s'.db = s.db.withEvidence claim snapshot fresh action c observations w := by
  have hpersisted : ∀ {claim snapshot source fresh}, ObserveStep s l claim snapshot source fresh →
      (s'.db.outcomeObservations = s.db.outcomeObservations ∧
        s'.db.attributions = s.db.attributions) ∨
      ∃ claim snapshot source fresh action c observations w,
        ObserveStep s l claim snapshot source fresh ∧
        Recorded s.db claim snapshot source fresh action c observations w ∧
        s'.db = s.db.withEvidence claim snapshot fresh action c observations w := by
    intro claim snapshot source fresh hobserve
    rcases (hobserve.persisted hs).2 with hdb | ⟨result, hpersist⟩
    · exact .inl ⟨by rw [hdb], by rw [hdb]⟩
    rcases persistObservation_cases hpersist with ⟨hdb, -⟩ |
      ⟨action, c, observations, w, hrecorded, hdb⟩
    · exact .inl ⟨by rw [hdb], by rw [hdb]⟩
    · exact .inr ⟨claim, snapshot, source, fresh, action, c, observations, w, hobserve, hrecorded,
        hdb⟩
  have hcommit := step_commit hok hs
  generalize hdb : s'.db = db' at hcommit
  cases hcommit with
  | executed hm => exact .inl (by rw [hm.frame]; exact ⟨rfl, rfl⟩)
  | @reconciled worker claimed snapshot fetchedAt fresh event result hphase howns hstatus hresult =>
      have hobservations : result.db.outcomeObservations = s.db.outcomeObservations := by
        rw [reconcileEntity_frame hresult]
      have hattributions : result.db.attributions = s.db.attributions := by
        rw [reconcileEntity_frame hresult]
      exact .inl ⟨hobservations, hattributions⟩
  | observed hworker hobservable hevidence hinsert hw hmoves =>
      rw [← hdb]
      rcases hworker with ⟨worker, hphase, rfl⟩ | ⟨worker, event, hphase, rfl⟩
      · exact hpersisted (.poll hphase)
      · exact hpersisted (.webhook hphase)
  | _ => exact .inl ⟨rfl, rfl⟩

/-- What a stored observation was made from, and what it says about its case. -/
structure RecoveryOutcomeObservation.Backed (o : RecoveryOutcomeObservation) (db : Db) : Prop where
  action : ∃ r ∈ db.recoveryActions, r.id = o.recoveryActionId ∧ r.caseId = o.caseId
  read : ∃ snapshot : PaymentLinkSnapshot, snapshot.status = o.providerStatus ∧
    o.evidenceFingerprint = buildOutcomeEvidenceFingerprint o.recoveryActionId snapshot
  /-- The link was open, or the case is closed. -/
  closed : (o.outcomeStatus = .pending ∧
      (o.providerStatus = "created" ∨ o.providerStatus = "issued")) ∨
    ∃ c ∈ db.cases, c.id = o.caseId ∧ c.currentState ∈ terminalCaseStates

theorem Recorded.backed {db : Db} {claim : ObservationClaim} {snapshot : PaymentLinkSnapshot}
    {source : OutcomeObservationSource} {fresh : ObservationFresh} {action : RecoveryActionRecord}
    {c : PaymentCase} {observations : Table RecoveryOutcomeObservation} {w : CaseWork}
    (h : Recorded db claim snapshot source fresh action c observations w) :
    (evidenceObservation db claim snapshot source fresh action c).Backed
      (db.withEvidence claim snapshot fresh action c observations w) := by
  have hobservable := h.observable
  have haction := Table.mem_of_get? hobservable.action_eq
  have hc := Table.mem_of_get? hobservable.case_eq
  have hid : action.id = claim.expected.recoveryActionId :=
    Table.get?_key hobservable.action_eq
  have hcase : c.id = action.caseId := Table.get?_key hobservable.case_eq
  have hwid : w.row.id = c.id := (applyOutcomeTransition_eq_ok h.moved).1.id_eq
  refine ⟨⟨{ action with externalStatus := some snapshot.status }, ?_, hid, hcase.symm⟩,
    ⟨snapshot, rfl, rfl⟩, ?_⟩
  · have hsame : ({ action with externalStatus := some snapshot.status } :
        RecoveryActionRecord).id = action.id := rfl
    exact (Table.mem_put_of_mem haction hsame).mpr (.inr rfl)
  · by_cases hpending : (evidenceOutcome db claim snapshot fresh action c).classification.outcomeStatus
        = .pending
    · refine .inl ⟨hpending, (classify_status claim.expected snapshot).1 ?_⟩
      rcases evidenceOutcome_status db claim snapshot fresh action c with hsame | hreview
      · exact hsame.symm.trans hpending
      · rw [hreview] at hpending
        cases hpending
    · refine .inr ⟨w.row, (Table.mem_put_of_mem hc hwid).mpr (.inr rfl), hwid, ?_⟩
      rw [h.state]
      exact outcomeState_terminal hobservable.state hpending

theorem evidence_backed {clock : Int} {s : System}
    (h : Run.Reachable step (System.initial clock) s) :
    ∀ o ∈ s.db.outcomeObservations, o.Backed s.db := by
  obtain ⟨tr, htr⟩ := h
  refine htr.invariant (I := fun s => ∀ o ∈ s.db.outcomeObservations, o.Backed s.db)
    (fun o ho => absurd ho (Table.not_mem_empty _)) fun x hx hbacked hs => ?_
  obtain ⟨hhints, hheld, -⟩ := executed_reachable (htr.reachable_pre hx)
  have hcommit := step_commit hhints hs
  -- what a stored observation says stays true
  have hkeep : ∀ o : RecoveryOutcomeObservation, o.Backed x.pre.db → o.Backed x.post.db := by
    rintro o ⟨⟨r, hr, hid, hcase⟩, hread, hclosed⟩
    obtain ⟨r', hr', hsame, -⟩ := hcommit.persists hr
    refine ⟨⟨r', hr', hsame.id_eq.trans hid, hsame.case_eq.trans hcase⟩, hread, ?_⟩
    refine hclosed.imp_right ?_
    rintro ⟨c, hc, hcid, hterminal⟩
    obtain ⟨c', hc', hprogressed⟩ := (hcommit.caseEffect hheld).progressed hc
    refine ⟨c', hc', hprogressed.id_eq.trans hcid, ?_⟩
    rw [hprogressed.terminal hterminal]
    exact hterminal
  intro o ho
  rcases step_evidence hhints hs with ⟨hobservations, -⟩ |
    ⟨claim, snapshot, source, fresh, action, c, observations, w, -, hrecorded, hdb⟩
  · exact hkeep o (hbacked o (hobservations ▸ ho))
  · rw [hdb] at ho
    rcases (Table.insert?_mem hrecorded.inserted).mp ho with ho | rfl
    · exact hkeep o (hbacked o ho)
    · rw [hdb]
      exact hrecorded.backed

/-- **A case that waits for its outcome** has pending observations only, and no attribution. -/
theorem waiting_pending {clock : Int} {s : System}
    (h : Run.Reachable step (System.initial clock) s) {r : RecoveryActionRecord}
    (hr : r ∈ s.db.recoveryActions) {c : PaymentCase} (hc : c ∈ s.db.cases)
    (hcase : r.caseId = c.id) (hwaiting : c.currentState = .waitingForOutcome) :
    (∀ a ∈ s.db.attributions, a.recoveryActionId ≠ r.id) ∧
    ∀ o ∈ s.db.outcomeObservations, o.recoveryActionId = r.id →
      o.outcomeStatus = .pending ∧ (o.providerStatus = "created" ∨ o.providerStatus = "issued") := by
  have hpending : ∀ o ∈ s.db.outcomeObservations, o.recoveryActionId = r.id →
      o.outcomeStatus = .pending ∧
        (o.providerStatus = "created" ∨ o.providerStatus = "issued") := by
    intro o ho haction
    obtain ⟨⟨r', hr', hid, hrcase⟩, -, hopen | ⟨c', hc', hcid, hterminal⟩⟩ :=
      evidence_backed h o ho
    · exact hopen
    · obtain rfl : r' = r := Table.eq_of_key_eq hr' hr (hid.trans haction)
      obtain rfl : c' = c :=
        Table.eq_of_key_eq hc' hc (hcid.trans (hrcase.symm.trans hcase))
      rw [hwaiting] at hterminal
      exact absurd hterminal (by decide)
  refine ⟨fun a ha haction => ?_, hpending⟩
  obtain ⟨o, ho, hattests⟩ := (attributed_reachable h).2.attested a ha
  have hstatus := (hpending o ho (hattests.action_eq.trans haction)).1
  rw [hattests.recovered] at hstatus
  cases hstatus

end Arc
