/-
Reported resolutions.

A case that is closed as recovered is reported so where its recovery is attributed, or
where its payment was found captured before any action was built for it.  Every other
recovery falls through the cascade and is reported as still open.  There are two of
them: a payment found captured after an action was built, and a subscription found
active.  Along a run without either the report and the lifecycle agree in every state,
and right after the first of them they do not.
-/
import Arc.ReadModels.Queries
import Arc.Proofs.Resolution
import Arc.Proofs.Regression
import Arc.Proofs.Reports
import Arc.Proofs.Requests
import Arc.Proofs.Retries
import Arc.Proofs.Truth
import Arc.Proofs.Verdicts

namespace Arc

open Store

variable [Platform]

/-! ### One report

A report can close a case as recovered in two ways. A captured payment does it and says
so in the trail; an active subscription does it and names no payment, since no payment
of it was looked at.
-/

/-- A guarded transition adds transition entries only. -/
theorem transitionIfAllowed_events {w w' : CaseWork} {t : CaseState} {reason : String}
    (h : transitionIfAllowed w t reason = .ok w') :
    ∃ new, w'.events = w.events ++ new ∧ ∀ e ∈ new, e.eventType = caseStateTransition := by
  unfold transitionIfAllowed at h
  split at h
  · rcases transitionCase_eq_ok.mp h with ⟨-, rfl⟩ | ⟨-, -, rfl⟩
    · exact ⟨[], by simp, by simp⟩
    · exact ⟨_, rfl, by simp [transitionEvent]⟩
  · cases h
    exact ⟨[], by simp, by simp⟩

/-- A payment report closes a case as recovered where the payment is captured, and says so in
the trail. -/
theorem applyPaymentTruth_recovered {w w' : CaseWork} {event : WebhookEvent}
    {snapshot : PaymentSnapshot} {created : Bool} {at' : Int} {reason : String}
    (h : applyPaymentTruth w event snapshot created at' = .ok (w', reason))
    (hstate : w'.row.currentState = .recovered) (hnot : w.row.currentState ≠ .recovered) :
    snapshot.status = "captured" ∧
      ∃ e ∈ w'.events, e.caseId = w'.row.id ∧ e.eventType = alreadyCapturedEventType := by
  have hcaptured : snapshot.status = "captured" := by
    obtain ⟨w'', reason', hok, -, -, hface⟩ := applyPaymentTruth_ok w event snapshot created at'
    cases h.symm.trans hok
    have hsettled : settledState w.row.currentState snapshot.status = .recovered :=
      (congrArg PaymentFace.state hface).symm.trans hstate
    by_contra hother
    simp only [settledState, if_neg hother] at hsettled
    split at hsettled
    · rename_i hrefunded
      revert hsettled hnot
      cases w.row.currentState <;> decide
    · revert hsettled hnot
      cases w.row.currentState <;> decide
  obtain ⟨w₁, -, h⟩ := bind_eq_ok.mp h
  obtain ⟨⟨w₂, reason⟩, hlife, h⟩ := bind_eq_ok.mp h
  cases h
  unfold paymentLifecycle at hlife
  rw [if_pos hcaptured] at hlife
  obtain ⟨-, rfl⟩ := resolveIfAllowed_advances hlife
  exact ⟨hcaptured, _, List.mem_append_right _ (List.mem_singleton.mpr rfl), rfl, rfl⟩

theorem startSubscriptionReconciliation_state {w w' : CaseWork} {status : String}
    (h : startSubscriptionReconciliation w status = .ok w') :
    w'.row.currentState = .recovered ↔ w.row.currentState = .recovered := by
  unfold startSubscriptionReconciliation at h
  split at h
  · obtain ⟨w'', hmove, -, hstate⟩ := moveDetectedCaseToReconciling_ok w
    cases h.symm.trans hmove
    rw [hstate]
    split
    · rename_i hdetected
      simp [hdetected]
    · rfl
  · cases h
    rfl

/-- A subscription report closes a case as recovered where the subscription is active. -/
theorem applySubscriptionTruth_recovered {w w' : CaseWork} {snapshot : SubscriptionSnapshot}
    {created : Bool} {at' : Int} {reason : String}
    (h : applySubscriptionTruth w snapshot created at' = .ok (w', reason))
    (hstate : w'.row.currentState = .recovered) (hnot : w.row.currentState ≠ .recovered) :
    snapshot.status = "active" := by
  obtain ⟨w₁, hstart, h⟩ := bind_eq_ok.mp h
  obtain ⟨⟨w₂, reason⟩, hlife, h⟩ := bind_eq_ok.mp h
  cases h
  have hbefore : w₁.row.currentState ≠ .recovered := by
    rw [Ne, startSubscriptionReconciliation_state hstart, initializeCaseAudit_row]
    exact hnot
  by_contra hactive
  have hkept : w₂.row.currentState = w₁.row.currentState ∨ w₂.row.currentState = .exhausted := by
    unfold subscriptionLifecycle at hlife
    split at hlife
    · cases hlife
      exact .inl rfl
    split at hlife
    · cases hlife
      exact .inl rfl
    split at hlife
    · obtain ⟨w₃, hmove, hlife⟩ := bind_eq_ok.mp hlife
      cases hlife
      obtain ⟨w₄, hmove', -, hmoved⟩ := transitionIfAllowed_ok
        { w₁ with row := w₁.row.withSubscriptionTruth snapshot at' } .exhausted
        "SUBSCRIPTION_TERMINAL_WITHOUT_RECOVERY"
      cases hmove.symm.trans hmove'
      have hresolved : (w₃.row.resolveIn .exhausted at').currentState = w₃.row.currentState := by
        unfold PaymentCase.resolveIn
        split <;> rfl
      show (w₃.row.resolveIn .exhausted at').currentState = _ ∨ _
      rw [hresolved, hmoved]
      split
      · exact .inr rfl
      · exact .inl rfl
    split at hlife <;>
    · cases hlife
      exact .inl rfl
  rcases hkept with hkept | hkept
  · exact hbefore (hkept.symm.trans hstate)
  · exact absurd (hkept.symm.trans hstate) (by decide)

omit [Platform] in
/-- Every open case may be closed. -/
theorem canTransition_recovered {state : CaseState} (h : state ∉ terminalCaseStates) :
    canTransition state .recovered = true := by
  revert h
  cases state <;> decide

/-- A report that the subscription is active closes an open case, and names no capture. -/
theorem applySubscriptionTruth_active {c : PaymentCase} {snapshot : SubscriptionSnapshot}
    (hactive : snapshot.status = "active") (hopen : c.currentState ∉ terminalCaseStates)
    (at' : Int) : ∃ w reason, applySubscriptionTruth (.lock c) snapshot false at' = .ok (w, reason) ∧
      w.row.currentState = .recovered ∧
      ∀ e ∈ w.events, e.eventType ≠ alreadyCapturedEventType := by
  let written : CaseWork := { CaseWork.lock c with row := c.withSubscriptionTruth snapshot at' }
  obtain ⟨w₁, hmove, -, hstate⟩ :=
    transitionIfAllowed_ok written .recovered "SUBSCRIPTION_ACTIVE_NO_RECOVERY_REQUIRED"
  obtain ⟨new, hnew, hkind⟩ := transitionIfAllowed_events hmove
  have hcan : canTransition written.row.currentState .recovered = true :=
    canTransition_recovered hopen
  rw [if_pos hcan] at hstate
  have hlife : subscriptionLifecycle written snapshot.status at' =
      .ok ({ w₁ with row := w₁.row.resolveIn .recovered at' },
        "SUBSCRIPTION_ACTIVE_NO_RECOVERY_REQUIRED") := by
    rw [hactive]
    exact bind_eq_ok.mpr ⟨w₁, hmove, rfl⟩
  have hstart : startSubscriptionReconciliation (initializeCaseAudit (.lock c) false)
      snapshot.status = .ok (.lock c) := by
    rw [hactive]
    rfl
  refine ⟨_, _, bind_eq_ok.mpr ⟨_, hstart, bind_eq_ok.mpr ⟨_, hlife, rfl⟩⟩, ?_, fun e he => ?_⟩
  · show (w₁.row.resolveIn .recovered at').currentState = .recovered
    unfold PaymentCase.resolveIn
    split <;> exact hstate
  · rcases List.mem_append.mp he with he | he
    · replace he : e ∈ written.events ++ new := hnew ▸ he
      rcases List.mem_append.mp he with he | he
      · exact absurd he List.not_mem_nil
      · rw [hkind e he]
        decide
    · rw [List.mem_singleton.mp he]
      show "SUBSCRIPTION_ACTIVE_NO_RECOVERY_REQUIRED" ≠ alreadyCapturedEventType
      decide

/-! ### Reports in a step -/

/-- The step closes the case as recovered, and neither an attribution nor its trail and its
actions account for it. -/
inductive RecoversUnaccounted (s : System) : Label → PaymentCase → Prop
  /-- The payment is found captured after an action was built for its case. -/
  | captured {worker : Nat} {claimed : ClaimedEvent} {snapshot : PaymentSnapshot} {fetchedAt : Int}
      {fresh : Fresh} {event : WebhookEvent} {c : PaymentCase}
      (hphase : s.processors worker = .fetched claimed (.inl snapshot) fetchedAt)
      (howns : Owns s.db claimed event) (hstatus : event.processingStatus = .processing)
      (hnamed : event.paymentId = some snapshot.id)
      (hcase : lockCaseByIdentity s.db .payment snapshot.id = .ok (some c))
      (hopen : c.currentState ∉ terminalCaseStates) (hcaptured : snapshot.status = "captured")
      (hacted : ∃ r ∈ s.db.recoveryActions, r.caseId = c.id) :
      RecoversUnaccounted s (.processor worker (.apply fresh)) c
  /-- The subscription is found active. -/
  | active {worker : Nat} {claimed : ClaimedEvent} {snapshot : SubscriptionSnapshot}
      {fetchedAt : Int} {fresh : Fresh} {event : WebhookEvent} {c : PaymentCase}
      (hphase : s.processors worker = .fetched claimed (.inr snapshot) fetchedAt)
      (howns : Owns s.db claimed event) (hstatus : event.processingStatus = .processing)
      (hnamed : event.subscriptionId = some snapshot.id)
      (hcase : lockCaseByIdentity s.db .subscription snapshot.id = .ok (some c))
      (hopen : c.currentState ∉ terminalCaseStates) (hactive : snapshot.status = "active")
      (hunfound : ¬ FoundCaptured s.db c.id) :
      RecoversUnaccounted s (.processor worker (.apply fresh)) c

/-- Work on a locked case that ends in another state has started in an open one. -/
theorem Extends.opened {w w' : CaseWork} (h : Extends w w')
    (hne : w'.row.currentState ≠ w.row.currentState) : w.row.currentState ∉ terminalCaseStates := by
  obtain ⟨new, -, -, -, hchain⟩ := h.added
  exact fun hterminal => hne (hchain.eq_nil_of_terminal hterminal).2

/-- Where a payment report leaves a recovered case. -/
theorem reconcilePayment_recovers {db : Db} {event : WebhookEvent} {snapshot : PaymentSnapshot}
    {fresh : Fresh} {now : Int} {result : ReconciliationResult}
    (h : reconcilePayment db event snapshot fresh now = .ok result)
    (howned : ∀ r ∈ db.recoveryActions, ∃ c ∈ db.cases, c.id = r.caseId) {c' : PaymentCase}
    (hc' : c' ∈ result.db.cases) (hstate : c'.currentState = .recovered) :
    (∃ c ∈ db.cases, c.id = c'.id ∧ c.currentState = .recovered) ∨ FoundCaptured result.db c'.id ∨
    ∃ c, lockCaseByIdentity db .payment snapshot.id = .ok (some c) ∧
      c.currentState ∉ terminalCaseStates ∧ snapshot.status = "captured" ∧
      ∃ r ∈ db.recoveryActions, r.caseId = c.id := by
  obtain ⟨paymentId, -, h⟩ := bind_eq_ok.mp h
  obtain ⟨_, hsame, h⟩ := bind_eq_ok.mp h
  rw [require_eq_ok] at hsame
  subst hsame
  obtain ⟨found, hlock, h⟩ := bind_eq_ok.mp h
  obtain ⟨reference, href, rfl⟩ := lockCaseByIdentity_eq_ok hlock
  split at h
  · rename_i row hrow
    obtain ⟨⟨w, reason⟩, happly, h⟩ := bind_eq_ok.mp h
    cases h
    have hmem := (caseByReference_some hrow).1
    have hextends := (applyPaymentTruth_eq_ok happly).1
    rcases (Table.mem_put_of_mem hmem hextends.id_eq).mp hc' with ⟨hc', -⟩ | rfl
    · exact .inl ⟨c', hc', rfl, hstate⟩
    by_cases hrecovered : row.currentState = .recovered
    · exact .inl ⟨row, hmem, hextends.id_eq.symm, hrecovered⟩
    obtain ⟨hcaptured, e, he, hcase, hkind⟩ := applyPaymentTruth_recovered happly hstate hrecovered
    by_cases hacted : ∃ r ∈ db.recoveryActions, r.caseId = row.id
    · refine .inr (.inr ⟨row, hrow ▸ hlock, hextends.opened ?_, hcaptured, hacted⟩)
      rw [hstate]
      exact fun h => hrecovered h.symm
    · refine .inr (.inl ⟨⟨e, List.mem_append_right _ he, hcase, hkind⟩, fun r hr hrcase => ?_⟩)
      exact hacted ⟨r, hr, hrcase.trans hextends.id_eq⟩
  · rename_i hnone
    split at h
    · split at h <;>
      · cases h
        exact .inl ⟨c', hc', rfl, hstate⟩
    · obtain ⟨created, hcreate, h⟩ := bind_eq_ok.mp h
      obtain ⟨⟨w, reason⟩, happly, h⟩ := bind_eq_ok.mp h
      cases h
      obtain ⟨cases, -, hnew, hinsert, hdb⟩ := getOrCreateCase_eq_ok href hnone hcreate
      have hid : w.row.id = created.paymentCase.id := by
        rw [(applyPaymentTruth_eq_ok happly).1.id_eq, initializeCaseAudit_row]
        rfl
      have hcases : (created.db.commitCase w).cases = cases.put w.row := by
        rw [hdb]
        rfl
      have hmem : created.paymentCase ∈ cases := (Table.insert?_mem hinsert).mpr (.inr rfl)
      rcases (Table.mem_put_of_mem hmem hid).mp (hcases ▸ hc') with ⟨hc', hne⟩ | rfl
      · rcases (Table.insert?_mem hinsert).mp hc' with hc' | rfl
        · exact .inl ⟨c', hc', rfl, hstate⟩
        · exact absurd hid.symm hne
      · -- a case that the report creates has no action
        have hdetected : created.paymentCase.currentState ≠ .recovered := by
          rw [hnew]
          show CaseState.detected ≠ .recovered
          decide
        obtain ⟨-, e, he, hcase, hkind⟩ := applyPaymentTruth_recovered happly hstate hdetected
        refine .inr (.inl ⟨⟨e, List.mem_append_right _ he, hcase, hkind⟩, fun r hr hrcase => ?_⟩)
        replace hr : r ∈ db.recoveryActions := by
          rw [hdb] at hr
          exact hr
        obtain ⟨c, hc, hcid⟩ := howned r hr
        exact Table.insert?_fresh hinsert hc (hcid.trans (hrcase.trans hid))

/-- Where a subscription report leaves a recovered case. -/
theorem reconcileSubscription_recovers {db : Db} {event : WebhookEvent}
    {snapshot : SubscriptionSnapshot} {fresh : Fresh} {now : Int} {result : ReconciliationResult}
    (h : reconcileSubscription db event snapshot fresh now = .ok result) {c' : PaymentCase}
    (hc' : c' ∈ result.db.cases) (hstate : c'.currentState = .recovered) :
    (∃ c ∈ db.cases, c.id = c'.id ∧ c.currentState = .recovered) ∨
    ∃ c, lockCaseByIdentity db .subscription snapshot.id = .ok (some c) ∧ c'.id = c.id ∧
      c.currentState ∉ terminalCaseStates ∧ snapshot.status = "active" := by
  obtain ⟨subscriptionId, -, h⟩ := bind_eq_ok.mp h
  obtain ⟨_, hsame, h⟩ := bind_eq_ok.mp h
  rw [require_eq_ok] at hsame
  subst hsame
  obtain ⟨found, hlock, h⟩ := bind_eq_ok.mp h
  obtain ⟨reference, href, rfl⟩ := lockCaseByIdentity_eq_ok hlock
  split at h
  · rename_i row hrow
    obtain ⟨⟨w, reason⟩, happly, h⟩ := bind_eq_ok.mp h
    cases h
    have hmem := (caseByReference_some hrow).1
    have hextends := (applySubscriptionTruth_eq_ok happly).1
    rcases (Table.mem_put_of_mem hmem hextends.id_eq).mp hc' with ⟨hc', -⟩ | rfl
    · exact .inl ⟨c', hc', rfl, hstate⟩
    by_cases hrecovered : row.currentState = .recovered
    · exact .inl ⟨row, hmem, hextends.id_eq.symm, hrecovered⟩
    refine .inr ⟨row, hrow ▸ hlock, hextends.id_eq, hextends.opened ?_,
      applySubscriptionTruth_recovered happly hstate hrecovered⟩
    rw [hstate]
    exact fun h => hrecovered h.symm
  · rename_i hnone
    split at h
    · split at h
      · cases h
        exact .inl ⟨c', hc', rfl, hstate⟩
      · split at h <;>
        · cases h
          exact .inl ⟨c', hc', rfl, hstate⟩
    · rename_i hstatus
      obtain ⟨created, hcreate, h⟩ := bind_eq_ok.mp h
      obtain ⟨⟨w, reason⟩, happly, h⟩ := bind_eq_ok.mp h
      cases h
      obtain ⟨cases, -, hnew, hinsert, hdb⟩ := getOrCreateCase_eq_ok href hnone hcreate
      have hid : w.row.id = created.paymentCase.id := by
        rw [(applySubscriptionTruth_eq_ok happly).1.id_eq, initializeCaseAudit_row]
        rfl
      have hcases : (created.db.commitCase w).cases = cases.put w.row := by
        rw [hdb]
        rfl
      have hmem : created.paymentCase ∈ cases := (Table.insert?_mem hinsert).mpr (.inr rfl)
      rcases (Table.mem_put_of_mem hmem hid).mp (hcases ▸ hc') with ⟨hc', hne⟩ | rfl
      · rcases (Table.insert?_mem hinsert).mp hc' with hc' | rfl
        · exact .inl ⟨c', hc', rfl, hstate⟩
        · exact absurd hid.symm hne
      · -- only a subscription that calls for recovery has a case created
        have hdetected : created.paymentCase.currentState ≠ .recovered := by
          rw [hnew]
          show CaseState.detected ≠ .recovered
          decide
        rw [applySubscriptionTruth_recovered happly hstate hdetected] at hstatus
        exact absurd hstatus (by decide)

/-! ### Steps -/

/-- An observation that closes its case as recovered leaves it attributed. -/
theorem Recorded.attributed {db : Db} {claim : ObservationClaim} {snapshot : PaymentLinkSnapshot}
    {source : OutcomeObservationSource} {fresh : ObservationFresh} {action : RecoveryActionRecord}
    {c : PaymentCase} {observations : Table RecoveryOutcomeObservation} {w : CaseWork}
    (h : Recorded db claim snapshot source fresh action c observations w)
    (hattributed : Attributed db) (hstate : w.row.currentState = .recovered)
    (hnot : c.currentState ≠ .recovered) :
    ∃ a ∈ (evidenceOutcome db claim snapshot fresh action c).attributions, a.caseId = c.id := by
  have hmoved := (applyOutcomeTransition_eq_ok h.moved).2.2
  have hrecovered :
      (evidenceOutcome db claim snapshot fresh action c).classification.outcomeStatus =
        .recovered := by
    obtain ⟨w', hok, hend⟩ := applyOutcomeTransition_ok c hmoved fresh.observedAt
    cases h.moved.symm.trans hok
    unfold outcomeState at hend
    rw [hstate] at hend
    split at hend
    · split at hend <;> first | assumption | cases hend
    · exact absurd hend.symm hnot
  have hsome := hmoved hrecovered
  unfold evidenceOutcome attributeRevenue at hsome ⊢
  simp only at hsome ⊢
  split at hsome
  · rename_i hnew
    rw [if_pos hnew]
    split at hsome
    · rename_i attributions hinsert
      exact ⟨_, (Table.insert?_mem (insertAttribution_eq_some hinsert).1).mpr (.inr rfl), rfl⟩
    · exact absurd rfl hsome
  · -- the action has an attribution already, and it is one of this case
    rename_i hold
    rw [if_neg hold]
    obtain ⟨a, ha⟩ := Option.ne_none_iff_exists'.mp hsome
    obtain ⟨hmem, haction⟩ := Table.first?_mem ha
    obtain ⟨r, hr, hid, hcase, -⟩ := hattributed.backed a hmem
    simp only [beq_iff_eq] at haction
    obtain rfl : r = action := Table.eq_of_key_eq hr (Table.mem_of_get? h.observable.action_eq)
      (hid.trans haction)
    exact ⟨a, hmem, hcase.symm.trans (Table.get?_key h.observable.case_eq).symm⟩

theorem ObserveStep.recovers {s s' : System} {l : Label} {claim : ObservationClaim}
    {snapshot : PaymentLinkSnapshot} {source : OutcomeObservationSource} {fresh : ObservationFresh}
    (h : ObserveStep s l claim snapshot source fresh) (hs : step s l = some s')
    (hattributed : Attributed s.db) {c' : PaymentCase} (hc' : c' ∈ s'.db.cases)
    (hstate : c'.currentState = .recovered) :
    (∃ c ∈ s.db.cases, c.id = c'.id ∧ c.currentState = .recovered) ∨
      ∃ a ∈ s'.db.attributions, a.caseId = c'.id := by
  rcases (h.persisted hs).2 with hdb | ⟨result, hpersist⟩
  · exact .inl ⟨c', hdb ▸ hc', rfl, hstate⟩
  rcases persistObservation_cases hpersist with ⟨hdb, -⟩ |
    ⟨action, c, observations, w, hrecorded, hdb⟩
  · exact .inl ⟨c', hdb ▸ hc', rfl, hstate⟩
  have hc := Table.mem_of_get? hrecorded.observable.case_eq
  have hid : w.row.id = c.id := (applyOutcomeTransition_eq_ok hrecorded.moved).1.id_eq
  rw [hdb] at hc' ⊢
  rcases (Table.mem_put_of_mem hc hid).mp hc' with ⟨hc', -⟩ | rfl
  · exact .inl ⟨c', hc', rfl, hstate⟩
  by_cases hrecovered : c.currentState = .recovered
  · exact .inl ⟨c, hc, hid.symm, hrecovered⟩
  · obtain ⟨a, ha, hcase⟩ := hrecorded.attributed hattributed hstate hrecovered
    exact .inr ⟨a, ha, hcase.trans hid.symm⟩

/-- A row that is neither reported nor observed is recovered only if it was. -/
theorem Handles.recovered {s : System} {l : Label} {c row : PaymentCase} (h : Handles s l c row)
    (hl : ¬ l.Reports) (hstate : row.currentState = .recovered) :
    c.currentState ∈ terminalCaseStates := by
  have hterminal : row.currentState ∈ terminalCaseStates := by
    rw [hstate]
    decide
  rcases h with (hrest | ⟨hreports, -⟩ | ⟨-, hgiven⟩) | ⟨-, hclosed⟩
  · exact hrest.closed_iff.mp hterminal
  · exact absurd hreports hl
  · exact absurd hstate hgiven.unrecovered
  · exact hclosed.mp hterminal

/-- **What makes a case recovered**: it was, or its recovery is attributed, or its payment is
found captured, or it is not accounted for. -/
theorem step_recovers {s s' : System} {l : Label} (hhints : HintsOk s) (hheld : HeldOk s)
    (hexecuted : Executed s.db) (hattributed : Attributed s.db) (h : step s l = some s')
    {c' : PaymentCase} (hc' : c' ∈ s'.db.cases) (hstate : c'.currentState = .recovered) :
    (∃ c ∈ s.db.cases, c.id = c'.id ∧ c.currentState = .recovered) ∨
      (∃ a ∈ s'.db.attributions, a.caseId = c'.id) ∨ FoundCaptured s'.db c'.id ∨
      ∃ c, RecoversUnaccounted s l c := by
  have hcommit := step_commit hhints h
  by_cases hl : l.Reports
  · generalize hdb : s'.db = db' at hcommit hc' ⊢
    cases hl with
    | applied =>
        cases hcommit with
        | same => exact .inl ⟨c', hc', rfl, hstate⟩
        | worked hlabel => rcases hlabel with ⟨_, hl⟩ | ⟨_, _, hl⟩ <;> cases hl
        | observed hworker => rcases hworker with ⟨_, _, hl⟩ | ⟨_, _, _, hl⟩ <;> cases hl
        | @reconciled worker claimed snapshot fetchedAt fresh event result hphase howns hstatus
            hresult =>
            cases snapshot with
            | inl payment =>
                rcases reconcilePayment_recovers hresult hexecuted.owned hc' hstate with
                  hold | hfound | ⟨c, hcase, hopen, hcaptured, hacted⟩
                · exact .inl hold
                · exact .inr (.inr (.inl hfound))
                · have hnamed := (reconcilePayment_eq_ok hresult).1
                  exact .inr (.inr (.inr ⟨c, .captured hphase howns hstatus hnamed hcase hopen
                    hcaptured hacted⟩))
            | inr subscription =>
                rcases reconcileSubscription_recovers hresult hc' hstate with
                  hold | ⟨c, hcase, hid, hopen, hactive⟩
                · exact .inl hold
                have hnamed := (reconcileSubscription_eq_ok hresult).1
                by_cases hfound : FoundCaptured s.db c.id
                · -- the report appends to the trail and leaves the actions
                  obtain ⟨⟨e, he, hcase', hkind⟩, hnone⟩ := hfound
                  have hframe := congrArg Db.recoveryActions (reconcileEntity_frame hresult)
                  obtain ⟨reference, href, hlock⟩ := lockCaseByIdentity_eq_ok hcase
                  obtain ⟨c'', -, hprogressed⟩ := ((reconcileEntity_caseEffect hresult)).progressed
                    (caseByReference_some hlock.symm).1
                  obtain ⟨new, hnew, -⟩ := hprogressed.added
                  have hmem : e ∈ result.db.eventsOf c.id := by
                    rw [hnew]
                    exact List.mem_append_left _ (List.mem_filter.mpr ⟨he, by simpa using hcase'⟩)
                  refine .inr (.inr (.inl ⟨⟨e, (List.mem_filter.mp hmem).1, hcase'.trans hid.symm,
                    hkind⟩, fun r hr hrcase => ?_⟩))
                  replace hframe : result.db.recoveryActions = s.db.recoveryActions := hframe
                  exact hnone r (hframe ▸ hr) (hrcase.trans hid)
                · exact .inr (.inr (.inr ⟨c, .active hphase howns hstatus hnamed hcase hopen
                    hactive hfound⟩))
    | polled | delivered =>
        rw [← hdb] at hc' ⊢
        cases hcommit with
        | same => exact .inl ⟨c', hdb ▸ hc', rfl, hstate⟩
        | worked hlabel => rcases hlabel with ⟨_, hl⟩ | ⟨_, _, hl⟩ <;> cases hl
        | observed hworker =>
            have hobserved : (∃ c ∈ s.db.cases, c.id = c'.id ∧ c.currentState = .recovered) ∨
                ∃ a ∈ s'.db.attributions, a.caseId = c'.id := by
              rcases hworker with ⟨_, hphase, hl⟩ | ⟨_, _, hphase, hl⟩ <;> cases hl
              first
              | exact (ObserveStep.poll hphase).recovers h hattributed hc' hstate
              | exact (ObserveStep.webhook hphase).recovers h hattributed hc' hstate
            exact hobserved.imp_right .inl
  · rcases (step_handles hhints h).row hc' with ⟨c, hc, hid, rfl | hrow⟩ | ⟨-, new, hnew, -, hrow⟩
    · exact .inl ⟨c', hc, rfl, hstate⟩
    · -- the row was closed before, and no closed row changes its state
      obtain ⟨c'', hc'', hprogressed⟩ := (hcommit.caseEffect hheld).progressed hc
      obtain rfl : c'' = c' := Table.eq_of_key_eq hc'' hc' (hprogressed.id_eq.trans hid.symm)
      exact .inl ⟨c, hc, hid.symm,
        (hprogressed.terminal (hrow.recovered hl hstate)).symm.trans hstate⟩
    · have hterminal := hrow.recovered hl hstate
      rw [hnew] at hterminal
      exact absurd hterminal (by decide)

/-! ### Runs

A recovery is accounted for by an attribution or by the first entry of the trail that
tells of a capture. The read model looks for the same two, so it reports a closed case
as open exactly where the recovery has neither.
-/

/-- Every recovery is attributed, or was found captured before any action was built. -/
def Accounted (db : Db) : Prop :=
  ∀ c ∈ db.cases, c.currentState = .recovered →
    (∃ a ∈ db.attributions, a.caseId = c.id) ∨ FoundCaptured db c.id

/-- Every case is reported open exactly when it is. -/
def ReportsLifecycle (createdAt : CreatedAt) (db : Db) : Prop :=
  ∀ c ∈ db.cases, ResolutionMatches createdAt db c

instance decidableReportsLifecycle (createdAt : CreatedAt) (db : Db) :
    Decidable (ReportsLifecycle createdAt db) :=
  inferInstanceAs (Decidable (∀ c ∈ db.cases.rows,
    caseResolution createdAt db c ∈ openResolutionKinds ↔ c.currentState ∉ terminalCaseStates))

/-- Only closed cases have attributions. -/
theorem attributed_closed {clock : Int} {s : System}
    (h : Run.Reachable step (System.initial clock) s) {c : PaymentCase} (hc : c ∈ s.db.cases) :
    ∀ a ∈ s.db.attributions, a.caseId = c.id → c.currentState ∈ terminalCaseStates := by
  intro a ha hcase
  obtain ⟨o, ho, hattests⟩ := (attributed_reachable h).2.attested a ha
  rcases (evidence_backed h o ho).closed with ⟨hpending, -⟩ | ⟨c', hc', hid, hterminal⟩
  · rw [hattests.recovered] at hpending
    cases hpending
  · obtain rfl : c' = c :=
      Table.eq_of_key_eq hc' hc (hid.trans (hattests.case_eq.trans hcase))
    exact hterminal

theorem reportsLifecycle_iff {clock : Int} {s : System} (createdAt : CreatedAt)
    (h : Run.Reachable step (System.initial clock) s) :
    ReportsLifecycle createdAt s.db ↔ Accounted s.db :=
  forall₂_congr fun _ hc => resolutionMatches_iff (attributed_closed h hc)

/-- A payment found captured for a closed case stays found. -/
theorem FoundCaptured.kept {s s' : System} {l : Label} (hhints : HintsOk s) (hheld : HeldOk s)
    (h : step s l = some s') {c : PaymentCase} (hc : c ∈ s.db.cases)
    (hterminal : c.currentState ∈ terminalCaseStates) (hfound : FoundCaptured s.db c.id) :
    FoundCaptured s'.db c.id := by
  obtain ⟨⟨e, he, hcase, hkind⟩, hnone⟩ := hfound
  obtain ⟨c', -, hprogressed⟩ := ((step_commit hhints h).caseEffect hheld).progressed hc
  obtain ⟨new, hnew, -⟩ := hprogressed.added
  have hmem : e ∈ s'.db.eventsOf c.id := by
    rw [hnew]
    exact List.mem_append_left _ (List.mem_filter.mpr ⟨he, by simpa using hcase⟩)
  refine ⟨⟨e, (List.mem_filter.mp hmem).1, hcase, hkind⟩, fun r hr hrcase => ?_⟩
  -- an action is built for a case with a validated policy only
  by_cases hold : ∃ y ∈ s.db.recoveryActions, y.id = r.id
  · obtain ⟨y, hy, hid⟩ := hold
    obtain ⟨r', hr', hsame, -⟩ := (step_commit hhints h).persists hy
    obtain rfl : r' = r := Table.eq_of_key_eq hr' hr (hsame.id_eq.trans hid)
    exact hnone y hy (hsame.case_eq.symm.trans hrcase)
  · obtain ⟨worker, c₀, proposal, decision, inputs, builtAt, record, hbuild, rfl⟩ :=
      step_builds (x := ⟨s, l, s'⟩) hhints h hr fun y hy hid => hold ⟨y, hy, hid⟩
    obtain rfl : c₀ = c := by
      refine Table.eq_of_key_eq (Table.mem_of_get? hbuild.authority.stored) hc ?_
      exact (buildRecord_eq_ok hbuild.build).2.1.symm.trans hrcase
    rw [hbuild.authority.state] at hterminal
    exact absurd hterminal (by decide)

/-- A step without an unaccounted recovery keeps every recovery accounted for. -/
theorem accounted_step {clock : Int} {s s' : System} {l : Label}
    (hreach : Run.Reachable step (System.initial clock) s) (hok : Accounted s.db)
    (hnot : ∀ c, ¬ RecoversUnaccounted s l c) (h : step s l = some s') : Accounted s'.db := by
  obtain ⟨hhints, hheld, hexecuted⟩ := executed_reachable hreach
  intro c' hc' hstate
  rcases step_recovers hhints hheld hexecuted (attributed_reachable hreach).2 h hc' hstate with
    ⟨c, hc, hid, hrecovered⟩ | hattributed | hfound | ⟨c, hunaccounted⟩
  · rw [← hid]
    rcases hok c hc hrecovered with ⟨a, ha, hcase⟩ | hfound
    · exact .inl ⟨a, attribution_kept hhints (.cons h .nil) ha, hcase⟩
    · exact .inr (hfound.kept hhints hheld h hc (by rw [hrecovered]; decide))
  · exact .inl hattributed
  · exact .inr hfound
  · exact absurd hunaccounted (hnot c)

/-- What a worker that applies the report on a stored case commits. -/
theorem applied_db {s s' : System} {worker : Nat} {claimed : ClaimedEvent}
    {snapshot : EntitySnapshot} {fetchedAt : Int} {fresh : Fresh} {event : WebhookEvent}
    {result : ReconciliationResult}
    (hphase : s.processors worker = .fetched claimed snapshot fetchedAt)
    (howns : Owns s.db claimed event) (hstatus : event.processingStatus = .processing)
    (hresult : reconcileEntity s.db event snapshot fresh s.clock = .ok result)
    (h : step s (.processor worker (.apply fresh)) = some s') :
    s'.db = { result.db with
      webhookEvents := result.db.webhookEvents.put (event.finish s.clock) } := by
  obtain ⟨m, hm, rfl⟩ := Option.map_eq_some_iff.mp h
  rw [hphase] at hm
  simp only [processorStep, applyReconciliation_of_owns s.clock howns hstatus hresult] at hm
  split at hm
  · cases hm
    rfl
  · cases hm

/-- A step that recovers a case unaccounted leaves a recovery that is not accounted for. -/
theorem RecoversUnaccounted.unaccounted {clock : Int} {s s' : System} {l : Label} {c : PaymentCase}
    (hrecovers : RecoversUnaccounted s l c) (hreach : Run.Reachable step (System.initial clock) s)
    (h : step s l = some s') : ¬ Accounted s'.db := by
  -- the report leaves the case recovered, the attributions as they are, and nothing found
  have hleaves : ∀ {reference : CaseReference} {w : CaseWork},
      some c = s.db.caseByReference reference → c.currentState ∉ terminalCaseStates →
      s'.db.cases = s.db.cases.put w.row → s'.db.attributions = s.db.attributions →
      w.row.id = c.id → w.row.currentState = .recovered → ¬ FoundCaptured s'.db c.id →
      ¬ Accounted s'.db := by
    intro reference w hrow hopen hcases hattributions hid hstate hunfound haccounted
    have hmem := (caseByReference_some hrow.symm).1
    have hmem' : w.row ∈ s'.db.cases := hcases ▸ (Table.mem_put_of_mem hmem hid).mpr (.inr rfl)
    rcases haccounted w.row hmem' hstate with ⟨a, ha, hcase⟩ | hfound
    · exact hopen (attributed_closed hreach hmem a (hattributions ▸ ha) (hcase.trans hid))
    · exact hunfound (hid ▸ hfound)
  cases hrecovers with
  | @captured worker claimed snapshot fetchedAt fresh event _ hphase howns hstatus hnamed hcase hopen
      hcaptured hacted =>
      obtain ⟨reference, href, hrow⟩ := lockCaseByIdentity_eq_ok hcase
      obtain ⟨w, reason, hok, hid, -, hface⟩ :=
        applyPaymentTruth_ok (.lock c) event snapshot false s.clock
      have hresult : reconcileEntity s.db event (.inl snapshot) fresh s.clock =
          .ok ⟨s.db.commitCase w, some c.id, reason⟩ := by
        show reconcilePayment s.db event snapshot fresh s.clock = _
        unfold reconcilePayment
        simp [hnamed, requireSome, require, hcase, hok, bind, Except.bind, pure, Except.pure]
      have hdb := applied_db hphase howns hstatus hresult h
      have hstate : w.row.currentState = .recovered := by
        refine (congrArg PaymentFace.state hface).trans ?_
        show settledState c.currentState snapshot.status = .recovered
        rw [hcaptured]
        revert hopen
        cases c.currentState <;> decide
      refine hleaves hrow hopen (by rw [hdb]; rfl) (by rw [hdb]; rfl) hid hstate fun hfound => ?_
      obtain ⟨r, hr, hrcase⟩ := hacted
      exact hfound.2 r (by rw [hdb]; exact hr) hrcase
  | @active worker claimed snapshot fetchedAt fresh event _ hphase howns hstatus hnamed hcase hopen
      hactive hunfound =>
      obtain ⟨reference, href, hrow⟩ := lockCaseByIdentity_eq_ok hcase
      obtain ⟨w, reason, hok, hstate, hplain⟩ := applySubscriptionTruth_active hactive hopen s.clock
      have hresult : reconcileEntity s.db event (.inr snapshot) fresh s.clock =
          .ok ⟨s.db.commitCase w, some c.id, reason⟩ := by
        show reconcileSubscription s.db event snapshot fresh s.clock = _
        unfold reconcileSubscription
        simp [hnamed, requireSome, require, hcase, hok, bind, Except.bind, pure, Except.pure]
      have hdb := applied_db hphase howns hstatus hresult h
      have hid : w.row.id = c.id := (applySubscriptionTruth_eq_ok hok).1.id_eq
      refine hleaves hrow hopen (by rw [hdb]; rfl) (by rw [hdb]; rfl) hid hstate fun hfound => ?_
      rw [hdb] at hfound
      obtain ⟨⟨e, he, hcase', hkind⟩, hnone⟩ := hfound
      rcases List.mem_append.mp he with he | he
      · exact hunfound ⟨⟨e, he, hcase', hkind⟩, hnone⟩
      · exact hplain e he hkind

/--
**Reported resolutions.**  Along a run every case is reported as open exactly when its
state is, in every state the run reaches, if and only if no step of the run recovers a
case unaccounted: by a payment found captured after an action was built, or by a
subscription found active.
-/
theorem resolution_reported_iff (createdAt : CreatedAt) {clock : Int}
    {tr : List (Run.Step System Label)} {s : System} (h : RunTrace clock tr s) :
    (∀ x ∈ tr, ReportsLifecycle createdAt x.post.db) ↔
      ∀ x ∈ tr, ∀ c, ¬ RecoversUnaccounted x.pre x.label c := by
  have hpost : ∀ x ∈ tr, Run.Reachable step (System.initial clock) x.post := by
    intro x hx
    obtain ⟨tr', htr⟩ := h.reachable_pre hx
    exact ⟨_, .snoc htr (h.step_of_mem hx)⟩
  constructor
  · intro hreports x hx c hrecovers
    exact hrecovers.unaccounted (h.reachable_pre hx) (h.step_of_mem hx)
      ((reportsLifecycle_iff createdAt (hpost x hx)).mp (hreports x hx))
  · intro hnot x hx
    -- the invariant holds before the step, since it holds at the start and is kept
    have hkeep : ∀ y ∈ tr, Accounted y.pre.db → step y.pre y.label = some y.post →
        Accounted y.post.db :=
      fun y hy hpre hs => accounted_step (h.reachable_pre hy) hpre (hnot y hy) hs
    have hinit : Accounted (System.initial clock).db :=
      fun c hc => absurd hc (Table.not_mem_empty c)
    have hpre : Accounted x.pre.db :=
      h.invariant_pre (I := fun s => Accounted s.db) hinit hkeep hx
    exact (reportsLifecycle_iff createdAt (hpost x hx)).mpr (hkeep x hx hpre (h.step_of_mem hx))

end Arc

/-! ### A subscription found active -/

namespace Arc

attribute [local instance] asciiPlatform

/-- A subscription is reported pending, and found active when the report is repeated. -/
def activeRun : List Label := [
  .service (.ingest pendingPayload "evt_0" (.str "c") 2),
  .processor 1 (.claim 2),
  .processor 1 (.fetch .noResponse (.response 200 (some { id := "sub_1", status := "pending" }))),
  .processor 1 (.apply ⟨11, 0⟩),
  .service (.ingest pendingPayload "evt_1" (.str "c") 3),
  .processor 1 (.claim 3),
  .processor 1 (.fetch .noResponse (.response 200 (some { id := "sub_1", status := "active" }))),
  .processor 1 (.apply ⟨12, 0⟩)]

/-- The case is recovered, and reported as pending. -/
theorem active_reported_pending : ∃ createdAt tr s c, RunTrace 0 tr s ∧
    tr.map Run.Step.label = activeRun ∧ c ∈ s.db.cases ∧ c.currentState = .recovered ∧
    caseResolution createdAt s.db c = .pending := by
  have hrun : ((Run.replay step (System.initial 0) activeRun).bind fun s =>
      (s.db.cases.get? 11).map fun c =>
        (c.currentState, caseResolution ⟨fun _ => 0, fun _ => 0⟩ s.db c)) =
      some (.recovered, .pending) := by decide +kernel
  obtain ⟨s, hs, hc⟩ := Option.bind_eq_some_iff.mp hrun
  obtain ⟨c, hc, hrow⟩ := Option.map_eq_some_iff.mp hc
  obtain ⟨tr, htr, hlabels⟩ := Run.Trace.of_replay hs
  rw [Prod.mk.injEq] at hrow
  exact ⟨_, tr, s, c, htr, hlabels, Store.Table.mem_of_get? hc, hrow⟩

theorem resolution_reported_iff_recovered : ∃ createdAt tr s, RunTrace 0 tr s ∧
    tr.map Run.Step.label = recoveredRun ∧ (∀ x ∈ tr, ReportsLifecycle createdAt x.post.db) ∧
      ∀ x ∈ tr, ∀ c, ¬ RecoversUnaccounted x.pre x.label c := by
  have hrun : (Run.replay step (System.initial 0) recoveredRun).isSome = true := by decide +kernel
  have hreports : ∀ x ∈ Run.steps step (System.initial 0) recoveredRun,
      ReportsLifecycle ⟨fun _ => 0, fun _ => 0⟩ x.post.db := by decide +kernel
  obtain ⟨s, hs⟩ := Option.isSome_iff_exists.mp hrun
  obtain ⟨htr, hlabels⟩ := Run.Trace.of_steps hs
  exact ⟨⟨fun _ => 0, fun _ => 0⟩, _, s, htr, hlabels, hreports,
    (resolution_reported_iff _ htr).mp hreports⟩

end Arc
