/-
Revenue is attributed once.

The schema makes an attribution unique for its action and for its provider payment,
but not for its case.  That follows from `Executed`: an attribution is made for an
action that was executed, and a case has one such action at most.
-/
import Arc.Proofs.Actions
import Arc.Store.Column

namespace Arc

open Store

variable [Platform]

/-! ### Attributions and their evidence

The invariant carries the observation next to the attribution it earned. The schema has
no constraint on the case, so that a case has one attribution at most is read off the
action: the one executed action of the case, which has one attribution by the schema.
-/

/-- The observation an attribution was made from. -/
structure RecoveryOutcomeObservation.Attests (o : RecoveryOutcomeObservation)
    (a : RecoveryAttribution) : Prop where
  id_eq : o.id = a.outcomeObservationId
  case_eq : o.caseId = a.caseId
  action_eq : o.recoveryActionId = a.recoveryActionId
  recovered : o.outcomeStatus = .recovered
  positive : 0 < a.recoveredAmountMinor
  expected_eq : o.amountExpectedMinor = a.recoveredAmountMinor
  paid_eq : o.amountPaidMinor = a.recoveredAmountMinor
  currency_eq : o.currency = a.currency
  mode_eq : o.providerMode = a.providerMode
  payment_eq : o.providerPaymentId = some a.providerPaymentId

structure Attributed (db : Db) : Prop where
  /-- An attribution is made for an executed action of its case. -/
  backed : ∀ a ∈ db.attributions, ∃ r ∈ db.recoveryActions,
    r.id = a.recoveryActionId ∧ r.caseId = a.caseId ∧ r.executedAt ≠ none
  attested : ∀ a ∈ db.attributions, ∃ o ∈ db.outcomeObservations, o.Attests a
  action : db.attributions.UniqueColumn RecoveryAttribution.recoveryActionId
  payment : db.attributions.UniqueColumn RecoveryAttribution.providerPaymentId

theorem attributed_empty : Attributed Db.empty :=
  ⟨fun _ ha => absurd ha (Table.not_mem_empty _), fun _ ha => absurd ha (Table.not_mem_empty _),
    Table.uniqueColumn_empty, Table.uniqueColumn_empty⟩

/-- **A case has one attribution at most.** -/
theorem Attributed.case {db : Db} (h : Attributed db) (hexecuted : Executed db) :
    db.attributions.UniqueColumn RecoveryAttribution.caseId := by
  intro a ha a' ha' hcase
  obtain ⟨r, hr, hid, hrcase, hrexecuted⟩ := h.backed a ha
  obtain ⟨r', hr', hid', hrcase', hrexecuted'⟩ := h.backed a' ha'
  have hsame : r = r' := hexecuted.unique r hr r' hr' hrexecuted hrexecuted'
    (hrcase.trans (hcase.trans hrcase'.symm))
  exact h.action a ha a' ha' (hid.symm.trans (hsame ▸ hid'))

/-- An executed action is still there after any step, and still executed. -/
theorem ActionEffect.executed_stays {db db' : Db} (h : ActionEffect db db')
    {r : RecoveryActionRecord} (hr : r ∈ db.recoveryActions) (hexecuted : r.executedAt ≠ none) :
    ∃ r' ∈ db'.recoveryActions, r.SameAction r' ∧ r'.executedAt ≠ none := by
  cases h with
  | unchanged hrows => exact ⟨r, by rwa [hrows], .refl r, hexecuted⟩
  | added hnew hc hcase hnone hstatus hrows =>
      exact ⟨r, (hrows r).mpr (.inl hr), .refl r, hexecuted⟩
  | @rewritten r₀ r' hr₀ hsame hkept hstatus hrows =>
      by_cases hkey : r.id = r₀.id
      · obtain rfl : r = r₀ := Table.eq_of_key_eq hr hr₀ hkey
        exact ⟨r', (hrows r').mpr (.inr rfl), hsame, hkept ▸ hexecuted⟩
      · exact ⟨r, (hrows r).mpr (.inl ⟨hr, hkey⟩), .refl r, hexecuted⟩
  | @executed r₀ r' c c' hr₀ hsame hdone hc hcase hstate hc' hid hstate' hrows =>
      by_cases hkey : r.id = r₀.id
      · obtain rfl : r = r₀ := Table.eq_of_key_eq hr hr₀ hkey
        exact ⟨r', (hrows r').mpr (.inr rfl), hsame, hdone⟩
      · exact ⟨r, (hrows r).mpr (.inl ⟨hr, hkey⟩), .refl r, hexecuted⟩

/-- A step that adds no attribution and deletes no observation keeps them. -/
theorem Attributed.of_kept {db db' : Db} (h : Attributed db) (hactions : ActionEffect db db')
    (hattributions : db'.attributions = db.attributions)
    (hobservations : ∀ o ∈ db.outcomeObservations, o ∈ db'.outcomeObservations) :
    Attributed db' := by
  refine ⟨?_, ?_, ?_, ?_⟩ <;> rw [hattributions]
  · intro a ha
    obtain ⟨r, hr, hid, hcase, hexecuted⟩ := h.backed a ha
    obtain ⟨r', hr', hsame, hexecuted'⟩ := hactions.executed_stays hr hexecuted
    exact ⟨r', hr', hsame.id_eq.trans hid, hsame.case_eq.trans hcase, hexecuted'⟩
  · intro a ha
    obtain ⟨o, ho, hattests⟩ := h.attested a ha
    exact ⟨o, hobservations o ho, hattests⟩
  · exact h.action
  · exact h.payment

/-- The attribution evidence earns, next to the observation it is stored with. -/
theorem attests_new {claim : ObservationClaim} {c : PaymentCase} {snapshot : PaymentLinkSnapshot}
    {classification : OutcomeClassification} {source : OutcomeObservationSource}
    {fingerprint : Digest} {fresh : ObservationFresh} {paymentId : String}
    (hpositive : 0 < claim.expected.amountMinor)
    (hpaid : snapshot.amountPaid = claim.expected.amountMinor)
    (hstatus : classification.outcomeStatus = .recovered)
    (hpayment : classification.providerPaymentId = some paymentId) :
    (newObservation claim c claim.expected snapshot classification source fingerprint fresh).Attests
      (newAttribution claim c claim.expected snapshot classification fingerprint fresh) := by
  refine ⟨rfl, rfl, rfl, hstatus, hpositive, rfl, hpaid, rfl, rfl, ?_⟩
  simp [newObservation, newAttribution, hpayment]

theorem Attributed.step {s : System} {l : Label} {db' : Db} (h : Attributed s.db)
    (hok : HeldOk s) (hexecuted : Executed s.db) (hcommit : Commit s l db') :
    Attributed db' := by
  have hactions := hcommit.actionEffect hok
  cases hcommit with
  | executed hm =>
      refine h.of_kept hactions ?_ ?_
      · rw [hm.frame]
      · rw [hm.frame]
        exact fun o ho => ho
  | @reconciled worker claimed snapshot fetchedAt fresh event result hphase howns hstatus hresult =>
      have hframe := reconcileEntity_frame hresult
      have hattributions : result.db.attributions = s.db.attributions := by rw [hframe]
      have hobservations : result.db.outcomeObservations = s.db.outcomeObservations := by
        rw [hframe]
      refine h.of_kept hactions hattributions fun o ho => ?_
      show o ∈ result.db.outcomeObservations
      rw [hobservations]
      exact ho
  | @observed l claim snapshot source fresh action c attributions observation observations w
      hworker hobservable hevidence hinsert hw hmoves =>
      have hkeep : ∀ o ∈ s.db.outcomeObservations, o ∈ observations :=
        fun o ho => (Table.insert?_mem hinsert).mpr (.inl ho)
      cases hevidence with
      | kept => exact h.of_kept hactions rfl hkeep
      | @attributed payment attributions classification hpayments hcaptured hamount hpaid hstatus
          hpayment hopen hattribution =>
          obtain ⟨hinserted, hfree⟩ := insertAttribution_eq_some hattribution
          have hadded := fun a => Table.insert?_mem hinserted (x := a)
          -- the action has succeeded, so it was executed
          have hmem := Table.mem_of_get? hobservable.action_eq
          have hkey : action.id = claim.expected.recoveryActionId :=
            Table.get?_key hobservable.action_eq
          have hcase : action.caseId = c.id := (Table.get?_key hobservable.case_eq).symm
          have hdone := hexecuted.succeeded action hmem hobservable.succeeded
          refine ⟨?_, ?_, ?_, ?_⟩
          · intro a ha
            rcases (hadded a).mp ha with ha | rfl
            · obtain ⟨r, hr, hid, hrcase, hrdone⟩ := h.backed a ha
              obtain ⟨r', hr', hsame, hrdone'⟩ := hactions.executed_stays hr hrdone
              exact ⟨r', hr', hsame.id_eq.trans hid, hsame.case_eq.trans hrcase, hrdone'⟩
            · obtain ⟨r', hr', hsame, hrdone'⟩ := hactions.executed_stays hmem hdone
              exact ⟨r', hr', hsame.id_eq.trans hkey, hsame.case_eq.trans hcase, hrdone'⟩
          · intro a ha
            rcases (hadded a).mp ha with ha | rfl
            · obtain ⟨o, ho, hattests⟩ := h.attested a ha
              exact ⟨o, hkeep o ho, hattests⟩
            · exact ⟨_, (Table.insert?_mem hinsert).mpr (.inr rfl),
                attests_new hobservable.positive hpaid hstatus hpayment⟩
          · exact h.action.insert hinserted fun a ha => (hfree a ha).1
          · exact h.payment.insert hinserted fun a ha => (hfree a ha).2.2
  | _ => exact h.of_kept hactions rfl fun o ho => ho

theorem attributed_reachable {clock : Int} {s : System}
    (h : Run.Reachable step (System.initial clock) s) : Executed s.db ∧ Attributed s.db := by
  suffices hall : (HintsOk s ∧ HeldOk s ∧ Executed s.db) ∧ Attributed s.db from
    ⟨hall.1.2.2, hall.2⟩
  obtain ⟨tr, htr⟩ := h
  refine ⟨executed_reachable ⟨tr, htr⟩, ?_⟩
  refine htr.invariant (I := fun s => Attributed s.db) attributed_empty
    fun x hx hattributed hs => ?_
  obtain ⟨hhints, hheld, hexecuted⟩ := executed_reachable (htr.reachable_pre hx)
  exact hattributed.step hheld hexecuted (step_commit hhints hs)

/-! ### The snapshot an attribution was made from -/

/-- The step stores what an observer has read, be it a poll or for a webhook. -/
def Observes (s : System) (l : Label) (snapshot : PaymentLinkSnapshot) : Prop :=
  (∃ worker claim fresh, s.observers worker = .fetched claim snapshot ∧
    l = .observer worker (.persist fresh)) ∨
  (∃ worker event claim fresh, s.processors worker = .observed event claim snapshot ∧
    l = .processor worker (.persistObservation fresh))

/-- The step persists a snapshot under the claim it was fetched with. -/
inductive ObserveStep (s : System) : Label → ObservationClaim → PaymentLinkSnapshot →
    OutcomeObservationSource → ObservationFresh → Prop
  | poll {worker : Nat} {claim : ObservationClaim} {snapshot : PaymentLinkSnapshot}
      {fresh : ObservationFresh} (hphase : s.observers worker = .fetched claim snapshot) :
      ObserveStep s (.observer worker (.persist fresh)) claim snapshot .poll fresh
  | webhook {worker : Nat} {event : ClaimedEvent} {claim : ObservationClaim}
      {snapshot : PaymentLinkSnapshot} {fresh : ObservationFresh}
      (hphase : s.processors worker = .observed event claim snapshot) :
      ObserveStep s (.processor worker (.persistObservation fresh)) claim snapshot
        .webhookTriggered fresh

/-- Such a step commits what `persistObservation` does, or raises and changes nothing. -/
theorem ObserveStep.commits {s s' : System} {l : Label} {claim : ObservationClaim}
    {snapshot : PaymentLinkSnapshot} {source : OutcomeObservationSource} {fresh : ObservationFresh}
    (h : ObserveStep s l claim snapshot source fresh) (hs : step s l = some s') :
    fresh.observedAt ≤ s.clock ∧
      s'.db = (match persistObservation s.db claim snapshot source fresh with
        | .ok (db, _) => db
        | .error _ => s.db) := by
  cases h with
  | poll hphase =>
      obtain ⟨m, hm, rfl⟩ := Option.map_eq_some_iff.mp hs
      rw [hphase] at hm
      simp only [observerStep] at hm
      split at hm
      · rename_i hclock
        refine ⟨hclock, ?_⟩
        rcases hpersist : persistObservation s.db claim snapshot .poll fresh with _ | ⟨db, result⟩
        all_goals
          rw [hpersist] at hm
          cases hm
          rfl
      · cases hm
  | webhook hphase =>
      obtain ⟨m, hm, rfl⟩ := Option.map_eq_some_iff.mp hs
      rw [hphase] at hm
      simp only [processorStep] at hm
      split at hm
      · rename_i hclock
        refine ⟨hclock, ?_⟩
        rcases hpersist : persistObservation s.db claim snapshot .webhookTriggered fresh with _ | ⟨db, result⟩
        all_goals
          rw [hpersist] at hm
          cases hm
          rfl
      · cases hm

theorem ObserveStep.persisted {s s' : System} {l : Label} {claim : ObservationClaim}
    {snapshot : PaymentLinkSnapshot} {source : OutcomeObservationSource} {fresh : ObservationFresh}
    (h : ObserveStep s l claim snapshot source fresh) (hs : step s l = some s') :
    fresh.observedAt ≤ s.clock ∧ (s'.db = s.db ∨
      ∃ result, persistObservation s.db claim snapshot source fresh = .ok (s'.db, result)) := by
  obtain ⟨hclock, hdb⟩ := h.commits hs
  refine ⟨hclock, ?_⟩
  split at hdb
  · rename_i db result hpersist
    exact .inr ⟨result, by rw [hdb, hpersist]⟩
  · exact .inl hdb

/-- The step made the attribution, from a snapshot with one captured payment. -/
structure Earned (x : Run.Step System Label) (a : RecoveryAttribution) : Prop where
  new : a ∉ x.pre.db.attributions
  added : a ∈ x.post.db.attributions
  snapshot : ∃ snapshot payment, Observes x.pre x.label snapshot ∧
    snapshot.id = a.providerPaymentLinkId ∧ snapshot.payments = [payment] ∧
    payment.status = "captured" ∧ payment.paymentId = a.providerPaymentId ∧
    payment.amount = a.recoveredAmountMinor

theorem Commit.earned {s s' : System} {l : Label} (h : Commit s l s'.db) {a : RecoveryAttribution}
    (hnew : a ∉ s.db.attributions) (hadded : a ∈ s'.db.attributions) : Earned ⟨s, l, s'⟩ a := by
  refine ⟨hnew, hadded, ?_⟩
  generalize s'.db = db' at h hadded
  cases h with
  | executed hm =>
      rw [hm.frame] at hadded
      exact absurd hadded hnew
  | @reconciled worker claimed snapshot fetchedAt fresh event result hphase howns hstatus hresult =>
      have hattributions : result.db.attributions = s.db.attributions := by
        rw [reconcileEntity_frame hresult]
      exact absurd (hattributions ▸ hadded) hnew
  | @observed l claim snapshot source fresh action c attributions observation observations w
      hworker hobservable hevidence hinsert hw hmoves =>
      cases hevidence with
      | kept => exact absurd hadded hnew
      | @attributed payment attributions classification hpayments hcaptured hamount hpaid hstatus
          hpayment hopen hattribution =>
          rcases (Table.insert?_mem (insertAttribution_eq_some hattribution).1).mp hadded
            with ha | rfl
          · exact absurd ha hnew
          · refine ⟨snapshot, payment, ?_, rfl, hpayments, hcaptured, ?_, hamount⟩
            · rcases hworker with ⟨worker, hphase, rfl⟩ | ⟨worker, event, hphase, rfl⟩
              · exact .inl ⟨worker, claim, fresh, hphase, rfl⟩
              · exact .inr ⟨worker, event, claim, fresh, hphase, rfl⟩
            · simp [newAttribution, hpayment]
  | _ => exact absurd hadded hnew

/-! ### Sums

Revenue is summed over sets of cases, and the payments behind it over the same sets.
Since an attribution belongs to one case and to one payment, the sums over cases and
over payments are sums over the same rows, and no amount enters twice.
-/

/-- The revenue attributed to a set of cases. -/
def Db.recoveredOver (db : Db) (cases : Finset Uuid) : Nat :=
  ((db.attributions.select fun a => decide (a.caseId ∈ cases)).map
    RecoveryAttribution.recoveredAmountMinor).sum

/-- The provider payments attributed to a set of cases. -/
def Db.paymentsOver (db : Db) (cases : Finset Uuid) : Finset String :=
  ((db.attributions.select fun a => decide (a.caseId ∈ cases)).map
    RecoveryAttribution.providerPaymentId).toFinset

/-- What one case has recovered. -/
def Db.recoveredFor (db : Db) (caseId : Uuid) : Nat :=
  db.attributions.valueAt RecoveryAttribution.caseId RecoveryAttribution.recoveredAmountMinor caseId

/-- What one provider payment has recovered. -/
def Db.recoveredBy (db : Db) (paymentId : String) : Nat :=
  db.attributions.valueAt RecoveryAttribution.providerPaymentId
    RecoveryAttribution.recoveredAmountMinor paymentId

/--
**Exactly-once attribution.**  In every state a run reaches, a case, an action and a
provider payment have one attribution each at most; every attribution has its
observation, and was made by a step of the run from a snapshot with one captured
payment of its amount.  So the revenue attributed to any set of cases is the sum over
the cases, and the sum over the provider payments, each counted once.
-/
theorem revenue_attributed_once {clock : Int} {tr : List (Run.Step System Label)} {s : System}
    (h : RunTrace clock tr s) :
    s.db.attributions.UniqueColumn RecoveryAttribution.caseId ∧
    s.db.attributions.UniqueColumn RecoveryAttribution.recoveryActionId ∧
    s.db.attributions.UniqueColumn RecoveryAttribution.providerPaymentId ∧
    (∀ a ∈ s.db.attributions, (∃ o ∈ s.db.outcomeObservations, o.Attests a) ∧
      ∃ x ∈ tr, Earned x a) ∧
    (∀ cases : Finset Uuid,
      s.db.recoveredOver cases = ∑ c ∈ cases, s.db.recoveredFor c ∧
      s.db.recoveredOver cases = ∑ p ∈ s.db.paymentsOver cases, s.db.recoveredBy p) := by
  obtain ⟨hexecuted, hattributed⟩ := attributed_reachable ⟨tr, h⟩
  have hcase := hattributed.case hexecuted
  refine ⟨hcase, hattributed.action, hattributed.payment, ?_, fun cases => ⟨?_, ?_⟩⟩
  · intro a ha
    refine ⟨hattributed.attested a ha, ?_⟩
    obtain ⟨x, hx, hnew, hadded⟩ :=
      h.exists_step (P := fun s => a ∈ s.db.attributions) (Table.not_mem_empty a) ha
    obtain ⟨hhints, -⟩ := executed_reachable (h.reachable_pre hx)
    exact ⟨x, hx, (step_commit hhints (h.step_of_mem hx)).earned hnew hadded⟩
  · exact hcase.sum_mem_eq _ _
  · exact hattributed.payment.sum_eq _ _

end Arc

namespace Arc

attribute [local instance] asciiPlatform

theorem revenue_attributed_once_recovered : ∃ tr s, RunTrace 0 tr s ∧
    tr.map Run.Step.label = recoveredRun ∧ s.db.recoveredFor 10 = 1000 ∧
    s.db.recoveredOver {10, 11} = ∑ c ∈ {10, 11}, s.db.recoveredFor c := by
  have hrun : ((Run.replay step (System.initial 0) recoveredRun).map
      fun s => s.db.recoveredFor 10) = some 1000 := by decide +kernel
  obtain ⟨s, hs, hrecovered⟩ := Option.map_eq_some_iff.mp hrun
  obtain ⟨tr, htr, hlabels⟩ := Run.Trace.of_replay hs
  exact ⟨tr, s, htr, hlabels, hrecovered,
    ((revenue_attributed_once htr).2.2.2.2 {10, 11}).1⟩

end Arc
