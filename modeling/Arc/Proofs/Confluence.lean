/-
The order of observations does not matter for the money.

Several observers persist snapshots of one link in any order and any number of times,
and no other service touches the case or its action meanwhile.  Pending, expired,
cancelled and disputed evidence moves the case to different states, but whether the
action has its attribution depends on one question only: whether a snapshot among them
shows the recovery.
-/
import Arc.Proofs.Evidence

namespace Arc

open Store

variable [Platform]

/-! ### Runs of observations

A run here is any interleaving of observers of one link, polls and webhooks alike, with
steps of other services that leave the action and its case alone. All snapshots that
show the recovery name one payment, which no other action has counted.
-/

/-- The step persists a snapshot under a claim on the given evidence, with new identifiers. -/
def PersistsSnapshot (claim : ObservationClaim) (x : Run.Step System Label)
    (snapshot : PaymentLinkSnapshot) : Prop :=
  ∃ claim' source fresh, ObserveStep x.pre x.label claim' snapshot source fresh ∧
    claim'.expected = claim.expected ∧ claim'.caseId = claim.caseId ∧
    (∀ o ∈ x.pre.db.outcomeObservations, o.id ≠ fresh.observationId) ∧
    ∀ a ∈ x.pre.db.attributions, a.id ≠ fresh.attributionId

/-- The step is none of an observation of the action, and leaves the action and its case alone. -/
inductive Unrelated (claim : ObservationClaim) (x : Run.Step System Label) : Prop
  | idle (hdb : x.post.db = x.pre.db)
  | other
      (hother : ∀ claim' snapshot source fresh,
        ObserveStep x.pre x.label claim' snapshot source fresh →
        claim'.expected.recoveryActionId ≠ claim.expected.recoveryActionId)
      (hcase : x.post.db.cases.get? claim.caseId = x.pre.db.cases.get? claim.caseId)
      (haction : x.post.db.recoveryActions.get? claim.expected.recoveryActionId =
        x.pre.db.recoveryActions.get? claim.expected.recoveryActionId)

/-- A snapshot was persisted in one of the steps. -/
def PersistedIn (claim : ObservationClaim) (tr : List (Run.Step System Label))
    (snapshot : PaymentLinkSnapshot) : Prop :=
  ∃ x ∈ tr, PersistsSnapshot claim x snapshot

/-- The snapshot is classified as the recovery of what is expected. -/
def ShowsRecovery (claim : ObservationClaim) (snapshot : PaymentLinkSnapshot) : Prop :=
  (classifyPaymentLinkOutcome claim.expected snapshot).outcomeStatus = .recovered

/--
A run in which snapshots of one link are persisted.  Those that show a recovery name the
provider payment `paymentId`, which is attributed to no other action.
-/
structure Observing (s : System) (claim : ObservationClaim) (paymentId : String)
    (tr : List (Run.Step System Label)) (s' : System) : Prop where
  run : Run.Trace step s tr s'
  steps : ∀ x ∈ tr, (∃ snapshot, PersistsSnapshot claim x snapshot) ∨ Unrelated claim x
  one : ∀ snapshot, PersistedIn claim tr snapshot → ShowsRecovery claim snapshot →
    (classifyPaymentLinkOutcome claim.expected snapshot).providerPaymentId = some paymentId
  other : ∀ x ∈ tr, ∀ a ∈ x.pre.db.attributions, a.providerPaymentId = paymentId →
    a.recoveryActionId = claim.expected.recoveryActionId

/-! ### The verdict on new evidence

The stored evidence decides what new evidence may add: `Uncontested` is the situation in
which a recovery is counted as it shows. It is kept by everything that shows no recovery
and by the recovery itself, which the second time finds its own attribution.
-/

/-- A payment, the attribution of an action and the state of its case leave no conflict. -/
structure Uncontested (db : Db) (action : RecoveryActionRecord) (c : PaymentCase)
    (paymentId : String) : Prop where
  other : ∀ a ∈ db.attributions, a.providerPaymentId = paymentId → a.recoveryActionId = action.id
  same : ∀ a ∈ db.attributions, a.recoveryActionId = action.id → a.providerPaymentId = paymentId
  not_recovered : (∀ a ∈ db.attributions, a.recoveryActionId ≠ action.id) → c.currentState ≠ .recovered

section

variable {db : Db} {claim : ObservationClaim} {snapshot : PaymentLinkSnapshot}
  {fresh : ObservationFresh} {action : RecoveryActionRecord} {c : PaymentCase}

/-- Evidence that shows no recovery adds no attribution. -/
theorem evidenceOutcome_of_not (h : ¬ ShowsRecovery claim snapshot) :
    evidenceOutcome db claim snapshot fresh action c =
      ⟨db.attributions, db.attributionForAction action.id,
        classifyPaymentLinkOutcome claim.expected snapshot⟩ := by
  have hprotected : protectedClassification db action c claim.expected snapshot =
      classifyPaymentLinkOutcome claim.expected snapshot := by
    have hstatus : (classifyPaymentLinkOutcome claim.expected snapshot).outcomeStatus ≠
      .recovered := h
    unfold protectedClassification protectExistingCaseAndAttribution
    rw [if_pos hstatus]
  unfold evidenceOutcome attributeRevenue
  simp only [hprotected]
  rw [if_neg fun hnew => h hnew.1]

/-- A recovery that no other action has counted is classified as it shows. -/
theorem protectedClassification_of_free {paymentId : String} (h : ShowsRecovery claim snapshot)
    (hpayment : (classifyPaymentLinkOutcome claim.expected snapshot).providerPaymentId
      = some paymentId)
    (hfree : Uncontested db action c paymentId) :
    protectedClassification db action c claim.expected snapshot =
      classifyPaymentLinkOutcome claim.expected snapshot := by
  have hstatus : (classifyPaymentLinkOutcome claim.expected snapshot).outcomeStatus =
    .recovered := h
  unfold protectedClassification protectExistingCaseAndAttribution
  rw [if_neg (not_not.mpr hstatus), hpayment]
  simp only
  have hcounted : ((db.attributionForPayment paymentId).any
      fun a => a.recoveryActionId != action.id) = false := by
    cases hfound : db.attributionForPayment paymentId with
    | none => rfl
    | some a =>
        obtain ⟨ha, hid⟩ := Table.first?_mem hfound
        simpa using hfree.other a ha (by simpa using hid)
  rw [hcounted]
  simp only [Bool.false_eq_true, if_false]
  cases hexisting : db.attributionForAction action.id with
  | some a =>
      obtain ⟨ha, hid⟩ := Table.first?_mem hexisting
      exact if_pos (hfree.same a ha (by simpa using hid))
  | none =>
      have hnone : ∀ a ∈ db.attributions, a.recoveryActionId ≠ action.id := by
        intro a ha
        simpa using Table.first?_eq_none.mp hexisting a ha
      exact if_neg (hfree.not_recovered hnone)

/-- What a recovery that no other action has counted adds to the attributions. -/
theorem evidenceOutcome_of_free {paymentId : String} (h : ShowsRecovery claim snapshot)
    (hpayment : (classifyPaymentLinkOutcome claim.expected snapshot).providerPaymentId
      = some paymentId)
    (hfree : Uncontested db action c paymentId)
    (hid : action.id = claim.expected.recoveryActionId)
    (hattribution : ∀ a ∈ db.attributions, a.id ≠ fresh.attributionId)
    (hobservation : ∀ a ∈ db.attributions, a.outcomeObservationId ≠ fresh.observationId) :
    (evidenceOutcome db claim snapshot fresh action c).classification =
      classifyPaymentLinkOutcome claim.expected snapshot ∧
    ((evidenceOutcome db claim snapshot fresh action c).attributions = db.attributions ∧
        (∃ a ∈ db.attributions, a.recoveryActionId = action.id) ∨
      (∀ a ∈ db.attributions, a.recoveryActionId ≠ action.id) ∧
      db.attributions.insert? (newAttribution claim c claim.expected snapshot
          (classifyPaymentLinkOutcome claim.expected snapshot)
          (buildOutcomeEvidenceFingerprint claim.expected.recoveryActionId snapshot) fresh) =
        some (evidenceOutcome db claim snapshot fresh action c).attributions) := by
  have hprotected := protectedClassification_of_free h hpayment hfree
  unfold evidenceOutcome attributeRevenue
  simp only [hprotected]
  cases hexisting : db.attributionForAction action.id with
  | some a =>
      rw [if_neg fun hnew => by cases hnew.2]
      obtain ⟨ha, haction⟩ := Table.first?_mem hexisting
      exact ⟨rfl, .inl ⟨rfl, a, ha, by simpa using haction⟩⟩
  | none =>
      have hnone : ∀ a ∈ db.attributions, a.recoveryActionId ≠ action.id := by
        intro a ha
        simpa using Table.first?_eq_none.mp hexisting a ha
      obtain ⟨attributions, hinsert⟩ := Table.exists_insert?
        (r := newAttribution claim c claim.expected snapshot
          (classifyPaymentLinkOutcome claim.expected snapshot)
          (buildOutcomeEvidenceFingerprint claim.expected.recoveryActionId snapshot) fresh)
        (Table.get?_eq_none.mpr hattribution)
      have hinserted : insertAttribution db.attributions (newAttribution claim c claim.expected
          snapshot (classifyPaymentLinkOutcome claim.expected snapshot)
          (buildOutcomeEvidenceFingerprint claim.expected.recoveryActionId snapshot) fresh) =
          some attributions := by
        unfold insertAttribution
        rw [if_neg, hinsert]
        rw [Bool.not_eq_true, Table.any_eq_false]
        intro a ha
        have hpaid : a.providerPaymentId ≠ paymentId :=
          fun hsame => hnone a ha (hfree.other a ha hsame)
        simp [newAttribution, hpayment, hpaid, hobservation a ha, ← hid, hnone a ha]
      rw [if_pos ⟨h, rfl⟩, hinserted]
      exact ⟨rfl, .inr ⟨hnone, hinsert⟩⟩

variable (claim fresh) in
/-- What new evidence adds to the attributions, when it contests none. -/
theorem evidenceOutcome_attributions {paymentId : String}
    (hpayment : ShowsRecovery claim snapshot →
      (classifyPaymentLinkOutcome claim.expected snapshot).providerPaymentId = some paymentId)
    (hfree : Uncontested db action c paymentId)
    (hid : action.id = claim.expected.recoveryActionId)
    (hattribution : ∀ a ∈ db.attributions, a.id ≠ fresh.attributionId)
    (hobservation : ∀ a ∈ db.attributions, a.outcomeObservationId ≠ fresh.observationId) :
    (evidenceOutcome db claim snapshot fresh action c).classification =
      classifyPaymentLinkOutcome claim.expected snapshot ∧
    (∀ a ∈ db.attributions, a ∈ (evidenceOutcome db claim snapshot fresh action c).attributions) ∧
    (∀ a ∈ (evidenceOutcome db claim snapshot fresh action c).attributions,
      a ∈ db.attributions ∨ ShowsRecovery claim snapshot ∧
        a = newAttribution claim c claim.expected snapshot
          (classifyPaymentLinkOutcome claim.expected snapshot)
          (buildOutcomeEvidenceFingerprint claim.expected.recoveryActionId snapshot) fresh) ∧
    (ShowsRecovery claim snapshot →
      ∃ a ∈ (evidenceOutcome db claim snapshot fresh action c).attributions,
        a.recoveryActionId = action.id) := by
  by_cases hshows : ShowsRecovery claim snapshot
  · obtain ⟨hclass, ⟨hkept, hmine⟩ | ⟨-, hinsert⟩⟩ := evidenceOutcome_of_free hshows
      (hpayment hshows) hfree hid hattribution hobservation
    · rw [hkept]
      exact ⟨hclass, fun a ha => ha, fun a ha => .inl ha, fun _ => hmine⟩
    · have hadded := fun a => Table.insert?_mem hinsert (x := a)
      exact ⟨hclass, fun a ha => (hadded a).mpr (.inl ha),
        fun a ha => ((hadded a).mp ha).imp_right fun hnew => ⟨hshows, hnew⟩,
        fun _ => ⟨_, (hadded _).mpr (.inr rfl), hid.symm⟩⟩
  · rw [evidenceOutcome_of_not hshows]
    exact ⟨rfl, fun a ha => ha, fun a ha => .inl ha, fun h => absurd h hshows⟩

end

/-! ### What a run of observations gathers

`Gathered` compares the database with the set of snapshots persisted so far: the
evidence of each is stored, and the attribution is there where one of them shows the
recovery. The order of the steps does not occur in it.
-/

/-- An action and its case are still observed as expected after new evidence. -/
theorem validateObservable_moved {action : RecoveryActionRecord} {c c' : PaymentCase}
    {expected : ExpectedPaymentLinkEvidence} (h : validateObservable action c = .ok expected)
    (status : Option String) (htruth : c'.truth = c.truth)
    (hstate : c'.currentState ∈ observableStates) :
    validateObservable { action with externalStatus := status } c' = .ok expected := by
  have hamount : c'.amount = c.amount := congrArg CaseTruth.amount htruth
  have hcurrency : c'.currency = c.currency := congrArg CaseTruth.currency htruth
  obtain ⟨_, hkind, h⟩ := bind_eq_ok.mp h
  obtain ⟨linkId, hlink, h⟩ := bind_eq_ok.mp h
  obtain ⟨reference, href, h⟩ := bind_eq_ok.mp h
  obtain ⟨amount, hpositive, h⟩ := bind_eq_ok.mp h
  obtain ⟨_, hlength, h⟩ := bind_eq_ok.mp h
  obtain ⟨_, -, h⟩ := bind_eq_ok.mp h
  refine bind_eq_ok.mpr ⟨_, hkind, bind_eq_ok.mpr ⟨linkId, hlink, bind_eq_ok.mpr ⟨reference, href,
    bind_eq_ok.mpr ⟨amount, hamount ▸ hpositive, ?_⟩⟩⟩⟩
  rw [hcurrency]
  exact bind_eq_ok.mpr ⟨_, hlength, bind_eq_ok.mpr ⟨(), require_eq_ok.mpr hstate, h⟩⟩

omit [Platform] in
theorem outcomeState_observable {status : RecoveryOutcomeStatus} {state : CaseState}
    (h : state ∈ observableStates) : outcomeState status state ∈ observableStates := by
  unfold outcomeState
  split
  · cases status <;> decide
  · exact h

omit [Platform] in
theorem outcomeState_ne_recovered {status : RecoveryOutcomeStatus} {state : CaseState}
    (hstatus : status ≠ .recovered) (hstate : state ≠ .recovered) :
    outcomeState status state ≠ .recovered := by
  unfold outcomeState
  split
  · cases status with
    | recovered => exact absurd rfl hstatus
    | _ => decide
  · exact hstate

/-- What the snapshots persisted so far have left in the database. -/
structure Gathered (claim : ObservationClaim) (paymentId : String)
    (persisted : PaymentLinkSnapshot → Prop) (db : Db) : Prop where
  observed : ∃ action c,
    lockActionAndCase db claim.expected.recoveryActionId = .ok (action, c) ∧
    validateObservable action c = .ok claim.expected ∧ c.id = claim.caseId ∧
    ((∀ a ∈ db.attributions, a.recoveryActionId ≠ claim.expected.recoveryActionId) →
      c.currentState ≠ .recovered)
  stored : ∀ snapshot, persisted snapshot →
    EvidenceStored db claim.expected.recoveryActionId snapshot
  attributed : ∀ snapshot, EvidenceStored db claim.expected.recoveryActionId snapshot →
    ShowsRecovery claim snapshot →
    ∃ a ∈ db.attributions, a.recoveryActionId = claim.expected.recoveryActionId
  earned : ∀ a ∈ db.attributions, a.recoveryActionId = claim.expected.recoveryActionId →
    (∃ snapshot, persisted snapshot ∧ ShowsRecovery claim snapshot) ∧
    a.caseId = claim.caseId ∧ a.providerPaymentId = paymentId ∧
    a.recoveredAmountMinor = claim.expected.amountMinor ∧ a.currency = claim.expected.currency

/-- An observation prepared on a waiting case starts with nothing gathered. -/
theorem gathered_initial (hhash : Function.Injective Platform.hashFacts) {clock : Int} {s : System}
    (h : Run.Reachable step (System.initial clock) s) {recoveryActionId : Uuid}
    {providerMode : ProviderMode} {claim : ObservationClaim}
    (hclaim : prepareObservation s.db recoveryActionId providerMode = .ok claim)
    (hwaiting : ∀ c ∈ s.db.cases, c.id = claim.caseId → c.currentState = .waitingForOutcome)
    (paymentId : String) : Gathered claim paymentId (fun _ => False) s.db := by
  obtain ⟨action, c, hlocks, hvalid, hcid, hobservable⟩ := prepareObservation_eq_ok hclaim
  have hid : action.id = claim.expected.recoveryActionId := Table.get?_key hobservable.action_eq
  have hc := Table.mem_of_get? hobservable.case_eq
  have hstate : c.currentState = .waitingForOutcome := hwaiting c hc hcid
  obtain ⟨hnone, hopen⟩ := waiting_pending h (Table.mem_of_get? hobservable.action_eq) hc
    (Table.get?_key hobservable.case_eq).symm hstate
  rw [hid] at hnone hopen
  refine ⟨⟨action, c, hlocks, hvalid, hcid, fun _ => by rw [hstate]; decide⟩, fun _ h => h.elim, ?_,
    fun a ha haction => absurd haction (hnone a ha)⟩
  -- what is stored already was made from an open link, and a recovery is shown by a paid one
  rintro snapshot ⟨o, ho, haction, hfingerprint⟩ hshows
  obtain ⟨-, ⟨read, hread, hfingerprint'⟩, -⟩ := evidence_backed h o ho
  have hstatus := (evidence_determined hhash (hfingerprint'.symm.trans hfingerprint)).2.2.1
  have hpaid := (classify_status claim.expected snapshot).2 hshows
  rcases (hopen o ho haction).2 with hcreated | hissued
  · rw [← hstatus, hread, hcreated] at hpaid
    exact absurd hpaid (by decide)
  · rw [← hstatus, hread, hissued] at hpaid
    exact absurd hpaid (by decide)

theorem Gathered.congr {claim : ObservationClaim} {paymentId : String}
    {persisted persisted' : PaymentLinkSnapshot → Prop} {db : Db}
    (h : Gathered claim paymentId persisted db)
    (hsame : ∀ snapshot, persisted snapshot ↔ persisted' snapshot) :
    Gathered claim paymentId persisted' db := by
  obtain rfl : persisted = persisted' := funext fun snapshot => propext (hsame snapshot)
  exact h

/-- One more snapshot is persisted. -/
theorem Gathered.persist (hhash : Function.Injective Platform.hashFacts) {claim : ObservationClaim}
    {paymentId : String} {persisted : PaymentLinkSnapshot → Prop} {db : Db}
    (h : Gathered claim paymentId persisted db) {claim' : ObservationClaim}
    (hexpected : claim'.expected = claim.expected) (hcaseId : claim'.caseId = claim.caseId)
    {snapshot : PaymentLinkSnapshot} (source : OutcomeObservationSource) {fresh : ObservationFresh}
    (hone : ShowsRecovery claim snapshot →
      (classifyPaymentLinkOutcome claim.expected snapshot).providerPaymentId = some paymentId)
    (hother : ∀ a ∈ db.attributions, a.providerPaymentId = paymentId →
      a.recoveryActionId = claim.expected.recoveryActionId)
    (hobservation : ∀ o ∈ db.outcomeObservations, o.id ≠ fresh.observationId)
    (hattribution : ∀ a ∈ db.attributions, a.id ≠ fresh.attributionId)
    (hattested : ∀ a ∈ db.attributions, a.outcomeObservationId ≠ fresh.observationId) :
    ∃ db' result, persistObservation db claim' snapshot source fresh = .ok (db', result) ∧
      Gathered claim paymentId (fun x => persisted x ∨ x = snapshot) db' := by
  obtain ⟨expected, caseId, mode⟩ := claim
  obtain ⟨expected', caseId', mode'⟩ := claim'
  obtain rfl : expected' = expected := hexpected
  obtain rfl : caseId' = caseId := hcaseId
  obtain ⟨⟨action, c, hlocks, hvalid, hcid, hopen⟩, hstored, hattributed, hearned⟩ := h
  obtain ⟨haction, hc⟩ := lockActionAndCase_eq_ok hlocks
  have hid : action.id = expected'.recoveryActionId := Table.get?_key haction
  obtain ⟨db', result, hok⟩ := persistObservation_ok ⟨expected', caseId', mode'⟩ hlocks hvalid
    hcid snapshot source hobservation
  refine ⟨db', result, hok, ?_⟩
  rcases persistObservation_cases hok with ⟨rfl, hknown⟩ |
    ⟨action', c', observations, w, hrecorded, rfl⟩
  · refine ⟨⟨action, c, hlocks, hvalid, hcid, hopen⟩, ?_, hattributed, fun a ha hmine => ?_⟩
    · rintro x (hx | rfl)
      · exact hstored x hx
      · exact hknown
    · obtain ⟨⟨x, hx, hshows⟩, hfacts⟩ := hearned a ha hmine
      exact ⟨⟨x, .inl hx, hshows⟩, hfacts⟩
  · have hobservable := hrecorded.observable
    obtain rfl : action = action' :=
      Option.some.inj (haction.symm.trans hobservable.action_eq)
    obtain rfl : c = c' := Option.some.inj (hc.symm.trans hobservable.case_eq)
    have hfree : Uncontested db action c paymentId := by
      refine ⟨fun a ha hpaid => (hother a ha hpaid).trans hid.symm,
        fun a ha hmine => (hearned a ha (hmine.trans hid)).2.2.1, fun hnone => hopen ?_⟩
      exact fun a ha => hid ▸ hnone a ha
    obtain ⟨hclass, hgrow, hnew, hshown⟩ := evidenceOutcome_attributions
      ⟨expected', caseId', mode'⟩ fresh hone hfree hid hattribution hattested
    have hadvances := (applyOutcomeTransition_eq_ok hrecorded.moved).1
    have hwid : w.row.id = c.id := hadvances.id_eq
    have hstate := hrecorded.state
    rw [hclass] at hstate
    have hadded := fun o => Table.insert?_mem hrecorded.inserted (x := o)
    have hstill : ∀ x, EvidenceStored db expected'.recoveryActionId x →
        EvidenceStored (db.withEvidence ⟨expected', caseId', mode'⟩ snapshot fresh action c
          observations w) expected'.recoveryActionId x := by
      rintro x ⟨o, ho, hfacts⟩
      exact ⟨o, (hadded o).mpr (.inl ho), hfacts⟩
    refine ⟨⟨{ action with externalStatus := some snapshot.status }, w.row, ?_,
      validateObservable_moved hvalid _ hadvances.truth_eq ?_, hwid.trans hcid, fun hnone => ?_⟩,
      ?_, ?_, ?_⟩
    · have hrow : (db.recoveryActions.put { action with externalStatus := some snapshot.status }).get?
          expected'.recoveryActionId =
          some { action with externalStatus := some snapshot.status } := by
        rw [← hid]
        exact Table.get?_put_self (hid ▸ haction)
      have hcase : (db.cases.put w.row).get? action.caseId = some w.row := by
        have hkey : Keyed.key w.row = action.caseId := hwid.trans (Table.get?_key hc)
        rw [← hkey]
        exact Table.get?_put_self (hkey ▸ hc)
      exact bind_eq_ok.mpr ⟨_, requireSome_eq_ok.mpr hrow, bind_eq_ok.mpr
        ⟨_, requireSome_eq_ok.mpr hcase, rfl⟩⟩
    · rw [hstate]
      exact outcomeState_observable hobservable.state
    · rw [hstate]
      refine outcomeState_ne_recovered (fun hshows => ?_) (hopen fun a ha => hnone a (hgrow a ha))
      obtain ⟨a, ha, hmine⟩ := hshown hshows
      exact hnone a ha (hmine.trans hid)
    · rintro x (hx | rfl)
      · exact hstill x (hstored x hx)
      · exact ⟨_, (hadded _).mpr (.inr rfl), rfl, rfl⟩
    · rintro x ⟨o, ho, hmine, hfingerprint⟩ hshows
      rcases (hadded o).mp ho with ho | rfl
      · obtain ⟨a, ha, haction'⟩ := hattributed x ⟨o, ho, hmine, hfingerprint⟩ hshows
        exact ⟨a, hgrow a ha, haction'⟩
      · have hsame := classify_determined hhash hfingerprint expected'
        obtain ⟨a, ha, haction'⟩ := hshown ((congrArg _ hsame).trans hshows)
        exact ⟨a, ha, haction'.trans hid⟩
    · intro a ha hmine
      rcases hnew a ha with ha | ⟨hshows, rfl⟩
      · obtain ⟨⟨x, hx, hshows⟩, hfacts⟩ := hearned a ha hmine
        exact ⟨⟨x, .inl hx, hshows⟩, hfacts⟩
      · exact ⟨⟨snapshot, .inr rfl, hshows⟩, hcid, by simp [newAttribution, hone hshows], rfl, rfl⟩

theorem ObserveStep.unique {s : System} {l : Label} {claim claim' : ObservationClaim}
    {snapshot snapshot' : PaymentLinkSnapshot} {source source' : OutcomeObservationSource}
    {fresh fresh' : ObservationFresh} (h : ObserveStep s l claim snapshot source fresh)
    (h' : ObserveStep s l claim' snapshot' source' fresh') :
    claim = claim' ∧ snapshot = snapshot' := by
  cases h with
  | poll hphase =>
      cases h' with
      | poll hphase' =>
          cases hphase.symm.trans hphase'
          exact ⟨rfl, rfl⟩
  | webhook hphase =>
      cases h' with
      | webhook hphase' =>
          cases hphase.symm.trans hphase'
          exact ⟨rfl, rfl⟩

theorem PersistsSnapshot.unique {claim : ObservationClaim} {x : Run.Step System Label}
    {snapshot snapshot' : PaymentLinkSnapshot} (h : PersistsSnapshot claim x snapshot)
    (h' : PersistsSnapshot claim x snapshot') : snapshot = snapshot' := by
  obtain ⟨_, _, _, hstep, -⟩ := h
  obtain ⟨_, _, _, hstep', -⟩ := h'
  exact (hstep.unique hstep').2

/-- A step of another service leaves what was gathered. -/
theorem Gathered.unrelated {claim : ObservationClaim} {paymentId : String}
    {persisted : PaymentLinkSnapshot → Prop} {x : Run.Step System Label} (hok : HintsOk x.pre)
    (hs : step x.pre x.label = some x.post) (h : Gathered claim paymentId persisted x.pre.db)
    (hunrelated : Unrelated claim x) : Gathered claim paymentId persisted x.post.db := by
  cases hunrelated with
  | idle hdb =>
      rw [hdb]
      exact h
  | other hother hcase haction =>
      -- attributions and observations of the action are those from before the step
      have hattributions : ∀ a, a.recoveryActionId = claim.expected.recoveryActionId →
          (a ∈ x.post.db.attributions ↔ a ∈ x.pre.db.attributions) := by
        intro a hmine
        rcases step_evidence hok hs with ⟨-, hkept⟩ |
          ⟨claim', snapshot, source, fresh, action, c, observations, w, hobserve, hrecorded, hdb⟩
        · rw [hkept]
        · rw [hdb]
          refine mem_evidenceOutcome fun hsame => ?_
          exact hother claim' snapshot source fresh hobserve (hsame.symm.trans hmine)
      have hobservations : ∀ o, o.recoveryActionId = claim.expected.recoveryActionId →
          (o ∈ x.post.db.outcomeObservations ↔ o ∈ x.pre.db.outcomeObservations) := by
        intro o hmine
        rcases step_evidence hok hs with ⟨hkept, -⟩ |
          ⟨claim', snapshot, source, fresh, action, c, observations, w, hobserve, hrecorded, hdb⟩
        · rw [hkept]
        · rw [hdb]
          refine (Table.insert?_mem hrecorded.inserted).trans (or_iff_left ?_)
          rintro rfl
          exact hother claim' snapshot source fresh hobserve hmine
      have hevidence : ∀ snapshot, EvidenceStored x.post.db claim.expected.recoveryActionId snapshot ↔
          EvidenceStored x.pre.db claim.expected.recoveryActionId snapshot := by
        refine fun snapshot => exists_congr fun o => ⟨fun ho => ?_, fun ho => ?_⟩
        · exact ⟨(hobservations o ho.2.1).mp ho.1, ho.2⟩
        · exact ⟨(hobservations o ho.2.1).mpr ho.1, ho.2⟩
      obtain ⟨⟨action, c, hlocks, hvalid, hcid, hopen⟩, hstored, hattributed, hearned⟩ := h
      obtain ⟨hrow, hc⟩ := lockActionAndCase_eq_ok hlocks
      have hcaseId : action.caseId = claim.caseId := (Table.get?_key hc).symm.trans hcid
      refine ⟨⟨action, c, ?_, hvalid, hcid, fun hnone => hopen fun a ha hmine => ?_⟩, ?_, ?_, ?_⟩
      · refine bind_eq_ok.mpr ⟨action, requireSome_eq_ok.mpr (haction.trans hrow), bind_eq_ok.mpr
          ⟨c, requireSome_eq_ok.mpr ?_, rfl⟩⟩
        rw [hcaseId, hcase, ← hcaseId]
        exact hc
      · exact hnone a ((hattributions a hmine).mpr ha) hmine
      · exact fun snapshot hsnapshot => (hevidence snapshot).mpr (hstored snapshot hsnapshot)
      · intro snapshot hsnapshot hshows
        obtain ⟨a, ha, hmine⟩ := hattributed snapshot ((hevidence snapshot).mp hsnapshot) hshows
        exact ⟨a, (hattributions a hmine).mpr ha, hmine⟩
      · exact fun a ha hmine => hearned a ((hattributions a hmine).mp ha) hmine

/-- A persisted snapshot is one the step's claim commits. -/
theorem Gathered.step (hhash : Function.Injective Platform.hashFacts) {claim : ObservationClaim}
    {paymentId : String} {persisted : PaymentLinkSnapshot → Prop} {x : Run.Step System Label}
    {snapshot : PaymentLinkSnapshot} (hattributed : Attributed x.pre.db)
    (hs : step x.pre x.label = some x.post) (h : Gathered claim paymentId persisted x.pre.db)
    (hpersists : PersistsSnapshot claim x snapshot)
    (hone : ShowsRecovery claim snapshot →
      (classifyPaymentLinkOutcome claim.expected snapshot).providerPaymentId = some paymentId)
    (hother : ∀ a ∈ x.pre.db.attributions, a.providerPaymentId = paymentId →
      a.recoveryActionId = claim.expected.recoveryActionId) :
    Gathered claim paymentId (fun y => persisted y ∨ PersistsSnapshot claim x y) x.post.db := by
  obtain ⟨claim', source, fresh, hobserve, hexpected, hcaseId, hobservation, hattribution⟩ :=
    hpersists
  have hattested : ∀ a ∈ x.pre.db.attributions, a.outcomeObservationId ≠ fresh.observationId := by
    intro a ha hsame
    obtain ⟨o, ho, hattests⟩ := hattributed.attested a ha
    exact hobservation o ho (hattests.id_eq.trans hsame)
  obtain ⟨db', result, hok, hgathered⟩ := h.persist hhash hexpected hcaseId source hone hother
    hobservation hattribution hattested
  have hdb := (hobserve.commits hs).2
  rw [hok] at hdb
  rw [hdb]
  refine hgathered.congr fun y => or_congr Iff.rfl ⟨?_, fun hy => ?_⟩
  · rintro rfl
    exact ⟨claim', source, fresh, hobserve, hexpected, hcaseId, hobservation, hattribution⟩
  · exact hy.unique ⟨claim', source, fresh, hobserve, hexpected, hcaseId, hobservation, hattribution⟩

/-- A snapshot whose evidence is stored changes nothing when it is persisted again. -/
theorem PersistsSnapshot.again {claim : ObservationClaim} {x : Run.Step System Label}
    {snapshot : PaymentLinkSnapshot} (h : PersistsSnapshot claim x snapshot)
    (hs : step x.pre x.label = some x.post)
    (hstored : EvidenceStored x.pre.db claim.expected.recoveryActionId snapshot) :
    x.post.db = x.pre.db := by
  obtain ⟨claim', source, fresh, hobserve, hexpected, -⟩ := h
  rcases (hobserve.persisted hs).2 with hdb | ⟨result, hpersist⟩
  · exact hdb
  rcases persistObservation_cases hpersist with ⟨hdb, -⟩ | ⟨_, _, _, _, hrecorded, -⟩
  · exact hdb
  · rw [← hexpected] at hstored
    exact absurd hstored hrecorded.new

/-! ### The attribution of a run -/

/-- What is attributed to an action: for which case, by which payment, and how much. -/
def Db.attributedTo (db : Db) (recoveryActionId : Uuid) : Option (Uuid × String × Nat × String) :=
  (db.attributionForAction recoveryActionId).map fun a =>
    (a.caseId, a.providerPaymentId, a.recoveredAmountMinor, a.currency)

theorem Gathered.attributedTo_some {claim : ObservationClaim} {paymentId : String}
    {persisted : PaymentLinkSnapshot → Prop} {db : Db} (h : Gathered claim paymentId persisted db)
    {snapshot : PaymentLinkSnapshot} (hsnapshot : persisted snapshot)
    (hshows : ShowsRecovery claim snapshot) :
    db.attributedTo claim.expected.recoveryActionId =
      some (claim.caseId, paymentId, claim.expected.amountMinor, claim.expected.currency) := by
  obtain ⟨a, ha, hmine⟩ := h.attributed snapshot (h.stored snapshot hsnapshot) hshows
  unfold Db.attributedTo
  cases hfound : db.attributionForAction claim.expected.recoveryActionId with
  | none =>
      have hnot := Table.first?_eq_none.mp hfound a ha
      simp [hmine] at hnot
  | some b =>
      obtain ⟨hb, hmine'⟩ := Table.first?_mem hfound
      obtain ⟨-, hcase, hpayment, hamount, hcurrency⟩ := h.earned b hb (by simpa using hmine')
      rw [Option.map_some, hcase, hpayment, hamount, hcurrency]

theorem Gathered.attributedTo_none {claim : ObservationClaim} {paymentId : String}
    {persisted : PaymentLinkSnapshot → Prop} {db : Db} (h : Gathered claim paymentId persisted db)
    (hnone : ∀ snapshot, persisted snapshot → ¬ ShowsRecovery claim snapshot) :
    db.attributedTo claim.expected.recoveryActionId = none := by
  unfold Db.attributedTo
  rw [Option.map_eq_none_iff]
  refine Table.first?_eq_none.mpr fun a ha => beq_eq_false_iff_ne.mpr fun hmine => ?_
  obtain ⟨⟨snapshot, hsnapshot, hshows⟩, -⟩ := h.earned a ha hmine
  exact hnone snapshot hsnapshot hshows

theorem persistedIn_snoc {claim : ObservationClaim} {tr : List (Run.Step System Label)}
    {x : Run.Step System Label} {snapshot : PaymentLinkSnapshot} :
    PersistedIn claim (tr ++ [x]) snapshot ↔
      PersistedIn claim tr snapshot ∨ PersistsSnapshot claim x snapshot := by
  simp [PersistedIn, or_and_right, exists_or]

section

variable (hhash : Function.Injective Platform.hashFacts)

include hhash

/-- **What a run of observations gathers**, from any case that waits for its outcome. -/
theorem gathered_run {clock : Int} {s : System}
    (h : Run.Reachable step (System.initial clock) s) {recoveryActionId : Uuid}
    {providerMode : ProviderMode} {claim : ObservationClaim}
    (hclaim : prepareObservation s.db recoveryActionId providerMode = .ok claim)
    (hwaiting : ∀ c ∈ s.db.cases, c.id = claim.caseId → c.currentState = .waitingForOutcome)
    {paymentId : String} {tr : List (Run.Step System Label)} {s' : System}
    (hrun : Observing s claim paymentId tr s') :
    Gathered claim paymentId (PersistedIn claim tr) s'.db := by
  obtain ⟨htrace, hsteps, hone, hother⟩ := hrun
  induction htrace with
  | nil =>
      refine (gathered_initial hhash h hclaim hwaiting paymentId).congr fun snapshot => ?_
      simp [PersistedIn]
  | @snoc tr t t' l htr hs ih =>
      have hpre : Gathered claim paymentId (PersistedIn claim tr) t.db :=
        ih (fun x hx => hsteps x (List.mem_append_left _ hx))
          (fun y hy => hone y (persistedIn_snoc.mpr (.inl hy)))
          fun x hx => hother x (List.mem_append_left _ hx)
      have hreach := h.trans ⟨tr, htr⟩
      by_cases hpersists : ∃ snapshot, PersistsSnapshot claim ⟨t, l, t'⟩ snapshot
      · obtain ⟨snapshot, hpersists⟩ := hpersists
        refine (Gathered.step (x := ⟨t, l, t'⟩) hhash (attributed_reachable hreach).2 hs hpre
          hpersists (hone snapshot (persistedIn_snoc.mpr (.inr hpersists)))
          (hother _ (by simp))).congr fun y => persistedIn_snoc.symm
      · have hunrelated := (hsteps ⟨t, l, t'⟩ (by simp)).resolve_left hpersists
        refine (Gathered.unrelated (x := ⟨t, l, t'⟩) (hintsOk_reachable hreach) hs hpre
          hunrelated).congr fun y => ?_
        rw [persistedIn_snoc]
        exact (or_iff_left fun hy => hpersists ⟨y, hy⟩).symm

/--
**Attribution does not depend on the order of the observations.**  Snapshots of the link
of a waiting case are persisted by any observers, in any order and any number of times.
Then the evidence of each is stored, and the action has its attribution exactly when one
of them shows the recovery: to the case, by the payment they name, of the amount of the
case.  A snapshot that is persisted again changes nothing at all.  So runs that persist
the same snapshots attribute the same.
-/
theorem attribution_confluent {clock : Int} {s : System}
    (h : Run.Reachable step (System.initial clock) s) {recoveryActionId : Uuid}
    {providerMode : ProviderMode} {claim : ObservationClaim}
    (hclaim : prepareObservation s.db recoveryActionId providerMode = .ok claim)
    (hwaiting : ∀ c ∈ s.db.cases, c.id = claim.caseId → c.currentState = .waitingForOutcome)
    (paymentId : String) :
    (∀ c ∈ s.db.cases, c.id = claim.caseId → c.amount = some claim.expected.amountMinor) ∧
    (∀ tr s', Observing s claim paymentId tr s' →
      (∀ snapshot, PersistedIn claim tr snapshot →
        EvidenceStored s'.db claim.expected.recoveryActionId snapshot) ∧
      ((∃ snapshot, PersistedIn claim tr snapshot ∧ ShowsRecovery claim snapshot) →
        s'.db.attributedTo claim.expected.recoveryActionId =
          some (claim.caseId, paymentId, claim.expected.amountMinor, claim.expected.currency)) ∧
      ((∀ snapshot, PersistedIn claim tr snapshot → ¬ ShowsRecovery claim snapshot) →
        s'.db.attributedTo claim.expected.recoveryActionId = none) ∧
      ∀ before x after snapshot, tr = before ++ x :: after → PersistsSnapshot claim x snapshot →
        PersistedIn claim before snapshot → x.post.db = x.pre.db) ∧
    (∀ tr₁ s₁ tr₂ s₂, Observing s claim paymentId tr₁ s₁ → Observing s claim paymentId tr₂ s₂ →
      (∀ snapshot, PersistedIn claim tr₁ snapshot ↔ PersistedIn claim tr₂ snapshot) →
      s₁.db.attributedTo claim.expected.recoveryActionId =
        s₂.db.attributedTo claim.expected.recoveryActionId) := by
  refine ⟨fun c hc hid => ?_, fun tr s' hrun => ?_, ?_⟩
  · obtain ⟨action, c', -, -, hcid, hobservable⟩ := prepareObservation_eq_ok hclaim
    obtain rfl : c = c' :=
      Table.eq_of_key_eq hc (Table.mem_of_get? hobservable.case_eq) (hid.trans hcid.symm)
    exact hobservable.amount
  · have hgathered := gathered_run hhash h hclaim hwaiting hrun
    refine ⟨hgathered.stored, ?_, hgathered.attributedTo_none, ?_⟩
    · rintro ⟨snapshot, hsnapshot, hshows⟩
      exact hgathered.attributedTo_some hsnapshot hshows
    · rintro before x after snapshot rfl hpersists hbefore
      obtain ⟨m, htrace, hrest⟩ := hrun.run.of_append
      obtain ⟨rfl, hs, -⟩ := hrest.of_cons
      have hprefix : Observing s claim paymentId before x.pre := by
        refine ⟨htrace, fun y hy => hrun.steps y (List.mem_append_left _ hy), ?_,
          fun y hy => hrun.other y (List.mem_append_left _ hy)⟩
        rintro y ⟨z, hz, hy⟩
        exact hrun.one y ⟨z, List.mem_append_left _ hz, hy⟩
      exact hpersists.again hs
        ((gathered_run hhash h hclaim hwaiting hprefix).stored snapshot hbefore)
  · intro tr₁ s₁ tr₂ s₂ hrun₁ hrun₂ hsame
    have hgathered₁ := gathered_run hhash h hclaim hwaiting hrun₁
    have hgathered₂ := (gathered_run hhash h hclaim hwaiting hrun₂).congr fun y => (hsame y).symm
    by_cases hshown : ∃ snapshot, PersistedIn claim tr₁ snapshot ∧ ShowsRecovery claim snapshot
    · obtain ⟨snapshot, hsnapshot, hshows⟩ := hshown
      rw [hgathered₁.attributedTo_some hsnapshot hshows,
        hgathered₂.attributedTo_some hsnapshot hshows]
    · have hnone : ∀ snapshot, PersistedIn claim tr₁ snapshot → ¬ ShowsRecovery claim snapshot :=
        fun snapshot hsnapshot hshows => hshown ⟨snapshot, hsnapshot, hshows⟩
      rw [hgathered₁.attributedTo_none hnone, hgathered₂.attributedTo_none hnone]

end

end Arc

namespace Arc

open Store

section

variable [Platform]

/-- A step of a poll whose snapshot, if it shows the recovery, names the payment. -/
def polls (claim : ObservationClaim) (paymentId : String) (s : System) (l : Label) : Bool :=
  !(s.db.attributions.any fun a => a.providerPaymentId == paymentId &&
      a.recoveryActionId != claim.expected.recoveryActionId) &&
  match l with
  | .observer _ (.prepare _ _) | .observer _ (.fetch _) => true
  | .observer worker (.persist fresh) =>
      match s.observers worker with
      | .fetched claim' snapshot =>
          claim'.expected == claim.expected && claim'.caseId == claim.caseId &&
            (s.db.outcomeObservations.get? fresh.observationId).isNone &&
            (s.db.attributions.get? fresh.attributionId).isNone &&
            ((classifyPaymentLinkOutcome claim.expected snapshot).outcomeStatus != .recovered ||
              (classifyPaymentLinkOutcome claim.expected snapshot).providerPaymentId ==
                some paymentId)
      | _ => false
  | _ => false

theorem observerStep_reads {s s' : System} {worker : Nat} {l : ObserverLabel}
    (hl : ∀ fresh, l ≠ .persist fresh) (hs : step s (.observer worker l) = some s') :
    s'.db = s.db := by
  obtain ⟨m, hm, rfl⟩ := Option.map_eq_some_iff.mp hs
  generalize s.observers worker = phase at hm
  show m.db = s.db
  cases l with
  | prepare recoveryActionId providerMode =>
      cases phase with
      | idle =>
          simp only [observerStep] at hm
          split at hm <;> cases hm <;> rfl
      | _ => cases hm
  | fetch out =>
      cases phase with
      | claimed claim =>
          simp only [observerStep] at hm
          split at hm <;> cases hm <;> rfl
      | _ => cases hm
  | persist fresh => exact absurd rfl (hl fresh)
  | crash =>
      cases phase <;>
      · cases hm
        rfl

/-- The steps of polls are a run of observations. -/
theorem observing_of_polls {claim : ObservationClaim} {paymentId : String} {s s' : System}
    {tr : List (Run.Step System Label)}
    (h : Run.Trace (Run.guarded (fun s l => polls claim paymentId s l = true) step) s tr s') :
    Observing s claim paymentId tr s' := by
  obtain ⟨htrace, hpolls⟩ := h.of_guarded
  have hstep : ∀ x ∈ tr, (∀ a ∈ x.pre.db.attributions, a.providerPaymentId = paymentId →
      a.recoveryActionId = claim.expected.recoveryActionId) ∧
      ((∃ snapshot, PersistsSnapshot claim x snapshot ∧ (ShowsRecovery claim snapshot →
        (classifyPaymentLinkOutcome claim.expected snapshot).providerPaymentId = some paymentId)) ∨
      x.post.db = x.pre.db ∧ ∀ snapshot, ¬ PersistsSnapshot claim x snapshot) := by
    intro x hx
    have hs := htrace.step_of_mem hx
    have hpolled := hpolls x hx
    unfold polls at hpolled
    obtain ⟨hfree, hlabel⟩ := Bool.and_eq_true_iff.mp hpolled
    refine ⟨fun a ha hpaid => ?_, ?_⟩
    · have hmine := Table.any_eq_false.mp ((Bool.not_eq_true' _).mp hfree) a ha
      simpa [hpaid] using hmine
    have hreads : ∀ worker l, x.label = .observer worker l → (∀ fresh, l ≠ .persist fresh) →
        x.post.db = x.pre.db ∧ ∀ snapshot, ¬ PersistsSnapshot claim x snapshot := by
      intro worker l hl hnot
      rw [hl] at hs
      refine ⟨observerStep_reads hnot hs, ?_⟩
      rintro snapshot ⟨claim', source, fresh, hobserve, -⟩
      rw [hl] at hobserve
      cases hobserve with
      | poll hphase => exact hnot fresh rfl
    cases hl : x.label with
    | observer worker l =>
        rw [hl] at hlabel
        cases l with
        | prepare _ _ => exact .inr (hreads worker _ hl fun fresh h => by cases h)
        | fetch _ => exact .inr (hreads worker _ hl fun fresh h => by cases h)
        | crash => cases hlabel
        | persist fresh =>
            simp only at hlabel
            split at hlabel
            · rename_i claim' snapshot hphase
              simp only [Bool.and_eq_true, Bool.or_eq_true, beq_iff_eq, bne_iff_ne,
                Option.isNone_iff_eq_none] at hlabel
              obtain ⟨⟨⟨⟨hexpected, hcaseId⟩, hobservation⟩, hattribution⟩, hnames⟩ := hlabel
              refine .inl ⟨snapshot, ⟨claim', .poll, fresh, hl ▸ .poll hphase, hexpected, hcaseId,
                Table.get?_eq_none.mp hobservation, Table.get?_eq_none.mp hattribution⟩,
                fun hshows => hnames.resolve_left fun hnot => hnot hshows⟩
            · cases hlabel
    | _ =>
        rw [hl] at hlabel
        cases hlabel
  refine ⟨htrace, fun x hx => ?_, ?_, fun x hx => (hstep x hx).1⟩
  · rcases (hstep x hx).2 with ⟨snapshot, hpersists, -⟩ | ⟨hdb, -⟩
    · exact .inl ⟨snapshot, hpersists⟩
    · exact .inr (.idle hdb)
  · rintro snapshot ⟨x, hx, hpersists⟩ hshows
    rcases (hstep x hx).2 with ⟨snapshot', hpersists', hnames⟩ | ⟨-, hnever⟩
    · obtain rfl := hpersists.unique hpersists'
      exact hnames hshows
    · exact absurd hpersists (hnever snapshot)

end

attribute [local instance] asciiPlatform

/-- The paid link is read between two reads of the open link. -/
def polledRun : List Label := [
  .observer 0 (.prepare 40 .test),
  .observer 0 (.fetch (.response 200 (some sampleLink))),
  .observer 0 (.persist ⟨50, 60, 0⟩),
  .observer 0 (.prepare 40 .test),
  .observer 0 (.fetch (.response 200 (some samplePaidLink))),
  .observer 0 (.persist ⟨51, 61, 0⟩),
  .observer 0 (.prepare 40 .test),
  .observer 0 (.fetch (.response 200 (some sampleLink))),
  .observer 0 (.persist ⟨52, 62, 0⟩)]

theorem attribution_confluent_polled : ∃ s claim tr s',
    Run.Reachable step (System.initial 0) s ∧ prepareObservation s.db 40 .test = .ok claim ∧
    Observing s claim "pay_2" tr s' ∧ tr.map Run.Step.label = polledRun ∧
    s'.db.attributedTo claim.expected.recoveryActionId =
      some (claim.caseId, "pay_2", claim.expected.amountMinor, claim.expected.currency) := by
  have hrun : ((Run.replay step (System.initial 0) (recoveredRun.take 16)).bind fun s =>
      (prepareObservation s.db 40 .test).toOption.bind fun claim =>
        (s.db.cases.get? claim.caseId).bind fun c =>
          (Run.replay (Run.guarded (fun s l => polls claim "pay_2" s l = true) step) s
            polledRun).map fun s' =>
              (c.currentState, (s'.db.attributedTo claim.expected.recoveryActionId).isSome)) =
      some (.waitingForOutcome, true) := by decide +kernel
  obtain ⟨s, hs, hrun⟩ := Option.bind_eq_some_iff.mp hrun
  obtain ⟨claim, hclaim, hrun⟩ := Option.bind_eq_some_iff.mp hrun
  obtain ⟨c, hc, hrun⟩ := Option.bind_eq_some_iff.mp hrun
  obtain ⟨s', hs', hrun⟩ := Option.map_eq_some_iff.mp hrun
  obtain ⟨hstate, hattributed⟩ := Prod.mk.inj hrun
  obtain ⟨tr₀, htr₀, -⟩ := Run.Trace.of_replay hs
  obtain ⟨tr, htr, hlabels⟩ := Run.Trace.of_replay hs'
  have hprepared : prepareObservation s.db 40 .test = .ok claim := by
    cases hok : prepareObservation s.db 40 .test with
    | error e =>
        rw [hok] at hclaim
        cases hclaim
    | ok claim' =>
        rw [hok] at hclaim
        cases hclaim
        rfl
  have hobserving := observing_of_polls htr
  obtain ⟨-, hruns, -⟩ := attribution_confluent Function.injective_id ⟨tr₀, htr₀⟩ hprepared
    (fun c' hc' hid => by rw [Store.Table.eq_of_key_eq hc' (Store.Table.mem_of_get? hc)
      (hid.trans (Store.Table.get?_key hc).symm), hstate]) "pay_2"
  obtain ⟨-, hshown, hnone, -⟩ := hruns tr s' hobserving
  refine ⟨s, claim, tr, s', ⟨tr₀, htr₀⟩, hprepared, hobserving, hlabels, hshown ?_⟩
  by_contra hnot
  rw [hnone fun snapshot hsnapshot hshows => hnot ⟨snapshot, hsnapshot, hshows⟩] at hattributed
  cases hattributed

end Arc
