/-
Assessments: what is stored, and what a fingerprint stands for.

`AssessedAs` is the projection an assessment leaves on its case, and the test that skips
an assessment recognises exactly that.  Both verdict and diagnosis read the case
through `assessmentFacts` only, apart from whether it is still DETECTED, so equal
fingerprints mean equal assessments.
-/
import Arc.Proofs.Evidence

namespace Arc

open Store

variable [Platform]

/-! ### The facts of an assessment

The fingerprint is the hash of `assessmentFacts`. With a hash without collisions equal
fingerprints mean equal facts, and what has to be shown is that nothing else of the case
is read: every function of the verdict and of the diagnosis is shown to agree on cases
with the same facts.
-/

omit [Platform] in
theorem CaseState.value_injective : Function.Injective CaseState.value := by
  intro a b h
  cases a <;> cases b <;> simp [CaseState.value] at h <;> rfl

/-- What an assessment reads of a case: all it depends on but whether it is DETECTED. -/
structure PaymentCase.SameFacts (c c' : PaymentCase) : Prop where
  terminal : terminalReason c.currentState = terminalReason c'.currentState
  payment : c.paymentId = c'.paymentId
  subscription : c.subscriptionId = c'.subscriptionId
  payment_status : normalized c.razorpayPaymentStatus = normalized c'.razorpayPaymentStatus
  subscription_status :
    normalized c.razorpaySubscriptionStatus = normalized c'.razorpaySubscriptionStatus
  code : normalized c.errorCode = normalized c'.errorCode
  source : normalized c.errorSource = normalized c'.errorSource
  step : normalized c.errorStep = normalized c'.errorStep
  reason : normalized c.errorReason = normalized c'.errorReason
  method : normalized c.razorpayPaymentMethod = normalized c'.razorpayPaymentMethod
  reconciled : c.lastReconciledAt = c'.lastReconciledAt

omit [Platform] in
theorem terminalReason_of_facts {s t : CaseState}
    (h : (if (terminalReason s).isSome then Json.str s.value else .null) =
      if (terminalReason t).isSome then .str t.value else .null) :
    terminalReason s = terminalReason t := by
  cases hs : terminalReason s with
  | none =>
      cases ht : terminalReason t with
      | none => rfl
      | some reason => simp [hs, ht] at h
  | some reason =>
      cases ht : terminalReason t with
      | none => simp [hs, ht] at h
      | some reason' =>
          simp only [hs, ht, Option.isSome_some, if_true, Json.str.injEq] at h
          rw [← hs, ← ht, CaseState.value_injective h]

/-- Cases whose facts are hashed alike are read alike. -/
theorem sameFacts_of_facts {c c' : PaymentCase} (h : assessmentFacts c = assessmentFacts c') :
    c.SameFacts c' := by
  simp only [assessmentFacts, Json.obj.injEq, List.cons.injEq, Prod.mk.injEq, true_and,
    and_true] at h
  obtain ⟨hterminal, hpayment, hsubscription, hstatus, hsubscribed, hcode, hsource, hstep, hreason,
    hmethod, -, -, hreconciled⟩ := h
  exact
    { terminal := terminalReason_of_facts hterminal
      payment := ofText_injective hpayment
      subscription := ofText_injective hsubscription
      payment_status := ofText_injective hstatus
      subscription_status := ofText_injective hsubscribed
      code := ofText_injective hcode
      source := ofText_injective hsource
      step := ofText_injective hstep
      reason := ofText_injective hreason
      method := ofText_injective hmethod
      reconciled := ofOption_injective (fun _ _ h => Json.int.inj h) (fun _ h => by cases h)
        hreconciled }

/-- The diagnosis reads the error evidence through the facts only. -/
theorem PaymentCase.SameFacts.diagnosis {c c' : PaymentCase} (h : c.SameFacts c') :
    classifyFailure c = classifyFailure c' := by
  unfold classifyFailure
  rw [h.code, h.reason, h.source, h.step, h.method, h.subscription_status]

/-- The verdict reads the case through the facts, and asks whether it is DETECTED. -/
theorem PaymentCase.SameFacts.verdict {c c' : PaymentCase} (h : c.SameFacts c')
    (hdetected : c.currentState = .detected ↔ c'.currentState = .detected) (now : Int) :
    eligibilityVerdict c now = eligibilityVerdict c' now := by
  have hpayment : ∀ status, assessPaymentStatus c status = assessPaymentStatus c' status := by
    intro status
    unfold assessPaymentStatus
    simp only [hdetected]
  have hsubscription : ∀ status,
      assessSubscriptionStatus c status = assessSubscriptionStatus c' status := by
    intro status
    unfold assessSubscriptionStatus
    simp only [hdetected]
  have hstatus : assessStatus c = assessStatus c' := by
    unfold assessStatus
    rw [h.payment_status, h.subscription_status, h.payment, h.subscription]
    simp only [hpayment, hsubscription]
  unfold eligibilityVerdict
  rw [h.terminal, h.payment, h.subscription, h.reconciled, hstatus]

/--
**The assessment fingerprint is sound.**  Cases with one fingerprint that agree on being
DETECTED are assessed alike at every clock, and diagnosed alike.  So a proposal that is
accepted for a case was built for one that is assessed as this one is.
-/
theorem assessment_fingerprint_sound (hhash : Function.Injective Platform.hashFacts) :
    (∀ c c' : PaymentCase, buildAssessmentFingerprint c = buildAssessmentFingerprint c' →
      (c.currentState = .detected ↔ c'.currentState = .detected) →
      (∀ now, (assessEligibility c now).decision = (assessEligibility c' now).decision ∧
        (assessEligibility c now).reasonCode = (assessEligibility c' now).reasonCode) ∧
      classifyFailure c = classifyFailure c') ∧
    ∀ (proposal : StrategyProposal) (c c' : PaymentCase) (at' : Int),
      proposal.assessmentFingerprint = buildAssessmentFingerprint c →
      c.currentState ≠ .detected → ProposalCurrent c' proposal at' →
      (∀ now, (assessEligibility c now).decision = (assessEligibility c' now).decision ∧
        (assessEligibility c now).reasonCode = (assessEligibility c' now).reasonCode) ∧
      classifyFailure c = classifyFailure c' := by
  have hsound : ∀ c c' : PaymentCase,
      buildAssessmentFingerprint c = buildAssessmentFingerprint c' →
      (c.currentState = .detected ↔ c'.currentState = .detected) →
      (∀ now, (assessEligibility c now).decision = (assessEligibility c' now).decision ∧
        (assessEligibility c now).reasonCode = (assessEligibility c' now).reasonCode) ∧
      classifyFailure c = classifyFailure c' := by
    intro c c' hfingerprint hdetected
    have hfacts := sameFacts_of_facts (hhash hfingerprint)
    refine ⟨fun now => ?_, hfacts.diagnosis⟩
    have hverdict := hfacts.verdict hdetected now
    exact ⟨congrArg Verdict.decision hverdict, congrArg Verdict.reasonCode hverdict⟩
  refine ⟨hsound, fun proposal c c' at' hbuilt hopen hcurrent => hsound c c' ?_ ?_⟩
  · have heligible := hcurrent.eligible
    unfold PaymentCase.eligibilityIsCurrent at heligible
    simp only [Bool.and_eq_true, beq_iff_eq] at heligible
    obtain ⟨⟨⟨-, hstored⟩, -⟩, -⟩ := heligible
    rw [← hbuilt]
    exact Option.some.inj (hcurrent.assessment.symm.trans hstored)
  · -- an eligible case is past its detection
    have heligible := hcurrent.eligible
    unfold PaymentCase.eligibilityIsCurrent at heligible
    simp only [Bool.and_eq_true, beq_iff_eq] at heligible
    obtain ⟨-, hdetected, -⟩ := eligible_iff.mp heligible.1.1.1
    exact iff_of_false hopen hdetected

/-! ### The assessment a case carries

An assessment is skipped where `isFullyAssessed` says that the case carries it already.
What the test compares and what a fresh assessment writes are both `AssessedAs`, so the
second assessment of an unchanged case is the skipped one.
-/

/-- The diagnosis an assessment makes: one when the case is eligible. -/
def diagnosisOf (c : PaymentCase) (eligibility : EligibilityResult) : Option FailureDiagnosis :=
  if eligibility.decision = .eligible then some (classifyFailure c) else none

/-- The stored assessment is the given one. -/
structure PaymentCase.AssessedAs (c : PaymentCase) (eligibility : EligibilityResult)
    (diagnosis : Option FailureDiagnosis) : Prop where
  decision : c.eligibilityStatus = some eligibility.decision
  reason : c.eligibilityReasonCode = some eligibility.reasonCode
  fingerprint : c.assessmentFingerprint = some eligibility.assessmentFingerprint
  evaluated : c.eligibilityEvaluatedAt ≠ none
  category : c.failureCategory = diagnosis.map FailureDiagnosis.failureCategory
  disposition : c.recoveryDisposition = diagnosis.map FailureDiagnosis.recoveryDisposition
  diagnosis_reason : c.diagnosisReasonCode = diagnosis.map FailureDiagnosis.diagnosisReasonCode
  diagnosed : c.diagnosedAt.isSome = diagnosis.isSome

theorem isFullyAssessed_eq_true {c : PaymentCase} {eligibility : EligibilityResult}
    {diagnosis : Option FailureDiagnosis} :
    isFullyAssessed c eligibility diagnosis = true ↔ c.AssessedAs eligibility diagnosis := by
  unfold isFullyAssessed
  constructor
  · intro h
    simp only [Bool.and_eq_true, beq_iff_eq, Option.isSome_iff_ne_none] at h
    obtain ⟨⟨⟨⟨hfingerprint, hdecision⟩, hreason⟩, hevaluated⟩, h⟩ := h
    cases diagnosis with
    | none =>
        simp only [Bool.and_eq_true, Option.isNone_iff_eq_none] at h
        obtain ⟨⟨⟨hcategory, hdisposition⟩, hdiagnosis⟩, hdiagnosed⟩ := h
        exact ⟨hdecision, hreason, hfingerprint, hevaluated, hcategory, hdisposition, hdiagnosis,
          by rw [hdiagnosed]; rfl⟩
    | some diagnosis =>
        simp only [Bool.and_eq_true, beq_iff_eq] at h
        obtain ⟨⟨⟨hcategory, hdisposition⟩, hdiagnosis⟩, hdiagnosed⟩ := h
        exact ⟨hdecision, hreason, hfingerprint, hevaluated, hcategory, hdisposition, hdiagnosis,
          hdiagnosed⟩
  · rintro ⟨hdecision, hreason, hfingerprint, hevaluated, hcategory, hdisposition, hdiagnosis,
      hdiagnosed⟩
    have hevaluated' := Option.isSome_iff_ne_none.mpr hevaluated
    cases diagnosis with
    | none =>
        have hnone : c.diagnosedAt = none := by simpa using hdiagnosed
        simp [hdecision, hreason, hfingerprint, hevaluated', hcategory, hdisposition, hdiagnosis,
          hnone]
    | some diagnosis =>
        simp [hdecision, hreason, hfingerprint, hevaluated', hcategory, hdisposition, hdiagnosis,
          hdiagnosed]

/-- The columns an assessment writes. -/
structure AssessmentColumns where
  eligibilityStatus : Option EligibilityDecision
  eligibilityReasonCode : Option String
  eligibilityEvaluatedAt : Option Int
  assessmentFingerprint : Option Digest
  failureCategory : Option FailureCategory
  recoveryDisposition : Option RecoveryDisposition
  diagnosisReasonCode : Option String
  diagnosedAt : Option Int

def PaymentCase.assessment (c : PaymentCase) : AssessmentColumns where
  eligibilityStatus := c.eligibilityStatus
  eligibilityReasonCode := c.eligibilityReasonCode
  eligibilityEvaluatedAt := c.eligibilityEvaluatedAt
  assessmentFingerprint := c.assessmentFingerprint
  failureCategory := c.failureCategory
  recoveryDisposition := c.recoveryDisposition
  diagnosisReasonCode := c.diagnosisReasonCode
  diagnosedAt := c.diagnosedAt

/-- Cases with the same columns carry the same assessment. -/
theorem PaymentCase.AssessedAs.of_columns {c c' : PaymentCase} {eligibility : EligibilityResult}
    {diagnosis : Option FailureDiagnosis} (h : c.AssessedAs eligibility diagnosis)
    (hcolumns : c'.assessment = c.assessment) : c'.AssessedAs eligibility diagnosis := by
  simp only [PaymentCase.assessment, AssessmentColumns.mk.injEq] at hcolumns
  obtain ⟨hdecision, hreason, hevaluated, hfingerprint, hcategory, hdisposition, hdiagnosis,
    hdiagnosed⟩ := hcolumns
  exact
    { decision := hdecision.trans h.decision
      reason := hreason.trans h.reason
      fingerprint := hfingerprint.trans h.fingerprint
      evaluated := by rw [hevaluated]; exact h.evaluated
      category := hcategory.trans h.category
      disposition := hdisposition.trans h.disposition
      diagnosis_reason := hdiagnosis.trans h.diagnosis_reason
      diagnosed := by rw [hdiagnosed]; exact h.diagnosed }

/-- The row of a fresh assessment, but for the state it is in. -/
def PaymentCase.assessedRow (c : PaymentCase) (eligibility : EligibilityResult)
    (diagnosis : Option FailureDiagnosis) (assessedAt : Int) : PaymentCase :=
  match diagnosis with
  | none => (c.withEligibility eligibility assessedAt).withoutDiagnosis
  | some diagnosis => (c.withEligibility eligibility assessedAt).withDiagnosis diagnosis assessedAt

theorem assessedRow_assessedAs (c : PaymentCase) (eligibility : EligibilityResult)
    (diagnosis : Option FailureDiagnosis) (at' : Int) :
    (c.assessedRow eligibility diagnosis at').AssessedAs eligibility diagnosis := by
  cases diagnosis with
  | none => exact ⟨rfl, rfl, rfl, Option.some_ne_none _, rfl, rfl, rfl, rfl⟩
  | some diagnosis => exact ⟨rfl, rfl, rfl, Option.some_ne_none _, rfl, rfl, rfl, rfl⟩

theorem assessedRow_facts (c : PaymentCase) (eligibility : EligibilityResult)
    (diagnosis : Option FailureDiagnosis) (at' : Int) :
    assessmentFacts (c.assessedRow eligibility diagnosis at') = assessmentFacts c := by
  cases diagnosis <;> rfl

theorem assessedRow_state (c : PaymentCase) (eligibility : EligibilityResult)
    (diagnosis : Option FailureDiagnosis) (at' : Int) :
    (c.assessedRow eligibility diagnosis at').currentState = c.currentState := by
  cases diagnosis <;> rfl

/-- **What a fresh assessment writes**: its row, moved on only from RECONCILING. -/
theorem persistAssessment_row {c : PaymentCase} {eligibility : EligibilityResult}
    {diagnosis : Option FailureDiagnosis} {at' : Int} {w : CaseWork}
    (h : persistAssessment c eligibility diagnosis at' = .ok w) :
    w.row = c.assessedRow eligibility diagnosis at' ∨
      (c.currentState = .reconciling ∧ diagnosis.isSome = true ∧
        w.row = { c.assessedRow eligibility diagnosis at' with currentState := .diagnosed }) := by
  unfold persistAssessment at h
  simp only at h
  split at h
  · cases h
    exact .inl rfl
  · rename_i diagnosis
    obtain ⟨w₁, hmove, h⟩ := bind_eq_ok.mp h
    cases h
    unfold moveReconcilingCaseToDiagnosed at hmove
    split at hmove
    · rename_i hstate
      exact .inr ⟨hstate, rfl, transitionCase_row hmove⟩
    · cases hmove
      exact .inl rfl

/-- The facts leave out which open state a case is in. -/
theorem assessmentFacts_diagnosed {c : PaymentCase} (h : c.currentState = .reconciling) :
    assessmentFacts { c with currentState := .diagnosed } = assessmentFacts c := by
  simp [assessmentFacts, terminalReason, h]

/-- A fully assessed case is left alone. -/
theorem assessCase_of_assessedAs {db : Db} {caseId : Uuid} {c : PaymentCase} {at' : Int}
    (hc : db.cases.get? caseId = some c)
    (h : c.AssessedAs (assessEligibility c at') (diagnosisOf c (assessEligibility c at'))) :
    assessCase db caseId at' = .ok (db, assessmentResult c true) := by
  unfold assessCase
  rw [hc]
  have hfull := isFullyAssessed_eq_true.mpr h
  unfold diagnosisOf at hfull
  simp only [requireSome, bind, Except.bind, hfull, if_true]
  rfl

/-- The row an assessment leaves: assessed as computed, with the facts that were read. -/
theorem assessCase_stores {db db' : Db} {caseId : Uuid} {at' : Int}
    {result : CaseAssessmentResult} (h : assessCase db caseId at' = .ok (db', result)) :
    ∃ c c', db.cases.get? caseId = some c ∧ db'.cases.get? caseId = some c' ∧
      c'.AssessedAs (assessEligibility c at') (diagnosisOf c (assessEligibility c at')) ∧
      assessmentFacts c' = assessmentFacts c ∧
      (c'.currentState = c.currentState ∨
        (c.currentState = .reconciling ∧ c'.currentState = .diagnosed ∧
          (assessEligibility c at').decision = .eligible)) := by
  obtain ⟨c, hc, h⟩ := bind_eq_ok.mp h
  rw [requireSome_eq_ok] at hc
  simp only at h
  change (if isFullyAssessed c (assessEligibility c at')
    (diagnosisOf c (assessEligibility c at')) = true then _ else _) = _ at h
  split at h
  · rename_i hfull
    cases h
    exact ⟨c, c, hc, hc, isFullyAssessed_eq_true.mp hfull, rfl, .inl rfl⟩
  · obtain ⟨w, hw, h⟩ := bind_eq_ok.mp h
    cases h
    change persistAssessment c (assessEligibility c at')
      (diagnosisOf c (assessEligibility c at')) at' = .ok w at hw
    have hkey : w.row.id = caseId :=
      (persistAssessment_advances hw).id_eq.trans (Table.get?_key hc)
    refine ⟨c, w.row, hc, ?_, ?_⟩
    · rw [commitCase_cases]
      rw [← hkey] at hc ⊢
      exact Table.get?_put_self hc
    rcases persistAssessment_row hw with hrow | ⟨hstate, hdiagnosis, hrow⟩
    · rw [hrow]
      exact ⟨assessedRow_assessedAs _ _ _ _, assessedRow_facts _ _ _ _,
        .inl (assessedRow_state _ _ _ _)⟩
    · have heligible : (assessEligibility c at').decision = .eligible := by
        unfold diagnosisOf at hdiagnosis
        by_contra hnot
        simp [hnot] at hdiagnosis
      rw [hrow]
      refine ⟨?_, ?_, .inr ⟨hstate, rfl, heligible⟩⟩
      · exact (assessedRow_assessedAs c _ _ at').of_columns rfl
      · rw [assessmentFacts_diagnosed ((assessedRow_state c _ _ at').trans hstate),
          assessedRow_facts]

/--
**Assessment is consistent and idempotent.**  An assessment that returns leaves the
verdict of its case and, exactly when that is ELIGIBLE, the diagnosis of its error
evidence; it moves the case from RECONCILING to DIAGNOSED at most, and only then.
Called again while the facts are as they were and the clock gives the same verdict, it
writes nothing.
-/
theorem assessment_consistent {db db' : Db} {caseId : Uuid} {at' : Int}
    {result : CaseAssessmentResult} (h : assessCase db caseId at' = .ok (db', result)) :
    ∃ c c', db.cases.get? caseId = some c ∧ db'.cases.get? caseId = some c' ∧
      c'.AssessedAs (assessEligibility c at') (diagnosisOf c (assessEligibility c at')) ∧
      (c'.currentState = c.currentState ∨
        (c.currentState = .reconciling ∧ c'.currentState = .diagnosed ∧
          (assessEligibility c at').decision = .eligible)) ∧
      ∀ (db₂ : Db) (c₂ : PaymentCase) (at₂ : Int), db₂.cases.get? caseId = some c₂ →
        c₂.assessment = c'.assessment → assessmentFacts c₂ = assessmentFacts c' →
        (assessEligibility c₂ at₂).decision = (assessEligibility c at').decision →
        (assessEligibility c₂ at₂).reasonCode = (assessEligibility c at').reasonCode →
        assessCase db₂ caseId at₂ = .ok (db₂, assessmentResult c₂ true) := by
  obtain ⟨c, c', hc, hc', hassessed, hfacts', hstate⟩ := assessCase_stores h
  refine ⟨c, c', hc, hc', hassessed, hstate, ?_⟩
  intro db₂ c₂ at₂ hc₂ hcolumns hfacts₂ hdecision hreason
  -- the same decision and reason over the same facts are the same assessment
  have hfacts := hfacts₂.trans hfacts'
  have hassessed₂ := hassessed.of_columns hcolumns
  have hsame : diagnosisOf c₂ (assessEligibility c₂ at₂) =
      diagnosisOf c (assessEligibility c at') := by
    unfold diagnosisOf
    rw [hdecision, (sameFacts_of_facts hfacts).diagnosis]
  refine assessCase_of_assessedAs hc₂ ?_
  rw [hsame]
  exact
    { hassessed₂ with
      decision := by rw [hassessed₂.decision, hdecision]
      reason := by rw [hassessed₂.reason, hreason]
      fingerprint := hassessed₂.fingerprint.trans
        (congrArg (fun facts => some (Platform.hashFacts facts)) hfacts.symm) }

end Arc

/-! ### One case, assessed -/

namespace Arc

open Store

attribute [local instance] asciiPlatform

def reconcilingCase : PaymentCase where
  id := 10
  caseReference := ⟨.payment, .str "pay_1"⟩
  merchantId := "acc"
  paymentId := some "pay_1"
  subscriptionId := none
  customerId := none
  razorpayPaymentStatus := some "failed"
  errorReason := some "insufficient_funds"
  currentState := .reconciling
  detectedAt := 0
  lastReconciledAt := some 0

def reconcilingDb : Db := { Db.empty with cases := ⟨[reconcilingCase], List.nodup_singleton _⟩ }

def diagnosedCase : PaymentCase :=
  { reconcilingCase.assessedRow (assessEligibility reconcilingCase 5)
      (some (classifyFailure reconcilingCase)) 5 with
    currentState := .diagnosed }

def diagnosedProposal : StrategyProposal where
  id := 20
  caseId := 10
  assessmentFingerprint := buildAssessmentFingerprint reconcilingCase
  strategyInputFingerprint := .null
  source := .ai
  action := .createRecoveryLink
  reasonCode := ""
  explanation := ""
  reEvaluateAfterSeconds := none
  model := none

theorem assessment_fingerprint_sound_diagnosed :
    (assessEligibility reconcilingCase 5).decision = (assessEligibility diagnosedCase 5).decision ∧
      classifyFailure reconcilingCase = classifyFailure diagnosedCase := by
  have hcurrent : ProposalCurrent diagnosedCase diagnosedProposal 5 := by
    constructor <;> decide +kernel
  obtain ⟨-, hbuilt⟩ := assessment_fingerprint_sound Function.injective_id
  obtain ⟨hverdict, hdiagnosis⟩ := hbuilt diagnosedProposal reconcilingCase diagnosedCase 5
    (by decide +kernel) (by decide +kernel) hcurrent
  exact ⟨(hverdict 5).1, hdiagnosis⟩

/-- The reconciled case is diagnosed, and assessing it once more changes nothing. -/
theorem assessment_consistent_diagnosed : ∃ db' result c',
    assessCase reconcilingDb 10 5 = .ok (db', result) ∧ db'.cases.get? 10 = some c' ∧
      c'.currentState = .diagnosed ∧ assessCase db' 10 6 = .ok (db', assessmentResult c' true) := by
  have hassess : (assessCase reconcilingDb 10 5).toOption.bind (fun out => out.1.cases.get? 10) =
      some diagnosedCase := by decide +kernel
  cases h : assessCase reconcilingDb 10 5 with
  | error e =>
      rw [h] at hassess
      cases hassess
  | ok out =>
      obtain ⟨db', result⟩ := out
      rw [h] at hassess
      obtain ⟨c, c', hc, hc', -, -, hagain⟩ := assessment_consistent h
      obtain rfl : reconcilingCase = c := Option.some.inj hc
      obtain rfl : c' = diagnosedCase := Option.some.inj (hc'.symm.trans hassess)
      exact ⟨db', result, _, rfl, hc', rfl,
        hagain db' _ 6 hc' rfl rfl (by decide +kernel) (by decide +kernel)⟩

end Arc
