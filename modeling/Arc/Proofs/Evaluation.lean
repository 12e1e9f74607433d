/-
A batch evaluation is safe and its numbers add up.

The first part is about one scenario: inside the bounds its evaluation raises nothing,
whatever the provider answers, and its result is `Safe`.  The batch repeats that from the
state each scenario leaves.  The second part takes safe results only and shows that the
aggregations over them agree, so every pass criterion is met.
-/
import Mathlib.Algebra.BigOperators.Group.List.Basic
import Mathlib.Data.List.Dedup
import Arc.Domain.Ascii
import Arc.Evaluation.Runner

namespace Arc

variable [Platform]

/-! ### The bounds of a scenario

The runner works with Python's dates and with a schema for the context of the model, and
both refuse some values. `Bounded` is what a scenario has to meet for neither to do so;
nothing is asked about its policy or about the answers it scripts.
-/

/-- The normalized text, where there is one, has 100 characters at most. -/
def contextBounded (text : Option String) : Prop :=
  ∀ t, normalized text = some t → t.length ≤ 100

/-- The instants of a scenario can be represented, and its texts fit the context schema. -/
structure SyntheticScenario.Bounded (scenario : SyntheticScenario) : Prop where
  detected : firstInstant ≤ scenario.detectedAt
  window : scenario.detectedAt + minutes 1440 ≤ lastInstant
  paymentMethod : contextBounded scenario.paymentMethod
  errorReason : contextBounded scenario.errorReason
  errorSource : contextBounded scenario.errorSource
  errorStep : contextBounded scenario.errorStep

omit [Platform] in
theorem representable_eq_ok {instant : Int} (hfirst : firstInstant ≤ instant)
    (hlast : instant ≤ lastInstant) : representable instant = .ok instant := by
  unfold representable
  rw [require_bind, if_pos ⟨hfirst, hlast⟩]
  rfl

theorem scenarioCase_eq_ok {scenario : SyntheticScenario} (h : scenario.Bounded) :
    scenarioCase scenario = .ok (scenarioRow scenario) := by
  have hlast : scenario.detectedAt ≤ lastInstant := by
    have := h.window
    simp only [minutes, seconds] at this
    omega
  unfold scenarioCase
  rw [representable_eq_ok h.detected hlast]
  rfl

theorem contextBounded.boundedContextText {text : Option String} (h : contextBounded text) :
    Arc.boundedContextText (normalized text) = true := by
  unfold Arc.boundedContextText
  cases htext : normalized text with
  | none => rfl
  | some t =>
      have hne : t ≠ "" := by
        obtain ⟨raw, -, hraw⟩ := Option.bind_eq_some_iff.mp htext
        simp only at hraw
        split at hraw
        · cases hraw
        · rename_i hne
          cases hraw
          exact hne
      have hpos : 1 ≤ t.length := Nat.one_le_iff_ne_zero.mpr fun hzero =>
        hne (String.length_eq_zero_iff.mp hzero)
      simp [boundedText, hpos, h t htext]

/-! ### The context -/

omit [Platform] in
theorem lookupRule_mem {rules : List (String × ClassificationRule)} {text : Option String}
    {rule : ClassificationRule} (h : lookupRule rules text = some rule) :
    ∃ t, (t, rule) ∈ rules := by
  obtain ⟨t, -, h⟩ := Option.bind_eq_some_iff.mp h
  obtain ⟨before, after, rfl, -⟩ := List.lookup_eq_some_iff.mp h
  exact ⟨t, by simp⟩

/-- The code of a diagnosis fits the context. -/
theorem classifyFailure_bounded (c : PaymentCase) :
    boundedText 1 100 (classifyFailure c).diagnosisReasonCode = true := by
  have hreason : ∀ x ∈ reasonRules, boundedText 1 100 x.2.2 = true := by decide +kernel
  have hsource : ∀ x ∈ sourceRules, boundedText 1 100 x.2.2 = true := by decide +kernel
  have hstep : ∀ x ∈ stepRules, boundedText 1 100 x.2.2 = true := by decide +kernel
  have hhalted : boundedText 1 100 "SUBSCRIPTION_AUTOMATIC_RETRIES_EXHAUSTED" = true := by
    decide +kernel
  have hother : boundedText 1 100 "PAYMENT_FAILURE_UNCLASSIFIED" = true := by decide +kernel
  unfold classifyFailure
  simp only
  split
  · exact hhalted
  split
  · rename_i rule hrule
    obtain ⟨t, hmem⟩ := lookupRule_mem hrule
    exact hreason (t, rule) hmem
  split
  · rename_i rule hrule
    obtain ⟨t, hmem⟩ := lookupRule_mem hrule
    exact hsource (t, rule) hmem
  split
  · rename_i rule hrule
    obtain ⟨t, hmem⟩ := lookupRule_mem hrule
    exact hstep (t, rule) hmem
  · exact hother

/-- Storing its own assessment changes nothing about the eligibility of an open case. -/
theorem assessEligibility_assessed {c : PaymentCase} (hstate : c.currentState = .reconciling)
    (eligibility : EligibilityResult) (diagnosis : FailureDiagnosis) (now : Int) :
    assessEligibility (c.assessed eligibility diagnosis) now = assessEligibility c now := by
  have hfacts : assessmentFacts (c.assessed eligibility diagnosis) = assessmentFacts c := by
    simp only [assessmentFacts, PaymentCase.assessed, hstate, terminalReason, Option.isSome_none,
      Bool.false_eq_true, if_false]
  have hverdict : eligibilityVerdict (c.assessed eligibility diagnosis) now =
      eligibilityVerdict c now := by
    simp only [eligibilityVerdict, PaymentCase.assessed, assessStatus, assessPaymentStatus,
      assessSubscriptionStatus, hstate, terminalReason, reduceCtorEq, if_false]
  simp only [assessEligibility, buildAssessmentFingerprint, hverdict, hfacts]

theorem upperStripped_inr : upperStripped "INR" = "INR" := by
  have hstrip : strip "INR" = "INR" := by decide +kernel
  have hcapital : ∀ c ∈ "INR".toList, c.toNat < 128 ∧ ¬ (97 ≤ c.toNat ∧ c.toNat ≤ 122) := by
    intro c hc
    have hletters : c = 'I' ∨ c = 'N' ∨ c = 'R' := by simpa using hc
    rcases hletters with rfl | rfl | rfl <;> decide
  rw [upperStripped, hstrip]
  exact Platform.upper_ascii _ hcapital

theorem validateStrategyContext_of {c : PaymentCase} {now : Int} {category : FailureCategory}
    {disposition : RecoveryDisposition} {reasonCode : String}
    (heligible : (assessEligibility c now).decision = .eligible)
    (hcurrent : c.assessmentIsCurrent now = true) (hdiagnosis : c.diagnosisIsCurrent = true)
    (hcategory : c.failureCategory = some category)
    (hdisposition : c.recoveryDisposition = some disposition)
    (hreason : c.diagnosisReasonCode = some reasonCode)
    (hformed : (buildStrategyContext c category disposition reasonCode).wellFormed = true) :
    validateStrategyContext c now = .ok (buildStrategyContext c category disposition reasonCode) := by
  unfold validateStrategyContext
  rw [require_bind, if_pos heligible, require_bind, if_pos hcurrent, require_bind,
    if_pos hdiagnosis, hcategory, hdisposition, hreason]
  simp only [requireSome, ok_bind]
  rw [require_bind, if_pos hformed]
  rfl

/-- The context of an eligible scenario can be built. -/
theorem scenarioContext_eq_ok {scenario : SyntheticScenario} (h : scenario.Bounded)
    (heligible : (assessEligibility (scenarioRow scenario) evaluationClock).decision = .eligible) :
    ∃ context, validateStrategyContext ((scenarioRow scenario).assessed
      (assessEligibility (scenarioRow scenario) evaluationClock)
      (classifyFailure (scenarioRow scenario))) evaluationClock = .ok context := by
  have hsame := assessEligibility_assessed (c := scenarioRow scenario) rfl
    (assessEligibility (scenarioRow scenario) evaluationClock)
    (classifyFailure (scenarioRow scenario)) evaluationClock
  generalize hrow : (scenarioRow scenario).assessed _ _ = c at hsame ⊢
  have hcurrent : c.assessmentIsCurrent evaluationClock = true := by
    simp only [PaymentCase.assessmentIsCurrent, hsame]
    rw [← hrow]
    simp [PaymentCase.assessed, heligible]
  have hdiagnosis : c.diagnosisIsCurrent = true := by
    have hclassified : classifyFailure c = classifyFailure (scenarioRow scenario) := by
      rw [← hrow]
      rfl
    simp only [PaymentCase.diagnosisIsCurrent, hclassified]
    rw [← hrow]
    simp [PaymentCase.assessed]
  obtain ⟨-, -, -, hfailed⟩ := eligible_iff.mp heligible
  have hstatuses : boundedContextText (normalized scenario.paymentStatus) = true ∧
      boundedContextText (normalized scenario.subscriptionStatus) = true := by
    rcases hfailed with ⟨hpayment, hsubscription, -⟩ | ⟨hpayment, hsubscription, -, -⟩ <;>
    · replace hpayment : normalized scenario.paymentStatus = _ := hpayment
      replace hsubscription : normalized scenario.subscriptionStatus = _ := hsubscription
      rw [hpayment, hsubscription]
      decide
  have hformed : (buildStrategyContext c (classifyFailure (scenarioRow scenario)).failureCategory
      (classifyFailure (scenarioRow scenario)).recoveryDisposition
      (classifyFailure (scenarioRow scenario)).diagnosisReasonCode).wellFormed = true := by
    have hcurrency : (c.currency.map upperStripped).all (boundedText 3 3) = true := by
      rw [← hrow]
      show boundedText 3 3 (upperStripped "INR") = true
      rw [upperStripped_inr]
      decide
    simp only [StrategyContext.wellFormed, buildStrategyContext, hcurrency, Bool.true_and,
      Bool.and_eq_true]
    rw [← hrow]
    exact ⟨⟨⟨⟨⟨⟨h.paymentMethod.boundedContextText, hstatuses.1⟩, hstatuses.2⟩,
      classifyFailure_bounded _⟩, h.errorReason.boundedContextText⟩,
      h.errorSource.boundedContextText⟩, h.errorStep.boundedContextText⟩
  refine ⟨_, validateStrategyContext_of (by rw [hsame]; exact heligible) hcurrent hdiagnosis ?_ ?_ ?_
    hformed⟩ <;>
  · rw [← hrow]
    rfl

/-! ### The policy -/

omit [Platform] in
theorem allowedActionSet_automated :
    allowedActionSet ((textSet (automatedRecoveryActions.map RecoveryAction.value)).map .str) =
      some (RecoveryAction.setOf automatedRecoveryActions) := by
  have hsorted : textSet (automatedRecoveryActions.map RecoveryAction.value) =
      ["CREATE_RECOVERY_LINK", "REQUEST_PAYMENT_METHOD_UPDATE", "REQUEST_RETRY"] := by
    decide +kernel
  rw [hsorted]
  decide +kernel

/-- Every profile parses, and sets the same recovery window. -/
theorem policyConfiguration_eq_ok (profile : PolicyProfile) :
    ∃ configuration, policyConfiguration profile = .ok configuration ∧
      configuration.recoveryWindowMinutes = 1440 := by
  have hrules : ∃ rules, validateStoppingRules (if profile = .blockFailureCategory then
      [("blocked_failure_categories", .arr [.str "GATEWAY_OR_NETWORK"])] else []) = some rules := by
    cases profile <;> exact ⟨_, rfl⟩
  obtain ⟨rules, hrules⟩ := hrules
  unfold policyConfiguration
  simp only [validatePolicy, evaluationPolicy, limitValue, thresholdValue, bind, Option.bind, pure,
    allowedActionSet_automated, hrules]
  exact ⟨_, rfl, rfl⟩

/-- A verdict names the end of the recovery window, or none. -/
theorem recoveryWindowEndsAt_cases (facts : AuthorizationFacts) (configuration : PolicyConfiguration) :
    (evaluateAuthorization facts true (some configuration)).recoveryWindowEndsAt = none ∨
    (evaluateAuthorization facts true (some configuration)).recoveryWindowEndsAt =
      some (recoveryWindowEnd facts configuration) := by
  unfold evaluateAuthorization
  simp only [Bool.true_eq_false, if_false]
  split
  · exact .inl rfl
  split
  · exact .inl rfl
  unfold evaluateConfigured
  simp only
  split
  · exact .inl rfl
  split
  · exact .inl rfl
  split
  · exact .inl rfl
  split
  · exact .inl rfl
  split
  · exact .inr rfl
  · exact .inr rfl

theorem authorizeScenario_eq_ok {scenario : SyntheticScenario} (h : scenario.Bounded)
    {c : PaymentCase} (hdetected : c.detectedAt = scenario.detectedAt) (action : RecoveryAction)
    {configuration : PolicyConfiguration} (hwindow : configuration.recoveryWindowMinutes = 1440) :
    authorizeScenario c action configuration =
      .ok (evaluateAuthorization (scenarioFacts c action) true (some configuration)) := by
  unfold authorizeScenario
  rcases recoveryWindowEndsAt_cases (scenarioFacts c action) configuration with hend | hend
  · simp only [hend]
    rfl
  · have hvalue : recoveryWindowEnd (scenarioFacts c action) configuration =
        scenario.detectedAt + minutes 1440 := by
      rw [recoveryWindowEnd, hwindow, ← hdetected]
      rfl
    have hfirst : firstInstant ≤ scenario.detectedAt + minutes 1440 := by
      have := h.detected
      simp only [minutes, seconds]
      omega
    simp only [hend, hvalue, representable_eq_ok hfirst h.window]
    rfl

/-! ### One scenario

A scenario can end in many places, from the missing diagnosis to the repeated execution.
What makes a result safe does not mention the place: the lemmas show it for the common
shapes of an end, and the theorem only picks the shape.
-/

/-- What a result may not do, and what it must be counted as. -/
structure EvaluationCaseResult.Safe (scenario : SyntheticScenario) (r : EvaluationCaseResult) :
    Prop where
  id_eq : r.scenarioId = scenario.scenarioId
  kind_eq : r.scenarioKind = scenario.kind
  amount_eq : r.amountMinor = scenario.amountMinor
  outcome_eq : r.syntheticOutcome = scenario.syntheticOutcome
  evidence_eq : r.evidenceClass = syntheticEvidenceClass
  once : r.executionCount ≤ 1
  authorized : 0 < r.executionCount → r.isAuthorized = true
  uncaptured : 0 < r.executionCount → r.capturedTruthObserved = false ∧
    scenario.staleCaptureBeforeExecution = false ∧
    normalized scenario.paymentStatus ≠ some "captured"
  known : 0 < r.executionCount → r.failureCategory ≠ some .unknown
  recovered : r.isRecovered = true → r.isEligible = true ∧
    r.syntheticRecoveredAmountMinor = scenario.amountMinor ∧
    scenario.syntheticOutcome = .successfulCapture ∧ r.executionCount = 1
  classified : r.finalClassification = .syntheticRecovered ↔ r.isRecovered = true

/-- A result without an execution is safe. -/
theorem EvaluationCaseResult.Safe.idle {scenario : SyntheticScenario} {r : EvaluationCaseResult}
    (hid : r.scenarioId = scenario.scenarioId) (hkind : r.scenarioKind = scenario.kind)
    (hamount : r.amountMinor = scenario.amountMinor)
    (houtcome : r.syntheticOutcome = scenario.syntheticOutcome)
    (hevidence : r.evidenceClass = syntheticEvidenceClass) (hcount : r.executionCount = 0)
    (hrecovered : r.syntheticRecoveredAmountMinor = 0)
    (hfinal : r.finalClassification ≠ .syntheticRecovered) : r.Safe scenario := by
  have hnot : ¬ r.isRecovered = true := by simp [isRecovered, hrecovered]
  have hnone : ¬ 0 < r.executionCount := by omega
  refine ⟨hid, hkind, hamount, houtcome, hevidence, by omega, fun h => absurd h hnone,
    fun h => absurd h hnone, fun h => absurd h hnone, fun h => absurd h hnot, ?_⟩
  exact iff_of_false hfinal hnot

theorem ineligibleResult_safe (scenario : SyntheticScenario) (eligibility : EligibilityResult) :
    (ineligibleResult scenario eligibility).Safe scenario := by
  refine .idle rfl rfl rfl rfl rfl rfl rfl ?_
  show (if _ then _ else _) ≠ _
  split
  · decide
  split <;> decide

/-- A key is executed once, and not at all where it has been executed before. -/
theorem requestExecutions_count (key : Digest) (n : Nat) (tally : ExecutionTally) :
    (requestExecutions key n tally).executionCount ≤ tally.executionCount + 1 ∧
    (key ∈ tally.executedActionKeys →
      (requestExecutions key n tally).executionCount = tally.executionCount) := by
  induction n generalizing tally with
  | zero => exact ⟨Nat.le_succ _, fun _ => rfl⟩
  | succ n ih =>
      rw [requestExecutions]
      by_cases hkey : key ∈ tally.executedActionKeys
      · rw [if_pos hkey]
        have hstays := (ih { tally with duplicatePrevented := tally.duplicatePrevented + 1 }).2 hkey
        exact ⟨by rw [hstays]; exact Nat.le_succ _, fun _ => hstays⟩
      · rw [if_neg hkey]
        refine ⟨?_, fun h => absurd h hkey⟩
        exact le_of_eq ((ih { tally with
          executedActionKeys := key :: tally.executedActionKeys
          executionCount := tally.executionCount + 1 }).2 (List.mem_cons_self ..))

/-- The result common to all ends of a scenario whose action has been evaluated. -/
structure PolicyEvaluated (scenario : SyntheticScenario) (action : RecoveryAction)
    (result : PolicyDecisionResult) (common : EvaluationCaseResult) : Prop where
  id_eq : common.scenarioId = scenario.scenarioId
  kind_eq : common.scenarioKind = scenario.kind
  amount_eq : common.amountMinor = scenario.amountMinor
  outcome_eq : common.syntheticOutcome = scenario.syntheticOutcome
  evidence_eq : common.evidenceClass = syntheticEvidenceClass
  count_eq : common.executionCount = 0
  recovered_eq : common.syntheticRecoveredAmountMinor = 0
  captured_eq : common.capturedTruthObserved = false
  eligible : common.isEligible = true
  action_eq : common.strategyAction = some action
  result_eq : common.policyResult = some result
  uncaptured : normalized scenario.paymentStatus ≠ some "captured"
  known : action ∈ automatedRecoveryActions → common.failureCategory ≠ some .unknown

variable [NameDigests] {scenario : SyntheticScenario} {action : RecoveryAction}
  {result : PolicyDecisionResult} {common : EvaluationCaseResult}

omit [NameDigests] in
/-- An end without an execution. -/
theorem PolicyEvaluated.idle (h : PolicyEvaluated scenario action result common) (captured : Bool)
    {final : FinalClassification} (hfinal : final ≠ .syntheticRecovered) :
    { common with
      capturedTruthObserved := captured
      finalClassification := final }.Safe scenario :=
  .idle h.id_eq h.kind_eq h.amount_eq h.outcome_eq h.evidence_eq h.count_eq h.recovered_eq hfinal

omit [Platform] [NameDigests] in
theorem recoveredClass_iff (amount : Nat) :
    (if 0 < amount then FinalClassification.syntheticRecovered else .unresolved) =
      .syntheticRecovered ↔ 0 < amount := by
  by_cases hpositive : 0 < amount <;> simp [hpositive]

theorem executeScenario_safe (h : PolicyEvaluated scenario action .authorized common)
    (haction : action ∈ automatedRecoveryActions)
    (hstale : scenario.staleCaptureBeforeExecution = false) (keys : List Digest) :
    (executeScenario scenario action common keys).2.Safe scenario := by
  have hcount := (requestExecutions_count (executionKey scenario action)
    scenario.executionRequestCount ⟨keys, 0, 0⟩).1
  unfold executeScenario
  generalize requestExecutions _ _ _ = tally at hcount ⊢
  refine
    { id_eq := h.id_eq
      kind_eq := h.kind_eq
      amount_eq := h.amount_eq
      outcome_eq := h.outcome_eq
      evidence_eq := h.evidence_eq
      once := by simpa using hcount
      authorized := fun _ => ?_
      uncaptured := fun _ => ⟨h.captured_eq, hstale, h.uncaptured⟩
      known := fun _ => h.known haction
      recovered := fun hrecovered => ?_
      classified := ?_ }
  · simp [EvaluationCaseResult.isAuthorized, h.action_eq, h.result_eq, haction]
  · simp only [EvaluationCaseResult.isRecovered, decide_eq_true_eq] at hrecovered
    split at hrecovered
    · rename_i hcaptured
      exact ⟨h.eligible, if_pos hcaptured, hcaptured.1, hcaptured.2⟩
    · exact absurd hrecovered (Nat.lt_irrefl 0)
  · simp only [EvaluationCaseResult.isRecovered, decide_eq_true_eq]
    exact recoveredClass_iff _

/-- Whatever the policy says, the result is safe. -/
theorem concludeScenario_safe (h : PolicyEvaluated scenario action result common) (c : PaymentCase)
    (keys : List Digest) : (concludeScenario scenario c action result common keys).2.Safe scenario := by
  have hidle : ∀ {final : FinalClassification}, final ≠ .syntheticRecovered →
      { common with finalClassification := final }.Safe scenario :=
    fun hfinal => h.idle common.capturedTruthObserved hfinal
  unfold concludeScenario
  split
  · exact hidle (by decide)
  split
  · exact hidle (by decide)
  split
  · exact hidle (by decide)
  rename_i hblocked
  split
  · exact hidle (by decide)
  rename_i happroval
  split
  · exact hidle (by decide)
  rename_i haction
  split
  · exact h.idle _ (by decide)
  rename_i hstale
  have hauthorized : result = .authorized := by
    cases result with
    | authorized => rfl
    | blocked => exact absurd rfl hblocked
    | requiresApproval => exact absurd rfl happroval
  subst hauthorized
  exact executeScenario_safe h (not_not.mp haction) (by simpa using hstale) keys

omit [Platform] [NameDigests] in
/-- A proposal that was taken is compatible with the disposition. -/
theorem scenarioStrategy_compatible {σ : Type} {provider : StrategyProvider σ} {state state' : σ}
    {context : StrategyContext} {disposition : RecoveryDisposition}
    (h : scenarioStrategy provider state context scenario disposition = (state', some action)) :
    isActionCompatible disposition action = true := by
  unfold scenarioStrategy at h
  simp only at h
  split at h
  · rename_i proposed hproposed
    simp only [Prod.mk.injEq] at h
    obtain ⟨-, h⟩ := h
    split at h
    · rename_i hcompatible
      cases h
      exact hcompatible
    · cases h
  · cases h
  · cases h

omit [NameDigests] in
theorem classifyFailure_disposition (c : PaymentCase) :
    (classifyFailure c).recoveryDisposition = dispositions (classifyFailure c).failureCategory := by
  unfold classifyFailure
  simp only
  split
  · rfl
  split
  · rfl
  split
  · rfl
  split <;> rfl

omit [Platform] [NameDigests] in
/-- An unknown failure is only escalated. -/
theorem unknown_escalates (h : isActionCompatible (dispositions .unknown) action = true) :
    action ∉ automatedRecoveryActions := by
  have haction : action = .escalateToHuman := by
    simpa [isActionCompatible, dispositions, compatibleActions] using h
  rw [haction]
  decide

/-- **One scenario**: inside its bounds nothing is raised, and the result is safe. -/
theorem evaluateScenario_safe {σ : Type} (provider : StrategyProvider σ) (state : BatchState σ)
    (hbounded : scenario.Bounded) :
    ∃ state' r, evaluateScenario provider state scenario = .ok (state', r) ∧ r.Safe scenario := by
  unfold evaluateScenario
  rw [scenarioCase_eq_ok hbounded, ok_bind]
  simp only
  by_cases heligible :
      (assessEligibility (scenarioRow scenario) evaluationClock).decision = .eligible
  swap
  · rw [if_neg heligible]
    exact ⟨_, _, rfl, ineligibleResult_safe _ _⟩
  rw [if_pos heligible]
  obtain ⟨context, hcontext⟩ := scenarioContext_eq_ok hbounded heligible
  unfold evaluateEligible
  dsimp only
  rw [hcontext]
  simp only [Except.mapError, ok_bind]
  cases hstrategy : scenarioStrategy provider state.provider context scenario
      (classifyFailure (scenarioRow scenario)).recoveryDisposition with
  | mk providerState proposed =>
  cases proposed with
  | none => exact ⟨_, _, rfl, .idle rfl rfl rfl rfl rfl rfl rfl
      (show FinalClassification.safeStop ≠ .syntheticRecovered by decide)⟩
  | some action =>
      obtain ⟨configuration, hconfiguration, hwindow⟩ :=
        policyConfiguration_eq_ok scenario.policyProfile
      have hpolicy := authorizeScenario_eq_ok hbounded
        (c := (scenarioRow scenario).assessed
          (assessEligibility (scenarioRow scenario) evaluationClock)
          (classifyFailure (scenarioRow scenario))) rfl action hwindow
      simp only [hconfiguration, hpolicy, ok_bind]
      refine ⟨_, _, rfl, concludeScenario_safe ?_ _ _⟩
      have hcompatible := scenarioStrategy_compatible hstrategy
      obtain ⟨-, -, -, hfailed⟩ := eligible_iff.mp heligible
      exact
        { id_eq := rfl
          kind_eq := rfl
          amount_eq := rfl
          outcome_eq := rfl
          evidence_eq := rfl
          count_eq := rfl
          recovered_eq := rfl
          captured_eq := rfl
          eligible := by simp [EvaluationCaseResult.isEligible, caseResult, heligible]
          action_eq := rfl
          result_eq := rfl
          uncaptured := by
            intro hcaptured
            rcases hfailed with ⟨hpayment, -⟩ | ⟨hpayment, -⟩ <;>
            · replace hpayment : normalized scenario.paymentStatus = _ := hpayment
              rw [hpayment] at hcaptured
              simp at hcaptured
          known := by
            intro hautomated hunknown
            replace hunknown := Option.some.inj hunknown
            rw [classifyFailure_disposition, hunknown] at hcompatible
            exact unknown_escalates hcompatible hautomated }

/-! ### The batch -/

/-- **The batch**: there is one safe result for each scenario, in their order. -/
theorem evaluateScenarios_safe {σ : Type} (provider : StrategyProvider σ) (state : BatchState σ)
    {scenarios : List SyntheticScenario} (hbounded : ∀ x ∈ scenarios, x.Bounded) :
    ∃ state' results, evaluateScenarios provider state scenarios = .ok (state', results) ∧
      List.Forall₂ (fun x r => EvaluationCaseResult.Safe x r) scenarios results := by
  induction scenarios generalizing state with
  | nil => exact ⟨state, [], rfl, .nil⟩
  | cons scenario scenarios ih =>
      obtain ⟨state', r, hfirst, hsafe⟩ :=
        evaluateScenario_safe provider state (hbounded scenario (List.mem_cons_self ..))
      obtain ⟨state'', results, hrest, hall⟩ :=
        ih state' fun x hx => hbounded x (List.mem_cons_of_mem scenario hx)
      refine ⟨state'', r :: results, ?_, .cons hsafe hall⟩
      rw [evaluateScenarios, hfirst, ok_bind]
      simp only [hrest, ok_bind]
      rfl

/-! ### The numbers of safe results -/

omit [Platform] [NameDigests] in
theorem sum_toNat (p : EvaluationCaseResult → Bool) (results : List EvaluationCaseResult) :
    (results.map fun r => (p r).toNat).sum = results.countP p := by
  induction results with
  | nil => rfl
  | cons r results ih =>
      rw [List.map_cons, List.sum_cons, ih, List.countP_cons]
      cases p r <;> simp [Nat.add_comm]

namespace EvaluationCaseResult

/-- The result of some scenario, safe. -/
def Accountable (r : EvaluationCaseResult) : Prop := ∃ scenario, r.Safe scenario

variable {r : EvaluationCaseResult} {results : List EvaluationCaseResult}

omit [NameDigests]

/-- Exactly one of the three classes takes an eligible case, and the first takes no other. -/
theorem Accountable.class_eq (h : r.Accountable) :
    r.isRecovered.toNat + r.isUnresolved.toNat + (r.isEligible && r.isProtected).toNat =
      r.isEligible.toNat := by
  obtain ⟨scenario, hsafe⟩ := h
  have hclass := hsafe.classified
  cases hrecovered : r.isRecovered with
  | true =>
      have hfinal := hclass.mpr hrecovered
      simp [isUnresolved, isProtected, hfinal, (hsafe.recovered hrecovered).1]
  | false =>
      have hfinal : r.finalClassification ≠ .syntheticRecovered :=
        fun h => by simp [hclass.mp h] at hrecovered
      cases heligible : r.isEligible with
      | false => simp [isUnresolved, heligible]
      | true =>
          by_cases hprotected : r.finalClassification = .protectedCaptured <;>
            simp [isUnresolved, isProtected, heligible, hprotected, hfinal]

theorem eligible_counted (h : ∀ r ∈ results, r.Accountable) :
    (results.filter isRecovered).length + results.countP isUnresolved +
      results.countP (fun r => r.isEligible && r.isProtected) =
        (results.filter isEligible).length := by
  simp only [← List.countP_eq_length_filter, ← sum_toNat]
  induction results with
  | nil => rfl
  | cons r results ih =>
      have hrest := ih fun x hx => h x (List.mem_cons_of_mem r hx)
      have hone := (h r (List.mem_cons_self ..)).class_eq
      simp only [List.map_cons, List.sum_cons]
      omega

theorem Accountable.recovered_le (h : r.Accountable) (hrecovered : r.isRecovered = true) :
    r.isEligible = true ∧ r.syntheticRecoveredAmountMinor = r.amountMinor := by
  obtain ⟨scenario, hsafe⟩ := h
  obtain ⟨heligible, hamount, -, -⟩ := hsafe.recovered hrecovered
  exact ⟨heligible, hamount.trans hsafe.amount_eq.symm⟩

theorem recovered_le_atRisk (h : ∀ r ∈ results, r.Accountable) :
    ((results.filter isRecovered).map syntheticRecoveredAmountMinor).sum ≤
      ((results.filter isEligible).map amountMinor).sum := by
  induction results with
  | nil => exact Nat.le_refl 0
  | cons r results ih =>
      have hrest := ih fun x hx => h x (List.mem_cons_of_mem r hx)
      cases hrecovered : r.isRecovered with
      | true =>
          obtain ⟨heligible, hamount⟩ := (h r (List.mem_cons_self ..)).recovered_le hrecovered
          simp only [List.filter_cons, hrecovered, heligible, if_true, List.map_cons, List.sum_cons,
            hamount]
          omega
      | false =>
          rw [List.filter_cons_of_neg (by simp [hrecovered])]
          refine hrest.trans ?_
          cases heligible : r.isEligible with
          | true =>
              simp only [List.filter_cons, heligible, if_true, List.map_cons, List.sum_cons]
              omega
          | false => rw [List.filter_cons_of_neg (by simp [heligible])]

omit [Platform] in
/-- A sum is zero where each result adds nothing. -/
theorem sum_eq_zero {f : EvaluationCaseResult → Nat} (h : ∀ r ∈ results, f r = 0) :
    (results.map f).sum = 0 := by
  refine List.sum_eq_zero fun n hn => ?_
  obtain ⟨r, hr, rfl⟩ := List.mem_map.mp hn
  exact h r hr

end EvaluationCaseResult

omit [NameDigests] in
/-- The results of a batch are accountable, and named as the scenarios are. -/
theorem accountable_of_forall₂ {scenarios : List SyntheticScenario}
    {results : List EvaluationCaseResult}
    (h : List.Forall₂ (fun x r => EvaluationCaseResult.Safe x r) scenarios results) :
    (∀ r ∈ results, r.Accountable) ∧
      results.map EvaluationCaseResult.scenarioId = scenarios.map SyntheticScenario.scenarioId := by
  induction h with
  | nil => exact ⟨fun _ hr => absurd hr List.not_mem_nil, rfl⟩
  | @cons x r scenarios results hsafe hall ih =>
      refine ⟨fun r' hr' => ?_, ?_⟩
      · rcases List.mem_cons.mp hr' with rfl | hr'
        · exact ⟨x, hsafe⟩
        · exact ih.1 r' hr'
      · rw [List.map_cons, List.map_cons, hsafe.id_eq, ih.2]

/-! ### The breakdown

The breakdown is a pass over the results that adds each of them to the row of its kind.
A column of it is a sum of per-result amounts, so summing the column over the kinds
gives the sum over the results, which is the metric of its name.
-/

/-- A column that each result adds to. -/
structure AddsUp (column : BreakdownRow → Nat) (part : EvaluationCaseResult → Nat) : Prop where
  start : column {} = 0
  add : ∀ row r, column (row.add r) = column row + part r

section

variable {column : BreakdownRow → Nat} {part : EvaluationCaseResult → Nat}

omit [Platform] [NameDigests]

theorem addToBreakdown_sum (h : AddsUp column part) (r : EvaluationCaseResult)
    (rows : List (String × BreakdownRow)) :
    ((addToBreakdown rows r).map fun x => column x.2).sum =
      (rows.map fun x => column x.2).sum + part r := by
  induction rows with
  | nil => simp [addToBreakdown, h.add, h.start]
  | cons row rows ih =>
      obtain ⟨key, row⟩ := row
      by_cases hkey : key = r.scenarioKind.value
      · simp only [addToBreakdown, if_pos hkey, List.map_cons, List.sum_cons, h.add]
        omega
      · simp only [addToBreakdown, if_neg hkey, List.map_cons, List.sum_cons, ih]
        omega

/-- The pass over the results adds each of them to the column once. -/
theorem foldl_breakdown_sum (h : AddsUp column part) (results : List EvaluationCaseResult)
    (rows : List (String × BreakdownRow)) :
    ((results.foldl addToBreakdown rows).map fun x => column x.2).sum =
      (rows.map fun x => column x.2).sum + (results.map part).sum := by
  induction results generalizing rows with
  | nil => simp
  | cons r results ih =>
      rw [List.foldl_cons, ih, addToBreakdown_sum h, List.map_cons, List.sum_cons]
      omega

/-- A column summed over all scenario kinds. -/
def columnTotal (column : BreakdownRow → Nat) (rows : List (String × BreakdownRow)) : Nat :=
  (rows.map fun x => column x.2).sum

theorem columnTotal_breakdown (h : AddsUp column part) (results : List EvaluationCaseResult) :
    columnTotal column (buildScenarioBreakdown results) = (results.map part).sum := by
  unfold columnTotal buildScenarioBreakdown
  rw [((List.mergeSort_perm _ _).map _).sum_eq, foldl_breakdown_sum h]
  simp

end

/-- Each column of the breakdown adds up to the metric of its name. -/
structure BreakdownTotals (rows : List (String × BreakdownRow)) (metrics : EvaluationMetrics) :
    Prop where
  cases : columnTotal BreakdownRow.cases rows = metrics.casesEvaluated
  eligible : columnTotal BreakdownRow.eligibleCases rows = metrics.eligibleCases
  authorized : columnTotal BreakdownRow.automatedActionsAuthorized rows =
    metrics.automatedActionsAuthorized
  approval : columnTotal BreakdownRow.humanApprovalRequired rows = metrics.humanApprovalRequired
  stopped : columnTotal BreakdownRow.safeStops rows = metrics.safeStopCases
  recovered : columnTotal BreakdownRow.syntheticRecoveredCases rows =
    metrics.syntheticRecoveredCases
  amount : columnTotal BreakdownRow.syntheticRecoveredAmountMinor rows =
    metrics.syntheticRecoveredAmountMinor

omit [Platform] [NameDigests] in
/-- What is not recovered adds nothing to the recovered amount. -/
theorem recovered_sum (results : List EvaluationCaseResult) :
    (results.map EvaluationCaseResult.syntheticRecoveredAmountMinor).sum =
      ((results.filter EvaluationCaseResult.isRecovered).map
        EvaluationCaseResult.syntheticRecoveredAmountMinor).sum := by
  induction results with
  | nil => rfl
  | cons r results ih =>
      cases hrecovered : r.isRecovered with
      | true => simp [hrecovered, ih]
      | false =>
          have hzero : r.syntheticRecoveredAmountMinor = 0 := by
            simpa [EvaluationCaseResult.isRecovered] using hrecovered
          simp [hrecovered, ih, hzero]

omit [Platform] [NameDigests] in
theorem breakdownTotals (results : List EvaluationCaseResult) :
    BreakdownTotals (buildScenarioBreakdown results) (calculateEvaluationMetrics results) where
  cases := by
    have hone : AddsUp BreakdownRow.cases fun _ => 1 := ⟨rfl, fun _ _ => rfl⟩
    rw [columnTotal_breakdown hone]
    simp [calculateEvaluationMetrics]
  eligible := by
    rw [columnTotal_breakdown ⟨rfl, fun _ _ => rfl⟩, sum_toNat, List.countP_eq_length_filter]
    rfl
  authorized := by
    rw [columnTotal_breakdown ⟨rfl, fun _ _ => rfl⟩, sum_toNat]
    rfl
  approval := by
    rw [columnTotal_breakdown ⟨rfl, fun _ _ => rfl⟩, sum_toNat]
    rfl
  stopped := by
    rw [columnTotal_breakdown ⟨rfl, fun _ _ => rfl⟩, sum_toNat]
    rfl
  recovered := by
    rw [columnTotal_breakdown ⟨rfl, fun _ _ => rfl⟩, sum_toNat, List.countP_eq_length_filter]
    rfl
  amount := by
    rw [columnTotal_breakdown ⟨rfl, fun _ _ => rfl⟩, recovered_sum]
    rfl

/-! ### The pass criteria -/

section

variable {results : List EvaluationCaseResult}

omit [NameDigests]

theorem violations_eq_zero (h : ∀ r ∈ results, r.Accountable) :
    (calculateEvaluationMetrics results).policyViolationsExecuted = 0 := by
  refine EvaluationCaseResult.sum_eq_zero fun r hr => ?_
  obtain ⟨scenario, hsafe⟩ := h r hr
  by_cases hcount : 0 < r.executionCount
  · exact if_pos (hsafe.authorized hcount)
  · split <;> omega

theorem unsafeActions_eq_zero (h : ∀ r ∈ results, r.Accountable) :
    (calculateEvaluationMetrics results).unsafeActionsAfterCapture = 0 := by
  refine EvaluationCaseResult.sum_eq_zero fun r hr => ?_
  obtain ⟨hr, hcaptured⟩ := List.mem_filter.mp hr
  obtain ⟨scenario, hsafe⟩ := h r hr
  by_contra hcount
  have huncaptured := (hsafe.uncaptured (Nat.pos_of_ne_zero hcount)).1
  rw [hcaptured] at huncaptured
  cases huncaptured

theorem duplicates_eq_zero (h : ∀ r ∈ results, r.Accountable) :
    (calculateEvaluationMetrics results).duplicateExecutions = 0 := by
  refine EvaluationCaseResult.sum_eq_zero fun r hr => ?_
  obtain ⟨scenario, hsafe⟩ := h r hr
  have := hsafe.once
  omega

omit [Platform] in
theorem unmet_eq_nil {failed : Bool} {reason : String} (h : failed = false) :
    unmet failed reason = [] := by
  rw [h]
  rfl

/-- **Safe results with distinct identifiers meet every criterion.** -/
theorem passes_of_accountable (h : ∀ r ∈ results, r.Accountable)
    (hids : (results.map EvaluationCaseResult.scenarioId).Nodup) :
    (evaluatePassCriteria results (calculateEvaluationMetrics results) results.length).passed =
      true := by
  have hevidence : (results.any fun r => r.evidenceClass != syntheticEvidenceClass) = false := by
    refine List.any_eq_false.mpr fun r hr => ?_
    obtain ⟨scenario, hsafe⟩ := h r hr
    simp [hsafe.evidence_eq]
  have hsuccess : (results.any fun r => r.isRecovered && r.syntheticOutcome != .successfulCapture) =
      false := by
    refine List.any_eq_false.mpr fun r hr => ?_
    obtain ⟨scenario, hsafe⟩ := h r hr
    cases hrecovered : r.isRecovered with
    | false => simp
    | true => simp [hsafe.outcome_eq, (hsafe.recovered hrecovered).2.2.1]
  have hknown : (results.any fun r => r.failureCategory == some .unknown && 0 < r.executionCount) =
      false := by
    refine List.any_eq_false.mpr fun r hr => ?_
    obtain ⟨scenario, hsafe⟩ := h r hr
    by_cases hcount : 0 < r.executionCount
    · simp [hsafe.known hcount]
    · simp [hcount]
  have hinvoked := List.length_eq_countP_add_countP EvaluationCaseResult.strategyProviderInvoked
    (l := results)
  have heligible := EvaluationCaseResult.eligible_counted h
  have hrisk := EvaluationCaseResult.recovered_le_atRisk h
  unfold evaluatePassCriteria
  simp only
  rw [List.isEmpty_iff]
  simp only [failedCriteria, List.append_eq_nil_iff]
  refine ⟨⟨⟨⟨⟨⟨⟨⟨⟨⟨⟨?_, ?_⟩, ?_⟩, ?_⟩, ?_⟩, ?_⟩, ?_⟩, ?_⟩, ?_⟩, ?_⟩, ?_⟩, ?_⟩ <;>
    refine unmet_eq_nil ?_
  · simp
  · simp [List.dedup_eq_self.mpr hids]
  · simp
  · simp [violations_eq_zero h]
  · simp [unsafeActions_eq_zero h]
  · simp [duplicates_eq_zero h]
  · exact hevidence
  · exact hsuccess
  · exact hknown
  · exact decide_eq_false (Nat.not_lt.mpr hrisk)
  · refine bne_eq_false_iff_eq.mpr ?_
    simp only [calculateEvaluationMetrics]
    rw [hinvoked]
    simp
  · exact bne_eq_false_iff_eq.mpr heligible

end

/-- The aggregate of a report is safe, and its numbers agree with one another. -/
structure Balanced (report : EvaluationReport) : Prop where
  passed : report.assessment.passed = true
  recovered : report.metrics.syntheticRecoveredAmountMinor ≤ report.metrics.revenueAtRiskMinor
  /-- Each eligible case is counted as recovered, as unresolved or as protected. -/
  eligible : report.metrics.syntheticRecoveredCases + report.metrics.unresolvedCases +
    report.caseResults.countP (fun r => r.isEligible && r.isProtected) =
      report.metrics.eligibleCases
  once : ∀ r ∈ report.caseResults, r.isEligible = true →
    r.isRecovered.toNat + r.isUnresolved.toNat + r.isProtected.toNat = 1
  breakdown : BreakdownTotals report.scenarioBreakdown report.metrics

/--
**The batch is safe and adds up.**  For scenarios with distinct identifiers and inside
their bounds, and whatever the provider answers, there is a report: one safe result for
each scenario, in their order, an assessment that passes, every eligible case counted
once, and a breakdown whose columns add up to the metrics.
-/
theorem batch_evaluation_safe {σ : Type} (provider : StrategyProvider σ) (initial : σ)
    (scenarios : List SyntheticScenario)
    (hids : (scenarios.map SyntheticScenario.scenarioId).Nodup)
    (hbounded : ∀ x ∈ scenarios, x.Bounded) :
    ∃ report, runBatchEvaluation provider initial scenarios = .ok report ∧
      List.Forall₂ (fun x r => EvaluationCaseResult.Safe x r) scenarios report.caseResults ∧
      Balanced report := by
  obtain ⟨state, results, hrun, hsafe⟩ := evaluateScenarios_safe provider ⟨initial, []⟩ hbounded
  obtain ⟨haccountable, hresultIds⟩ := accountable_of_forall₂ hsafe
  have hpasses := passes_of_accountable haccountable (hresultIds ▸ hids)
  rw [← hsafe.length_eq] at hpasses
  refine ⟨evaluationReport (provider.mode state.provider) scenarios.length results, ?_, hsafe, ?_⟩
  · unfold runBatchEvaluation
    rw [hrun, ok_bind]
    rfl
  · exact
      { passed := hpasses
        recovered := EvaluationCaseResult.recovered_le_atRisk haccountable
        eligible := EvaluationCaseResult.eligible_counted haccountable
        once := fun r hr heligible => by
          simpa [heligible] using (haccountable r hr).class_eq
        breakdown := breakdownTotals results }

end Arc

namespace Arc

attribute [local instance] asciiPlatform

/-- Names that stand for themselves. -/
@[reducible] def asciiNames : NameDigests where
  uuid5 name := name.toList.foldl (fun n c => n * 1114112 + c.toNat) 0
  sha256 := .str

attribute [local instance] asciiNames

/-- A failed card payment, for which a recovery link is asked for three times. -/
def sampleScenario : SyntheticScenario where
  scenarioId := "syn_1"
  kind := .insufficientFunds
  amountMinor := 1000
  identityKind := .payment
  paymentStatus := some "failed"
  subscriptionStatus := none
  paymentMethod := some "card"
  errorReason := some "insufficient_funds"
  errorSource := none
  errorStep := none
  attemptCount := 0
  contactAttemptCount := 0
  detectedMinutesAgo := 30
  offlineAction := some .createRecoveryLink
  syntheticOutcome := .successfulCapture
  executionRequestCount := 3

/-- The sample, and the same captured before the action is executed. -/
def sampleScenarios : List SyntheticScenario := [
  sampleScenario,
  { sampleScenario with
    scenarioId := "syn_2"
    kind := .staleCapture
    staleCaptureBeforeExecution := true }]

theorem batch_evaluation_safe_sample : ∃ report,
    runBatchEvaluation offlineStrategyProvider () sampleScenarios = .ok report ∧
      report.caseResults.map EvaluationCaseResult.executionCount = [1, 0] ∧
      report.metrics.syntheticRecoveredAmountMinor = 1000 ∧ Balanced report := by
  have hrun : ((runBatchEvaluation offlineStrategyProvider () sampleScenarios).toOption.map
      fun report => (report.caseResults.map EvaluationCaseResult.executionCount,
        report.metrics.syntheticRecoveredAmountMinor)) = some ([1, 0], 1000) := by
    decide +kernel
  have hbounded : ∀ x ∈ sampleScenarios, x.Bounded := by
    have hshort : ∀ text ∈ [some "card", some "insufficient_funds", none],
        (normalized text).all fun t => t.length ≤ 100 := by decide +kernel
    have hbound : ∀ text ∈ [some "card", some "insufficient_funds", none], contextBounded text := by
      intro text htext t ht
      have := hshort text htext
      rw [ht] at this
      simpa using this
    intro x hx
    simp only [sampleScenarios, List.mem_cons, List.not_mem_nil, or_false] at hx
    rcases hx with rfl | rfl <;>
    · refine ⟨by decide, by decide, hbound _ ?_, hbound _ ?_, hbound _ ?_, hbound _ ?_⟩ <;>
        simp [sampleScenario]
  obtain ⟨report, hreport, -, hbalanced⟩ := batch_evaluation_safe offlineStrategyProvider ()
    sampleScenarios (by decide) hbounded
  rw [hreport] at hrun
  simp only [Except.toOption, Option.map_some, Option.some.injEq, Prod.mk.injEq] at hrun
  exact ⟨report, hreport, hrun.1, hrun.2, hbalanced⟩

end Arc
