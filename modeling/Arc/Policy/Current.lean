/-
Recomputation of the current authorization inputs.

Policy evaluation and execution both start from here: the proposal must still match
the locked case, and everything with authority is computed again from the rows.
-/
import Arc.Diagnosis.FailureClassifier
import Arc.Policy.Eligibility
import Arc.Policy.Fingerprint

namespace Arc

open Store

variable [Platform]

structure CurrentAuthorizationInputs where
  merchantPolicy : Option MerchantPolicy
  configuration : Option PolicyConfiguration
  assessmentFingerprint : Digest
  policyFingerprint : Digest
  authorizationInputFingerprint : Digest
  evaluation : AuthorizationEvaluation

/-- The stored diagnosis is the one the stored evidence gives. -/
def PaymentCase.diagnosisIsCurrent (c : PaymentCase) : Bool :=
  let diagnosis := classifyFailure c
  c.failureCategory == some diagnosis.failureCategory &&
    c.recoveryDisposition == some diagnosis.recoveryDisposition &&
    c.diagnosisReasonCode == some diagnosis.diagnosisReasonCode

/-- The stored eligibility is ELIGIBLE and the one the clock gives. -/
def PaymentCase.eligibilityIsCurrent (c : PaymentCase) (now : Int) : Bool :=
  let eligibility := assessEligibility c now
  eligibility.decision == .eligible &&
    c.assessmentFingerprint == some eligibility.assessmentFingerprint &&
    c.eligibilityStatus == some .eligible &&
    c.eligibilityReasonCode == some eligibility.reasonCode

def validateCurrentProposal (c : PaymentCase) (proposal : StrategyProposal) (evaluatedAt : Int) :
    Except Error Unit := do
  require (proposal.caseId = c.id ∧ proposal.supersededAt = none)
    (.currentAuthorization "Strategy proposal does not belong to the current case")
  require (c.assessmentFingerprint = some proposal.assessmentFingerprint)
    (.currentAuthorization "Strategy proposal assessment is stale")
  require (c.eligibilityIsCurrent evaluatedAt)
    (.currentAuthorization "Strategy proposal no longer matches current eligibility")
  require c.diagnosisIsCurrent
    (.currentAuthorization "Strategy proposal no longer matches current diagnosis")

/-- The persisted assessment fingerprint. -/
def requiredAssessmentFingerprint (c : PaymentCase) : Except Error Digest :=
  requireSome c.assessmentFingerprint
    (.strategyNotAllowed "Current deterministic assessment is missing")

/-- The case facts a policy is evaluated against. -/
def authorizationFacts (c : PaymentCase) (proposal : StrategyProposal) (evaluatedAt : Int) :
    AuthorizationFacts where
  action := proposal.action
  amountMinor := c.amount
  attemptCount := c.attemptCount
  contactAttemptCount := c.contactAttemptCount
  detectedAt := c.detectedAt
  failureCategory := c.failureCategory
  paymentMethod := c.razorpayPaymentMethod
  evaluatedAt := evaluatedAt

/-- Revalidate the truth the proposal rests on and recompute all policy authority. -/
def recomputeCurrentAuthorizationInputs (db : Db) (c : PaymentCase) (proposal : StrategyProposal)
    (evaluatedAt : Int) : Except Error CurrentAuthorizationInputs := do
  validateCurrentProposal c proposal evaluatedAt
  let merchantPolicy := db.policyFor c.merchantId
  let configuration := merchantPolicy.bind validatePolicy
  let policyFingerprint := buildPolicyFingerprint merchantPolicy configuration
  let evaluation := evaluateAuthorization (authorizationFacts c proposal evaluatedAt)
    merchantPolicy.isSome configuration
  let assessmentFingerprint ← requiredAssessmentFingerprint c
  return {
    merchantPolicy := merchantPolicy
    configuration := configuration
    assessmentFingerprint := assessmentFingerprint
    policyFingerprint := policyFingerprint
    authorizationInputFingerprint :=
      buildAuthorizationInputFingerprint proposal assessmentFingerprint policyFingerprint c
        evaluation
    evaluation := evaluation }

/-! ### What a successful recomputation tells -/

/-- The proposal still stands on the case as it is. -/
structure ProposalCurrent (c : PaymentCase) (proposal : StrategyProposal) (now : Int) : Prop where
  case_eq : proposal.caseId = c.id
  not_superseded : proposal.supersededAt = none
  assessment : c.assessmentFingerprint = some proposal.assessmentFingerprint
  eligible : c.eligibilityIsCurrent now = true
  diagnosis : c.diagnosisIsCurrent = true

theorem validateCurrentProposal_eq_ok {c : PaymentCase} {proposal : StrategyProposal} {now : Int}
    {u : Unit} : validateCurrentProposal c proposal now = .ok u ↔ ProposalCurrent c proposal now := by
  unfold validateCurrentProposal
  constructor
  · intro h
    obtain ⟨_, hcase, h⟩ := bind_eq_ok.mp h
    obtain ⟨_, hassess, h⟩ := bind_eq_ok.mp h
    obtain ⟨_, helig, h⟩ := bind_eq_ok.mp h
    rw [require_eq_ok] at hcase hassess helig h
    exact ⟨hcase.1, hcase.2, hassess, helig, h⟩
  · intro h
    simp [require, h.case_eq, h.not_superseded, h.assessment, h.eligible, h.diagnosis, bind,
      Except.bind]

/-- The inputs a case, a proposal and a clock determine, given the policy row. -/
def inputsOf (c : PaymentCase) (proposal : StrategyProposal) (now : Int)
    (merchantPolicy : Option MerchantPolicy) : CurrentAuthorizationInputs :=
  let configuration := merchantPolicy.bind validatePolicy
  let policyFingerprint := buildPolicyFingerprint merchantPolicy configuration
  let evaluation := evaluateAuthorization (authorizationFacts c proposal now)
    merchantPolicy.isSome configuration
  { merchantPolicy := merchantPolicy
    configuration := configuration
    assessmentFingerprint := proposal.assessmentFingerprint
    policyFingerprint := policyFingerprint
    authorizationInputFingerprint :=
      buildAuthorizationInputFingerprint proposal proposal.assessmentFingerprint
        policyFingerprint c evaluation
    evaluation := evaluation }

/-- **Recomputation succeeds exactly for a current proposal**, with the determined inputs. -/
theorem recompute_eq_ok {db : Db} {c : PaymentCase} {proposal : StrategyProposal} {now : Int}
    {inputs : CurrentAuthorizationInputs} :
    recomputeCurrentAuthorizationInputs db c proposal now = .ok inputs ↔
      ProposalCurrent c proposal now ∧
        inputs = inputsOf c proposal now (db.policyFor c.merchantId) := by
  unfold recomputeCurrentAuthorizationInputs requiredAssessmentFingerprint inputsOf
  constructor
  · intro h
    obtain ⟨u, hvalid, h⟩ := bind_eq_ok.mp h
    have hcurrent := validateCurrentProposal_eq_ok.mp hvalid
    refine ⟨hcurrent, ?_⟩
    rw [hcurrent.assessment] at h
    simp only [requireSome, bind, Except.bind, pure, Except.pure] at h
    cases h
    rfl
  · rintro ⟨hcurrent, rfl⟩
    have hvalid := (validateCurrentProposal_eq_ok (u := ())).mpr hcurrent
    simp [hvalid, hcurrent.assessment, requireSome, bind, Except.bind, pure, Except.pure]

end Arc
