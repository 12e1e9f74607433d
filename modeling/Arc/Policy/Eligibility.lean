/-
Preconditions for considering recovery.

`assessEligibility` reads one case row and the clock.  Its checks stand in order of
precedence: terminal cases, identity, reconciliation time, and only then the status
the provider reported.  `eligible_iff` states what the answer ELIGIBLE means.
-/
import Arc.Domain.Models

namespace Arc

variable [Platform]

/-- How old reconciled truth may be. -/
def reconciliationFreshness : Int := seconds 300

def assessmentRulesetVersion : String := "task5-v1"

def terminalReason : CaseState → Option String
  | .recovered => some "STOP_ALREADY_RECOVERED"
  | .exhausted => some "STOP_ALREADY_EXHAUSTED"
  | .escalated => some "STOP_ALREADY_ESCALATED"
  | _ => none

structure EligibilityResult where
  decision : EligibilityDecision
  reasonCode : String
  explanation : String
  assessmentFingerprint : Digest
  deriving DecidableEq

/-- The facts an assessment fingerprint covers. -/
def assessmentFacts (c : PaymentCase) : Json :=
  .obj [
    ("ruleset_version", .str assessmentRulesetVersion),
    ("terminal_case_state",
      if (terminalReason c.currentState).isSome then .str c.currentState.value else .null),
    ("payment_id", .ofText c.paymentId),
    ("subscription_id", .ofText c.subscriptionId),
    ("razorpay_payment_status", .ofText (normalized c.razorpayPaymentStatus)),
    ("razorpay_subscription_status", .ofText (normalized c.razorpaySubscriptionStatus)),
    ("error_code", .ofText (normalized c.errorCode)),
    ("error_source", .ofText (normalized c.errorSource)),
    ("error_step", .ofText (normalized c.errorStep)),
    ("error_reason", .ofText (normalized c.errorReason)),
    ("payment_method", .ofText (normalized c.razorpayPaymentMethod)),
    ("amount", .ofOption (fun n : Nat => .int n) c.amount),
    ("currency", .ofText (c.currency.map upperStripped)),
    ("last_reconciled_at", .ofOption .int c.lastReconciledAt)]

def buildAssessmentFingerprint (c : PaymentCase) : Digest := Platform.hashFacts (assessmentFacts c)

/-- A verdict without its fingerprint. -/
structure Verdict where
  decision : EligibilityDecision
  reasonCode : String
  explanation : String
  deriving DecidableEq

def assessPaymentStatus (c : PaymentCase) (status : String) : Verdict :=
  if status = "captured" then
    ⟨.stop, "PAYMENT_ALREADY_CAPTURED", "The authoritative payment status is captured."⟩
  else if status = "refunded" then
    ⟨.stop, "PAYMENT_REFUNDED", "The authoritative payment status is refunded."⟩
  else if status = "created" ∨ status = "authorized" then
    ⟨.wait, "PAYMENT_NOT_FINAL", "The payment has not reached a final failure state."⟩
  else if status = "failed" then
    if c.currentState = .detected then
      ⟨.review, "CASE_STATE_NOT_RECONCILED",
        "A confirmed failure is not in a reconciled ARC state."⟩
    else
      ⟨.eligible, "PAYMENT_FAILURE_CONFIRMED",
        "Authoritative payment failure is eligible for diagnosis."⟩
  else
    ⟨.review, "UNRECOGNIZED_PAYMENT_STATUS",
      "The authoritative payment status is not recognized."⟩

def assessSubscriptionStatus (c : PaymentCase) (status : Option String) : Verdict :=
  if status = some "pending" then
    ⟨.wait, "PLATFORM_RETRY_ACTIVE", "Razorpay subscription retries remain active."⟩
  else if status = some "halted" then
    if c.currentState = .detected then
      ⟨.review, "CASE_STATE_NOT_RECONCILED",
        "A halted subscription is not in a reconciled ARC state."⟩
    else
      ⟨.eligible, "SUBSCRIPTION_RETRIES_EXHAUSTED",
        "Automatic subscription retries are exhausted."⟩
  else if status = some "active" then
    ⟨.stop, "SUBSCRIPTION_ACTIVE",
      "The subscription is active and requires no recovery reasoning."⟩
  else if status = some "paused" then
    ⟨.wait, "SUBSCRIPTION_PAUSED", "The subscription is paused."⟩
  else if status = some "created" ∨ status = some "authenticated" then
    ⟨.wait, "SUBSCRIPTION_NOT_RECOVERY_READY",
      "The subscription is not ready for recovery reasoning."⟩
  else if status = some "cancelled" ∨ status = some "completed" ∨ status = some "expired" then
    ⟨.stop, "SUBSCRIPTION_TERMINAL",
      "The subscription is in a non-recoverable terminal state."⟩
  else
    ⟨.review, "UNRECOGNIZED_SUBSCRIPTION_STATUS",
      "The authoritative subscription status is not recognized."⟩

/-- The checks on the reported status, once identity and time have passed. -/
def assessStatus (c : PaymentCase) : Verdict :=
  match normalized c.razorpayPaymentStatus, normalized c.razorpaySubscriptionStatus with
  | some _, some _ =>
      ⟨.review, "CONFLICTING_EXTERNAL_STATUSES",
        "The case contains conflicting payment and subscription truth."⟩
  | none, none =>
      ⟨.review, "AUTHORITATIVE_STATUS_MISSING",
        "Reconciliation did not produce a usable external status."⟩
  | some paymentStatus, none =>
      if truthy c.paymentId = false then
        ⟨.review, "PAYMENT_IDENTITY_MISSING", "Payment truth exists without a payment identity."⟩
      else assessPaymentStatus c paymentStatus
  | none, some subscriptionStatus =>
      if truthy c.subscriptionId = false then
        ⟨.review, "SUBSCRIPTION_IDENTITY_MISSING",
          "Subscription truth exists without a subscription identity."⟩
      else if c.paymentId.isSome then
        ⟨.review, "CONFLICTING_CASE_IDENTITY",
          "A subscription case contains an unexpected payment identity."⟩
      else assessSubscriptionStatus c (some subscriptionStatus)

/-- All checks, in their order of precedence. -/
def eligibilityVerdict (c : PaymentCase) (now : Int) : Verdict :=
  match terminalReason c.currentState with
  | some reason => ⟨.stop, reason, "The ARC case is terminal and cannot be reopened."⟩
  | none =>
      if truthy c.paymentId = false ∧ truthy c.subscriptionId = false then
        ⟨.review, "CASE_IDENTITY_MISSING", "The case has no payment or subscription identity."⟩
      else
        match c.lastReconciledAt with
        | none =>
            ⟨.wait, "RECONCILIATION_REQUIRED",
              "Authoritative reconciliation must complete before assessment."⟩
        | some reconciledAt =>
            if now < reconciledAt then
              ⟨.review, "RECONCILIATION_TIMESTAMP_IN_FUTURE",
                "The reconciliation timestamp is later than the assessment clock."⟩
            else if reconciliationFreshness < now - reconciledAt then
              ⟨.wait, "RECONCILIATION_STALE",
                "Authoritative financial truth is outside the freshness window."⟩
            else assessStatus c

def assessEligibility (c : PaymentCase) (now : Int) : EligibilityResult :=
  let verdict := eligibilityVerdict c now
  { decision := verdict.decision
    reasonCode := verdict.reasonCode
    explanation := verdict.explanation
    assessmentFingerprint := buildAssessmentFingerprint c }

/-! ### What eligibility means -/

/-- Reconciled truth that is neither from the future nor too old at `now`. -/
def PaymentCase.FreshAt (c : PaymentCase) (now : Int) : Prop :=
  ∃ reconciledAt, c.lastReconciledAt = some reconciledAt ∧ reconciledAt ≤ now ∧
    now - reconciledAt ≤ reconciliationFreshness

/-- A confirmed payment failure, or an exhausted subscription, and nothing else. -/
def PaymentCase.FailureConfirmed (c : PaymentCase) : Prop :=
  (normalized c.razorpayPaymentStatus = some "failed" ∧
    normalized c.razorpaySubscriptionStatus = none ∧ truthy c.paymentId = true) ∨
  (normalized c.razorpayPaymentStatus = none ∧
    normalized c.razorpaySubscriptionStatus = some "halted" ∧ truthy c.subscriptionId = true ∧
    c.paymentId = none)

theorem assessPaymentStatus_eligible {c : PaymentCase} {status : String} :
    (assessPaymentStatus c status).decision = .eligible ↔
      status = "failed" ∧ c.currentState ≠ .detected := by
  unfold assessPaymentStatus
  by_cases hcap : status = "captured"
  · simp [hcap]
  by_cases href : status = "refunded"
  · simp [href]
  by_cases hpend : status = "created" ∨ status = "authorized"
  · rcases hpend with rfl | rfl <;> simp
  by_cases hfail : status = "failed"
  · by_cases hdet : c.currentState = .detected <;> simp [hfail, hdet]
  · simp [hcap, href, hpend, hfail]

theorem assessSubscriptionStatus_eligible {c : PaymentCase} {status : Option String} :
    (assessSubscriptionStatus c status).decision = .eligible ↔
      status = some "halted" ∧ c.currentState ≠ .detected := by
  unfold assessSubscriptionStatus
  by_cases hpend : status = some "pending"
  · simp [hpend]
  by_cases hhalt : status = some "halted"
  · by_cases hdet : c.currentState = .detected <;> simp [hhalt, hdet]
  · simp only [hpend, hhalt, if_false, false_and]
    split
    · simp
    split
    · simp
    split
    · simp
    split <;> simp

theorem assessStatus_eligible {c : PaymentCase} :
    (assessStatus c).decision = .eligible ↔ c.FailureConfirmed ∧ c.currentState ≠ .detected := by
  unfold assessStatus PaymentCase.FailureConfirmed
  cases hp : normalized c.razorpayPaymentStatus with
  | some p =>
      cases hs : normalized c.razorpaySubscriptionStatus with
      | some s => simp
      | none =>
          by_cases hid : truthy c.paymentId = false
          · simp [hid]
          · have hid' : truthy c.paymentId = true := by simpa using hid
            simp [hid', assessPaymentStatus_eligible]
  | none =>
      cases hs : normalized c.razorpaySubscriptionStatus with
      | none => simp
      | some s =>
          by_cases hid : truthy c.subscriptionId = false
          · simp [hid]
          · cases hpid : c.paymentId with
            | some p => simp [hid]
            | none =>
                have hid' : truthy c.subscriptionId = true := by simpa using hid
                simp [hid', assessSubscriptionStatus_eligible]

/--
**What ELIGIBLE means**: the case is open and past detection, its truth is fresh at
the clock, and that truth is a confirmed failure.
-/
theorem eligible_iff {c : PaymentCase} {now : Int} :
    (assessEligibility c now).decision = .eligible ↔
      terminalReason c.currentState = none ∧ c.currentState ≠ .detected ∧ c.FreshAt now ∧
        c.FailureConfirmed := by
  show (eligibilityVerdict c now).decision = .eligible ↔ _
  unfold eligibilityVerdict PaymentCase.FreshAt
  cases hterm : terminalReason c.currentState with
  | some reason => simp
  | none =>
      by_cases hid : truthy c.paymentId = false ∧ truthy c.subscriptionId = false
      · simp [hid, PaymentCase.FailureConfirmed]
      · simp only [hid, if_false]
        cases hrec : c.lastReconciledAt with
        | none => simp
        | some reconciledAt =>
            by_cases hfuture : now < reconciledAt
            · have hnot : ¬ reconciledAt ≤ now := by omega
              simp only [hfuture, if_true, Option.some.injEq, exists_eq_left']
              constructor
              · intro hblocked
                cases hblocked
              · rintro ⟨-, -, ⟨hle, -⟩, -⟩
                exact absurd hle hnot
            · by_cases hstale : reconciliationFreshness < now - reconciledAt
              · have hnot : ¬ now - reconciledAt ≤ reconciliationFreshness := by omega
                simp only [hfuture, hstale, if_true, if_false, Option.some.injEq, exists_eq_left']
                constructor
                · intro hblocked
                  cases hblocked
                · rintro ⟨-, -, ⟨-, hfresh⟩, -⟩
                  exact absurd hfresh hnot
              · have hle : reconciledAt ≤ now := by omega
                have hfresh : now - reconciledAt ≤ reconciliationFreshness := by omega
                simp only [hfuture, hstale, if_false, assessStatus_eligible]
                constructor
                · rintro ⟨hfail, hdet⟩
                  exact ⟨trivial, hdet, ⟨reconciledAt, rfl, hle, hfresh⟩, hfail⟩
                · rintro ⟨-, hdet, -, hfail⟩
                  exact ⟨hfail, hdet⟩

end Arc
