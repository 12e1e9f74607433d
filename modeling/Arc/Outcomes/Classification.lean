/-
Classification of payment link evidence, and its fingerprint.

Everything that is not exactly one captured payment of the full amount, or a link on
which nothing was paid, is left to a human.
-/
import Mathlib.Data.List.Sort
import Arc.Integrations.Razorpay

namespace Arc

/-- The facts of an action, frozen before the provider is read. -/
structure ExpectedPaymentLinkEvidence where
  recoveryActionId : Uuid
  paymentLinkId : String
  referenceId : String
  amountMinor : Nat
  currency : String
  deriving DecidableEq, Repr

structure OutcomeClassification where
  outcomeStatus : RecoveryOutcomeStatus
  reasonCode : String
  providerPaymentId : Option String := none
  providerPaymentStatus : Option String := none
  deriving DecidableEq, Repr

def reviewOutcome (reasonCode : String) : OutcomeClassification where
  outcomeStatus := .reviewRequired
  reasonCode := reasonCode

variable [Platform]

/-- A link on which nothing was paid, or evidence that contradicts its status. -/
def unpaidOutcome (snapshot : PaymentLinkSnapshot) (outcomeStatus : RecoveryOutcomeStatus)
    (reasonCode conflictCode : String) : OutcomeClassification :=
  if snapshot.amountPaid ≠ 0 ∨ snapshot.payments ≠ [] then reviewOutcome conflictCode
  else { outcomeStatus := outcomeStatus, reasonCode := reasonCode }

/-- A paid link: exactly one captured payment of the expected amount. -/
def paidOutcome (expected : ExpectedPaymentLinkEvidence) (snapshot : PaymentLinkSnapshot) :
    OutcomeClassification :=
  if snapshot.amountPaid ≠ expected.amountMinor then
    reviewOutcome "RECOVERY_OUTCOME_AMOUNT_PAID_MISMATCH"
  else
    match snapshot.payments with
    | [payment] =>
        if payment.status ≠ "captured" ∨ payment.amount ≠ expected.amountMinor then
          reviewOutcome "RECOVERY_OUTCOME_CAPTURE_MISMATCH"
        else
          { outcomeStatus := .recovered
            reasonCode := "RECOVERY_PAYMENT_CAPTURED"
            providerPaymentId := some payment.paymentId
            providerPaymentStatus := some payment.status }
    | _ => reviewOutcome "RECOVERY_OUTCOME_CAPTURE_AMBIGUOUS"

def classifyPaymentLinkOutcome (expected : ExpectedPaymentLinkEvidence)
    (snapshot : PaymentLinkSnapshot) : OutcomeClassification :=
  if snapshot.id ≠ expected.paymentLinkId ∨ snapshot.referenceId ≠ expected.referenceId ∨
      snapshot.amount ≠ expected.amountMinor ∨
      snapshot.currency ≠ upperStripped expected.currency then
    reviewOutcome "RECOVERY_OUTCOME_IDENTITY_OR_AMOUNT_MISMATCH"
  else if snapshot.payments.any fun p =>
      p.paymentLinkId.any fun linkId => linkId != expected.paymentLinkId then
    reviewOutcome "RECOVERY_OUTCOME_PAYMENT_LINK_MISMATCH"
  else if snapshot.status = "created" ∨ snapshot.status = "issued" then
    unpaidOutcome snapshot .pending "RECOVERY_PAYMENT_LINK_PENDING"
      "RECOVERY_OUTCOME_PENDING_EVIDENCE_CONFLICT"
  else if snapshot.status = "paid" then paidOutcome expected snapshot
  else if snapshot.status = "expired" then
    unpaidOutcome snapshot .expired "RECOVERY_PAYMENT_LINK_EXPIRED"
      "RECOVERY_OUTCOME_EXPIRED_EVIDENCE_CONFLICT"
  else if snapshot.status = "cancelled" then
    unpaidOutcome snapshot .cancelled "RECOVERY_PAYMENT_LINK_CANCELLED"
      "RECOVERY_OUTCOME_CANCELLED_EVIDENCE_CONFLICT"
  else if snapshot.status = "partially_paid" then
    reviewOutcome "RECOVERY_OUTCOME_PARTIAL_PAYMENT_UNSUPPORTED"
  else reviewOutcome "RECOVERY_OUTCOME_PROVIDER_STATUS_UNKNOWN"

/-! ### The fingerprint of the evidence

The payments are sorted by identifier, amount and status, and hashed with all their
fields. The sort is stable, as Python's is.
-/

def outcomeObserverVersion : String := "payment-link-outcome-v1"

/-- The order payments are hashed in: by id, then amount, then status. -/
def paymentKeyLe (a b : CapturedPaymentProjection) : Prop :=
  a.paymentId < b.paymentId ∨ (a.paymentId = b.paymentId ∧
    (a.amount < b.amount ∨ (a.amount = b.amount ∧ a.status ≤ b.status)))

instance : DecidableRel paymentKeyLe := fun a b => by
  unfold paymentKeyLe
  infer_instance

def paymentEvidence (payment : CapturedPaymentProjection) : Json :=
  .obj [
    ("payment_id", .str payment.paymentId),
    ("amount", .int payment.amount),
    ("status", .str payment.status),
    ("method", .ofText payment.method),
    ("created_at", .ofOption (fun n : Nat => .int n) payment.createdAt),
    ("payment_link_id", .ofText payment.paymentLinkId)]

/-- Hash the normalized provider evidence, without URLs. -/
def buildOutcomeEvidenceFingerprint (recoveryActionId : Uuid) (snapshot : PaymentLinkSnapshot) :
    Digest :=
  Platform.hashFacts <| .obj [
    ("observer_version", .str outcomeObserverVersion),
    ("recovery_action_id", .int recoveryActionId),
    ("payment_link_id", .str snapshot.id),
    ("reference_id", .str snapshot.referenceId),
    ("status", .str snapshot.status),
    ("amount", .int snapshot.amount),
    ("amount_paid", .int snapshot.amountPaid),
    ("currency", .str snapshot.currency),
    ("payments", .arr ((snapshot.payments.insertionSort paymentKeyLe).map paymentEvidence)),
    ("updated_at", .ofOption (fun n : Nat => .int n) snapshot.updatedAt),
    ("expire_by", .ofOption (fun n : Nat => .int n) snapshot.expireBy),
    ("expired_at", .ofOption (fun n : Nat => .int n) snapshot.expiredAt),
    ("cancelled_at", .ofOption (fun n : Nat => .int n) snapshot.cancelledAt)]

/-! ### What RECOVERED means -/

omit [Platform] in
theorem unpaidOutcome_ne_recovered {snapshot : PaymentLinkSnapshot}
    {status : RecoveryOutcomeStatus} {reason conflict : String} (hstatus : status ≠ .recovered) :
    (unpaidOutcome snapshot status reason conflict).outcomeStatus ≠ .recovered := by
  unfold unpaidOutcome
  split
  · simp [reviewOutcome]
  · exact hstatus

omit [Platform] in
theorem paidOutcome_recovered {expected : ExpectedPaymentLinkEvidence}
    {snapshot : PaymentLinkSnapshot}
    (h : (paidOutcome expected snapshot).outcomeStatus = .recovered) :
    ∃ payment, snapshot.payments = [payment] ∧ payment.status = "captured" ∧
      payment.amount = expected.amountMinor ∧ snapshot.amountPaid = expected.amountMinor ∧
      (paidOutcome expected snapshot).providerPaymentId = some payment.paymentId := by
  unfold paidOutcome at h ⊢
  split at h
  · simp [reviewOutcome] at h
  · rename_i hpaid
    split at h
    · rename_i payment hpayments
      split at h
      · simp [reviewOutcome] at h
      · rename_i hcapture
        rw [not_or, not_not, not_not] at hcapture
        refine ⟨payment, hpayments, hcapture.1, hcapture.2, not_not.mp hpaid, ?_⟩
        simp [hpaid, hcapture.1, hcapture.2]
    · simp [reviewOutcome] at h

/-- **RECOVERED is one captured payment of the full amount on the expected link.** -/
theorem classify_recovered {expected : ExpectedPaymentLinkEvidence}
    {snapshot : PaymentLinkSnapshot}
    (h : (classifyPaymentLinkOutcome expected snapshot).outcomeStatus = .recovered) :
    ∃ payment, snapshot.payments = [payment] ∧ payment.status = "captured" ∧
      payment.amount = expected.amountMinor ∧ snapshot.amountPaid = expected.amountMinor ∧
      (classifyPaymentLinkOutcome expected snapshot).providerPaymentId
        = some payment.paymentId := by
  unfold classifyPaymentLinkOutcome at h ⊢
  split at h
  · simp [reviewOutcome] at h
  rename_i hidentity
  split at h
  · simp [reviewOutcome] at h
  rename_i hlink
  split at h
  · exact absurd h (unpaidOutcome_ne_recovered (by simp))
  rename_i hpending
  split at h
  · rename_i hpaid
    obtain ⟨payment, hrest⟩ := paidOutcome_recovered h
    rw [if_neg hidentity, if_neg hlink, if_neg hpending, if_pos hpaid]
    exact ⟨payment, hrest⟩
  split at h
  · exact absurd h (unpaidOutcome_ne_recovered (by simp))
  split at h
  · exact absurd h (unpaidOutcome_ne_recovered (by simp))
  split at h <;> simp [reviewOutcome] at h

end Arc
