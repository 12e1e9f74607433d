/-
Classification of structured failure evidence.

Three tables map an error reason, an error source and an error step to a category;
the first of the three that knows its text decides.
-/
import Arc.Domain.Models

namespace Arc

variable [Platform]

/-- A category and the reason code it is given with. -/
abbrev ClassificationRule := FailureCategory × String

def reasonRules : List (String × ClassificationRule) := [
  ("incorrect_otp", .customerAuthentication, "STRUCTURED_REASON_INCORRECT_OTP"),
  ("invalid_otp", .customerAuthentication, "STRUCTURED_REASON_INVALID_OTP"),
  ("otp_expired", .customerAuthentication, "STRUCTURED_REASON_OTP_EXPIRED"),
  ("otp_attempts_exceeded", .customerAuthentication, "STRUCTURED_REASON_OTP_ATTEMPTS_EXCEEDED"),
  ("insufficient_funds", .customerFunds, "STRUCTURED_REASON_INSUFFICIENT_FUNDS"),
  ("payment_cancelled", .customerInterruption, "STRUCTURED_REASON_PAYMENT_CANCELLED"),
  ("payment_timed_out", .customerInterruption, "STRUCTURED_REASON_PAYMENT_TIMED_OUT"),
  ("payment_collect_request_expired", .customerInterruption,
    "STRUCTURED_REASON_COLLECT_REQUEST_EXPIRED"),
  ("transaction_limit_exceeded", .customerOrInstrumentRestriction,
    "STRUCTURED_REASON_TRANSACTION_LIMIT_EXCEEDED"),
  ("transaction_daily_limit_exceeded", .customerOrInstrumentRestriction,
    "STRUCTURED_REASON_DAILY_LIMIT_EXCEEDED"),
  ("transaction_frequency_limit_exceeded", .customerOrInstrumentRestriction,
    "STRUCTURED_REASON_FREQUENCY_LIMIT_EXCEEDED"),
  ("international_transaction_not_allowed", .customerOrInstrumentRestriction,
    "STRUCTURED_REASON_INTERNATIONAL_NOT_ALLOWED"),
  ("card_not_enrolled", .customerOrInstrumentRestriction, "STRUCTURED_REASON_CARD_NOT_ENROLLED"),
  ("invalid_vpa", .customerOrInstrumentRestriction, "STRUCTURED_REASON_INVALID_VPA"),
  ("user_not_registered_for_netbanking", .customerOrInstrumentRestriction,
    "STRUCTURED_REASON_NETBANKING_NOT_REGISTERED"),
  ("transaction_on_vpa_restricted", .customerOrInstrumentRestriction,
    "STRUCTURED_REASON_VPA_RESTRICTED"),
  ("user_not_eligible", .customerOrInstrumentRestriction, "STRUCTURED_REASON_USER_NOT_ELIGIBLE"),
  ("bank_technical_error", .bankOrIssuer, "STRUCTURED_REASON_BANK_TECHNICAL_ERROR"),
  ("gateway_technical_error", .gatewayOrNetwork, "STRUCTURED_REASON_GATEWAY_TECHNICAL_ERROR"),
  ("upi_app_technical_error", .gatewayOrNetwork, "STRUCTURED_REASON_UPI_APP_TECHNICAL_ERROR"),
  ("verification_failed", .gatewayOrNetwork, "STRUCTURED_REASON_VERIFICATION_FAILED")]

def sourceRules : List (String × ClassificationRule) := [
  ("customer", .unknown, "UNMAPPED_CUSTOMER_SOURCE"),
  ("customer_psp", .unknown, "UNMAPPED_CUSTOMER_SOURCE"),
  ("issuer_bank", .bankOrIssuer, "STRUCTURED_SOURCE_ISSUER_BANK"),
  ("beneficiary_bank", .bankOrIssuer, "STRUCTURED_SOURCE_BENEFICIARY_BANK"),
  ("bank", .bankOrIssuer, "STRUCTURED_SOURCE_BANK"),
  ("gateway", .gatewayOrNetwork, "STRUCTURED_SOURCE_GATEWAY"),
  ("network", .gatewayOrNetwork, "STRUCTURED_SOURCE_NETWORK"),
  ("business", .merchantConfiguration, "STRUCTURED_SOURCE_BUSINESS"),
  ("razorpay", .razorpayOrPlatform, "STRUCTURED_SOURCE_RAZORPAY"),
  ("internal", .razorpayOrPlatform, "STRUCTURED_SOURCE_INTERNAL")]

def stepRules : List (String × ClassificationRule) := [
  ("payment_authentication", .customerAuthentication, "STRUCTURED_STEP_PAYMENT_AUTHENTICATION")]

def dispositions : FailureCategory → RecoveryDisposition
  | .customerAuthentication => .customerActionRequired
  | .customerFunds => .customerActionRequired
  | .customerInterruption => .customerActionRequired
  | .customerOrInstrumentRestriction => .alternateMethodPreferred
  | .bankOrIssuer => .retryLater
  | .gatewayOrNetwork => .retryLater
  | .merchantConfiguration => .merchantFixRequired
  | .razorpayOrPlatform => .retryLater
  | .subscriptionRetryExhausted => .recoveryStrategyRequired
  | .unknown => .manualReview

/-- The normalized evidence a diagnosis was made from. -/
structure FailureEvidence where
  errorCode : Option String
  errorReason : Option String
  errorSource : Option String
  errorStep : Option String
  paymentMethod : Option String
  deriving DecidableEq, Repr

structure FailureDiagnosis where
  failureCategory : FailureCategory
  recoveryDisposition : RecoveryDisposition
  diagnosisReasonCode : String
  evidence : FailureEvidence
  deriving DecidableEq, Repr

/-- The rule of a table for a text that may be absent. -/
def lookupRule (rules : List (String × ClassificationRule)) (text : Option String) :
    Option ClassificationRule :=
  text.bind fun t => rules.lookup t

def diagnosis (rule : ClassificationRule) (evidence : FailureEvidence) : FailureDiagnosis where
  failureCategory := rule.1
  recoveryDisposition := dispositions rule.1
  diagnosisReasonCode := rule.2
  evidence := evidence

/-- Classify the strongest structured evidence, never the descriptive text. -/
def classifyFailure (c : PaymentCase) : FailureDiagnosis :=
  let evidence : FailureEvidence :=
    { errorCode := normalized c.errorCode
      errorReason := normalized c.errorReason
      errorSource := normalized c.errorSource
      errorStep := normalized c.errorStep
      paymentMethod := normalized c.razorpayPaymentMethod }
  if normalized c.razorpaySubscriptionStatus = some "halted" then
    diagnosis (.subscriptionRetryExhausted, "SUBSCRIPTION_AUTOMATIC_RETRIES_EXHAUSTED") evidence
  else
    match lookupRule reasonRules evidence.errorReason with
    | some rule => diagnosis rule evidence
    | none =>
        match lookupRule sourceRules evidence.errorSource with
        | some rule => diagnosis rule evidence
        | none =>
            match lookupRule stepRules evidence.errorStep with
            | some rule => diagnosis rule evidence
            | none => diagnosis (.unknown, "PAYMENT_FAILURE_UNCLASSIFIED") evidence

end Arc
