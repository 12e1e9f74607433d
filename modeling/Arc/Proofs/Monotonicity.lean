/-
A stricter policy never allows more.

The rules are a cascade of early returns, but what they return is simple: an external
action is not blocked exactly when it is `Permitted`, and is authorized exactly when it
is moreover `Unattended`.  Both conditions are conjunctions, and each conjunct can only
fail as the policy gets stricter or the facts get worse.
-/
import Mathlib.Order.Lattice
import Arc.Domain.Ascii
import Arc.Policy.Authorization

namespace Arc

variable [Platform]

/-! ### The order of the results -/

def PolicyDecisionResult.rank : PolicyDecisionResult → Nat
  | blocked => 0
  | requiresApproval => 1
  | authorized => 2

omit [Platform] in
theorem PolicyDecisionResult.rank_injective : Function.Injective PolicyDecisionResult.rank := by
  intro a b h
  cases a <;> cases b <;> simp [PolicyDecisionResult.rank] at h <;> rfl

/-- BLOCKED < REQUIRES_APPROVAL < AUTHORIZED -/
instance : PartialOrder PolicyDecisionResult :=
  PartialOrder.lift PolicyDecisionResult.rank PolicyDecisionResult.rank_injective

omit [Platform] in
theorem PolicyDecisionResult.blocked_le (r : PolicyDecisionResult) : .blocked ≤ r :=
  Nat.zero_le _

omit [Platform] in
theorem PolicyDecisionResult.le_authorized (r : PolicyDecisionResult) : r ≤ .authorized := by
  cases r <;> decide

/-! ### Stricter policies and worse facts

Both orders are component by component, and both include the ends of the scale: a policy
that is missing or invalid is stricter than any other, an amount that is not known is
worse than any that is.
-/

/-- Component by component, `strict` allows no more than `lax`. -/
structure PolicyConfiguration.Stricter (strict lax : PolicyConfiguration) : Prop where
  allowed : ∀ a ∈ strict.allowedActions, a ∈ lax.allowedActions
  categories : ∀ f ∈ lax.blockedFailureCategories, f ∈ strict.blockedFailureCategories
  methods : ∀ m ∈ lax.blockedPaymentMethods, m ∈ strict.blockedPaymentMethods
  approvals : ∀ a ∈ lax.requireApprovalActions, a ∈ strict.requireApprovalActions
  attempts : strict.maxAutomatedAttempts ≤ lax.maxAutomatedAttempts
  contacts : strict.maxContactAttempts ≤ lax.maxContactAttempts
  window : strict.recoveryWindowMinutes ≤ lax.recoveryWindowMinutes
  /-- No threshold counts as the highest. -/
  threshold : ∀ t ∈ lax.requireApprovalAboveMinor, ∃ t' ∈ strict.requireApprovalAboveMinor, t' ≤ t
  automation : strict.automationEnabled = true → lax.automationEnabled = true

/-- A merchant's policy as the rules are given it: whether there is one, and if it is valid. -/
structure PolicyInput where
  present : Bool
  configuration : Option PolicyConfiguration

/-- A missing or an invalid policy is the strictest. -/
inductive PolicyInput.Stricter : PolicyInput → PolicyInput → Prop
  | missing {configuration : Option PolicyConfiguration} {lax : PolicyInput} :
      Stricter ⟨false, configuration⟩ lax
  | invalid {present : Bool} {lax : PolicyInput} : Stricter ⟨present, none⟩ lax
  | valid {strict lax : PolicyConfiguration} (h : strict.Stricter lax) :
      Stricter ⟨true, some strict⟩ ⟨true, some lax⟩

/-- The same case and action, further on: more attempts, a larger amount or none, a later hour. -/
structure AuthorizationFacts.Worse (bad good : AuthorizationFacts) : Prop where
  action : bad.action = good.action
  category : bad.failureCategory = good.failureCategory
  method : bad.paymentMethod = good.paymentMethod
  detected : bad.detectedAt = good.detectedAt
  attempts : good.attemptCount ≤ bad.attemptCount
  contacts : good.contactAttemptCount ≤ bad.contactAttemptCount
  amount : ∀ amount ∈ bad.amountMinor, ∃ amount' ∈ good.amountMinor, amount' ≤ amount
  evaluated : good.evaluatedAt ≤ bad.evaluatedAt

/-! ### What the cascade returns

The cascade of early returns comes down to two conditions. A hard stop blocks; a reason
to ask a human asks for one; the rest is authorized. Monotonicity has then only to be
shown of the two conditions, whatever the order of the branches.
-/

/-- No hard stop applies. -/
structure Permitted (facts : AuthorizationFacts) (configuration : PolicyConfiguration) : Prop
    extends WithinLimits facts configuration where
  category : ∀ f ∈ facts.failureCategory, f ∉ configuration.blockedFailureCategories
  method : ∀ m ∈ facts.paymentMethod,
    Platform.lower (strip m) ∉ configuration.blockedPaymentMethods
  configured : configuration.recoveryWindowMinutes ≠ 0

/-- No reason to ask a human applies. -/
structure Unattended (facts : AuthorizationFacts) (configuration : PolicyConfiguration) : Prop where
  action : facts.action ∉ configuration.requireApprovalActions
  amount : ∀ amount ∈ facts.amountMinor, ∀ t ∈ configuration.requireApprovalAboveMinor, amount < t
  automation : configuration.automationEnabled = true

omit [Platform] in
theorem approvalRule_result (facts : AuthorizationFacts) (configuration : PolicyConfiguration)
    {amount : Nat} (hamount : facts.amountMinor = some amount) :
    (approvalRule facts configuration amount).1 ≠ .blocked ∧
    ((approvalRule facts configuration amount).1 = .authorized ↔
      Unattended facts configuration) := by
  unfold approvalRule
  split
  · rename_i haction
    exact ⟨by simp, by simp, fun h => absurd haction h.action⟩
  rename_i haction
  split
  · rename_i hthreshold
    refine ⟨by simp, by simp, fun h => ?_⟩
    obtain ⟨t, ht, hle⟩ := (Option.any_eq_true _ _).mp hthreshold
    exact absurd (h.amount amount hamount t ht) (by simpa using hle)
  rename_i hthreshold
  split
  · rename_i hautomation
    refine ⟨by simp, by simp, fun h => ?_⟩
    rw [h.automation] at hautomation
    cases hautomation
  · rename_i hautomation
    refine ⟨by simp, fun _ => ⟨haction, ?_, by simpa using hautomation⟩, fun _ => rfl⟩
    intro amount' hamount' t ht
    rw [hamount, Option.mem_some_iff] at hamount'
    subst hamount'
    rw [Option.mem_def] at ht
    rw [ht] at hthreshold
    simpa using hthreshold

/-- Past the hard stops, the reasons to ask a human decide. -/
theorem evaluateConfigured_of_permitted {facts : AuthorizationFacts}
    {configuration : PolicyConfiguration} (h : Permitted facts configuration) {amount : Nat}
    (hamount : facts.amountMinor = some amount) :
    (evaluateConfigured facts configuration).result =
      (approvalRule facts configuration amount).1 := by
  have hcategory : ¬ (facts.failureCategory.any
      fun f => f ∈ configuration.blockedFailureCategories) = true := by
    intro hany
    obtain ⟨f, hf, hblocked⟩ := (Option.any_eq_true _ _).mp hany
    exact h.category f hf (by simpa using hblocked)
  have hmethod : ¬ ((facts.paymentMethod.map fun m => Platform.lower (strip m)).any
      fun m => m ∈ configuration.blockedPaymentMethods) = true := by
    intro hany
    rw [Option.any_map] at hany
    obtain ⟨m, hm, hblocked⟩ := (Option.any_eq_true _ _).mp hany
    exact h.method m hm (by simpa using hblocked)
  have hattempts : ¬ configuration.maxAutomatedAttempts ≤ facts.attemptCount :=
    Nat.not_le.mpr h.attempts
  have hcontacts : ¬ (facts.action ∈ customerContactActions ∧
      configuration.maxContactAttempts ≤ facts.contactAttemptCount) :=
    fun hc => absurd hc.2 (Nat.not_le.mpr (h.contacts hc.1))
  unfold evaluateConfigured
  simp only [if_neg (not_not.mpr h.allowed), if_neg hcategory, if_neg hmethod,
    if_neg h.configured, if_neg (not_lt.mpr h.window)]
  simp only [evaluateWithinWindow, if_neg hattempts, if_neg hcontacts, hamount]
  rfl

/-- **A valid policy does not block an action exactly when no hard stop applies.** -/
theorem evaluateConfigured_permitted {facts : AuthorizationFacts}
    {configuration : PolicyConfiguration} :
    (evaluateConfigured facts configuration).result ≠ .blocked ↔ Permitted facts configuration := by
  constructor
  · intro h
    obtain ⟨hlimits, -⟩ := evaluateConfigured_not_blocked h
    refine { toWithinLimits := hlimits, category := ?_, method := ?_, configured := ?_ } <;>
      unfold evaluateConfigured at h <;> simp only [if_neg (not_not.mpr hlimits.allowed)] at h
    · intro f hf hblocked
      have hany : (facts.failureCategory.any
          fun f => f ∈ configuration.blockedFailureCategories) = true :=
        (Option.any_eq_true _ _).mpr ⟨f, hf, by simpa using hblocked⟩
      rw [if_pos hany] at h
      exact h rfl
    · intro m hm hblocked
      have hany : ((facts.paymentMethod.map fun m => Platform.lower (strip m)).any
          fun m => m ∈ configuration.blockedPaymentMethods) = true := by
        rw [Option.any_map]
        exact (Option.any_eq_true _ _).mpr ⟨m, hm, by simpa using hblocked⟩
      rw [if_pos hany] at h
      split at h <;> exact h rfl
    · intro hminutes
      rw [if_pos hminutes] at h
      split at h
      · exact h rfl
      · split at h <;> exact h rfl
  · intro h
    obtain ⟨amount, hamount⟩ := h.amount
    rw [evaluateConfigured_of_permitted h hamount]
    exact (approvalRule_result facts configuration hamount).1

theorem evaluateConfigured_authorized {facts : AuthorizationFacts}
    {configuration : PolicyConfiguration} (h : Permitted facts configuration) :
    (evaluateConfigured facts configuration).result = .authorized ↔
      Unattended facts configuration := by
  obtain ⟨amount, hamount⟩ := h.amount
  rw [evaluateConfigured_of_permitted h hamount]
  exact (approvalRule_result facts configuration hamount).2

/-! ### Both conditions are kept by what is laxer or better -/

omit [Platform] in
theorem recoveryWindowEnd_mono {bad good : AuthorizationFacts} {strict lax : PolicyConfiguration}
    (hfacts : bad.Worse good) (hpolicy : strict.Stricter lax) :
    recoveryWindowEnd bad strict ≤ recoveryWindowEnd good lax := by
  have hwindow := hpolicy.window
  have hdetected := hfacts.detected
  simp only [recoveryWindowEnd, minutes, seconds]
  omega

theorem Permitted.mono {bad good : AuthorizationFacts} {strict lax : PolicyConfiguration}
    (hfacts : bad.Worse good) (hpolicy : strict.Stricter lax) (h : Permitted bad strict) :
    Permitted good lax where
  allowed := hfacts.action ▸ hpolicy.allowed _ h.allowed
  window := (hfacts.evaluated.trans h.window).trans (recoveryWindowEnd_mono hfacts hpolicy)
  attempts := (hfacts.attempts.trans_lt h.attempts).trans_le hpolicy.attempts
  contacts := fun haction => (hfacts.contacts.trans_lt
    (h.contacts (hfacts.action.symm ▸ haction))).trans_le hpolicy.contacts
  amount := by
    obtain ⟨amount, hamount⟩ := h.amount
    obtain ⟨amount', hamount', -⟩ := hfacts.amount amount hamount
    exact ⟨amount', hamount'⟩
  category := fun f hf hblocked =>
    h.category f (hfacts.category.symm ▸ hf) (hpolicy.categories f hblocked)
  method := fun m hm hblocked => h.method m (hfacts.method.symm ▸ hm) (hpolicy.methods _ hblocked)
  configured := fun hzero => h.configured (Nat.le_zero.mp (hzero ▸ hpolicy.window))

theorem Unattended.mono {bad good : AuthorizationFacts} {strict lax : PolicyConfiguration}
    (hfacts : bad.Worse good) (hpolicy : strict.Stricter lax) (hpermitted : Permitted bad strict)
    (h : Unattended bad strict) : Unattended good lax where
  action := fun haction => h.action (hfacts.action.symm ▸ hpolicy.approvals _ haction)
  amount := by
    intro amount hamount t ht
    obtain ⟨t', ht', hle⟩ := hpolicy.threshold t ht
    obtain ⟨worse, hworse⟩ := hpermitted.amount
    obtain ⟨amount', hamount', hle'⟩ := hfacts.amount worse hworse
    obtain rfl : amount = amount' := Option.some.inj (hamount.symm.trans hamount')
    exact (hle'.trans_lt (h.amount worse hworse t' ht')).trans_le hle
  automation := hpolicy.automation h.automation

/-- Under valid policies, what is stricter or worse gets no higher result. -/
theorem evaluateConfigured_mono {bad good : AuthorizationFacts} {strict lax : PolicyConfiguration}
    (hfacts : bad.Worse good) (hpolicy : strict.Stricter lax) :
    (evaluateConfigured bad strict).result ≤ (evaluateConfigured good lax).result := by
  by_cases hblocked : (evaluateConfigured bad strict).result = .blocked
  · rw [hblocked]
    exact PolicyDecisionResult.blocked_le _
  have hpermitted := evaluateConfigured_permitted.mp hblocked
  have hpermitted' := hpermitted.mono hfacts hpolicy
  cases hresult : (evaluateConfigured good lax).result with
  | authorized => exact PolicyDecisionResult.le_authorized _
  | blocked => exact absurd hresult (evaluateConfigured_permitted.mpr hpermitted')
  | requiresApproval =>
      cases hresult' : (evaluateConfigured bad strict).result with
      | authorized =>
          have hunattended := (evaluateConfigured_authorized hpermitted).mp hresult'
          have hauthorized := (evaluateConfigured_authorized hpermitted').mpr
            (hunattended.mono hfacts hpolicy hpermitted)
          rw [hresult] at hauthorized
          cases hauthorized
      | requiresApproval => exact le_refl _
      | blocked => exact PolicyDecisionResult.blocked_le _

/--
**Policy monotonicity.**  Whatever components of the policy are made stricter at once,
and whatever facts of the case get worse with it, the result is not raised.
-/
theorem authorization_monotone {strict lax : PolicyInput} {bad good : AuthorizationFacts}
    (hpolicy : strict.Stricter lax) (hfacts : bad.Worse good) :
    (evaluateAuthorization bad strict.present strict.configuration).result ≤
      (evaluateAuthorization good lax.present lax.configuration).result := by
  unfold evaluateAuthorization
  simp only [hfacts.action]
  split
  · exact le_refl _
  split
  · exact le_refl _
  cases hpolicy with
  | missing => exact PolicyDecisionResult.blocked_le _
  | @invalid present lax => cases present <;> exact PolicyDecisionResult.blocked_le _
  | valid h => exact evaluateConfigured_mono hfacts h

end Arc

namespace Arc

attribute [local instance] asciiPlatform

def laxConfiguration : PolicyConfiguration where
  automationEnabled := true
  allowedActions := [.createRecoveryLink]
  maxAutomatedAttempts := 3
  maxContactAttempts := 3
  recoveryWindowMinutes := 1440
  highValueThresholdMinor := 100000
  requireApprovalAboveMinor := none
  blockedFailureCategories := []
  blockedPaymentMethods := []
  requireApprovalActions := []

def strictConfiguration : PolicyConfiguration :=
  { laxConfiguration with maxAutomatedAttempts := 2, requireApprovalAboveMinor := some 500 }

def goodFacts : AuthorizationFacts where
  action := .createRecoveryLink
  amountMinor := some 1000
  attemptCount := 0
  contactAttemptCount := 0
  detectedAt := 0
  failureCategory := none
  paymentMethod := none
  evaluatedAt := 0

/-- A threshold and a second attempt take an authorized action to a human. -/
theorem authorization_monotone_threshold :
    (evaluateAuthorization goodFacts true (some laxConfiguration)).result = .authorized ∧
    (evaluateAuthorization { goodFacts with attemptCount := 1 } true
      (some strictConfiguration)).result = .requiresApproval ∧
    (evaluateAuthorization { goodFacts with attemptCount := 1 } true
      (some strictConfiguration)).result ≤
      (evaluateAuthorization goodFacts true (some laxConfiguration)).result := by
  refine ⟨by decide, by decide, ?_⟩
  have hpolicy : strictConfiguration.Stricter laxConfiguration :=
    ⟨by decide, by decide, by decide, by decide, by decide, by decide, by decide,
      by simp [laxConfiguration], by decide⟩
  exact authorization_monotone (.valid hpolicy) ⟨rfl, rfl, rfl, rfl, by decide, by decide,
    fun amount h => ⟨amount, h, le_refl _⟩, le_refl _⟩

end Arc
