/-
What an authorization fingerprint determines.

The rules read the policy, the facts of the case and the clock.  The fingerprint hashes
the policy whole, the facts one by one, and of the clock only what the rules made of it:
the end of the recovery window and whether it has passed.  That is enough: two
evaluations with one fingerprint are one evaluation, and so a stored decision that is
found by its fingerprint gives the verdict a fresh one would give.

`Platform.hashFacts` and `Platform.hexdigest` are taken to be injective here.
-/
import Arc.Proofs.Verdicts

namespace Arc

open Store

variable [Platform]

/-! ### Texts of the enumerations -/

omit [Platform] in
theorem RecoveryAction.value_injective : Function.Injective RecoveryAction.value := by
  intro a b h
  cases a <;> cases b <;> simp [RecoveryAction.value] at h <;> rfl

omit [Platform] in
theorem FailureCategory.value_injective : Function.Injective FailureCategory.value := by
  intro a b h
  cases a <;> cases b <;> simp [FailureCategory.value] at h <;> rfl

omit [Platform] in
theorem ofOption_injective {α : Type} {f : α → Json} (hf : Function.Injective f)
    (hnull : ∀ a, f a ≠ .null) : Function.Injective (Json.ofOption f) := by
  intro a b h
  cases a with
  | none =>
      cases b with
      | none => rfl
      | some b => exact absurd h.symm (hnull b)
  | some a =>
      cases b with
      | none => exact absurd h (hnull a)
      | some b => exact congrArg some (hf h)

omit [Platform] in
theorem ofOption_nat {a b : Option Nat}
    (h : Json.ofOption (fun n : Nat => .int n) a = Json.ofOption (fun n : Nat => .int n) b) :
    a = b :=
  ofOption_injective (fun _ _ h => Int.ofNat.inj (Json.int.inj h)) (fun _ h => by cases h) h

omit [Platform] in
theorem textArray_map {α : Type} {value : α → String} (hvalue : Function.Injective value)
    {xs ys : List α} (h : textArray (xs.map value) = textArray (ys.map value)) : xs = ys := by
  have hitems := Json.arr.inj h
  rw [List.map_map, List.map_map] at hitems
  exact List.map_injective_iff.mpr (fun _ _ h => hvalue (Json.str.inj h)) hitems

/-! ### The policy a fingerprint stands for -/

omit [Platform] in
/-- Configurations that are hashed alike are equal. -/
theorem policyValidFacts_injective : Function.Injective policyValidFacts := by
  intro a b h
  simp only [policyValidFacts, Json.obj.injEq, List.cons.injEq, Prod.mk.injEq, Json.bool.injEq,
    Json.int.injEq, true_and, and_true, Int.natCast_inj] at h
  obtain ⟨henabled, hallowed, hattempts, hcontacts, hwindow, hhigh, habove, hcategories, hmethods,
    hactions⟩ := h
  obtain ⟨_, _, _, _, _, _, _, _, _, _⟩ := a
  obtain ⟨_, _, _, _, _, _, _, _, _, _⟩ := b
  simp only [PolicyConfiguration.mk.injEq]
  refine ⟨henabled, textArray_map RecoveryAction.value_injective hallowed, hattempts, hcontacts,
    hwindow, hhigh, ofOption_nat habove, textArray_map FailureCategory.value_injective hcategories,
    ?_, textArray_map RecoveryAction.value_injective hactions⟩
  exact textArray_map Function.injective_id (by simpa using hmethods)

section

variable (hhash : Function.Injective Platform.hashFacts)

include hhash

/-- A policy fingerprint tells whether there is a policy, and the configuration it has. -/
theorem policyFingerprint_determines {policy policy' : Option MerchantPolicy}
    (h : buildPolicyFingerprint policy (policy.bind validatePolicy) =
      buildPolicyFingerprint policy' (policy'.bind validatePolicy)) :
    policy.isSome = policy'.isSome ∧ policy.bind validatePolicy = policy'.bind validatePolicy := by
  have hfacts := hhash h
  cases policy with
  | none =>
      cases policy' with
      | none => exact ⟨rfl, rfl⟩
      | some policy' =>
          simp only [Option.bind_some] at hfacts
          split at hfacts <;>
            simp_all [policyMissingFacts, policyInvalidFacts, policyValidFacts]
  | some policy =>
      cases policy' with
      | none =>
          simp only [Option.bind_some] at hfacts
          split at hfacts <;>
            simp_all [policyMissingFacts, policyInvalidFacts, policyValidFacts]
      | some policy' =>
          refine ⟨rfl, ?_⟩
          simp only [Option.bind_some] at hfacts ⊢
          cases hvalid : validatePolicy policy with
          | none =>
              cases hvalid' : validatePolicy policy' with
              | none => rfl
              | some configuration' =>
                  simp [hvalid, hvalid', policyInvalidFacts, policyValidFacts] at hfacts
          | some configuration =>
              cases hvalid' : validatePolicy policy' with
              | none => simp [hvalid, hvalid', policyInvalidFacts, policyValidFacts] at hfacts
              | some configuration' =>
                  rw [hvalid, hvalid'] at hfacts
                  exact congrArg some (policyValidFacts_injective hfacts)

end

/-! ### The facts the rules read

The fingerprint leaves out the clock, and it normalizes the payment method as the rules
do. What the rules read of the times is the end of the recovery window and whether it
has passed, so facts that are `Alike` and agree on these get one verdict.
-/

/-- Facts that differ in nothing but the times, and in how a payment method is written. -/
structure AuthorizationFacts.Alike (f g : AuthorizationFacts) : Prop where
  action : f.action = g.action
  amount : f.amountMinor = g.amountMinor
  attempts : f.attemptCount = g.attemptCount
  contacts : f.contactAttemptCount = g.contactAttemptCount
  category : f.failureCategory = g.failureCategory
  method : f.paymentMethod.map (fun m => Platform.lower (strip m)) =
    g.paymentMethod.map fun m => Platform.lower (strip m)

theorem evaluateWithinWindow_congr {f g : AuthorizationFacts} (h : f.Alike g)
    (configuration : PolicyConfiguration) :
    evaluateWithinWindow f configuration = evaluateWithinWindow g configuration := by
  unfold evaluateWithinWindow approvalRule
  rw [h.action, h.amount, h.attempts, h.contacts]

/-- Of the times, a valid policy reads the end of the window and whether it has passed. -/
theorem evaluateConfigured_congr {f g : AuthorizationFacts} (h : f.Alike g)
    (configuration : PolicyConfiguration)
    (hends : (evaluateConfigured f configuration).recoveryWindowEndsAt =
      (evaluateConfigured g configuration).recoveryWindowEndsAt)
    (hexpired : (evaluateConfigured f configuration).recoveryWindowExpired =
      (evaluateConfigured g configuration).recoveryWindowExpired) :
    evaluateConfigured f configuration = evaluateConfigured g configuration := by
  have hwithin := evaluateWithinWindow_congr h configuration
  unfold evaluateConfigured at hends hexpired ⊢
  simp only [h.action, h.category, h.method, h.amount] at hends hexpired ⊢
  split
  · rfl
  rename_i hallowed
  split
  · rfl
  rename_i hcategory
  split
  · rfl
  rename_i hmethod
  split
  · rfl
  rename_i hminutes
  simp only [if_neg hallowed, if_neg hcategory, if_neg hmethod, if_neg hminutes] at hends hexpired
  -- past the stops that read no time, both have computed the window
  by_cases hf : recoveryWindowEnd f configuration < f.evaluatedAt <;>
    by_cases hg : recoveryWindowEnd g configuration < g.evaluatedAt <;>
    simp only [hf, hg, reduceIte, evaluationOf, Option.some.injEq] at hends hexpired ⊢
  · rw [hends]
  · cases hexpired
  · cases hexpired
  · rw [hends, hwithin]

theorem evaluateAuthorization_congr {f g : AuthorizationFacts} (h : f.Alike g) (present : Bool)
    (configuration : Option PolicyConfiguration)
    (hends : (evaluateAuthorization f present configuration).recoveryWindowEndsAt =
      (evaluateAuthorization g present configuration).recoveryWindowEndsAt)
    (hexpired : (evaluateAuthorization f present configuration).recoveryWindowExpired =
      (evaluateAuthorization g present configuration).recoveryWindowExpired) :
    evaluateAuthorization f present configuration =
      evaluateAuthorization g present configuration := by
  unfold evaluateAuthorization at hends hexpired ⊢
  simp only [h.action, h.amount] at hends hexpired ⊢
  split
  · rfl
  rename_i hinternal
  split
  · rfl
  rename_i hautomated
  split
  · rfl
  rename_i hpresent
  cases configuration with
  | none => rfl
  | some configuration =>
      simp only [hinternal, hautomated, hpresent, if_false] at hends hexpired
      exact evaluateConfigured_congr h configuration hends hexpired

/-! ### Two evaluations with one fingerprint

A hash without collisions gives back the facts it was computed from. Two of them are
nested, since the policy enters by a fingerprint of its own; they are undone from the
outside in.
-/

/-- What an authorization fingerprint stands for, with the policy for the policy's own. -/
structure HashedInputs where
  strategyProposalId : Uuid
  strategyInputFingerprint : Digest
  assessmentFingerprint : Digest
  policyPresent : Bool
  configuration : Option PolicyConfiguration
  action : RecoveryAction
  attemptCount : Nat
  contactAttemptCount : Nat
  amountMinor : Option Nat
  failureCategory : Option FailureCategory
  paymentMethod : Option String
  recoveryWindowEndsAt : Option Int
  recoveryWindowExpired : Option Bool

/-- The hashed inputs of a case and its proposal, given the policy row. -/
def hashedInputsOf (c : PaymentCase) (proposal : StrategyProposal) (now : Int)
    (policy : Option MerchantPolicy) : HashedInputs where
  strategyProposalId := proposal.id
  strategyInputFingerprint := proposal.strategyInputFingerprint
  assessmentFingerprint := proposal.assessmentFingerprint
  policyPresent := policy.isSome
  configuration := policy.bind validatePolicy
  action := proposal.action
  attemptCount := c.attemptCount
  contactAttemptCount := c.contactAttemptCount
  amountMinor := c.amount
  failureCategory := c.failureCategory
  paymentMethod := c.razorpayPaymentMethod.map fun m => Platform.lower (strip m)
  recoveryWindowEndsAt := (inputsOf c proposal now policy).evaluation.recoveryWindowEndsAt
  recoveryWindowExpired := (inputsOf c proposal now policy).evaluation.recoveryWindowExpired

section

variable (hhash : Function.Injective Platform.hashFacts)
  (hhex : Function.Injective Platform.hexdigest)

include hhash hhex

/-- **A fingerprint determines the inputs that were hashed.** -/
theorem hashedInputs_determined {c c' : PaymentCase} {proposal proposal' : StrategyProposal}
    {now now' : Int} {policy policy' : Option MerchantPolicy}
    (h : (inputsOf c proposal now policy).authorizationInputFingerprint =
      (inputsOf c' proposal' now' policy').authorizationInputFingerprint) :
    hashedInputsOf c proposal now policy = hashedInputsOf c' proposal' now' policy' := by
  have hfacts := hhash h
  simp only [Json.obj.injEq, List.cons.injEq, Prod.mk.injEq, Json.str.injEq, Json.int.injEq,
    true_and, and_true, Int.natCast_inj] at hfacts
  obtain ⟨hproposal, hstrategy, hassessment, hpolicy, haction, hattempts, hcontacts, hamount,
    hcategory, hmethod, hends, hexpired⟩ := hfacts
  obtain ⟨hpresent, hconfiguration⟩ := policyFingerprint_determines hhash (hhex hpolicy)
  have hcategory' : c.failureCategory = c'.failureCategory :=
    ofOption_injective (fun _ _ h => FailureCategory.value_injective (Json.str.inj h))
      (fun _ h => by cases h) hcategory
  have hmethod' : c.razorpayPaymentMethod.map (fun m => Platform.lower (strip m)) =
      c'.razorpayPaymentMethod.map fun m => Platform.lower (strip m) := by
    cases hm : c.razorpayPaymentMethod <;> cases hm' : c'.razorpayPaymentMethod <;>
      simp [hm, hm', Json.ofOption] at hmethod ⊢
    exact hmethod
  have hends' := ofOption_injective (fun _ _ h => Json.int.inj h) (fun _ h => by cases h) hends
  have hexpired' :=
    ofOption_injective (fun _ _ h => Json.bool.inj h) (fun _ h => by cases h) hexpired
  simp only [hashedInputsOf, HashedInputs.mk.injEq]
  exact ⟨hproposal, hhex hstrategy, hhex hassessment, hpresent, hconfiguration,
    RecoveryAction.value_injective haction, hattempts, hcontacts, ofOption_nat hamount, hcategory',
    hmethod', hends', hexpired'⟩

/-- **A fingerprint determines the evaluation it was made with.** -/
theorem fingerprint_determines {c c' : PaymentCase} {proposal proposal' : StrategyProposal}
    {now now' : Int} {policy policy' : Option MerchantPolicy}
    (h : (inputsOf c proposal now policy).authorizationInputFingerprint =
      (inputsOf c' proposal' now' policy').authorizationInputFingerprint) :
    (inputsOf c proposal now policy).evaluation =
      (inputsOf c' proposal' now' policy').evaluation := by
  have hinputs := hashedInputs_determined hhash hhex h
  simp only [hashedInputsOf, HashedInputs.mk.injEq] at hinputs
  obtain ⟨-, -, -, hpresent, hconfiguration, haction, hattempts, hcontacts, hamount, hcategory,
    hmethod, hends, hexpired⟩ := hinputs
  have halike : (authorizationFacts c proposal now).Alike (authorizationFacts c' proposal' now') :=
    ⟨haction, hamount, hattempts, hcontacts, hcategory, hmethod⟩
  simp only [inputsOf] at hends hexpired ⊢
  rw [hpresent, hconfiguration] at hends hexpired ⊢
  exact evaluateAuthorization_congr halike _ _ hends hexpired

/-- The verdict a decision has stored. -/
structure PolicyDecision.Gives (d : PolicyDecision) (evaluation : AuthorizationEvaluation) :
    Prop where
  result : d.result = evaluation.result
  reason : d.reasonCode = evaluation.reasonCode
  explanation : d.explanation = evaluation.explanation
  window : d.recoveryWindowEndsAt = evaluation.recoveryWindowEndsAt
  threshold : d.approvalThresholdMinor = evaluation.approvalThresholdMinor
  highValue : d.highValueThresholdMinor = evaluation.highValueThresholdMinor
  observed : d.observedHighValue = evaluation.observedHighValue

omit hhash hhex in
theorem PolicyDecision.Gives.of_reactivated {d : PolicyDecision}
    {evaluation : AuthorizationEvaluation} (h : d.reactivated.Gives evaluation) :
    d.Gives evaluation :=
  ⟨h.result, h.reason, h.explanation, h.window, h.threshold, h.highValue, h.observed⟩

omit hhash hhex in
theorem buildDecision_gives (c : PaymentCase) (proposal : StrategyProposal)
    (inputs : CurrentAuthorizationInputs) (newId : Uuid) (now : Int) :
    (buildDecision c proposal inputs newId now).Gives inputs.evaluation :=
  ⟨rfl, rfl, rfl, rfl, rfl, rfl, rfl⟩

/-- A stored decision gives the verdict of every evaluation with its fingerprint. -/
theorem MadeBy.gives {x : Run.Step System Label} {d : PolicyDecision} {c₀ c : PaymentCase}
    {proposal₀ proposal : StrategyProposal} {db : Db} {now : Int} (hmade : MadeBy x d c₀ proposal₀)
    (hfingerprint : d.authorizationInputFingerprint =
      (db.inputsFor c proposal now).authorizationInputFingerprint) :
    d.Gives (db.inputsFor c proposal now).evaluation := by
  have hmade' := congrArg PolicyDecision.authorizationInputFingerprint hmade.columns
  have hsame : (x.pre.db.inputsFor c₀ proposal₀ x.pre.clock).evaluation =
      (db.inputsFor c proposal now).evaluation :=
    fingerprint_determines hhash hhex (hmade'.symm.trans hfingerprint)
  refine .of_reactivated ?_
  rw [hmade.columns, ← hsame]
  exact buildDecision_gives _ _ _ _ _

/--
**Fingerprint soundness.**  Two evaluations with one authorization fingerprint give the
same verdict, in every part.  So in every state a run reaches, whatever decision an
evaluation returns (a new one, the current one, or an earlier one made current again)
has stored the verdict of the rules on the case and the policy as they are.
-/
theorem authorization_fingerprint_sound :
    (∀ c c' proposal proposal' now now' policy policy',
      (inputsOf c proposal now policy).authorizationInputFingerprint =
        (inputsOf c' proposal' now' policy').authorizationInputFingerprint →
      (inputsOf c proposal now policy).evaluation =
        (inputsOf c' proposal' now' policy').evaluation) ∧
    ∀ clock tr s, RunTrace clock tr s → ∀ caseId proposalId newId now db' result,
      evaluatePolicy s.db caseId proposalId newId now = .ok (db', result) →
      ∃ c proposal d, s.db.cases.get? caseId = some c ∧
        s.db.currentProposal c.id = some proposal ∧ d ∈ db'.policyDecisions ∧
        d.id = result.policyDecisionId ∧ d.supersededAt = none ∧
        d.Gives (s.db.inputsFor c proposal now).evaluation ∧
        result.result = (s.db.inputsFor c proposal now).evaluation.result ∧
        result.reasonCode = (s.db.inputsFor c proposal now).evaluation.reasonCode := by
  refine ⟨fun _ _ _ _ _ _ _ _ h => fingerprint_determines hhash hhex h, ?_⟩
  intro clock tr s h caseId proposalId newId now db' result hok
  obtain ⟨c, proposal, hevaluable, hevaluated⟩ := evaluatePolicy_evaluated hok
  have hstored : ∀ d ∈ s.db.policyDecisions, d.authorizationInputFingerprint =
      (s.db.inputsFor c proposal now).authorizationInputFingerprint →
      d.Gives (s.db.inputsFor c proposal now).evaluation := by
    intro d hd hfingerprint
    obtain ⟨x, -, c₀, proposal₀, hmade⟩ := (decisionsOk_trace h).made d hd
    exact hmade.gives hhash hhex hfingerprint
  cases hevaluated with
  | @reused d hidentical hopen =>
      obtain ⟨hd, -, hfingerprint⟩ := findIdenticalDecision_some hidentical
      have hgives := hstored d hd hfingerprint
      exact ⟨c, proposal, d, hevaluable.stored, hevaluable.proposal_current, hd, rfl, hopen, hgives,
        hgives.result, hgives.reason⟩
  | @replaced decisions d w hrows hreplace hw =>
      obtain ⟨hd, hmem⟩ := replaceDecision_eq_ok hrows hreplace
      obtain ⟨-, hopen, -⟩ := replacement_current hd
      have hgives : d.Gives (s.db.inputsFor c proposal now).evaluation := by
        cases hidentical : s.db.identicalDecision c proposal now with
        | none =>
            rw [hd, hidentical]
            exact buildDecision_gives _ _ _ _ _
        | some existing =>
            obtain ⟨hexisting, -, hfingerprint⟩ := findIdenticalDecision_some hidentical
            rw [hd, hidentical]
            have hgives := hstored existing hexisting hfingerprint
            exact ⟨hgives.result, hgives.reason, hgives.explanation, hgives.window,
              hgives.threshold, hgives.highValue, hgives.observed⟩
      exact ⟨c, proposal, d, hevaluable.stored, hevaluable.proposal_current,
        (hmem d).mpr (.inl rfl), rfl, hopen, hgives, hgives.result, hgives.reason⟩

end

end Arc

namespace Arc

attribute [local instance] asciiPlatform

/-- The current decision of the sample case is returned again, with the verdict it has stored. -/
theorem authorization_fingerprint_sound_authorized : ∃ tr s db' result, RunTrace 0 tr s ∧
    tr.map Run.Step.label = authorizedRun ∧
    evaluatePolicy s.db 10 none 31 0 = .ok (db', result) ∧ ∃ c proposal,
      result.result = (s.db.inputsFor c proposal 0).evaluation.result := by
  have hrun : ((Run.replay step (System.initial 0) authorizedRun).bind fun s =>
      (evaluatePolicy s.db 10 none 31 0).toOption).isSome = true := by decide +kernel
  obtain ⟨⟨db', result⟩, hok⟩ := Option.isSome_iff_exists.mp hrun
  obtain ⟨s, hs, hok⟩ := Option.bind_eq_some_iff.mp hok
  obtain ⟨tr, htr, hlabels⟩ := Run.Trace.of_replay hs
  replace hok : evaluatePolicy s.db 10 none 31 0 = .ok (db', result) := by
    cases h : evaluatePolicy s.db 10 none 31 0 with
    | error e =>
        rw [h] at hok
        cases hok
    | ok out =>
        rw [h] at hok
        cases hok
        rfl
  obtain ⟨c, proposal, d, -, -, -, -, -, -, hresult, -⟩ :=
    (authorization_fingerprint_sound Function.injective_id Function.injective_id).2 0 tr s htr
      10 none 31 0 db' result hok
  exact ⟨tr, s, db', result, htr, hlabels, hok, c, proposal, hresult⟩

end Arc
