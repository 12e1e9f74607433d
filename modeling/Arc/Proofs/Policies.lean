/-
What policy validation accepts.

Validation, normalization and the canonical facts are three functions over arbitrary JSON.
They agree: a row is accepted exactly when each of its columns is what it should be, the
configuration of an accepted row is what its columns list, and the fingerprint tells
configurations apart and nothing else.  The order and the repetition of items do not
matter, nor do the case of a payment method and the white space around it.
-/
import Arc.Proofs.Fingerprints
import Mathlib.Data.List.Dedup
import Mathlib.Data.List.TakeWhile

namespace Arc

/-! ### Reading a list item by item -/

section

variable {α β : Type} {f : α → Option β}

/-- A list is read when each of its items is. -/
theorem exists_mapM {items : List α} :
    (∃ values, items.mapM f = some values) ↔ ∀ item ∈ items, ∃ value, f item = some value := by
  induction items with
  | nil => simp
  | cons item items ih =>
      rw [List.forall_mem_cons, ← ih]
      constructor
      · rintro ⟨values, h⟩
        simp only [List.mapM_cons, Option.bind_eq_bind, Option.bind_eq_some_iff] at h
        obtain ⟨value, hvalue, rest, hrest, -⟩ := h
        exact ⟨⟨value, hvalue⟩, rest, hrest⟩
      · rintro ⟨⟨value, hvalue⟩, rest, hrest⟩
        exact ⟨value :: rest, by simp [List.mapM_cons, hvalue, hrest]⟩

/-- The values that have been read are those of the items. -/
theorem mem_of_mapM {items : List α} {values : List β} (h : items.mapM f = some values) {value : β} :
    value ∈ values ↔ ∃ item ∈ items, f item = some value := by
  induction items generalizing values with
  | nil =>
      rw [List.mapM_nil] at h
      cases h
      simp
  | cons item items ih =>
      simp only [List.mapM_cons, Option.bind_eq_bind, Option.bind_eq_some_iff] at h
      obtain ⟨first, hfirst, rest, hrest, h⟩ := h
      cases h
      rw [List.mem_cons, ih hrest, List.exists_mem_cons_iff, hfirst, Option.some.injEq, eq_comm]

end

theorem ofValue?_action {s : String} {a : RecoveryAction} :
    RecoveryAction.ofValue? s = some a ↔ s = a.value := by
  constructor
  · intro h
    have hvalue := List.find?_some h
    simpa using (beq_iff_eq.mp hvalue).symm
  · rintro rfl
    cases a <;> rfl

theorem ofValue?_category {s : String} {c : FailureCategory} :
    FailureCategory.ofValue? s = some c ↔ s = c.value := by
  constructor
  · intro h
    have hvalue := List.find?_some h
    simpa using (beq_iff_eq.mp hvalue).symm
  · rintro rfl
    cases c <;> rfl

/-- A text that strips to nothing is blank. -/
theorem strip_eq_empty {s : String} : strip s = "" ↔ ∀ c ∈ s.toList, isSpace c = true := by
  rw [strip, ← String.toList_inj, String.toList_ofList, String.toList_empty,
    List.reverse_eq_nil_iff, List.dropWhile_eq_nil_iff]
  simp only [List.mem_reverse]
  constructor
  · intro h c hc
    rw [← List.takeWhile_append_dropWhile (p := isSpace) (l := s.toList), List.mem_append] at hc
    rcases hc with hc | hc
    · exact List.mem_takeWhile_imp hc
    · exact h c hc
  · exact fun h c hc => h c ((List.dropWhile_sublist _).subset hc)

/-! ### The comparison of lengths

The source leaves what is no text out of the set of actions, and then compares the size
of that set with the size of the set of all items. Two equal texts count once on both
sides; an item that is no text counts on one side only, so it is noticed.
-/

/-- An entry that is the text of an action. -/
def IsAction (item : Json) : Prop := ∃ a : RecoveryAction, item = .str a.value

theorem setOf_perm_dedup (actions : List RecoveryAction) :
    (RecoveryAction.setOf actions).Perm actions.dedup := by
  have hnodup : (RecoveryAction.setOf actions).Nodup := List.Nodup.filter _ (by decide)
  refine (List.perm_ext_iff_of_nodup hnodup actions.nodup_dedup).mpr fun a => ?_
  rw [RecoveryAction.mem_setOf, List.mem_dedup]

/-- A list of texts of actions, as the texts of a list of actions. -/
theorem exists_actions {items : List Json} (h : ∀ item ∈ items, IsAction item) :
    ∃ actions : List RecoveryAction, items = actions.map fun a => .str a.value := by
  induction items with
  | nil => exact ⟨[], rfl⟩
  | cons item items ih =>
      obtain ⟨⟨a, rfl⟩, hrest⟩ := List.forall_mem_cons.mp h
      obtain ⟨actions, rfl⟩ := ih hrest
      exact ⟨a :: actions, rfl⟩

theorem strAction_injective : Function.Injective fun a : RecoveryAction => Json.str a.value :=
  fun _ _ h => RecoveryAction.value_injective (Json.str.inj h)

theorem mapM_actions (actions : List RecoveryAction) :
    (actions.map RecoveryAction.value).mapM RecoveryAction.ofValue? = some actions := by
  induction actions with
  | nil => rfl
  | cons a actions ih => simp [List.mapM_cons, ofValue?_action.mpr rfl, ih]

/-- Texts of actions pass the comparison. -/
theorem allowedActionSet_actions (actions : List RecoveryAction) :
    allowedActionSet (actions.map fun a => .str a.value) = some (RecoveryAction.setOf actions) := by
  have htexts : (actions.map fun a => Json.str a.value).filterMap textItem =
      actions.map RecoveryAction.value := by
    rw [List.filterMap_map, ← List.filterMap_eq_map]
    rfl
  have hhashable : (actions.map fun a => Json.str a.value).all isHashable = true := by
    simp [isHashable]
  have hkeys : ((actions.map fun a => Json.str a.value).map setKey).dedup.length =
      (RecoveryAction.setOf actions).length := by
    rw [List.map_map, (setOf_perm_dedup actions).length_eq,
      ← List.length_map fun a : RecoveryAction => Json.str a.value,
      ← List.dedup_map_of_injective strAction_injective]
    rfl
  simp only [allowedActionSet, htexts, mapM_actions, hhashable, hkeys, Option.bind_eq_bind,
    Option.bind_some, beq_self_eq_true, Bool.and_self, if_true]
  rfl

/-- An entry that is no text makes the set of the items larger than that of the actions. -/
theorem allowedActionSet_texts {items : List Json} {allowed : List RecoveryAction}
    (h : allowedActionSet items = some allowed) {item : Json} (hitem : item ∈ items) :
    IsAction item := by
  obtain ⟨actions, hactions, h⟩ := Option.bind_eq_some_iff.mp h
  simp only at h
  split at h
  case isFalse => cases h
  rename_i hcheck
  rw [Bool.and_eq_true, List.all_eq_true, beq_iff_eq] at hcheck
  obtain ⟨hhashable, hlength⟩ := hcheck
  -- every text is the text of an action
  have htext : ∀ s : String, .str s ∈ items → ∃ a : RecoveryAction, a ∈ actions ∧ s = a.value := by
    intro s hs
    have hmem : s ∈ items.filterMap textItem := List.mem_filterMap.mpr ⟨_, hs, rfl⟩
    obtain ⟨a, ha⟩ := exists_mapM.mp ⟨actions, hactions⟩ s hmem
    exact ⟨a, (mem_of_mapM hactions).mpr ⟨s, hmem, ha⟩, ofValue?_action.mp ha⟩
  have hstored : ∀ a ∈ actions, Json.str a.value ∈ items := by
    intro a ha
    obtain ⟨s, hs, ha⟩ := (mem_of_mapM hactions).mp ha
    obtain ⟨item, hitem, htext⟩ := List.mem_filterMap.mp hs
    cases item with
    | str s' =>
        cases htext
        rw [← ofValue?_action.mp ha]
        exact hitem
    | _ => cases htext
  by_contra hno
  have hkey : ∀ a : RecoveryAction, setKey item ≠ .str a.value := by
    intro a ha
    cases item with
    | str s =>
        obtain ⟨b, -, rfl⟩ := htext s hitem
        exact hno ⟨b, rfl⟩
    | _ => cases ha
  have hnodup : (setKey item :: (RecoveryAction.setOf actions).map fun a => Json.str a.value).Nodup := by
    refine List.nodup_cons.mpr ⟨fun hmem => ?_, ?_⟩
    · obtain ⟨a, -, ha⟩ := List.mem_map.mp hmem
      exact hkey a ha.symm
    · exact List.Nodup.map strAction_injective (List.Nodup.filter _ (by decide))
  have hsubset : (setKey item :: (RecoveryAction.setOf actions).map fun a => Json.str a.value) ⊆
      (items.map setKey).dedup := by
    intro key hmem
    rw [List.mem_dedup]
    rcases List.mem_cons.mp hmem with rfl | hmem
    · exact List.mem_map_of_mem hitem
    · obtain ⟨a, ha, rfl⟩ := List.mem_map.mp hmem
      exact List.mem_map.mpr ⟨_, hstored a (RecoveryAction.mem_setOf.mp ha), rfl⟩
  have hle := (List.subperm_of_subset hnodup hsubset).length_le
  rw [List.length_cons, List.length_map, hlength] at hle
  exact absurd hle (Nat.not_succ_le_self _)

/-- **The comparison of lengths accepts the lists of texts of actions, and no others.** -/
theorem allowedActionSet_eq_some {items : List Json} {allowed : List RecoveryAction} :
    allowedActionSet items = some allowed ↔ (∀ item ∈ items, IsAction item) ∧
      ∃ actions : List RecoveryAction, (items = actions.map fun a => .str a.value) ∧
        allowed = RecoveryAction.setOf actions := by
  constructor
  · intro h
    have hall : ∀ item ∈ items, IsAction item := fun item hitem => allowedActionSet_texts h hitem
    obtain ⟨actions, rfl⟩ := exists_actions hall
    rw [allowedActionSet_actions, Option.some.injEq] at h
    exact ⟨hall, actions, rfl, h.symm⟩
  · rintro ⟨-, actions, rfl, rfl⟩
    exact allowedActionSet_actions actions

/-! ### Stopping rules

Each rule is a list of items of one kind and may be left out. The three rules are
instances of one reader, so there is one lemma about reading a rule, with the condition
on its items as a parameter.
-/

/-- The items of an array. -/
def Json.items : Json → List Json
  | .arr items => items
  | _ => []

/-- What a rule lists; a rule that is left out lists nothing. -/
def listed (rules : Json) (name : String) : List Json :=
  ((rules.field? name).map Json.items).getD []

/-- A rule is an array of items that meet a condition, where it is present. -/
def RuleHolds (rules : Json) (name : String) (p : Json → Prop) : Prop :=
  ∀ value, rules.field? name = some value → ∃ items, value = .arr items ∧ ∀ item ∈ items, p item

theorem ruleItems_listed {rules : Json} {name : String} {items : List Json}
    (h : ruleItems rules name = some items) : items = listed rules name := by
  unfold ruleItems at h
  unfold listed
  split at h
  · rename_i hnone
    cases h
    rw [hnone]
    rfl
  · rename_i items' hsome
    cases h
    rw [hsome]
    rfl
  · cases h

/-- A rule is read item by item, where each of its items can be read. -/
theorem exists_ruleItems {α : Type} {f : Json → Option α} {p : Json → Prop} {rules : Json}
    {name : String} (hp : ∀ item, (∃ value, f item = some value) ↔ p item) :
    (∃ values, ((ruleItems rules name).bind fun items => items.mapM f) = some values) ↔
      RuleHolds rules name p := by
  simp only [RuleHolds, ← hp]
  cases hfield : rules.field? name with
  | none => simp [ruleItems, hfield]
  | some value =>
      cases value with
      | arr items =>
          simp only [ruleItems, hfield, Option.bind_some, Option.some.injEq, forall_eq',
            Json.arr.injEq, exists_eq_left']
          exact exists_mapM
      | _ => simp [ruleItems, hfield]

theorem mem_of_ruleItems {α : Type} {f : Json → Option α} {rules : Json} {name : String}
    {values : List α}
    (h : ((ruleItems rules name).bind fun items => items.mapM f) = some values) {value : α} :
    value ∈ values ↔ ∃ item ∈ listed rules name, f item = some value := by
  obtain ⟨items, hitems, h⟩ := Option.bind_eq_some_iff.mp h
  rw [← ruleItems_listed hitems]
  exact mem_of_mapM h

theorem enumItem_eq_some {α : Type} {ofValue? : String → Option α} {value : α → String}
    (hvalue : ∀ {s a}, ofValue? s = some a ↔ s = value a) {item : Json} {a : α} :
    enumItem ofValue? item = some a ↔ item = .str (value a) := by
  cases item <;> simp [enumItem, hvalue]

variable [Platform]

theorem paymentMethodItem_eq_some {item : Json} {m : String} :
    paymentMethodItem item = some m ↔
      ∃ s, item = .str s ∧ strip s ≠ "" ∧ Platform.lower (strip s) = m := by
  cases item with
  | str s =>
      by_cases hs : strip s = "" <;> simp [paymentMethodItem, hs]
  | _ => simp [paymentMethodItem]

/-- What an object of stopping rules must be. -/
structure RulesValid (fields : List (String × Json)) : Prop where
  known : ∀ f ∈ fields, f.1 ∈ stoppingRuleNames
  categories : RuleHolds (.obj fields) "blocked_failure_categories" fun item =>
    ∃ c : FailureCategory, item = .str c.value
  methods : RuleHolds (.obj fields) "blocked_payment_methods" fun item =>
    ∃ s : String, item = .str s ∧ ∃ c ∈ s.toList, isSpace c = false
  actions : RuleHolds (.obj fields) "require_approval_actions" IsAction

/-- What stopping rules list, read. -/
structure RulesRead (rules : Json) (read : StoppingRules) : Prop where
  categories : ∀ c, c ∈ read.blockedFailureCategories ↔
    .str c.value ∈ listed rules "blocked_failure_categories"
  methods : ∀ m, m ∈ read.blockedPaymentMethods ↔
    ∃ s, .str s ∈ listed rules "blocked_payment_methods" ∧ strip s ≠ "" ∧
      Platform.lower (strip s) = m
  actions : ∀ a, a ∈ read.requireApprovalActions ↔
    .str a.value ∈ listed rules "require_approval_actions"

omit [Platform] in
theorem not_blank {s : String} : strip s ≠ "" ↔ ∃ c ∈ s.toList, isSpace c = false := by
  rw [ne_eq, strip_eq_empty]
  simp

theorem methodItem_iff {item : Json} :
    (∃ m, paymentMethodItem item = some m) ↔
      ∃ s : String, item = .str s ∧ ∃ c ∈ s.toList, isSpace c = false := by
  simp only [paymentMethodItem_eq_some, ← not_blank]
  constructor
  · rintro ⟨m, s, hitem, hs, -⟩
    exact ⟨s, hitem, hs⟩
  · rintro ⟨s, hitem, hs⟩
    exact ⟨_, s, hitem, hs, rfl⟩

theorem validateStoppingRules_eq_some {fields : List (String × Json)} {read : StoppingRules} :
    validateStoppingRules fields = some read ↔ (∀ f ∈ fields, f.1 ∈ stoppingRuleNames) ∧
      ((ruleItems (.obj fields) "blocked_failure_categories").bind fun items =>
        items.mapM (enumItem FailureCategory.ofValue?)) = some read.blockedFailureCategories ∧
      ((ruleItems (.obj fields) "blocked_payment_methods").bind fun items =>
        items.mapM paymentMethodItem) = some read.blockedPaymentMethods ∧
      ((ruleItems (.obj fields) "require_approval_actions").bind fun items =>
        items.mapM (enumItem RecoveryAction.ofValue?)) = some read.requireApprovalActions := by
  by_cases hknown : ∀ f ∈ fields, f.1 ∈ stoppingRuleNames
  · have hall : (fields.all fun f => decide (f.1 ∈ stoppingRuleNames)) = true := by simpa using hknown
    simp only [validateStoppingRules, hall, if_true, Option.bind_eq_bind, Option.bind_eq_some_iff]
    constructor
    · rintro ⟨categories, hcategories, methods, hmethods, actions, hactions, h⟩
      cases h
      exact ⟨hknown, hcategories, hmethods, hactions⟩
    · rintro ⟨-, hcategories, hmethods, hactions⟩
      exact ⟨_, hcategories, _, hmethods, _, hactions, rfl⟩
  · have hall : (fields.all fun f => decide (f.1 ∈ stoppingRuleNames)) = false := by
      simpa using hknown
    refine iff_of_false ?_ fun h => hknown h.1
    simp [validateStoppingRules, hall]

/-- **The objects of stopping rules that are accepted.** -/
theorem validateStoppingRules_isSome {fields : List (String × Json)} :
    (∃ read, validateStoppingRules fields = some read) ↔ RulesValid fields := by
  have hcategory : ∀ item, (∃ c, enumItem FailureCategory.ofValue? item = some c) ↔
      ∃ c : FailureCategory, item = .str c.value :=
    fun item => exists_congr fun c => enumItem_eq_some ofValue?_category
  have haction : ∀ item, (∃ a, enumItem RecoveryAction.ofValue? item = some a) ↔ IsAction item :=
    fun item => exists_congr fun a => enumItem_eq_some ofValue?_action
  constructor
  · rintro ⟨read, h⟩
    obtain ⟨hknown, hcategories, hmethods, hactions⟩ := validateStoppingRules_eq_some.mp h
    exact ⟨hknown, (exists_ruleItems hcategory).mp ⟨_, hcategories⟩,
      (exists_ruleItems fun _ => methodItem_iff).mp ⟨_, hmethods⟩,
      (exists_ruleItems haction).mp ⟨_, hactions⟩⟩
  · intro h
    obtain ⟨categories, hcategories⟩ := (exists_ruleItems hcategory).mpr h.categories
    obtain ⟨methods, hmethods⟩ := (exists_ruleItems fun _ => methodItem_iff).mpr h.methods
    obtain ⟨actions, hactions⟩ := (exists_ruleItems haction).mpr h.actions
    exact ⟨⟨categories, methods, actions⟩,
      validateStoppingRules_eq_some.mpr ⟨h.known, hcategories, hmethods, hactions⟩⟩

theorem validateStoppingRules_read {fields : List (String × Json)} {read : StoppingRules}
    (h : validateStoppingRules fields = some read) : RulesRead (.obj fields) read := by
  obtain ⟨-, hcategories, hmethods, hactions⟩ := validateStoppingRules_eq_some.mp h
  refine ⟨fun c => ?_, fun m => ?_, fun a => ?_⟩
  · simp only [mem_of_ruleItems hcategories, enumItem_eq_some ofValue?_category, exists_eq_right]
  · rw [mem_of_ruleItems hmethods]
    simp only [paymentMethodItem_eq_some]
    constructor
    · rintro ⟨item, hitem, s, rfl, hs⟩
      exact ⟨s, hitem, hs⟩
    · rintro ⟨s, hitem, hs⟩
      exact ⟨_, hitem, s, rfl, hs⟩
  · simp only [mem_of_ruleItems hactions, enumItem_eq_some ofValue?_action, exists_eq_right]

/-! ### Whole rows -/

section

omit [Platform]

theorem limitValue_eq_some {value : Json} {n : Nat} : limitValue value = some n ↔ value = .int n := by
  cases value with
  | int k =>
      by_cases hk : 0 ≤ k
      · simp only [limitValue, if_pos hk, Option.some.injEq, Json.int.injEq]
        omega
      · simp only [limitValue, if_neg hk, reduceCtorEq, Json.int.injEq, false_iff]
        omega
  | _ => simp [limitValue]

theorem thresholdValue_eq_some {value : Json} {threshold : Option Nat} :
    thresholdValue value = some threshold ↔
      value = .ofOption (fun n : Nat => .int n) threshold := by
  cases value with
  | null => cases threshold <;> simp [thresholdValue, Json.ofOption]
  | _ =>
      cases threshold <;>
        simp [thresholdValue, Json.ofOption, limitValue_eq_some, Option.map_eq_some_iff]

/-- The four columns that hold a limit. -/
def MerchantPolicy.limits (policy : MerchantPolicy) : List Json :=
  [policy.maxAutomatedAttempts, policy.maxContactAttempts, policy.recoveryWindowMinutes,
    policy.highValueThresholdMinor]

/-- What each column of a policy must be. -/
structure MerchantPolicy.Valid (policy : MerchantPolicy) : Prop where
  actions : ∃ items, policy.allowedActions = .arr items ∧ ∀ item ∈ items, IsAction item
  rules : ∃ fields, policy.stoppingRules = .obj fields ∧ RulesValid fields
  enabled : ∃ b, policy.automationEnabled = .bool b
  limits : ∀ value ∈ policy.limits, ∃ n : Nat, value = .int n
  threshold : policy.requireApprovalAboveMinor = .null ∨
    ∃ n : Nat, policy.requireApprovalAboveMinor = .int n

end

/-- A configuration is the one a row validates to. -/
structure Validates (policy : MerchantPolicy) (c : PolicyConfiguration) (items : List Json)
    (fields : List (String × Json)) (read : StoppingRules) : Prop where
  actions : policy.allowedActions = .arr items
  rules : policy.stoppingRules = .obj fields
  enabled : policy.automationEnabled = .bool c.automationEnabled
  attempts : policy.maxAutomatedAttempts = .int c.maxAutomatedAttempts
  contacts : policy.maxContactAttempts = .int c.maxContactAttempts
  window : policy.recoveryWindowMinutes = .int c.recoveryWindowMinutes
  highValue : policy.highValueThresholdMinor = .int c.highValueThresholdMinor
  threshold : policy.requireApprovalAboveMinor =
    .ofOption (fun n : Nat => .int n) c.requireApprovalAboveMinor
  allowed : allowedActionSet items = some c.allowedActions
  stopping : validateStoppingRules fields = some read
  categories : c.blockedFailureCategories = FailureCategory.setOf read.blockedFailureCategories
  methods : c.blockedPaymentMethods = textSet read.blockedPaymentMethods
  approvals : c.requireApprovalActions = RecoveryAction.setOf read.requireApprovalActions

theorem validatePolicy_eq_some {policy : MerchantPolicy} {c : PolicyConfiguration} :
    validatePolicy policy = some c ↔ ∃ items fields read, Validates policy c items fields read := by
  constructor
  · intro h
    unfold validatePolicy at h
    split at h
    case h_2 => cases h
    rename_i items hitems
    split at h
    case h_2 => cases h
    rename_i fields hfields
    split at h
    case h_2 => cases h
    rename_i b hb
    simp only [Option.bind_eq_bind, Option.bind_eq_some_iff, limitValue_eq_some,
      thresholdValue_eq_some] at h
    obtain ⟨_, hattempts, _, hcontacts, _, hwindow, _, hhigh, _, hthreshold, _, hallowed, read,
      hread, h⟩ := h
    cases h
    exact ⟨items, fields, read, hitems, hfields, hb, hattempts, hcontacts, hwindow, hhigh,
      hthreshold, hallowed, hread, rfl, rfl, rfl⟩
  · rintro ⟨items, fields, read, h⟩
    simp only [validatePolicy, h.actions, h.rules, h.enabled, limitValue_eq_some.mpr h.attempts,
      limitValue_eq_some.mpr h.contacts, limitValue_eq_some.mpr h.window,
      limitValue_eq_some.mpr h.highValue, thresholdValue_eq_some.mpr h.threshold, h.allowed,
      h.stopping, Option.bind_eq_bind, Option.bind_some, ← h.categories, ← h.methods,
      ← h.approvals]
    rfl

/-- **The rows that are accepted.** -/
theorem validatePolicy_isSome {policy : MerchantPolicy} :
    (∃ c, validatePolicy policy = some c) ↔ policy.Valid := by
  constructor
  · rintro ⟨c, hc⟩
    obtain ⟨items, fields, read, h⟩ := validatePolicy_eq_some.mp hc
    refine ⟨⟨items, h.actions, (allowedActionSet_eq_some.mp h.allowed).1⟩,
      ⟨fields, h.rules, validateStoppingRules_isSome.mp ⟨read, h.stopping⟩⟩, ⟨_, h.enabled⟩, ?_, ?_⟩
    · simp only [MerchantPolicy.limits, List.forall_mem_cons]
      exact ⟨⟨_, h.attempts⟩, ⟨_, h.contacts⟩, ⟨_, h.window⟩, ⟨_, h.highValue⟩, by simp⟩
    · have hthreshold := h.threshold
      cases hc : c.requireApprovalAboveMinor with
      | none =>
          rw [hc] at hthreshold
          exact .inl hthreshold
      | some n =>
          rw [hc] at hthreshold
          exact .inr ⟨n, hthreshold⟩
  · intro h
    obtain ⟨items, hitems, hactions⟩ := h.actions
    obtain ⟨fields, hfields, hrules⟩ := h.rules
    obtain ⟨enabled, henabled⟩ := h.enabled
    have hlimits := h.limits
    simp only [MerchantPolicy.limits, List.forall_mem_cons] at hlimits
    obtain ⟨⟨attempts, hattempts⟩, ⟨contacts, hcontacts⟩, ⟨window, hwindow⟩, ⟨high, hhigh⟩, -⟩ :=
      hlimits
    obtain ⟨threshold, hthreshold⟩ : ∃ threshold, policy.requireApprovalAboveMinor =
        .ofOption (fun n : Nat => .int n) threshold := by
      rcases h.threshold with hnull | ⟨n, hn⟩
      · exact ⟨none, hnull⟩
      · exact ⟨some n, hn⟩
    obtain ⟨actions, rfl⟩ := exists_actions hactions
    obtain ⟨read, hread⟩ := validateStoppingRules_isSome.mpr hrules
    exact ⟨⟨enabled, RecoveryAction.setOf actions, attempts, contacts, window, high, threshold,
      FailureCategory.setOf read.blockedFailureCategories, textSet read.blockedPaymentMethods,
      RecoveryAction.setOf read.requireApprovalActions⟩,
      validatePolicy_eq_some.mpr ⟨_, fields, read, hitems, hfields, henabled, hattempts, hcontacts,
        hwindow, hhigh, hthreshold, allowedActionSet_actions actions, hread, rfl, rfl, rfl⟩⟩

/-! ### Rows of equal authority

Two rows say the same where they list the same things, in whatever order and however
often. Normalization makes sets of the lists and puts them in order, so rows that say
the same get one configuration, and with it one fingerprint.
-/

/-- What a row lists under a stopping rule. -/
def MerchantPolicy.rule (policy : MerchantPolicy) (name : String) : List Json :=
  listed policy.stoppingRules name

/-- A row blocks a payment method, which is compared without its case and its outer space. -/
def MerchantPolicy.Blocks (policy : MerchantPolicy) (method : String) : Prop :=
  ∃ s, .str s ∈ policy.rule "blocked_payment_methods" ∧ Platform.lower (strip s) = method

/--
Two rows say the same: their flags, limits and thresholds are equal, and they list the
same actions, categories and methods, in any order and any number of times.
-/
structure MerchantPolicy.SameAuthority (policy policy' : MerchantPolicy) : Prop where
  enabled : policy.automationEnabled = policy'.automationEnabled
  limits : policy.limits = policy'.limits
  threshold : policy.requireApprovalAboveMinor = policy'.requireApprovalAboveMinor
  allowed : ∀ a : RecoveryAction, .str a.value ∈ policy.allowedActions.items ↔
    .str a.value ∈ policy'.allowedActions.items
  categories : ∀ c : FailureCategory, .str c.value ∈ policy.rule "blocked_failure_categories" ↔
    .str c.value ∈ policy'.rule "blocked_failure_categories"
  methods : ∀ method, policy.Blocks method ↔ policy'.Blocks method
  approvals : ∀ a : RecoveryAction, .str a.value ∈ policy.rule "require_approval_actions" ↔
    .str a.value ∈ policy'.rule "require_approval_actions"

omit [Platform] in
theorem mem_textSet {items : List String} {s : String} : s ∈ textSet items ↔ s ∈ items := by
  rw [textSet, List.mem_insertionSort, List.mem_dedup]

omit [Platform] in
/-- Lists of the same texts are one set. -/
theorem textSet_congr {items items' : List String} (h : ∀ s, s ∈ items ↔ s ∈ items') :
    textSet items = textSet items' := by
  have hperm : items.dedup.Perm items'.dedup := by
    refine (List.perm_ext_iff_of_nodup items.nodup_dedup items'.nodup_dedup).mpr fun s => ?_
    rw [List.mem_dedup, List.mem_dedup, h]
  exact (((List.perm_insertionSort _ _).trans hperm).trans
    (List.perm_insertionSort _ _).symm).eq_of_pairwise' (List.pairwise_insertionSort _ _)
      (List.pairwise_insertionSort _ _)

omit [Platform] in
theorem actionSet_congr {actions actions' : List RecoveryAction}
    (h : ∀ a, a ∈ actions ↔ a ∈ actions') :
    RecoveryAction.setOf actions = RecoveryAction.setOf actions' := by
  unfold RecoveryAction.setOf
  exact List.filter_congr fun a _ => by simp [h a]

omit [Platform] in
theorem categorySet_congr {categories categories' : List FailureCategory}
    (h : ∀ c, c ∈ categories ↔ c ∈ categories') :
    FailureCategory.setOf categories = FailureCategory.setOf categories' := by
  unfold FailureCategory.setOf
  exact List.filter_congr fun c _ => by simp [h c]

section

variable {policy : MerchantPolicy} {c : PolicyConfiguration} {items : List Json}
  {fields : List (String × Json)} {read : StoppingRules}

/-- The allowed actions of an accepted row. -/
theorem Validates.mem_allowed (h : Validates policy c items fields read) (a : RecoveryAction) :
    a ∈ c.allowedActions ↔ .str a.value ∈ policy.allowedActions.items := by
  obtain ⟨-, actions, rfl, hallowed⟩ := allowedActionSet_eq_some.mp h.allowed
  rw [hallowed, RecoveryAction.mem_setOf, h.actions, Json.items,
    List.mem_map_of_injective strAction_injective]

/-- The blocked methods of an accepted row. -/
theorem Validates.mem_methods (h : Validates policy c items fields read) (method : String) :
    method ∈ c.blockedPaymentMethods ↔ policy.Blocks method := by
  have hrules : RulesValid fields := validateStoppingRules_isSome.mp ⟨read, h.stopping⟩
  rw [h.methods, mem_textSet, (validateStoppingRules_read h.stopping).methods]
  unfold MerchantPolicy.Blocks MerchantPolicy.rule
  rw [h.rules]
  refine exists_congr fun s => and_congr_right fun hs => and_iff_right ?_
  -- a method that is listed is not blank
  unfold listed at hs
  cases hfield : (Json.obj fields).field? "blocked_payment_methods" with
  | none =>
      rw [hfield] at hs
      cases hs
  | some value =>
      obtain ⟨items, rfl, hitems⟩ := hrules.methods value hfield
      rw [hfield] at hs
      obtain ⟨s', hs', hblank⟩ := hitems _ hs
      cases hs'
      exact not_blank.mpr hblank

theorem Validates.mem_categories (h : Validates policy c items fields read) (x : FailureCategory) :
    x ∈ c.blockedFailureCategories ↔ .str x.value ∈ policy.rule "blocked_failure_categories" := by
  rw [h.categories, FailureCategory.mem_setOf, (validateStoppingRules_read h.stopping).categories,
    MerchantPolicy.rule, h.rules]

theorem Validates.mem_approvals (h : Validates policy c items fields read) (a : RecoveryAction) :
    a ∈ c.requireApprovalActions ↔ .str a.value ∈ policy.rule "require_approval_actions" := by
  rw [h.approvals, RecoveryAction.mem_setOf, (validateStoppingRules_read h.stopping).actions,
    MerchantPolicy.rule, h.rules]

/-- The sets of a configuration are in order. -/
theorem Validates.sorted (h : Validates policy c items fields read) :
    c.allowedActions = RecoveryAction.setOf c.allowedActions ∧
      c.blockedFailureCategories = FailureCategory.setOf c.blockedFailureCategories ∧
      c.blockedPaymentMethods = textSet c.blockedPaymentMethods ∧
      c.requireApprovalActions = RecoveryAction.setOf c.requireApprovalActions := by
  obtain ⟨-, actions, -, hallowed⟩ := allowedActionSet_eq_some.mp h.allowed
  rw [hallowed, h.categories, h.methods, h.approvals]
  exact ⟨actionSet_congr fun a => RecoveryAction.mem_setOf.symm,
    categorySet_congr fun c => FailureCategory.mem_setOf.symm,
    textSet_congr fun s => mem_textSet.symm, actionSet_congr fun a => RecoveryAction.mem_setOf.symm⟩

/-- **Two accepted rows have one configuration exactly when they say the same.** -/
theorem configuration_eq_iff {policy' : MerchantPolicy} {c' : PolicyConfiguration}
    (hc : validatePolicy policy = some c) (hc' : validatePolicy policy' = some c') :
    c = c' ↔ policy.SameAuthority policy' := by
  obtain ⟨items, fields, read, h⟩ := validatePolicy_eq_some.mp hc
  obtain ⟨items', fields', read', h'⟩ := validatePolicy_eq_some.mp hc'
  constructor
  · rintro rfl
    refine ⟨by rw [h.enabled, h'.enabled], ?_, by rw [h.threshold, h'.threshold], fun a => ?_,
      fun x => ?_, fun method => ?_, fun a => ?_⟩
    · simp only [MerchantPolicy.limits, h.attempts, h.contacts, h.window, h.highValue, h'.attempts,
        h'.contacts, h'.window, h'.highValue]
    · rw [← h.mem_allowed, ← h'.mem_allowed]
    · rw [← h.mem_categories, ← h'.mem_categories]
    · rw [← h.mem_methods, ← h'.mem_methods]
    · rw [← h.mem_approvals, ← h'.mem_approvals]
  · intro hsame
    obtain ⟨hallowed, hcategories, hmethods, happrovals⟩ := h.sorted
    obtain ⟨hallowed', hcategories', hmethods', happrovals'⟩ := h'.sorted
    have hlimits := hsame.limits
    simp only [MerchantPolicy.limits, h.attempts, h.contacts, h.window, h.highValue, h'.attempts,
      h'.contacts, h'.window, h'.highValue, List.cons.injEq, Json.int.injEq, Int.natCast_inj,
      and_true] at hlimits
    have henabled := hsame.enabled
    rw [h.enabled, h'.enabled, Json.bool.injEq] at henabled
    have hthreshold := hsame.threshold
    rw [h.threshold, h'.threshold] at hthreshold
    have hactions : c.allowedActions = c'.allowedActions := by
      rw [hallowed, hallowed']
      exact actionSet_congr fun a => by rw [h.mem_allowed, h'.mem_allowed, hsame.allowed]
    have hblocked : c.blockedFailureCategories = c'.blockedFailureCategories := by
      rw [hcategories, hcategories']
      exact categorySet_congr fun x => by rw [h.mem_categories, h'.mem_categories, hsame.categories]
    have hmethod : c.blockedPaymentMethods = c'.blockedPaymentMethods := by
      rw [hmethods, hmethods']
      exact textSet_congr fun s => by rw [h.mem_methods, h'.mem_methods, hsame.methods]
    have happroval : c.requireApprovalActions = c'.requireApprovalActions := by
      rw [happrovals, happrovals']
      exact actionSet_congr fun a => by rw [h.mem_approvals, h'.mem_approvals, hsame.approvals]
    obtain ⟨_, _, _, _, _, _, _, _, _, _⟩ := c
    obtain ⟨_, _, _, _, _, _, _, _, _, _⟩ := c'
    simp only [PolicyConfiguration.mk.injEq]
    exact ⟨henabled, hactions, hlimits.1, hlimits.2.1, hlimits.2.2.1, hlimits.2.2.2,
      ofOption_nat hthreshold, hblocked, hmethod, happroval⟩

end

/-! ### Fingerprints -/

inductive PolicyStatus
  | missing
  | invalid
  | valid
  deriving DecidableEq, Repr

/-- Whether there is a policy, and whether it can be used. -/
def policyStatus (policy : Option MerchantPolicy) : PolicyStatus :=
  match policy with
  | none => .missing
  | some policy => if (validatePolicy policy).isSome then .valid else .invalid

/-- The fingerprint of a policy as the services take it. -/
def policyFingerprint (policy : Option MerchantPolicy) : Digest :=
  buildPolicyFingerprint policy (policy.bind validatePolicy)

/-- The facts that are hashed begin with the status. -/
theorem policyFingerprint_status (hhash : Function.Injective Platform.hashFacts)
    {policy policy' : Option MerchantPolicy} (h : policyFingerprint policy = policyFingerprint policy') :
    policyStatus policy = policyStatus policy' := by
  obtain ⟨hpresent, hconfiguration⟩ := policyFingerprint_determines hhash h
  cases policy with
  | none =>
      cases policy' with
      | none => rfl
      | some policy' => cases hpresent
  | some policy =>
      cases policy' with
      | none => cases hpresent
      | some policy' =>
          simp only [Option.bind_some] at hconfiguration
          simp only [policyStatus, hconfiguration]

/--
**Validation and its fingerprint.**  A row is accepted exactly when it is valid; accepted
rows have one fingerprint exactly when they have one configuration, and that exactly when
they say the same; a fingerprint tells a valid, an invalid and a missing policy apart.
-/
theorem policy_canonical (hhash : Function.Injective Platform.hashFacts) :
    (∀ policy, (∃ c, validatePolicy policy = some c) ↔ policy.Valid) ∧
    (∀ policy policy' c c', validatePolicy policy = some c → validatePolicy policy' = some c' →
      (policyFingerprint (some policy) = policyFingerprint (some policy') ↔ c = c') ∧
        (c = c' ↔ policy.SameAuthority policy')) ∧
    ∀ policy policy', policyStatus policy ≠ policyStatus policy' →
      policyFingerprint policy ≠ policyFingerprint policy' := by
  refine ⟨fun policy => validatePolicy_isSome, fun policy policy' c c' hc hc' => ⟨⟨fun h => ?_, ?_⟩,
    configuration_eq_iff hc hc'⟩, fun policy policy' hne h => hne (policyFingerprint_status hhash h)⟩
  · obtain ⟨-, hconfiguration⟩ := policyFingerprint_determines hhash h
    simp only [Option.bind_some, hc, hc', Option.some.injEq] at hconfiguration
    exact hconfiguration
  · rintro rfl
    simp only [policyFingerprint, Option.bind_some, hc, hc']
    rfl

end Arc

namespace Arc

attribute [local instance] asciiPlatform

/-- A row whose lists name their items in some order, one of them twice. -/
def listedPolicy (actions methods : List String) : MerchantPolicy where
  id := 50
  merchantId := "acc_1"
  automationEnabled := .bool true
  allowedActions := textArray actions
  maxAutomatedAttempts := .int 3
  maxContactAttempts := .int 3
  recoveryWindowMinutes := .int 60
  highValueThresholdMinor := .int 100000
  requireApprovalAboveMinor := .null
  stoppingRules := .obj [("blocked_payment_methods", textArray methods)]

/-- One set of actions and methods, written in two ways, and no policy at all. -/
theorem policy_canonical_listed :
    let policy := listedPolicy ["REQUEST_RETRY", "WAIT"] ["upi", " CARD "]
    let policy' := listedPolicy ["WAIT", "REQUEST_RETRY", "WAIT"] ["card", "upi"]
    policyFingerprint (some policy) = policyFingerprint (some policy') ∧
      policy.SameAuthority policy' ∧ policyFingerprint (some policy) ≠ policyFingerprint none := by
  intro policy policy'
  obtain ⟨-, haccepted, hstatus⟩ := policy_canonical Function.injective_id
  have hsome : (validatePolicy policy).isSome = true := by decide +kernel
  have heq : validatePolicy policy' = validatePolicy policy := by decide +kernel
  obtain ⟨c, hc⟩ := Option.isSome_iff_exists.mp hsome
  obtain ⟨hfingerprint, hsame⟩ := haccepted policy policy' c c hc (heq.trans hc)
  exact ⟨hfingerprint.mpr rfl, hsame.mp rfl, hstatus _ _ (by decide +kernel)⟩

end Arc
