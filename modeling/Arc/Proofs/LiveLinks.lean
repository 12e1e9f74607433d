/-
One live link for one case.

The reference of a link is keyed by the policy decision, and a case can get another
decision while a link of an earlier one is live.  `CaseSettled` is the condition that
the code does not check: when an action of a case is claimed, no other action of the
case has a link that may be live.
-/
import Arc.Proofs.Links

namespace Arc

open Store

variable [Platform]

/-- The live links that were made for any action of a case. -/
def System.liveLinks (s : System) (caseId : Uuid) : List ProviderLink :=
  s.provider.links.filter fun link => link.status.live &&
    s.db.recoveryActions.any fun r =>
      r.caseId == caseId && r.externalReference == some link.referenceId

/-- The statuses of an action whose link may be live, or may still be made. -/
def unsettledStatuses : List RecoveryExecutionStatus :=
  [.inProgress, .indeterminate, .compensationRequired]

/-- A case is claimed for its current decision when its other link actions are settled. -/
def CaseSettled (s : System) : Label → Prop
  | .executor _ (.prepare caseId newId now) =>
      claimsAction s.db caseId newId now = true →
      ∀ r ∈ s.db.recoveryActions.rows, r.caseId = caseId → r.action = .createRecoveryLink →
        (∀ decision ∈ s.db.currentDecision caseId, s.db.actionFor decision.id ≠ some r) →
        r.executionStatus ∉ unsettledStatuses
  | _ => True

instance (s : System) : (l : Label) → Decidable (CaseSettled s l)
  | .executor _ (.prepare caseId newId now) =>
    inferInstanceAs (Decidable (claimsAction s.db caseId newId now = true →
      ∀ r ∈ s.db.recoveryActions.rows, r.caseId = caseId → r.action = .createRecoveryLink →
        (∀ decision ∈ s.db.currentDecision caseId, s.db.actionFor decision.id ≠ some r) →
        r.executionStatus ∉ unsettledStatuses))
  | .executor _ (.internal _) | .executor _ (.lookup _) | .executor _ .sendCreate
  | .executor _ (.createAnswer _) | .executor _ (.finalizeProblem _)
  | .executor _ (.finalizeSuccess _) | .executor _ .sendCancel | .executor _ (.cancelAnswer _)
  | .executor _ .finalizeCompensation | .executor _ .crash | .processor _ _ | .observer _ _
  | .strategist _ _ | .approver _ _ | .provider _ | .service _ | .tick _ => .isTrue trivial

/-! ### Rows that are closed

A link row is closed when its action has failed or its link is dead, and it stays closed
whatever happens. Two link rows of one case, one of which is closed, cannot both have a
live link, so it is enough that claims find the others settled.
-/

/-- The action has failed, or its link is dead. -/
def Closed (s : System) (r : RecoveryActionRecord) : Prop :=
  r.executionStatus = .failed ∨
    ∃ link ∈ s.provider.links, r.externalReference = some link.referenceId ∧
      link.status.live = false

/-- Of two link actions of one case, one is closed. -/
def Apart (s : System) : Prop :=
  ∀ r ∈ s.db.recoveryActions, ∀ r' ∈ s.db.recoveryActions, r.action = .createRecoveryLink →
    r'.action = .createRecoveryLink → r.caseId = r'.caseId → r ≠ r' → Closed s r ∨ Closed s r'

/-- A dead link is never touched again. -/
theorem step_dead_link {s s' : System} {l : Label} (h : LinksOk s) (hs : step s l = some s')
    {link : ProviderLink} (hlink : link ∈ s.provider.links) (hdead : link.status.live = false) :
    link ∈ s'.provider.links := by
  cases l with
  | executor worker el =>
      obtain ⟨m, hm, rfl⟩ := Option.map_eq_some_iff.mp hs
      have hcases := executorStep_cases hm
      generalize s.executors worker = phase at hcases
      show link ∈ m.provider.links
      cases hcases <;> exact hlink
  | provider pl =>
      obtain ⟨p, hp, rfl⟩ := Option.map_eq_some_iff.mp hs
      cases pl with
      | applyCreate call linkId =>
          simp only [providerStep] at hp
          split at hp
          · cases hp
          · split at hp
            · cases hp
            · cases hp
              exact List.mem_append_left _ hlink
      | refuseCreate call =>
          cases hp
          exact hlink
      | moveLink linkId status =>
          simp only [providerStep] at hp
          split at hp
          · rename_i hlive
            cases hp
            obtain ⟨live, hmem, hcond⟩ := List.any_eq_true.mp hlive
            simp only [Bool.and_eq_true, beq_iff_eq] at hcond
            refine List.mem_map.mpr ⟨link, hlink, if_neg fun hid => ?_⟩
            have hsame : link = live := eq_of_link_id h.ids hlink hmem (hid.trans hcond.1.symm)
            rw [hsame, hcond.2] at hdead
            cases hdead
          · cases hp
  | processor worker pl => obtain ⟨m, -, rfl⟩ := Option.map_eq_some_iff.mp hs; exact hlink
  | observer worker ol => obtain ⟨m, -, rfl⟩ := Option.map_eq_some_iff.mp hs; exact hlink
  | strategist worker sl => obtain ⟨m, -, rfl⟩ := Option.map_eq_some_iff.mp hs; exact hlink
  | approver worker al => obtain ⟨m, -, rfl⟩ := Option.map_eq_some_iff.mp hs; exact hlink
  | service sl => cases hs; exact hlink
  | tick d => cases hs; exact hlink

/-- What a step that claims nothing leaves of a link row. -/
structure Stays (r r' : RecoveryActionRecord) : Prop extends r.SameAction r' where
  reference_eq : r'.externalReference = r.externalReference
  failed : r.executionStatus = .failed → r'.executionStatus = .failed

theorem Stays.refl (r : RecoveryActionRecord) : Stays r r := ⟨.refl r, rfl, fun h => h⟩

/-- A step of an executor claims a row, or every link row stays what it is about. -/
theorem LinksOk.stays {s : System} (h : LinksOk s) (hok : HeldOk s) {worker : Nat}
    {l : ExecutorLabel} {m : ExecutorMove} (haction : (s.executors worker).ActionOk)
    (hm : ExecutorStep s (s.executors worker) l m) :
    (∃ caseId newId now claim, l = .prepare caseId newId now ∧ m.provider = s.provider ∧
      claimsAction s.db caseId newId now = true ∧ Claims s.db caseId newId now m.db claim) ∨
    ∀ r' ∈ m.db.recoveryActions, r'.action = .createRecoveryLink →
      ∃ r ∈ s.db.recoveryActions, Stays r r' := by
  have hput : ∀ {record record' : RecoveryActionRecord}, record ∈ s.db.recoveryActions →
      (record'.action = .createRecoveryLink → Stays record record') → record'.id = record.id →
      ∀ r' ∈ s.db.recoveryActions.put record', r'.action = .createRecoveryLink →
      ∃ r ∈ s.db.recoveryActions, Stays r r' := by
    intro record record' hrecord hstays hid r' hr' hlink
    rcases (Table.mem_put_of_mem hrecord hid).mp hr' with ⟨hr', -⟩ | rfl
    · exact ⟨r', hr', .refl r'⟩
    · exact ⟨record, hrecord, hstays hlink⟩
  generalize hphase : s.executors worker = phase at haction hm
  cases hm with
  | claimed hnow hclaims hprepare =>
      exact .inl ⟨_, _, _, _, rfl, rfl, claimsAction_of_eq_ok hprepare, hclaims⟩
  | @internal held now c record record' w hnow hother hlocked hopen hout =>
      have hheld : (s.executors worker).held? = some held := by rw [hphase]; rfl
      obtain ⟨hcarries, -⟩ := hok.locked hheld hlocked
      refine .inr (hput (Table.mem_of_get? hlocked.record_eq) (fun hlink => ?_)
        hout.count.1.id_eq)
      rw [hout.count.1.action_eq, hcarries.action_eq] at hlink
      exact absurd hlink hother
  | @problem held problem now c record hnow hlocked hopen =>
      refine .inr (hput (Table.mem_of_get? hlocked.record_eq) (fun _ =>
        (⟨⟨rfl, rfl, rfl, rfl⟩, rfl, fun hfailed => absurd ?_ hopen⟩ :
          Stays record (record.withProblem problem now))) rfl)
      rw [hfailed]
      decide
  | @finalized held snapshot adopted required now c record record' w hnow hlocked hout hfree =>
      have hheld : (s.executors worker).held? = some held := by rw [hphase]; rfl
      obtain ⟨hcarries, -⟩ := hok.locked hheld hlocked
      have hrecord := Table.mem_of_get? hlocked.record_eq
      have hrow := h.rows record hrecord (hcarries.action_eq.trans haction)
      obtain ⟨referenceId, href⟩ := Option.isSome_iff_exists.mp hrow.reference
      obtain ⟨-, hshown⟩ := h.reference_of hphase rfl haction hrecord hcarries.id_eq href
      have hreference : record'.externalReference = record.externalReference := by
        rw [href, ← hshown.reference_eq]
        cases hout <;> rfl
      refine .inr (hput hrecord (fun _ => ⟨hout.count.1, hreference, fun hfailed => ?_⟩)
        hout.count.1.id_eq)
      -- a row that has failed has no link, and this claim has seen one
      obtain ⟨link, hlink, -⟩ := hshown.made
      rw [(hrow.failed hfailed referenceId href).1] at hlink
      simp at hlink
  | @compensated held snapshot outcome c record hlocked hfree =>
      have hheld : (s.executors worker).held? = some held := by rw [hphase]; rfl
      obtain ⟨hcarries, -⟩ := hok.locked hheld hlocked
      have hrecord := Table.mem_of_get? hlocked.record_eq
      have hrow := h.rows record hrecord (hcarries.action_eq.trans haction)
      obtain ⟨referenceId, href⟩ := Option.isSome_iff_exists.mp hrow.reference
      obtain ⟨-, hshown, hdead⟩ := h.reference_of hphase rfl haction hrecord hcarries.id_eq href
      obtain ⟨hsame, -, -, -, -, hreference, -⟩ := compensatedRecord_cases record snapshot outcome
      refine .inr (hput hrecord (fun _ => ⟨hsame, ?_, fun hfailed => ?_⟩) hsame.id_eq)
      · rw [hreference, href]
        cases outcome with
        | inl cancelled => exact congrArg some (hdead cancelled rfl).1
        | inr errorCode => exact congrArg some hshown.reference_eq
      · obtain ⟨link, hlink, -⟩ := hshown.made
        rw [(hrow.failed hfailed referenceId href).1] at hlink
        simp at hlink
  | _ => exact .inr fun r' hr' _ => ⟨r', hr', .refl r'⟩

/-- A row that stays what it is about stays closed. -/
theorem Closed.stays {s s' : System} {r r' : RecoveryActionRecord} (h : Closed s r)
    (hstays : Stays r r') (hlinks : ∀ link ∈ s.provider.links, link.status.live = false →
      link ∈ s'.provider.links) : Closed s' r' := by
  rcases h with hfailed | ⟨link, hlink, href, hdead⟩
  · exact .inl (hstays.failed hfailed)
  · exact .inr ⟨link, hlinks link hlink hdead, hstays.reference_eq.trans href, hdead⟩

/-- A settled row is closed, when its case has not been executed. -/
theorem LinksOk.settled {s : System} (h : LinksOk s) (hexecuted : Executed s.db)
    {r : RecoveryActionRecord} (hr : r ∈ s.db.recoveryActions)
    (haction : r.action = .createRecoveryLink) {c : PaymentCase} (hc : c ∈ s.db.cases)
    (hid : c.id = r.caseId) (hstate : c.currentState = .policyValidated)
    (hsettled : r.executionStatus ∉ unsettledStatuses) : Closed s r := by
  have hrow := h.rows r hr haction
  obtain ⟨referenceId, href⟩ := Option.isSome_iff_exists.mp hrow.reference
  cases hstatus : r.executionStatus with
  | prepared => exact absurd hstatus hrow.claimed
  | failed => exact .inl hstatus
  | cancelled =>
      obtain ⟨link, hlink, hdead⟩ := hrow.cancelled hstatus referenceId href
      obtain ⟨hmem, hreference⟩ := mem_linksOf.mp hlink
      exact .inr ⟨link, hmem, by rw [href, hreference], hdead⟩
  | succeeded =>
      have hpast := hexecuted.past r hr (hexecuted.succeeded r hr hstatus) c hc hid
      rw [hstate] at hpast
      simp [observableStates] at hpast
  | inProgress | indeterminate | compensationRequired =>
      rw [hstatus] at hsettled
      exact absurd (by decide) hsettled

theorem Apart.of_stays {s s' : System} (h : Apart s)
    (hrows : ∀ r' ∈ s'.db.recoveryActions, r'.action = .createRecoveryLink →
      ∃ r ∈ s.db.recoveryActions, Stays r r')
    (hlinks : ∀ link ∈ s.provider.links, link.status.live = false → link ∈ s'.provider.links) :
    Apart s' := by
  intro r' hr' x' hx' hlink hlink' hcase hne
  obtain ⟨r, hr, hstays⟩ := hrows r' hr' hlink
  obtain ⟨x, hx, hstays'⟩ := hrows x' hx' hlink'
  have hne' : r ≠ x := by
    rintro rfl
    exact hne (Table.eq_of_key_eq hr' hx' (hstays.id_eq.trans hstays'.id_eq.symm))
  rcases h r hr x hx (hstays.action_eq.symm.trans hlink) (hstays'.action_eq.symm.trans hlink')
    (hstays.case_eq.symm.trans (hcase.trans hstays'.case_eq)) hne' with hclosed | hclosed
  · exact .inl (hclosed.stays hstays hlinks)
  · exact .inr (hclosed.stays hstays' hlinks)

/-- A claim for a settled case leaves its other link actions closed. -/
theorem Apart.claimed {s s' : System} (h : Apart s) (hlinks : LinksOk s)
    (hexecuted : Executed s.db) {worker : Nat} {caseId newId : Uuid} {now : Int}
    {claim : ExecutionClaim} {c : PaymentCase} {proposal : StrategyProposal}
    {decision : PolicyDecision} {inputs : CurrentAuthorizationInputs}
    {record : RecoveryActionRecord}
    (hrow : ClaimedRow s.db s'.db caseId newId now claim c proposal decision inputs record)
    (hclaims : claimsAction s.db caseId newId now = true)
    (hsettled : CaseSettled s (.executor worker (.prepare caseId newId now)))
    (hprovider : s'.provider = s.provider) : Apart s' := by
  have hkeep : ∀ {r}, Closed s r → Closed s' r := by
    rintro r (hfailed | hdead)
    · exact .inl hfailed
    · exact .inr (by rwa [hprovider])
  -- every other link action of the case is closed
  have hothers : ∀ r ∈ s.db.recoveryActions, r.id ≠ record.id → r.action = .createRecoveryLink →
      r.caseId = record.caseId → Closed s r := by
    intro r hr hne haction hcase
    have hid : c.id = r.caseId := (hcase.trans hrow.case_eq).symm
    refine hlinks.settled hexecuted hr haction (Table.mem_of_get? hrow.authority.stored) hid
      hrow.authority.state (hsettled hclaims r hr (hid.symm.trans hrow.case_id) haction ?_)
    intro decision' hdecision' hfound
    have hcurrent : s.db.currentDecision caseId = some decision := by
      rw [← hrow.case_id]
      exact hrow.authority.decision_current
    rw [hcurrent] at hdecision'
    cases hdecision'
    rcases hrow.origin with hbuilt | hreclaimed
    · exact hbuilt.unclaimed r hr ((actionFor_eq_some hfound).2.trans hrow.decision_eq.symm)
    · rw [hreclaimed.found] at hfound
      cases hfound
      exact hne rfl
  intro r hr x hx hlink hlink' hcase hne
  rcases (hrow.rows r).mp hr with ⟨hr, hrne⟩ | rfl <;>
    rcases (hrow.rows x).mp hx with ⟨hx, hxne⟩ | rfl
  · rcases h r hr x hx hlink hlink' hcase hne with hclosed | hclosed
    · exact .inl (hkeep hclosed)
    · exact .inr (hkeep hclosed)
  · exact .inl (hkeep (hothers r hr hrne hlink hcase))
  · exact .inr (hkeep (hothers x hx hxne hlink' hcase.symm))
  · exact absurd rfl hne

theorem Apart.step {s s' : System} {l : Label} (h : Apart s) (hlinks : LinksOk s)
    (hhints : HintsOk s) (hok : HeldOk s) (hexecuted : Executed s.db)
    (haction : ∀ worker, (s.executors worker).ActionOk) (hsettled : CaseSettled s l)
    (hs : Arc.step s l = some s') : Apart s' := by
  have hdead : ∀ link ∈ s.provider.links, link.status.live = false → link ∈ s'.provider.links :=
    fun link hlink hdead => step_dead_link hlinks hs hlink hdead
  cases l with
  | executor worker el =>
      obtain ⟨m, hm, rfl⟩ := Option.map_eq_some_iff.mp hs
      rcases hlinks.stays hok (haction worker) (executorStep_cases hm) with
        ⟨caseId, newId, now, claim, rfl, hprovider, hcommits, hclaims⟩ | hstays
      · obtain ⟨c, proposal, decision, inputs, record, hrow⟩ := hclaims.row
        exact h.claimed hlinks hexecuted hrow hcommits hsettled hprovider
      · exact h.of_stays hstays hdead
  | _ =>
      refine h.of_stays (fun r' hr' _ => ?_) hdead
      obtain ⟨r, hr, hsame, hstatus⟩ :=
        ((step_commit hhints hs).rows_kept fun _ _ => by simp).1 r' hr'
      exact ⟨r, hr, hsame.toSameAction, hsame.reference_eq, fun hfailed => hstatus.trans hfailed⟩

/-! ### Runs -/

theorem apart_run {clock : Int} {tr : List (Run.Step System Label)} {s : System}
    (h : RunTrace clock tr s) (hassumed : ∀ x ∈ tr, Assumed x.pre x.label)
    (hundisturbed : ∀ x ∈ tr, Undisturbed x.pre x.label)
    (hsettled : ∀ x ∈ tr, CaseSettled x.pre x.label) : Apart s := by
  refine h.invariant (I := Apart) (fun r hr => absurd hr (Table.not_mem_empty r))
    fun x hx hapart hs => ?_
  obtain ⟨before, after, rfl, hbefore, -⟩ := h.split hx
  have hlinks := linksOk_run hbefore (fun y hy => hassumed y (List.mem_append_left _ hy))
    fun y hy => hundisturbed y (List.mem_append_left _ hy)
  obtain ⟨hhints, hheld, hexecuted⟩ := executed_reachable ⟨before, hbefore⟩
  exact hapart.step hlinks hhints hheld hexecuted (actionOk_reachable ⟨before, hbefore⟩)
    (hsettled x hx) hs

/-- The links of a closed row are dead. -/
theorem LinksOk.dead {s : System} (h : LinksOk s) {r : RecoveryActionRecord}
    (hr : r ∈ s.db.recoveryActions) (hclosed : Closed s r) {link : ProviderLink}
    (hlink : link ∈ s.provider.links) (href : r.externalReference = some link.referenceId) :
    link.status.live = false := by
  rcases hclosed with hfailed | ⟨link', hlink', href', hdead⟩
  · exact h.closed hr (.inl hfailed) hlink href
  · rw [href, Option.some.injEq] at href'
    rw [h.link_unique hlink hlink' href']
    exact hdead

/--
**One live link for a case.**  In every run that meets the assumptions, whose steps are
all undisturbed, and in which a case is claimed only when its other link actions are
settled, the links of a case that are neither cancelled nor expired are one at most.
-/
theorem one_live_link {clock : Int} {tr : List (Run.Step System Label)} {s : System}
    (h : RunTrace clock tr s) (hassumed : ∀ x ∈ tr, Assumed x.pre x.label)
    (hundisturbed : ∀ x ∈ tr, Undisturbed x.pre x.label)
    (hsettled : ∀ x ∈ tr, CaseSettled x.pre x.label) (caseId : Uuid) :
    (s.liveLinks caseId).length ≤ 1 := by
  have hlinks := linksOk_run h hassumed hundisturbed
  have hapart := apart_run h hassumed hundisturbed hsettled
  refine length_filter_le_one (List.Nodup.of_map _ hlinks.ids) fun x hx y hy hxlive hylive => ?_
  simp only [Bool.and_eq_true, Table.any_eq_true, beq_iff_eq] at hxlive hylive
  obtain ⟨hxlive, r, hr, hcase, href⟩ := hxlive
  obtain ⟨hylive, r', hr', hcase', href'⟩ := hylive
  have hlinkRow : ∀ {r : RecoveryActionRecord} {referenceId : String}, r ∈ s.db.recoveryActions →
      r.externalReference = some referenceId → r.action = .createRecoveryLink := by
    intro r referenceId hr href
    by_contra hother
    rw [hlinks.other r hr hother] at href
    cases href
  by_cases hsame : r = r'
  · subst hsame
    rw [href, Option.some.injEq] at href'
    exact hlinks.link_unique hx hy href'
  · -- one of the two actions is closed, so its link is dead
    rcases hapart r hr r' hr' (hlinkRow hr href) (hlinkRow hr' href') (hcase.trans hcase'.symm)
      hsame with hclosed | hclosed
    · rw [hlinks.dead hr hclosed hx href] at hxlive
      cases hxlive
    · rw [hlinks.dead hr' hclosed hy href'] at hylive
      cases hylive

end Arc

namespace Arc

attribute [local instance] asciiPlatform

theorem one_live_link_recovered : ∃ tr s, RunTrace 0 tr s ∧
    tr.map Run.Step.label = recoveredRun ∧ (s.liveLinks 10).length ≤ 1 := by
  have hrun : (Run.replay (Run.guarded (fun s l => Assumed s l ∧ Undisturbed s l ∧ CaseSettled s l)
      step) (System.initial 0) recoveredRun).isSome = true := by decide +kernel
  obtain ⟨tr, s, htr, hlabels, -⟩ := Run.Trace.of_isSome hrun
  obtain ⟨htr, hall⟩ := htr.of_guarded
  exact ⟨tr, s, htr, hlabels, one_live_link htr (fun x hx => (hall x hx).1)
    (fun x hx => (hall x hx).2.1) (fun x hx => (hall x hx).2.2) 10⟩

/--
The creation for the first decision is applied and its answer is lost.  The operator
edits the policy, the case is evaluated again, and the second decision is executed.
-/
def reevaluatedRun : List Label := authorizedRun ++ [
  .executor 0 (.prepare 10 40 0),
  .executor 0 (.lookup (.response 200 (some []))),
  .executor 0 .sendCreate,
  .provider (.applyCreate 0 "plink_1"),
  .executor 0 (.createAnswer .noResponse),
  .executor 0 (.finalizeProblem 0),
  .service (.setPolicy { samplePolicy with maxAutomatedAttempts := .int 5 }),
  .service (.evaluatePolicy 10 none 31),
  .executor 1 (.prepare 10 41 0),
  .executor 1 (.lookup (.response 200 (some []))),
  .executor 1 .sendCreate,
  .provider (.applyCreate 1 "plink_2")]

/-- Each decision has its link, and both are live. -/
theorem reevaluation_doubles : ∃ tr s, RunTrace 0 tr s ∧
    tr.map Run.Step.label = reevaluatedRun ∧
    (∀ x ∈ tr, Assumed x.pre x.label ∧ Undisturbed x.pre x.label) ∧
    ¬ (s.liveLinks 10).length ≤ 1 := by
  have hrun : ((Run.replay (Run.guarded (fun s l => Assumed s l ∧ Undisturbed s l) step)
      (System.initial 0) reevaluatedRun).map fun s => (s.liveLinks 10).length) = some 2 := by
    decide +kernel
  obtain ⟨s, hs, hlive⟩ := Option.map_eq_some_iff.mp hrun
  obtain ⟨tr, htr, hlabels⟩ := Run.Trace.of_replay hs
  obtain ⟨htr, hall⟩ := htr.of_guarded
  exact ⟨tr, s, htr, hlabels, hall, by omega⟩

end Arc
