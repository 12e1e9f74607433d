/-
One link for one action.

Under leases that do not overlap and a provider that answers truthfully, a recovery
action makes one link at most, and what its row says of the link can be relied on, in
every run in which no superseded worker records a problem and no action is retried
while a creation of it can still be applied.  The code sees to neither.
-/
import Arc.Proofs.LinkSteps

namespace Arc

open Store

variable [Platform]

/-- What is assumed of the workers' calls and of the provider's answers in a step. -/
def Assumed (s : System) (l : Label) : Prop := Timely s l ∧ Truthful s l

instance (s : System) (l : Label) : Decidable (Assumed s l) :=
  inferInstanceAs (Decidable (_ ∧ _))

/-- The step neither records the problem of a superseded claim, nor retries too early. -/
def Undisturbed (s : System) (l : Label) : Prop := ProblemOwned s l ∧ RetrySettled s l

instance (s : System) (l : Label) : Decidable (Undisturbed s l) :=
  inferInstanceAs (Decidable (_ ∧ _))

theorem linksOk_run {clock : Int} {tr : List (Run.Step System Label)} {s : System}
    (h : RunTrace clock tr s) (hassumed : ∀ x ∈ tr, Assumed x.pre x.label)
    (hundisturbed : ∀ x ∈ tr, Undisturbed x.pre x.label) : LinksOk s := by
  refine h.invariant (linksOk_initial clock) fun x hx hlinks hs => ?_
  have hreachable := h.reachable_pre hx
  obtain ⟨hhints, hheld, -⟩ := executed_reachable hreachable
  obtain ⟨htimely, htruthful⟩ := hassumed x hx
  obtain ⟨howned, hsettled⟩ := hundisturbed x hx
  exact hlinks.step hhints hheld (actionOk_reachable hreachable) htimely htruthful howned hsettled hs

/-- A reference has one link at most, and a link that was found is not made again. -/
structure OneLink (tr : List (Run.Step System Label)) (s : System) : Prop where
  single : ∀ referenceId, (s.provider.linksOf referenceId).length ≤ 1
  /-- A creation is sent when the reference has no link. -/
  unmade : ∀ x ∈ tr, ∀ worker held referenceId, x.label = .executor worker .sendCreate →
    x.pre.executors worker = .creating held → held.claim.referenceId = some referenceId →
    x.pre.provider.linksOf referenceId = []
  adopted : ∀ x ∈ tr, ∀ worker held request out snapshot,
    x.label = .executor worker (.lookup out) → x.pre.executors worker = .claimed held →
    paymentLinkRequest held.claim = .ok request →
    lookupByReference request.referenceId out = .ok [snapshot] →
    matchesRequest snapshot request = true → x.post.executors worker = .linked held snapshot true
  /-- A row that has failed, or was cancelled, leaves no link that can be paid. -/
  closed : ∀ r ∈ s.db.recoveryActions,
    r.executionStatus = .failed ∨ r.executionStatus = .cancelled →
    ∀ link ∈ s.provider.links, r.externalReference = some link.referenceId →
    link.status.live = false

/-- Two links of one reference are one link. -/
theorem LinksOk.link_unique {s : System} (h : LinksOk s) {link link' : ProviderLink}
    (hlink : link ∈ s.provider.links) (hlink' : link' ∈ s.provider.links)
    (href : link.referenceId = link'.referenceId) : link = link' := by
  have hmem : link ∈ s.provider.linksOf link'.referenceId := mem_linksOf.mpr ⟨hlink, href⟩
  have hmem' : link' ∈ s.provider.linksOf link'.referenceId := mem_linksOf.mpr ⟨hlink', rfl⟩
  have hone := h.single link'.referenceId
  have hpos := List.length_pos_of_mem hmem
  obtain ⟨x, hx⟩ := List.length_eq_one_iff.mp
    (show (s.provider.linksOf link'.referenceId).length = 1 by omega)
  rw [hx, List.mem_singleton] at hmem hmem'
  rw [hmem, hmem']

theorem LinksOk.closed {s : System} (h : LinksOk s) {r : RecoveryActionRecord}
    (hr : r ∈ s.db.recoveryActions)
    (hstatus : r.executionStatus = .failed ∨ r.executionStatus = .cancelled)
    {link : ProviderLink} (hlink : link ∈ s.provider.links)
    (href : r.externalReference = some link.referenceId) : link.status.live = false := by
  have hmem : link ∈ s.provider.linksOf link.referenceId := mem_linksOf.mpr ⟨hlink, rfl⟩
  have haction : r.action = .createRecoveryLink := by
    by_contra hother
    rw [h.other r hr hother] at href
    cases href
  have hrow := h.rows r hr haction
  rcases hstatus with hfailed | hcancelled
  · rw [(hrow.failed hfailed _ href).1] at hmem
    simp at hmem
  · obtain ⟨link', hlink', hdead⟩ := hrow.cancelled hcancelled _ href
    obtain ⟨hlink', href'⟩ := mem_linksOf.mp hlink'
    rw [h.link_unique hlink hlink' href'.symm]
    exact hdead

/--
**Single create and no orphan link.**  Every run that meets the assumptions, and whose
steps are all undisturbed, makes one link at most for a reference, adopts a link that a
lookup has found, and leaves no payable link behind a row that has failed or was
cancelled.
-/
theorem one_link {clock : Int} {tr : List (Run.Step System Label)} {s : System}
    (h : RunTrace clock tr s) (hassumed : ∀ x ∈ tr, Assumed x.pre x.label)
    (hundisturbed : ∀ x ∈ tr, Undisturbed x.pre x.label) : OneLink tr s := by
  have hlinks := linksOk_run h hassumed hundisturbed
  refine ⟨fun referenceId => ?_, ?_, ?_, fun r hr hstatus link hlink href =>
    hlinks.closed hr hstatus hlink href⟩
  · have hone := hlinks.single referenceId
    omega
  · intro x hx worker held referenceId hlabel hphase hreference
    obtain ⟨before, after, rfl, hbefore, -⟩ := h.split hx
    have hpre := linksOk_run hbefore
      (fun y hy => hassumed y (List.mem_append_left _ hy))
      (fun y hy => hundisturbed y (List.mem_append_left _ hy))
    obtain ⟨-, hheld, -⟩ := executed_reachable ⟨before, hbefore⟩
    have hholds : (x.pre.executors worker).held? = some held := by rw [hphase]; rfl
    have haction : held.claim.action = .createRecoveryLink := by
      have hok := actionOk_reachable ⟨before, hbefore⟩ worker
      rwa [hphase] at hok
    obtain ⟨r, hr, hcarries, hholder⟩ := hpre.row hheld hholds haction
    have hrunning : held.lease.Running x.pre.clock := by
      have htimely := (hassumed x hx).1
      rw [hlabel] at htimely
      exact htimely rfl held hholds
    have hcreating := hholder.phase referenceId (hholder.reference.symm.trans hreference)
    rw [hphase] at hcreating
    exact (hcreating (hholder.running hrunning)).1
  · intro x hx worker held request out snapshot hlabel hphase hrequest hfound hmatches
    have hs := h.step_of_mem hx
    rw [hlabel] at hs
    obtain ⟨m, hm, hpost⟩ := Option.map_eq_some_iff.mp hs
    rw [← hpost]
    show Function.update x.pre.executors worker m.phase worker = _
    rw [Function.update_self]
    rw [hphase] at hm
    simp only [executorStep, hrequest, afterLookup, hfound, hmatches, if_true,
      Option.ite_none_right_eq_some, Option.some.injEq] at hm
    rw [← hm.2]

end Arc

namespace Arc

attribute [local instance] asciiPlatform

theorem one_link_recovered : ∃ tr s, RunTrace 0 tr s ∧
    tr.map Run.Step.label = recoveredRun ∧ OneLink tr s := by
  have hrun : (Run.replay (Run.guarded (fun s l => Assumed s l ∧ Undisturbed s l) step)
      (System.initial 0) recoveredRun).isSome = true := by decide +kernel
  obtain ⟨tr, s, htr, hlabels, -⟩ := Run.Trace.of_isSome hrun
  obtain ⟨htr, hall⟩ := htr.of_guarded
  exact ⟨tr, s, htr, hlabels, one_link htr (fun x hx => (hall x hx).1) fun x hx => (hall x hx).2⟩

/--
The first worker's creation is refused, and it stalls; its lease ends, and the second
worker claims the row and makes the link.  Then the first worker records its refusal.
-/
def refusedRun : List Label := authorizedRun ++ [
  .executor 0 (.prepare 10 40 0),
  .executor 0 (.lookup (.response 200 (some []))),
  .executor 0 .sendCreate,
  .provider (.refuseCreate 0),
  .executor 0 (.createAnswer (.response 400 none)),
  .tick 120000000,
  .executor 1 (.prepare 10 41 120000000),
  .executor 1 (.lookup (.response 200 (some []))),
  .executor 1 .sendCreate,
  .provider (.applyCreate 1 "plink_1"),
  .executor 0 (.finalizeProblem 120000000)]

/-- The row has failed, and the link can be paid. -/
theorem late_refusal_orphans : ∃ tr s, RunTrace 0 tr s ∧ tr.map Run.Step.label = refusedRun ∧
    (∀ x ∈ tr, Assumed x.pre x.label) ∧ ¬ OneLink tr s := by
  have hrun : ((Run.replay (Run.guarded Assumed step) (System.initial 0) refusedRun).map fun s =>
      ((s.db.recoveryActions.get? 40).map fun r => (r.executionStatus, r.externalReference),
        s.provider.links.map fun link => (link.referenceId, link.status)))
      = some (some (.failed, some (referenceOf 40)), [(referenceOf 40, .created)]) := by
    decide +kernel
  obtain ⟨s, hs, hfinal⟩ := Option.map_eq_some_iff.mp hrun
  obtain ⟨tr, htr, hlabels⟩ := Run.Trace.of_replay hs
  obtain ⟨htr, hall⟩ := htr.of_guarded
  refine ⟨tr, s, htr, hlabels, hall, fun hone => ?_⟩
  rw [Prod.mk.injEq] at hfinal
  obtain ⟨hrow, hlinks⟩ := hfinal
  obtain ⟨r, hr, hstatus⟩ := Option.map_eq_some_iff.mp hrow
  rw [Prod.mk.injEq] at hstatus
  obtain ⟨link, hlink, hshows⟩ := List.mem_map.mp
    (show (referenceOf 40, LinkStatus.created) ∈
      s.provider.links.map fun link => (link.referenceId, link.status) by rw [hlinks]; simp)
  rw [Prod.mk.injEq] at hshows
  have hdead := hone.closed r (Store.Table.mem_of_get? hr) (.inl hstatus.1) link hlink
    (by rw [hstatus.2, hshows.1])
  rw [hshows.2] at hdead
  cases hdead

end Arc
