/-
Resolution stamps.

A stamp is only ever put on a closed case, and never changed.  But the services that
close a case by policy, by rejection or by an internal action leave it without one, so
"resolved exactly when closed" holds along a run as long as none of its steps does
that, and fails right after the first that does.
-/
import Arc.Proofs.CaseRows

namespace Arc

open Store

variable [Platform]

/-! ### One step

A step of the services may stamp the row of its case, close it without a stamp, or leave
the stamp alone. A delivery does neither: it moves the case to an open state.
-/

/-- What a step does to the stamp of a row: a delivery moves the case and leaves the stamp. -/
def Resolves (s : System) (l : Label) (c row : PaymentCase) : Prop :=
  Rewrites s l c row ∨ (row.resolvedAt = c.resolvedAt ∧
    (row.currentState ∈ terminalCaseStates ↔ c.currentState ∈ terminalCaseStates))

/-- What any step does to the stamps. -/
theorem step_resolves {s s' : System} {l : Label} (hhints : HintsOk s) (h : step s l = some s') :
    Touches (Resolves s l) s.db s'.db :=
  (step_handles hhints h).mono fun _ _ hrow => hrow.imp_left Works.rewrites

/-! ### Runs

One unstamped closing is enough, since nothing stamps a case that is closed already in
that state. So the equivalence is proved step by step, and the first step that fails the
condition leaves a closed case without a stamp.
-/

/-- Only closed cases carry a stamp. -/
def StampsClosed (db : Db) : Prop :=
  ∀ c ∈ db.cases, c.resolvedAt ≠ none → c.currentState ∈ terminalCaseStates

/-- A case carries a stamp exactly when it is closed. -/
def ResolvedWhenClosed (db : Db) : Prop :=
  ∀ c ∈ db.cases, c.resolvedAt ≠ none ↔ c.currentState ∈ terminalCaseStates

instance decidableResolvedWhenClosed (db : Db) : Decidable (ResolvedWhenClosed db) :=
  inferInstanceAs (Decidable
    (∀ c ∈ db.cases.rows, c.resolvedAt ≠ none ↔ c.currentState ∈ terminalCaseStates))

/-- A row that is stamped is closed. -/
theorem Resolves.closed_of_stamp {s : System} {l : Label} {c row : PaymentCase}
    (h : Resolves s l c row) (hc : c.resolvedAt ≠ none → c.currentState ∈ terminalCaseStates)
    (hrow : row.resolvedAt ≠ none) : row.currentState ∈ terminalCaseStates := by
  rcases h with (hstamps | ⟨-, hunstamped⟩) | ⟨hstamp, hclosed⟩
  · cases hstamps with
    | rests hrest => exact hrest.closed_iff.mpr (hc (hrest.stamp_eq ▸ hrow))
    | stamped hcounters hclosed => exact hclosed
  · exact hunstamped.closed
  · exact hclosed.mpr (hc (hstamp ▸ hrow))

/-- A row that is closed is stamped, unless its transaction closed it without. -/
theorem Resolves.stamp_of_closed {s : System} {l : Label} {c row : PaymentCase}
    (h : Resolves s l c row) (hnot : ¬ ClosesUnstamped s l c)
    (hc : c.currentState ∈ terminalCaseStates → c.resolvedAt ≠ none)
    (hrow : row.currentState ∈ terminalCaseStates) : row.resolvedAt ≠ none := by
  rcases h with (hstamps | ⟨hcloses, -⟩) | ⟨hstamp, hclosed⟩
  · cases hstamps with
    | rests hrest =>
        rw [hrest.stamp_eq]
        exact hc (hrest.closed_iff.mp hrow)
    | stamped hcounters hclosed hstamp => exact hstamp
  · exact absurd hcloses hnot
  · rw [hstamp]
    exact hc (hclosed.mp hrow)

/-- A stamp of a closed case is never changed. -/
theorem Resolves.kept {s : System} {l : Label} {c row : PaymentCase} (h : Resolves s l c row)
    (hc : c.resolvedAt ≠ none → c.currentState ∈ terminalCaseStates) {t : Int}
    (ht : c.resolvedAt = some t) : row.resolvedAt = some t := by
  have hterminal : c.currentState ∈ terminalCaseStates := hc (by simp [ht])
  rcases h with (hstamps | ⟨-, hunstamped⟩) | ⟨hstamp, -⟩
  · cases hstamps with
    | rests hrest => rw [hrest.stamp_eq, ht]
    | stamped hcounters hclosed hstamp hkept => exact hkept hterminal t ht
  · rw [hunstamped.stamp_eq, ht]
  · rw [hstamp, ht]

theorem stampsClosed_step {s s' : System} {l : Label} (hhints : HintsOk s)
    (hok : StampsClosed s.db) (h : step s l = some s') : StampsClosed s'.db := by
  intro c' hc' hstamp
  rcases (step_resolves hhints h).row hc' with ⟨c, hc, -, rfl | hrow⟩ | ⟨-, new, -, hnone, hrow⟩
  · exact hok c' hc hstamp
  · exact hrow.closed_of_stamp (hok c hc) hstamp
  · exact hrow.closed_of_stamp (fun h => absurd hnone h) hstamp

theorem stampsClosed_reachable {clock : Int} {s : System}
    (h : Run.Reachable step (System.initial clock) s) : StampsClosed s.db := by
  have hboth : HintsOk s ∧ StampsClosed s.db := by
    refine h.invariant (I := fun s => HintsOk s ∧ StampsClosed s.db) ⟨?_, ?_⟩
      fun _ _ _ hok hs => ⟨hintsOk_step hok.1 hs, stampsClosed_step hok.1 hok.2 hs⟩
    · intro worker approval decision hphase
      cases hphase
    · intro c hc
      exact absurd hc (Table.not_mem_empty c)
  exact hboth.2

/-- A step that closes no case without a stamp keeps them resolved when closed. -/
theorem resolved_step {s s' : System} {l : Label} (hhints : HintsOk s)
    (hok : ResolvedWhenClosed s.db) (hnot : ∀ c, ¬ ClosesUnstamped s l c)
    (h : step s l = some s') : ResolvedWhenClosed s'.db := by
  intro c' hc'
  refine ⟨stampsClosed_step hhints (fun c hc => (hok c hc).mp) h c' hc', fun hclosed => ?_⟩
  rcases (step_resolves hhints h).row hc' with ⟨c, hc, -, rfl | hrow⟩ | ⟨-, new, hnew, -, hrow⟩
  · exact (hok c' hc).mpr hclosed
  · exact hrow.stamp_of_closed (hnot c) (hok c hc).mpr hclosed
  · refine hrow.stamp_of_closed (hnot new) (fun hterminal => ?_) hclosed
    rw [hnew] at hterminal
    exact absurd hterminal (by decide)

/-- The row an unstamped closing leaves. -/
theorem PaymentCase.Unstamped.unresolved {db db' : Db} {c row : PaymentCase}
    (h : c.Unstamped row) (hok : StampsClosed db) (hc : c ∈ db.cases) (hid : row.id = c.id)
    (hcases : db'.cases = db.cases.put row) : ¬ ResolvedWhenClosed db' := by
  intro hresolved
  have hmem : row ∈ db'.cases := hcases ▸ (Table.mem_put_of_mem hc hid).mpr (.inr rfl)
  have hstamp := (hresolved row hmem).mpr h.closed
  rw [h.stamp_eq] at hstamp
  exact h.opened (hok c hc hstamp)

/-- Where a step closes a case without a stamp, the state it leads to is not in order. -/
theorem ClosesUnstamped.unresolved {s s' : System} {l : Label} {c : PaymentCase}
    (h : ClosesUnstamped s l c) (hok : StampsClosed s.db) (hs : step s l = some s') :
    ¬ ResolvedWhenClosed s'.db := by
  cases h with
  | @blocked caseId newId proposalId c decisions decision hevaluates hblocked =>
      obtain ⟨db', result, w, hevaluated, hw, hcases⟩ := hevaluates.ok
      cases hs
      have hopen : c.currentState ∉ terminalCaseStates := by
        rcases hevaluates.state with h | h <;>
        · rw [h]
          decide
      have hclosed := transitionCase_unstamped hw (policyTarget_terminal.mpr hblocked) hopen
      have hdb : serviceStep s.db s.clock (.evaluatePolicy caseId proposalId newId) = db' := by
        simp only [serviceStep, hevaluated]
      show ¬ ResolvedWhenClosed (serviceStep s.db s.clock (.evaluatePolicy caseId proposalId newId))
      rw [hdb]
      exact hclosed.unresolved hok (Table.mem_of_get? hevaluates.stored)
        (transitionCase_advances hw).id_eq hcases
  | @rejected worker approval decision c hphase hrejects =>
      obtain ⟨db', result, row, hdecided, hid, hclosed, hcases⟩ := hrejects.ok s.clock
      obtain ⟨m, hm, rfl⟩ := Option.map_eq_some_iff.mp hs
      rw [hphase] at hm
      simp only [approverStep, hdecided, Option.some.injEq] at hm
      rw [← hm]
      exact hclosed.unresolved hok (Table.mem_of_get? hrejects.stored) hid hcases
  | @internal worker held now c record hphase hnow haction hcloses =>
      obtain ⟨db', result, row, hexecuted, hid, hclosed, hcases⟩ := hcloses.ok
      obtain ⟨m, hm, rfl⟩ := Option.map_eq_some_iff.mp hs
      rw [hphase] at hm
      simp only [executorStep, if_pos (And.intro hnow haction), hexecuted, Option.some.injEq] at hm
      rw [← hm]
      exact hclosed.unresolved hok (Table.mem_of_get? hcloses.locked.case_eq) hid hcases

/--
**Resolution stamps.**  Along every run a stamp that is set is never changed.  A case is
stamped exactly when it is closed, in every state a run reaches, if and only if no step
of the run closes a case by a blocking decision, by a rejection, or by an internal action.
-/
theorem resolution_stamped_iff {clock : Int} {tr : List (Run.Step System Label)} {s : System}
    (h : RunTrace clock tr s) :
    (∀ x ∈ tr, ∀ c ∈ x.pre.db.cases, ∀ t, c.resolvedAt = some t →
      ∃ c' ∈ x.post.db.cases, c'.id = c.id ∧ c'.resolvedAt = some t) ∧
    ((∀ x ∈ tr, ResolvedWhenClosed x.post.db) ↔
      ∀ x ∈ tr, ∀ c, ¬ ClosesUnstamped x.pre x.label c) := by
  refine ⟨fun x hx c hc t ht => ?_, fun hresolved x hx c hcloses => ?_, fun hnot x hx => ?_⟩
  · have hpre := h.reachable_pre hx
    obtain ⟨c', hc', hid, rfl | hrow⟩ :=
      (step_resolves (hintsOk_reachable hpre) (h.step_of_mem hx)).kept hc
    · exact ⟨c', hc', hid, ht⟩
    · exact ⟨c', hc', hid, hrow.kept (stampsClosed_reachable hpre c hc) ht⟩
  · exact hcloses.unresolved (stampsClosed_reachable (h.reachable_pre hx)) (h.step_of_mem hx)
      (hresolved x hx)
  · -- the invariant holds before the step, since it holds at the start and is kept
    have hkeep : ∀ y ∈ tr, ResolvedWhenClosed y.pre.db →
        step y.pre y.label = some y.post → ResolvedWhenClosed y.post.db :=
      fun y hy hpre hs => resolved_step (hintsOk_reachable (h.reachable_pre hy)) hpre (hnot y hy) hs
    have hinit : ResolvedWhenClosed (System.initial clock).db :=
      fun c hc => absurd hc (Table.not_mem_empty c)
    have hpre : ResolvedWhenClosed x.pre.db :=
      h.invariant_pre (I := fun s => ResolvedWhenClosed s.db) hinit hkeep hx
    exact hkeep x hx hpre (h.step_of_mem hx)

end Arc

/-! ### A case the policy closes -/

namespace Arc

attribute [local instance] asciiPlatform

/-- The merchant allows no action, so the evaluation blocks the case. -/
def blockedRun : List Label :=
  authorizedRun.dropLast ++ [
    .service (.setPolicy { samplePolicy with allowedActions := .arr [] }),
    .service (.evaluatePolicy 10 none 30)]

/-- The case is closed, and has no stamp. -/
theorem blocked_unstamped : ∃ tr s c, RunTrace 0 tr s ∧ tr.map Run.Step.label = blockedRun ∧
    c ∈ s.db.cases ∧ c.currentState = .escalated ∧ c.resolvedAt = none := by
  have hrun : ((Run.replay step (System.initial 0) blockedRun).bind fun s =>
      s.db.cases.get? 10).map (fun c => (c.currentState, c.resolvedAt)) =
      some (.escalated, none) := by decide +kernel
  obtain ⟨c, hc, hrow⟩ := Option.map_eq_some_iff.mp hrun
  obtain ⟨s, hs, hc⟩ := Option.bind_eq_some_iff.mp hc
  obtain ⟨tr, htr, hlabels⟩ := Run.Trace.of_replay hs
  rw [Prod.mk.injEq] at hrow
  exact ⟨tr, s, c, htr, hlabels, Store.Table.mem_of_get? hc, hrow⟩

theorem resolution_stamped_iff_recovered : ∃ tr s, RunTrace 0 tr s ∧
    tr.map Run.Step.label = recoveredRun ∧ (∀ x ∈ tr, ResolvedWhenClosed x.post.db) ∧
      ∀ x ∈ tr, ∀ c, ¬ ClosesUnstamped x.pre x.label c := by
  have hrun : (Run.replay step (System.initial 0) recoveredRun).isSome = true := by decide +kernel
  have hresolved : ∀ x ∈ Run.steps step (System.initial 0) recoveredRun,
      ResolvedWhenClosed x.post.db := by decide +kernel
  obtain ⟨s, hs⟩ := Option.isSome_iff_exists.mp hrun
  obtain ⟨htr, hlabels⟩ := Run.Trace.of_steps hs
  exact ⟨_, s, htr, hlabels, hresolved, (resolution_stamped_iff htr).2.mp hresolved⟩

end Arc
