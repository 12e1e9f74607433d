/-
The proposals of a case.

A generation commits a proposal only while its snapshot is current on the locked case.
The proposal it adds is the one that is not superseded, the one that was is superseded
with it, and no other row changes.  Any other generation leaves the proposals and the
cases as they were.
-/
import Arc.Proofs.Authority

namespace Arc

open Store

variable [Platform]

/-! ### One replacement

A new proposal supersedes the current one in the transaction that inserts it.
Superseding writes the end of a proposal and nothing else, which
`StrategyProposal.after` says of every row at once.
-/

/-- The proposals with the current one superseded, before the new one is inserted. -/
def supersedeCurrent (proposals : Table StrategyProposal) (current : Option StrategyProposal)
    (at' : Int) : Table StrategyProposal :=
  match current with
  | some current => proposals.put (current.superseded at')
  | none => proposals

/-- What superseding the current proposal makes of a row. -/
def StrategyProposal.after (current : Option StrategyProposal) (at' : Int) (p : StrategyProposal) :
    StrategyProposal :=
  if current.any fun c => c.id == p.id then p.superseded at' else p

/-- A proposal up to its end. -/
def StrategyProposal.reopened (p : StrategyProposal) : StrategyProposal :=
  { p with supersededAt := none }

@[simp] theorem StrategyProposal.after_id (current : Option StrategyProposal) (at' : Int)
    (p : StrategyProposal) : (p.after current at').id = p.id := by
  unfold StrategyProposal.after
  split <;> rfl

@[simp] theorem StrategyProposal.after_reopened (current : Option StrategyProposal) (at' : Int)
    (p : StrategyProposal) : (p.after current at').reopened = p.reopened := by
  unfold StrategyProposal.after
  split <;> rfl

@[simp] theorem StrategyProposal.after_caseId (current : Option StrategyProposal) (at' : Int)
    (p : StrategyProposal) : (p.after current at').caseId = p.caseId := by
  unfold StrategyProposal.after
  split <;> rfl

@[simp] theorem StrategyProposal.after_strategyInputFingerprint (current : Option StrategyProposal)
    (at' : Int) (p : StrategyProposal) :
    (p.after current at').strategyInputFingerprint = p.strategyInputFingerprint := by
  unfold StrategyProposal.after
  split <;> rfl

theorem StrategyProposal.after_open {current : Option StrategyProposal} {at' : Int}
    {p : StrategyProposal} (h : (p.after current at').supersededAt = none) :
    p.after current at' = p ∧ ∀ c ∈ current, c.id ≠ p.id := by
  unfold StrategyProposal.after at h ⊢
  split at h
  · cases h
  · rename_i hany
    rw [if_neg hany]
    refine ⟨rfl, fun c hc hid => hany ?_⟩
    rw [Option.mem_def.mp hc]
    simpa using hid

theorem mem_supersedeCurrent {proposals : Table StrategyProposal}
    {current : Option StrategyProposal} {at' : Int} (hcurrent : ∀ c ∈ current, c ∈ proposals)
    {x : StrategyProposal} : x ∈ supersedeCurrent proposals current at' ↔
      ∃ y ∈ proposals, x = y.after current at' := by
  cases current with
  | none => simp [supersedeCurrent, StrategyProposal.after]
  | some c =>
      have hmem := hcurrent c rfl
      have hid : (c.superseded at').id = c.id := rfl
      refine (Table.mem_put_of_mem hmem hid).trans ⟨?_, ?_⟩
      · rintro (⟨hx, hne⟩ | rfl)
        · refine ⟨x, hx, ?_⟩
          have hother : c.id ≠ x.id := fun h => hne (h.symm.trans hid.symm)
          simp [StrategyProposal.after, hother]
        · exact ⟨c, hmem, by simp [StrategyProposal.after]⟩
      · rintro ⟨y, hy, rfl⟩
        by_cases hkey : c.id = y.id
        · obtain rfl : c = y := Table.eq_of_key_eq hmem hy hkey
          exact .inr (by simp [StrategyProposal.after])
        · have hafter : y.after (some c) at' = y := by simp [StrategyProposal.after, hkey]
          rw [hafter]
          exact .inl ⟨hy, fun h => hkey (h.trans hid).symm⟩

/-- The new proposal can be added: it is the only open one, and none is identical. -/
def Addable (proposals : Table StrategyProposal) (current : Option StrategyProposal)
    (new : StrategyProposal) (at' : Int) : Prop :=
  ∀ y ∈ proposals, y.caseId = new.caseId →
    (y.after current at').supersededAt ≠ none ∧
      y.strategyInputFingerprint ≠ new.strategyInputFingerprint

/-- What the constraints on the case refuse. -/
def clashes (new p : StrategyProposal) : Bool :=
  p.caseId == new.caseId &&
    (p.supersededAt.isNone || p.strategyInputFingerprint == new.strategyInputFingerprint)

theorem any_clashes_eq_false {proposals : Table StrategyProposal}
    {current : Option StrategyProposal} {new : StrategyProposal} {at' : Int}
    (hcurrent : ∀ c ∈ current, c ∈ proposals) :
    (supersedeCurrent proposals current at').any (clashes new) = false ↔
      Addable proposals current new at' := by
  rw [Table.any_eq_false]
  constructor
  · intro h y hy hcase
    have hnot := h _ ((mem_supersedeCurrent hcurrent).mpr ⟨y, hy, rfl⟩)
    simp only [clashes, StrategyProposal.after_caseId, hcase, beq_self_eq_true, Bool.true_and,
      Bool.or_eq_false_iff, StrategyProposal.after_strategyInputFingerprint,
      beq_eq_false_iff_ne] at hnot
    refine ⟨fun hopen => ?_, hnot.2⟩
    rw [hopen] at hnot
    cases hnot.1
  · intro h x hx
    obtain ⟨y, hy, rfl⟩ := (mem_supersedeCurrent hcurrent).mp hx
    by_cases hcase : y.caseId = new.caseId
    · obtain ⟨hclosed, hother⟩ := h y hy hcase
      obtain ⟨t, ht⟩ := Option.ne_none_iff_exists'.mp hclosed
      simp [clashes, hcase, ht, hother]
    · simp [clashes, hcase]

theorem replaceProposal_eq_ok {proposals proposals' : Table StrategyProposal}
    {current : Option StrategyProposal} {new : StrategyProposal} {at' : Int}
    (hcurrent : ∀ c ∈ current, c ∈ proposals) :
    replaceProposal proposals current new at' = .ok proposals' ↔
      Addable proposals current new at' ∧
        (supersedeCurrent proposals current at').insert? new = some proposals' := by
  have hdef : replaceProposal proposals current new at' =
      if (supersedeCurrent proposals current at').any (clashes new) then .error .integrity
      else requireSome ((supersedeCurrent proposals current at').insert? new) .integrity := rfl
  rw [hdef, ← any_clashes_eq_false hcurrent]
  cases (supersedeCurrent proposals current at').any (clashes new) with
  | true => simp
  | false => simp [requireSome_eq_ok]

/-! ### At most one open proposal -/

/-- No two proposals of one case are unsuperseded. -/
def OneOpen (proposals : Table StrategyProposal) : Prop :=
  ∀ p ∈ proposals, ∀ p' ∈ proposals, p.caseId = p'.caseId → p.supersededAt = none →
    p'.supersededAt = none → p = p'

/-- The current proposal of a case is the one that is not superseded. -/
theorem OneOpen.currentProposal {db : Db} (h : OneOpen db.strategyProposals) {p : StrategyProposal}
    (hp : p ∈ db.strategyProposals) (hopen : p.supersededAt = none) :
    db.currentProposal p.caseId = some p := by
  refine Table.first?_eq_some_of_unique hp (by simp [hopen]) fun p' hp' hcond => ?_
  simp only [Bool.and_eq_true, beq_iff_eq, Option.isNone_iff_eq_none] at hcond
  exact h p' hp' p hp hcond.1 hcond.2 hopen

theorem currentProposal_mem {db : Db} {caseId : Uuid} :
    ∀ p ∈ db.currentProposal caseId, p ∈ db.strategyProposals :=
  fun _ hp => (currentProposal_eq_some hp).1

/-! ### One generation

The answer of the model is compared with the case under its lock. What passes is
`Acceptable`: the snapshot is current and the answer fits. Everything else leaves the
proposals as they were.
-/

/-- A proposal may be committed: the snapshot is current and its answer fits the case. -/
structure Acceptable (db : Db) (c : PaymentCase) (snapshot : StrategySnapshot)
    (modelResult : Option StrategyModelResult) (action : RecoveryAction) (now : Int) : Prop where
  stored : db.cases.get? snapshot.caseId = some c
  current : snapshotIsCurrent c snapshot now = true
  new : findIdenticalProposal db snapshot.caseId snapshot.strategyInputFingerprint = none
  allowed : generationStateAllowed db c = true
  proposed : proposedAction snapshot modelResult = some action
  compatible : isActionCompatible snapshot.context.recoveryDisposition action = true

/-- What a generation leaves, and what it answers. -/
inductive Persisted (db : Db) (snapshot : StrategySnapshot)
    (modelResult : Option StrategyModelResult) (newId : Uuid) (now : Int) :
    Db → Except Error StrategyGenerationResult → Prop
  /-- An entry is committed, and the call raises. -/
  | discarded {c : PaymentCase} {entry : CaseEvent} {e : Error}
      (hc : db.cases.get? snapshot.caseId = some c) :
      Persisted db snapshot modelResult newId now (db.commitCase ((CaseWork.lock c).audit entry))
        (.error e)
  | identical {c : PaymentCase} {existing : StrategyProposal}
      (hc : db.cases.get? snapshot.caseId = some c)
      (hcurrent : snapshotIsCurrent c snapshot now = true)
      (hexisting : findIdenticalProposal db snapshot.caseId snapshot.strategyInputFingerprint =
        some existing) :
      Persisted db snapshot modelResult newId now db
        (.ok (strategyResult existing c.currentState true))
  | accepted {c : PaymentCase} {action : RecoveryAction} {proposals : Table StrategyProposal}
      {w : CaseWork} (hok : Acceptable db c snapshot modelResult action now)
      (hreplace : replaceProposal db.strategyProposals (db.currentProposal c.id)
        (buildProposal snapshot action modelResult newId) now = .ok proposals)
      (hw : Advances (.lock c) w) (hstate : w.row.currentState = .decisioned) :
      Persisted db snapshot modelResult newId now
        (({ db with strategyProposals := proposals }).commitCase w)
        (.ok (strategyResult (buildProposal snapshot action modelResult newId)
          w.row.currentState false))

theorem generationStateAllowed_state {db : Db} {c : PaymentCase}
    (h : generationStateAllowed db c = true) :
    c.currentState = .diagnosed ∨ c.currentState = .decisioned ∧ ∀ p ∈ db.currentProposal c.id,
      c.assessmentFingerprint ≠ some p.assessmentFingerprint := by
  simp only [generationStateAllowed, Bool.or_eq_true, Bool.and_eq_true, beq_iff_eq] at h
  refine h.imp_right fun h => ⟨h.1, fun p hp heq => ?_⟩
  have hany := h.2
  rw [Option.mem_def.mp hp, heq] at hany
  simp at hany

theorem moveDiagnosedCaseToDecisioned_state {w w' : CaseWork}
    (h : moveDiagnosedCaseToDecisioned w = .ok w')
    (hstate : w.row.currentState = .diagnosed ∨ w.row.currentState = .decisioned) :
    w'.row.currentState = .decisioned := by
  unfold moveDiagnosedCaseToDecisioned at h
  split at h
  · rw [transitionCase_row h]
  · rename_i hnot
    cases h
    exact hstate.resolve_left hnot

/-- **What the second transaction of a generation does.** -/
theorem persistLocked_persisted {db db' : Db} {snapshot : StrategySnapshot}
    {modelResult : Option StrategyModelResult} {newId : Uuid} {now : Int}
    {outcome : Except Error StrategyGenerationResult}
    (h : persistLocked db snapshot modelResult newId now now = .ok (db', outcome)) :
    Persisted db snapshot modelResult newId now db' outcome := by
  obtain ⟨c, hc, h⟩ := bind_eq_ok.mp h
  rw [lockStrategyCase_eq_ok] at hc
  split at h
  · cases h
    exact .discarded hc
  rename_i hcurrent
  rw [Bool.not_eq_false] at hcurrent
  split at h
  · rename_i existing hexisting
    cases h
    exact .identical hc hcurrent hexisting
  rename_i hnew
  obtain ⟨_, hallowed, h⟩ := bind_eq_ok.mp h
  have hallowed := require_eq_ok.mp hallowed
  obtain ⟨action, haction, h⟩ := bind_eq_ok.mp h
  split at h
  · cases h
    exact .discarded hc
  rename_i hcompatible
  rw [Bool.not_eq_false] at hcompatible
  obtain ⟨⟨db₁, result⟩, haccept, h⟩ := bind_eq_ok.mp h
  cases h
  obtain ⟨proposals, hreplace, haccept⟩ := bind_eq_ok.mp haccept
  obtain ⟨w, hmove, haccept⟩ := bind_eq_ok.mp haccept
  cases haccept
  have hstate := (generationStateAllowed_state hallowed).imp_right And.left
  have hdecisioned := moveDiagnosedCaseToDecisioned_state hmove hstate
  exact .accepted ⟨hc, hcurrent, hnew, hallowed, requireSome_eq_ok.mp haction, hcompatible⟩ hreplace
    ((moveDiagnosedCaseToDecisioned_advances hmove).trans (appendGenerated_advances _ _ _))
    hdecisioned

/-! ### One step -/

/-- The step of a generation that persists what it was answered. -/
structure PersistStep (x : Run.Step System Label) (worker : Nat) (snapshot : StrategySnapshot)
    (modelResult : Option StrategyModelResult) (newId : Uuid) : Prop where
  label : x.label = .strategist worker (.persist newId)
  phase : x.pre.strategists worker = .answered snapshot modelResult

/-- A persist step raises and changes nothing, or does what the transaction does. -/
theorem PersistStep.persisted {x : Run.Step System Label} {worker : Nat}
    {snapshot : StrategySnapshot} {modelResult : Option StrategyModelResult} {newId : Uuid}
    (hx : PersistStep x worker snapshot modelResult newId)
    (h : step x.pre x.label = some x.post) :
    x.post.db = x.pre.db ∨ ∃ outcome,
      persistLocked x.pre.db snapshot modelResult newId x.pre.clock x.pre.clock =
        .ok (x.post.db, outcome) ∧
      Persisted x.pre.db snapshot modelResult newId x.pre.clock x.post.db outcome := by
  rw [hx.label] at h
  obtain ⟨m, hm, hpost⟩ := Option.map_eq_some_iff.mp h
  rw [← hpost]
  rw [hx.phase] at hm
  simp only [strategistStep] at hm
  split at hm
  · rename_i db outcome hpersist
    cases hm
    exact .inr ⟨outcome, hpersist, persistLocked_persisted hpersist⟩
  · cases hm
    exact .inl rfl
  · cases hm
    exact .inl rfl

/-- Proposals are written by accepted generations only. -/
theorem step_proposals {s s' : System} {l : Label} (hhints : HintsOk s) (h : step s l = some s') :
    s'.db.strategyProposals = s.db.strategyProposals ∨
    ∃ worker snapshot modelResult newId,
      PersistStep ⟨s, l, s'⟩ worker snapshot modelResult newId := by
  have hcommit := step_commit hhints h
  generalize hdb : s'.db = db' at hcommit ⊢
  cases hcommit with
  | executed hmoved =>
      rw [hmoved.frame]
      exact .inl rfl
  | reconciled hphase howns hstatus hresult =>
      rw [reconcileEntity_frame hresult]
      exact .inl rfl
  | proposed hphase => exact .inr ⟨_, _, _, _, rfl, hphase⟩
  | _ => exact .inl rfl

/-- A generation writes the end of the current proposal, and no other column. -/
theorem Persisted.kept {db db' : Db} {snapshot : StrategySnapshot}
    {modelResult : Option StrategyModelResult} {newId : Uuid} {now : Int}
    {outcome : Except Error StrategyGenerationResult}
    (h : Persisted db snapshot modelResult newId now db' outcome) {p : StrategyProposal}
    (hp : p ∈ db.strategyProposals) : ∃ p' ∈ db'.strategyProposals, p'.reopened = p.reopened := by
  cases h with
  | discarded hc => exact ⟨p, hp, rfl⟩
  | identical hc hcurrent hexisting => exact ⟨p, hp, rfl⟩
  | @accepted c action proposals w hok hreplace hw hstate =>
      obtain ⟨-, hinsert⟩ := (replaceProposal_eq_ok currentProposal_mem).mp hreplace
      refine ⟨p.after (db.currentProposal c.id) now, ?_, p.after_reopened _ _⟩
      exact (Table.insert?_mem hinsert).mpr
        (.inl ((mem_supersedeCurrent currentProposal_mem).mpr ⟨p, hp, rfl⟩))

theorem step_proposal_kept {s s' : System} {l : Label} (hhints : HintsOk s)
    (h : step s l = some s') {p : StrategyProposal} (hp : p ∈ s.db.strategyProposals) :
    ∃ p' ∈ s'.db.strategyProposals, p'.reopened = p.reopened := by
  rcases step_proposals hhints h with hsame | ⟨worker, snapshot, modelResult, newId, hpersist⟩
  · exact ⟨p, hsame ▸ hp, rfl⟩
  · rcases hpersist.persisted h with hdb | ⟨outcome, -, hpersisted⟩
    · replace hdb : s'.db = s.db := hdb
      exact ⟨p, hdb ▸ hp, rfl⟩
    · exact hpersisted.kept hp

/-- **A proposal is never deleted, and nothing but its end is ever written.** -/
theorem proposal_kept {s s' : System} {tr : List (Run.Step System Label)} (hhints : HintsOk s)
    (h : Run.Trace step s tr s') {p : StrategyProposal} (hp : p ∈ s.db.strategyProposals) :
    ∃ p' ∈ s'.db.strategyProposals, p'.reopened = p.reopened := by
  have hboth : HintsOk s' ∧ ∃ p' ∈ s'.db.strategyProposals, p'.reopened = p.reopened := by
    refine h.invariant (I := fun s => HintsOk s ∧
      ∃ p' ∈ s.db.strategyProposals, p'.reopened = p.reopened) ⟨hhints, p, hp, rfl⟩ ?_
    rintro x - ⟨hhints, p', hp', hsame⟩ hx
    obtain ⟨p'', hp'', hsame'⟩ := step_proposal_kept hhints hx hp'
    exact ⟨hintsOk_step hhints hx, p'', hp'', hsame'.trans hsame⟩
  exact hboth.2

end Arc
