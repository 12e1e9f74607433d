/-
Strategy generation along a run.

The model is called between two transactions, and the case can change meanwhile.  What
fences the second transaction is the context recomputed from the locked case: a
proposal is committed only when it is the one the snapshot was taken from.

A generation that finds an identical proposal answers with that one.  It is the
current one: a proposal is superseded only when the fingerprint of the case has become
another, which it does by a new reading of the provider, and readings never come back.
-/
import Arc.Proofs.Fingerprints
import Arc.Proofs.Proposals

namespace Arc

open Store

variable [Platform]

/-! ### What a context has passed -/

/-- What holds of a case that a context is built from. -/
structure Considered (c : PaymentCase) (context : StrategyContext) (now : Int) : Prop where
  eligible : (assessEligibility c now).decision = .eligible
  assessment : c.assessmentFingerprint = some (buildAssessmentFingerprint c)
  disposition : c.recoveryDisposition = some context.recoveryDisposition

theorem validateStrategyContext_eq_ok {c : PaymentCase} {now : Int} {context : StrategyContext}
    (h : validateStrategyContext c now = .ok context) : Considered c context now := by
  obtain ⟨_, heligible, h⟩ := bind_eq_ok.mp h
  obtain ⟨_, hassessment, h⟩ := bind_eq_ok.mp h
  obtain ⟨_, -, h⟩ := bind_eq_ok.mp h
  obtain ⟨category, -, h⟩ := bind_eq_ok.mp h
  obtain ⟨disposition, hdisposition, h⟩ := bind_eq_ok.mp h
  obtain ⟨reason, -, h⟩ := bind_eq_ok.mp h
  obtain ⟨_, -, h⟩ := bind_eq_ok.mp h
  cases h
  refine ⟨require_eq_ok.mp heligible, ?_, requireSome_eq_ok.mp hdisposition⟩
  have hcurrent := require_eq_ok.mp hassessment
  simp only [PaymentCase.assessmentIsCurrent, Bool.and_eq_true, beq_iff_eq] at hcurrent
  exact hcurrent.1.1.1.1.1.2

/-- A snapshot is current when the locked case gives its context and its fingerprints. -/
theorem snapshotIsCurrent_eq_true {c : PaymentCase} {snapshot : StrategySnapshot} {now : Int} :
    snapshotIsCurrent c snapshot now = true ↔
      validateStrategyContext c now = .ok snapshot.context ∧
        c.assessmentFingerprint = some snapshot.assessmentFingerprint ∧
        snapshot.strategyInputFingerprint = buildStrategyInputFingerprint
          snapshot.assessmentFingerprint snapshot.context snapshot.configuredModel := by
  unfold snapshotIsCurrent
  constructor
  · intro h
    split at h
    · rename_i context assessment hcontext hassessment
      simp only [Bool.and_eq_true, beq_iff_eq] at h
      obtain ⟨⟨rfl, rfl⟩, hinput⟩ := h
      exact ⟨hcontext, hassessment, hinput.symm⟩
    · cases h
  · rintro ⟨hcontext, hassessment, hinput⟩
    simp [hcontext, hassessment, hinput]

/-! ### What a committed proposal rests on

A proposal is committed on a case that still gives the snapshot it was asked with. So
what the snapshot had passed still holds of the case, and the new proposal is grounded
in the state of its own step, whatever happened while the model was called.
-/

/--
The step committed the proposal, under the lock of the case `c`: the context and the
fingerprints it was built from are those of the locked case.
-/
structure Grounded (x : Run.Step System Label) (p : StrategyProposal) (c : PaymentCase)
    (snapshot : StrategySnapshot) : Prop where
  worker : ∃ worker modelResult, PersistStep x worker snapshot modelResult p.id ∧
    p = buildProposal snapshot p.action modelResult p.id
  stored : x.pre.db.cases.get? p.caseId = some c
  context : validateStrategyContext c x.pre.clock = .ok snapshot.context
  assessment : c.assessmentFingerprint = some p.assessmentFingerprint
  recomputed : p.assessmentFingerprint = (assessEligibility c x.pre.clock).assessmentFingerprint
  input : p.strategyInputFingerprint = buildStrategyInputFingerprint
    (assessEligibility c x.pre.clock).assessmentFingerprint snapshot.context
    snapshot.configuredModel
  eligible : (assessEligibility c x.pre.clock).decision = .eligible
  allowed : generationStateAllowed x.pre.db c = true
  compatible : ∃ disposition, c.recoveryDisposition = some disposition ∧
    isActionCompatible disposition p.action = true

theorem Acceptable.grounded {x : Run.Step System Label} {worker : Nat} {c : PaymentCase}
    {snapshot : StrategySnapshot} {modelResult : Option StrategyModelResult}
    {action : RecoveryAction} {newId : Uuid}
    (hx : PersistStep x worker snapshot modelResult newId)
    (hok : Acceptable x.pre.db c snapshot modelResult action x.pre.clock) :
    Grounded x (buildProposal snapshot action modelResult newId) c snapshot := by
  obtain ⟨hcontext, hassessment, hinput⟩ := snapshotIsCurrent_eq_true.mp hok.current
  have hconsidered := validateStrategyContext_eq_ok hcontext
  have hrecomputed : snapshot.assessmentFingerprint = buildAssessmentFingerprint c :=
    Option.some.inj (hassessment.symm.trans hconsidered.assessment)
  exact
    { worker := ⟨worker, modelResult, hx, rfl⟩
      stored := hok.stored
      context := hcontext
      assessment := hassessment
      recomputed := hrecomputed
      input := by
        show snapshot.strategyInputFingerprint =
          buildStrategyInputFingerprint (buildAssessmentFingerprint c) _ _
        rw [← hrecomputed]
        exact hinput
      eligible := hconsidered.eligible
      allowed := hok.allowed
      compatible := ⟨_, hconsidered.disposition, hok.compatible⟩ }

/-- A proposal that a step has added was grounded in that step. -/
theorem step_grounded {s s' : System} {l : Label} (hhints : HintsOk s) (h : step s l = some s')
    {p : StrategyProposal} (hp : p ∈ s'.db.strategyProposals)
    (hnew : ∀ q ∈ s.db.strategyProposals, q.id ≠ p.id) :
    ∃ c snapshot, Grounded ⟨s, l, s'⟩ p c snapshot := by
  rcases step_proposals hhints h with hsame | ⟨worker, snapshot, modelResult, newId, hpersist⟩
  · exact absurd rfl (hnew p (hsame ▸ hp))
  · rcases hpersist.persisted h with hdb | ⟨outcome, -, hpersisted⟩
    · replace hdb : s'.db = s.db := hdb
      exact absurd rfl (hnew p (hdb ▸ hp))
    · replace hpersisted : Persisted s.db snapshot modelResult newId s.clock s'.db outcome :=
        hpersisted
      generalize s'.db = db' at hp hpersisted
      cases hpersisted with
      | discarded hc => exact absurd rfl (hnew p hp)
      | identical hc hcurrent hexisting => exact absurd rfl (hnew p hp)
      | @accepted c action proposals w hok hreplace hw hstate =>
          obtain ⟨-, hinsert⟩ := (replaceProposal_eq_ok currentProposal_mem).mp hreplace
          rcases (Table.insert?_mem hinsert).mp hp with hp | rfl
          · obtain ⟨y, hy, rfl⟩ := (mem_supersedeCurrent currentProposal_mem).mp hp
            exact absurd (y.after_id _ _).symm (hnew y hy)
          · exact ⟨c, snapshot, hok.grounded hpersist⟩

/-- The answer of a generation cannot be taken: it came too late, or does not fit the case. -/
def Unusable (c : PaymentCase) (snapshot : StrategySnapshot)
    (modelResult : Option StrategyModelResult) (now : Int) : Prop :=
  snapshotIsCurrent c snapshot now = false ∨
    ∃ disposition action, c.recoveryDisposition = some disposition ∧
      proposedAction snapshot modelResult = some action ∧
      isActionCompatible disposition action = false

/-- An answer that cannot be taken leaves the proposals and the cases as they were. -/
theorem PersistStep.unusable {x : Run.Step System Label} {worker : Nat}
    {snapshot : StrategySnapshot} {modelResult : Option StrategyModelResult} {newId : Uuid}
    (hx : PersistStep x worker snapshot modelResult newId) (h : step x.pre x.label = some x.post)
    {c : PaymentCase} (hc : x.pre.db.cases.get? snapshot.caseId = some c)
    (hunusable : Unusable c snapshot modelResult x.pre.clock) :
    x.post.db.strategyProposals = x.pre.db.strategyProposals ∧
      x.post.db.cases = x.pre.db.cases := by
  rcases hx.persisted h with hdb | ⟨outcome, -, hpersisted⟩
  · rw [hdb]
    exact ⟨rfl, rfl⟩
  · generalize x.post.db = db' at hpersisted
    cases hpersisted with
    | discarded hc => exact ⟨rfl, Table.put_of_mem (Table.mem_of_get? hc)⟩
    | identical hc hcurrent hexisting => exact ⟨rfl, rfl⟩
    | accepted hok hreplace hw hstate =>
        have hstored := hok.stored
        rw [hc, Option.some.injEq] at hstored
        subst hstored
        rcases hunusable with hstale | ⟨disposition, action, hdisposition, hproposed, hincompatible⟩
        · rw [hok.current] at hstale
          cases hstale
        · obtain ⟨hcontext, -, -⟩ := snapshotIsCurrent_eq_true.mp hok.current
          rw [(validateStrategyContext_eq_ok hcontext).disposition, Option.some.injEq] at hdisposition
          rw [hok.proposed, Option.some.injEq] at hproposed
          rw [← hdisposition, ← hproposed, hok.compatible] at hincompatible
          cases hincompatible

/-! ### Readings

The fingerprint of a case contains the instant it was last reconciled at. Where every
reconciliation writes an instant of its own, a fingerprint that was left does not come
back, and equal fingerprints mean that the case was not read again in between.
-/

/-- A report on a case writes the instant of the report into it. -/
theorem Reported.reading {reference : CaseReference} {upd : PaymentCase → PaymentCase}
    {db db' : Db} {now : Int} (hupd : ∀ c, (upd c).lastReconciledAt = some now)
    (h : Reported reference upd db db') {c' : PaymentCase} (hc' : c' ∈ db'.cases) :
    c' ∈ db.cases ∨ c'.lastReconciledAt = some now := by
  have hread : ∀ {c : PaymentCase} {w : CaseWork}, w.row.truth = (upd c).truth →
      w.row.lastReconciledAt = some now := fun htruth =>
    (congrArg CaseTruth.lastReconciledAt htruth).trans (hupd _)
  cases h with
  | ignored hnone hdb => exact .inl (hdb ▸ hc')
  | worked hc href hw htruth hdb =>
      rw [hdb] at hc'
      rcases (Table.mem_put_of_mem hc hw.id_eq).mp hc' with ⟨hc', -⟩ | rfl
      · exact .inl hc'
      · exact .inr (hread htruth)
  | @created row cases w hinsert hnone href hstate hw htruth hdb =>
      rw [hdb] at hc'
      have hrow : row ∈ cases := (Table.insert?_mem hinsert).mpr (.inr rfl)
      rcases (Table.mem_put_of_mem hrow hw.id_eq).mp hc' with ⟨hc', hne⟩ | rfl
      · rcases (Table.insert?_mem hinsert).mp hc' with hc' | rfl
        · exact .inl hc'
        · exact absurd hw.id_eq.symm hne
      · exact .inr (hread htruth)

theorem reconcileEntity_reading {db : Db} {event : WebhookEvent} {snapshot : EntitySnapshot}
    {fresh : Fresh} {now : Int} {result : ReconciliationResult}
    (h : reconcileEntity db event snapshot fresh now = .ok result) {c' : PaymentCase}
    (hc' : c' ∈ result.db.cases) : c' ∈ db.cases ∨ c'.lastReconciledAt = some now := by
  cases snapshot with
  | inl payment =>
      obtain ⟨-, reference, -, hreported⟩ := reconcilePayment_eq_ok h
      exact hreported.reading (fun _ => rfl) hc'
  | inr subscription =>
      obtain ⟨-, reference, -, hreported⟩ := reconcileSubscription_eq_ok h
      exact hreported.reading (fun _ => rfl) hc'

/-- What a case shows was there before, or was reported in the step. -/
theorem step_reading {s s' : System} {l : Label} (hhints : HintsOk s) (hheld : HeldOk s)
    (h : step s l = some s') {c' : PaymentCase} (hc' : c' ∈ s'.db.cases) :
    (∃ c ∈ s.db.cases, c'.id = c.id ∧ c'.truth = c.truth) ∨
      (∃ worker fresh, l = .processor worker (.apply fresh)) ∧
        c'.lastReconciledAt = some s.clock := by
  have hcommit := step_commit hhints h
  rcases hcommit.caseWorked hheld with ⟨worker, fresh, rfl⟩ | hworked
  · generalize s'.db = db' at hcommit hc'
    cases hcommit with
    | reconciled hphase howns hstatus hresult =>
        rcases reconcileEntity_reading hresult hc' with hold | hnow
        · exact .inl ⟨c', hold, rfl, rfl⟩
        · exact .inr ⟨⟨worker, fresh, rfl⟩, hnow⟩
    | same => exact .inl ⟨c', hc', rfl, rfl⟩
    | worked hlabel => rcases hlabel with ⟨_, hl⟩ | ⟨_, _, hl⟩ <;> cases hl
    | observed hworker => rcases hworker with ⟨_, _, hl⟩ | ⟨_, _, _, hl⟩ <;> cases hl
  · obtain ⟨c, hc, hid, -, htruth⟩ := hworked.truth hc'
    exact .inl ⟨c, hc, hid, htruth⟩

/-- Each reconciliation of a case writes another `last_reconciled_at` than the case has. -/
def DistinctReadings (tr : List (Run.Step System Label)) : Prop :=
  ∀ x ∈ tr, (∃ worker fresh, x.label = .processor worker (.apply fresh)) →
    ∀ c ∈ x.pre.db.cases, ∀ c' ∈ x.post.db.cases, c'.id = c.id → c' ≠ c →
      c'.lastReconciledAt ≠ c.lastReconciledAt

/-! ### At most one open proposal -/

theorem Persisted.one {db db' : Db} {snapshot : StrategySnapshot}
    {modelResult : Option StrategyModelResult} {newId : Uuid} {now : Int}
    {outcome : Except Error StrategyGenerationResult}
    (h : Persisted db snapshot modelResult newId now db' outcome)
    (hone : OneOpen db.strategyProposals) : OneOpen db'.strategyProposals := by
  cases h with
  | discarded hc => exact hone
  | identical hc hcurrent hexisting => exact hone
  | @accepted c action proposals w hok hreplace hw hstate =>
      obtain ⟨haddable, hinsert⟩ := (replaceProposal_eq_ok currentProposal_mem).mp hreplace
      have hrows : ∀ x ∈ proposals, x = buildProposal snapshot action modelResult newId ∨
          ∃ y ∈ db.strategyProposals, x = y.after (db.currentProposal c.id) now := by
        intro x hx
        rcases (Table.insert?_mem hinsert).mp hx with hx | rfl
        · exact .inr ((mem_supersedeCurrent currentProposal_mem).mp hx)
        · exact .inl rfl
      -- every other proposal of the case is superseded by now
      have hclosed : ∀ y ∈ db.strategyProposals, y.caseId = snapshot.caseId →
          (y.after (db.currentProposal c.id) now).supersededAt ≠ none :=
        fun y hy hcase => (haddable y hy hcase).1
      intro x hx x' hx' hcase hopen hopen'
      rcases hrows x hx with rfl | ⟨y, hy, rfl⟩ <;> rcases hrows x' hx' with rfl | ⟨y', hy', rfl⟩
      · rfl
      · rw [StrategyProposal.after_caseId] at hcase
        exact absurd hopen' (hclosed y' hy' hcase.symm)
      · rw [StrategyProposal.after_caseId] at hcase
        exact absurd hopen (hclosed y hy hcase)
      · obtain ⟨hsame, -⟩ := StrategyProposal.after_open hopen
        obtain ⟨hsame', -⟩ := StrategyProposal.after_open hopen'
        rw [hsame] at hcase hopen ⊢
        rw [hsame'] at hcase hopen' ⊢
        exact hone y hy y' hy' hcase hopen hopen'

theorem step_oneOpen {s s' : System} {l : Label} (hhints : HintsOk s) (h : step s l = some s')
    (hone : OneOpen s.db.strategyProposals) : OneOpen s'.db.strategyProposals := by
  rcases step_proposals hhints h with hsame | ⟨worker, snapshot, modelResult, newId, hpersist⟩
  · rwa [hsame]
  · rcases hpersist.persisted h with hdb | ⟨outcome, -, hpersisted⟩
    · replace hdb : s'.db = s.db := hdb
      rwa [hdb]
    · exact hpersisted.one hone

theorem oneOpen_reachable {clock : Int} {s : System}
    (h : Run.Reachable step (System.initial clock) s) : OneOpen s.db.strategyProposals := by
  have hboth : HintsOk s ∧ OneOpen s.db.strategyProposals := by
    refine h.invariant (I := fun s => HintsOk s ∧ OneOpen s.db.strategyProposals) ⟨?_, ?_⟩
      fun s l s' ⟨hhints, hone⟩ hs => ⟨hintsOk_step hhints hs, step_oneOpen hhints hs hone⟩
    · intro worker approval decision hphase
      cases hphase
    · exact fun p hp => absurd hp (Table.not_mem_empty _)
  exact hboth.2

/-! ### What the proposals of a case rest on

A proposal keeps the facts of its case, or it is superseded and the case has other facts
now. With distinct readings the second is for good, so an identical proposal that is
found for a case is the open one.
-/

/-- The states of a case that has had a proposal. -/
def decidedStates : List CaseState :=
  [.decisioned, .policyValidated, .actioned, .waitingForOutcome, .recovered, .exhausted, .escalated]

omit [Platform] in
theorem Chain.decided {s t : CaseState} {xs : List (Option CaseState × Option CaseState)}
    (h : Chain s xs t) (hs : s ∈ decidedStates) : t ∈ decidedStates := by
  refine h.keeps (fun s hs t ht => ?_) hs
  cases s <;> cases t <;>
    simp [allowedTransitions, terminalCaseStates, decidedStates] at hs ht ⊢

/--
The proposal was made from the row `c₀`, of which `c` is the present row: it has the
same reading and shows the same, or it has a later one.  A superseded proposal was made
from an earlier reading.
-/
structure RestsOn (p : StrategyProposal) (c₀ c : PaymentCase) : Prop where
  fingerprint : p.assessmentFingerprint = buildAssessmentFingerprint c₀
  not_terminal : terminalReason c₀.currentState = none
  reading : ∃ t r, c₀.lastReconciledAt = some t ∧ c.lastReconciledAt = some r ∧ t ≤ r ∧
    (t = r → c.truth = c₀.truth) ∧ (p.supersededAt ≠ none → t < r)

theorem assessmentFacts_congr {c c' : PaymentCase} (htruth : c.truth = c'.truth)
    (hopen : terminalReason c.currentState = none) (hopen' : terminalReason c'.currentState = none) :
    assessmentFacts c = assessmentFacts c' := by
  simp only [PaymentCase.truth, CaseTruth.mk.injEq] at htruth
  obtain ⟨-, hpayment, hsubscription, -, hstatus, hsubstatus, hmethod, hamount, hcurrency, hcode, -,
    hsource, hstep, hreason, -, hat⟩ := htruth
  simp only [assessmentFacts, hpayment, hsubscription, hstatus, hsubstatus, hmethod, hamount,
    hcurrency, hcode, hsource, hstep, hreason, hat, hopen, hopen']
  rfl

/-- The present row may be worked on, or read again later. -/
theorem RestsOn.later {p : StrategyProposal} {c₀ c c' : PaymentCase} (h : RestsOn p c₀ c)
    (hrow : c'.truth = c.truth ∨
      ∃ r', c'.lastReconciledAt = some r' ∧ ∀ r, c.lastReconciledAt = some r → r < r') :
    RestsOn p c₀ c' := by
  obtain ⟨t, r, ht, hr, hle, hequal, hsuperseded⟩ := h.reading
  refine ⟨h.fingerprint, h.not_terminal, ?_⟩
  rcases hrow with htruth | ⟨r', hr', hlater⟩
  · have hread : c'.lastReconciledAt = c.lastReconciledAt :=
      congrArg CaseTruth.lastReconciledAt htruth
    exact ⟨t, r, ht, hread.trans hr, hle, fun he => htruth.trans (hequal he), hsuperseded⟩
  · have hlt := hlater r hr
    exact ⟨t, r', ht, hr', by omega, fun he => absurd he (by omega), fun _ => by omega⟩

/-- A proposal is superseded when the fingerprint of its case has become another. -/
theorem RestsOn.superseded {p : StrategyProposal} {c₀ c : PaymentCase} (h : RestsOn p c₀ c)
    (hopen : terminalReason c.currentState = none)
    (hother : p.assessmentFingerprint ≠ buildAssessmentFingerprint c) (at' : Int) :
    RestsOn (p.superseded at') c₀ c := by
  obtain ⟨t, r, ht, hr, hle, hequal, -⟩ := h.reading
  refine ⟨h.fingerprint, h.not_terminal, t, r, ht, hr, hle, hequal, fun _ => ?_⟩
  refine lt_of_le_of_ne hle fun he => hother ?_
  have hfacts := assessmentFacts_congr (hequal he) hopen h.not_terminal
  rw [h.fingerprint, buildAssessmentFingerprint, buildAssessmentFingerprint, hfacts]

/-- The case of a proposal is past its diagnosis, and the proposal rests on it. -/
def Rests (db : Db) (p : StrategyProposal) : Prop :=
  ∃ c ∈ db.cases, c.id = p.caseId ∧ c.currentState ∈ decidedStates ∧ (∃ c₀, RestsOn p c₀ c) ∧
    ∃ context model, p.strategyInputFingerprint =
      buildStrategyInputFingerprint p.assessmentFingerprint context model

/-- The case is still there: it has been worked on, or read again later. -/
def CaseStays (c : PaymentCase) (db : Db) : Prop :=
  ∃ c' ∈ db.cases, c'.id = c.id ∧
    (c.currentState ∈ decidedStates → c'.currentState ∈ decidedStates) ∧
    (c'.truth = c.truth ∨
      ∃ r', c'.lastReconciledAt = some r' ∧ ∀ r, c.lastReconciledAt = some r → r < r')

/-- No case was read in the future. -/
def ReadBefore (db : Db) (clock : Int) : Prop :=
  ∀ c ∈ db.cases, ∀ r, c.lastReconciledAt = some r → r ≤ clock

theorem step_caseStays {x : Run.Step System Label} (hhints : HintsOk x.pre) (hheld : HeldOk x.pre)
    (h : step x.pre x.label = some x.post)
    (htimes : ReadBefore x.pre.db x.pre.clock)
    (hdistinct : (∃ worker fresh, x.label = .processor worker (.apply fresh)) →
      ∀ c ∈ x.pre.db.cases, ∀ c' ∈ x.post.db.cases, c'.id = c.id → c' ≠ c →
        c'.lastReconciledAt ≠ c.lastReconciledAt)
    {c : PaymentCase} (hc : c ∈ x.pre.db.cases) : CaseStays c x.post.db := by
  obtain ⟨c', hc', hprogressed⟩ := ((step_commit hhints h).caseEffect hheld).progressed hc
  obtain ⟨new, -, hchain⟩ := hprogressed.added
  refine ⟨c', hc', hprogressed.id_eq, hchain.decided, ?_⟩
  rcases step_reading hhints hheld h hc' with ⟨c₁, hc₁, hid, htruth⟩ | ⟨hlabel, hnow⟩
  · obtain rfl : c₁ = c := Table.eq_of_key_eq hc₁ hc (hid.symm.trans hprogressed.id_eq)
    exact .inl htruth
  · by_cases hsame : c' = c
    · exact .inl (hsame ▸ rfl)
    · refine .inr ⟨x.pre.clock, hnow, fun r hr => lt_of_le_of_ne (htimes c hc r hr) fun he => ?_⟩
      refine hdistinct hlabel c hc c' hc' hprogressed.id_eq hsame ?_
      rw [hnow, hr, he]

/-- A proposal up to its end, on a case that is still there. -/
theorem Rests.later {db db' : Db} {p p' : StrategyProposal} (h : Rests db p)
    (hstays : ∀ c ∈ db.cases, CaseStays c db') (hsame : p'.reopened = p.reopened)
    (hstill : ∀ c c₀, c ∈ db.cases → c.id = p.caseId → c.currentState ∈ decidedStates →
      RestsOn p c₀ c → RestsOn p' c₀ c) : Rests db' p' := by
  obtain ⟨c, hc, hid, hdecided, ⟨c₀, hrest⟩, context, model, hinput⟩ := h
  obtain ⟨c', hc', hid', hdecided', hrow⟩ := hstays c hc
  have hcase := congrArg StrategyProposal.caseId hsame
  have hassessment := congrArg StrategyProposal.assessmentFingerprint hsame
  have hfingerprint := congrArg StrategyProposal.strategyInputFingerprint hsame
  simp only [StrategyProposal.reopened] at hcase hassessment hfingerprint
  refine ⟨c', hc', (hid'.trans hid).trans hcase.symm, hdecided' hdecided,
    ⟨c₀, (hstill c c₀ hc hid hdecided hrest).later hrow⟩, context, model, ?_⟩
  rw [hfingerprint, hassessment]
  exact hinput

/-- The proposals after a generation. -/
theorem Persisted.rests {db db' : Db} {snapshot : StrategySnapshot}
    {modelResult : Option StrategyModelResult} {newId : Uuid} {now : Int}
    {outcome : Except Error StrategyGenerationResult}
    (h : Persisted db snapshot modelResult newId now db' outcome)
    (hstays : ∀ c ∈ db.cases, CaseStays c db') (hrests : ∀ p ∈ db.strategyProposals, Rests db p) :
    ∀ p ∈ db'.strategyProposals, Rests db' p := by
  cases h with
  | discarded hc => exact fun p hp => (hrests p hp).later hstays rfl fun _ _ _ _ _ hrest => hrest
  | identical hc hcurrent hexisting =>
      exact fun p hp => (hrests p hp).later hstays rfl fun _ _ _ _ _ hrest => hrest
  | @accepted c action proposals w hok hreplace hw hstate =>
      obtain ⟨-, hinsert⟩ := (replaceProposal_eq_ok currentProposal_mem).mp hreplace
      obtain ⟨hcontext, hassessment, hinput⟩ := snapshotIsCurrent_eq_true.mp hok.current
      have hconsidered := validateStrategyContext_eq_ok hcontext
      obtain ⟨hopen, -, ⟨t, ht, -, -⟩, -⟩ := eligible_iff.mp hconsidered.eligible
      have hmem := Table.mem_of_get? hok.stored
      intro p hp
      rcases (Table.insert?_mem hinsert).mp hp with hp | rfl
      · obtain ⟨y, hy, rfl⟩ := (mem_supersedeCurrent currentProposal_mem).mp hp
        refine (hrests y hy).later hstays (y.after_reopened _ _)
          fun c₁ c₀ hc₁ hid hdecided hrest => ?_
        unfold StrategyProposal.after
        split
        · rename_i hcurrent
          -- the current proposal of the case: its fingerprint is not the one of the case
          obtain ⟨q, hq, hqid⟩ : ∃ q, db.currentProposal c.id = some q ∧ q.id = y.id := by
            cases hq : db.currentProposal c.id with
            | none => simp [hq] at hcurrent
            | some q => exact ⟨q, rfl, by simpa [hq] using hcurrent⟩
          obtain ⟨hqmem, hqcase, -⟩ := currentProposal_eq_some hq
          obtain rfl : q = y := Table.eq_of_key_eq hqmem hy hqid
          obtain rfl : c₁ = c := Table.eq_of_key_eq hc₁ hmem (hid.trans hqcase)
          refine hrest.superseded hopen (fun he => ?_) now
          rcases generationStateAllowed_state hok.allowed with hdiagnosed | ⟨-, hother⟩
          · rw [hdiagnosed] at hdecided
            exact absurd hdecided (by decide)
          · exact hother q hq (hconsidered.assessment.trans (congrArg some he.symm))
        · exact hrest
      · refine ⟨w.row, ?_, ?_, by rw [hstate]; decide, ⟨c, ?_, hopen, t, t, ht, ?_, le_refl _, ?_, ?_⟩,
          snapshot.context, snapshot.configuredModel, hinput⟩
        · exact (Table.mem_put_of_mem hmem hw.id_eq).mpr (.inr rfl)
        · exact hw.id_eq.trans (Table.get?_key hok.stored)
        · exact Option.some.inj (hassessment.symm.trans hconsidered.assessment)
        · exact (congrArg CaseTruth.lastReconciledAt hw.truth_eq).trans ht
        · exact fun _ => hw.truth_eq
        · exact fun hclosed => absurd rfl hclosed

/-- Along a run with distinct readings, every proposal rests on its case. -/
theorem rests_trace {clock : Int} {tr : List (Run.Step System Label)} {s : System}
    (h : RunTrace clock tr s) (hdistinct : DistinctReadings tr) :
    ReadBefore s.db s.clock ∧ ∀ p ∈ s.db.strategyProposals, Rests s.db p := by
  induction h with
  | nil =>
      exact ⟨fun c hc => absurd hc (Table.not_mem_empty _),
        fun p hp => absurd hp (Table.not_mem_empty _)⟩
  | @snoc tr s s' l htr hs ih =>
      obtain ⟨htimes, hrests⟩ := ih fun x hx => hdistinct x (List.mem_append_left _ hx)
      obtain ⟨hhints, hheld, -⟩ := audited_reachable ⟨tr, htr⟩
      have hclock := step_clock hs
      have hstays : ∀ c ∈ s.db.cases, CaseStays c s'.db := fun c hc =>
        step_caseStays (x := ⟨s, l, s'⟩) hhints hheld hs htimes (hdistinct _ (by simp)) hc
      constructor
      · intro c' hc' r hr
        rcases step_reading hhints hheld hs hc' with ⟨c, hc, -, htruth⟩ | ⟨-, hnow⟩
        · have hread : c'.lastReconciledAt = c.lastReconciledAt :=
            congrArg CaseTruth.lastReconciledAt htruth
          exact (htimes c hc r (hread.symm.trans hr)).trans hclock
        · rw [hnow, Option.some.injEq] at hr
          exact hr ▸ hclock
      · have hkeep : s'.db.strategyProposals = s.db.strategyProposals →
            ∀ p ∈ s'.db.strategyProposals, Rests s'.db p := fun hsame p hp =>
          (hrests p (hsame ▸ hp)).later hstays rfl fun _ _ _ _ _ hrest => hrest
        rcases step_proposals hhints hs with hsame | ⟨worker, snapshot, modelResult, newId, hpersist⟩
        · exact hkeep hsame
        · rcases hpersist.persisted hs with hdb | ⟨outcome, -, hpersisted⟩
          · exact hkeep (congrArg Db.strategyProposals hdb)
          · exact hpersisted.rests hstays hrests

/-! ### Answers of a generation

A generation answers with a proposal it has written or found. A proposal that the
database refuses would be answered by a second look-up; with new identifiers the
constraints refuse none, so that branch is never taken.
-/

/-- What a call of a generation answers in a step. -/
inductive Answers (x : Run.Step System Label) : StrategyGenerationResult → Prop
  | prepared {worker : Nat} {caseId : Uuid} {model : String} {result : StrategyGenerationResult}
      (hlabel : x.label = .strategist worker (.prepare caseId model))
      (h : prepareSnapshot x.pre.db caseId model x.pre.clock = .ok (.inr result)) : Answers x result
  | persisted {worker : Nat} {snapshot : StrategySnapshot}
      {modelResult : Option StrategyModelResult} {newId : Uuid} {db : Db}
      {result : StrategyGenerationResult}
      (hpersist : PersistStep x worker snapshot modelResult newId)
      (h : persistLocked x.pre.db snapshot modelResult newId x.pre.clock x.pre.clock =
        .ok (db, .ok result)) : Answers x result
  /-- After an insert that was refused. -/
  | recovered {worker : Nat} {snapshot : StrategySnapshot} {result : StrategyGenerationResult}
      (hlabel : x.label = .strategist worker .recover)
      (hphase : x.pre.strategists worker = .refused snapshot)
      (h : resultAfterConflict x.pre.db snapshot = .ok result) : Answers x result

theorem findIdenticalProposal_some {db : Db} {caseId : Uuid} {fingerprint : Digest}
    {p : StrategyProposal} (h : findIdenticalProposal db caseId fingerprint = some p) :
    p ∈ db.strategyProposals ∧ p.caseId = caseId ∧ p.strategyInputFingerprint = fingerprint := by
  obtain ⟨hp, hcond⟩ := Table.first?_mem h
  simp only [Bool.and_eq_true, beq_iff_eq] at hcond
  exact ⟨hp, hcond⟩

section

variable (hhash : Function.Injective Platform.hashFacts)
  (hhex : Function.Injective Platform.hexdigest)

include hhash hhex

/-- A proposal that is identical to what the case gives now is the current one. -/
theorem Rests.current {db : Db} {p : StrategyProposal} {c : PaymentCase} {context : StrategyContext}
    {model : Option String} (h : Rests db p) (hone : OneOpen db.strategyProposals)
    (hp : p ∈ db.strategyProposals) (hc : db.cases.get? p.caseId = some c)
    (hinput : p.strategyInputFingerprint =
      buildStrategyInputFingerprint (buildAssessmentFingerprint c) context model) :
    db.currentProposal p.caseId = some p := by
  obtain ⟨c₁, hc₁, hid, -, ⟨c₀, hrest⟩, context', model', hinput'⟩ := h
  obtain rfl : c₁ = c := Table.eq_of_key_eq hc₁ (Table.mem_of_get? hc)
    (hid.trans (Table.get?_key hc).symm)
  have hfacts := hhash (hinput'.symm.trans hinput)
  simp only [Json.obj.injEq, List.cons.injEq, Prod.mk.injEq, true_and] at hfacts
  have hassessment := hhash (hrest.fingerprint.symm.trans (hhex hfacts.1))
  simp only [assessmentFacts, Json.obj.injEq, List.cons.injEq, Prod.mk.injEq, true_and,
    and_true] at hassessment
  obtain ⟨t, r, ht, hr, -, -, hsuperseded⟩ := hrest.reading
  have hread : c₀.lastReconciledAt = c₁.lastReconciledAt :=
    ofOption_injective (fun _ _ h => Json.int.inj h) (fun _ h => by cases h)
      hassessment.2.2.2.2.2.2.2.2.2.2.2.2
  rw [ht, hr, Option.some.injEq] at hread
  refine hone.currentProposal hp (Decidable.byContradiction fun hclosed => ?_)
  have hlt := hsuperseded hclosed
  omega

end

/-- The identifier of a new proposal is not taken. -/
def FreshProposals (tr : List (Run.Step System Label)) : Prop :=
  ∀ x ∈ tr, ∀ worker newId, x.label = .strategist worker (.persist newId) →
    ∀ p ∈ x.pre.db.strategyProposals, p.id ≠ newId

/-- The constraints refuse no proposal whose identifier is new. -/
theorem replaceProposal_ok {db : Db} {c : PaymentCase} (new : StrategyProposal) (now : Int)
    (hone : OneOpen db.strategyProposals) (hcase : new.caseId = c.id)
    (hnew : findIdenticalProposal db c.id new.strategyInputFingerprint = none)
    (hfresh : ∀ p ∈ db.strategyProposals, p.id ≠ new.id) :
    ∃ proposals, replaceProposal db.strategyProposals (db.currentProposal c.id) new now =
      .ok proposals := by
  have haddable : Addable db.strategyProposals (db.currentProposal c.id) new now := by
    intro y hy hycase
    constructor
    · intro hopen
      obtain ⟨hsame, hnot⟩ := StrategyProposal.after_open hopen
      rw [hsame] at hopen
      have hcurrent := hone.currentProposal hy hopen
      rw [hycase.trans hcase] at hcurrent
      exact hnot y hcurrent rfl
    · intro hfingerprint
      have hnone := Table.first?_eq_none.mp hnew y hy
      simp [hycase.trans hcase, hfingerprint] at hnone
  have hfree : (supersedeCurrent db.strategyProposals (db.currentProposal c.id) now).get? new.id =
      none := by
    refine Table.get?_eq_none.mpr fun x hx => ?_
    obtain ⟨y, hy, rfl⟩ := (mem_supersedeCurrent currentProposal_mem).mp hx
    show (y.after _ now).id ≠ new.id
    rw [y.after_id]
    exact hfresh y hy
  obtain ⟨proposals, hinsert⟩ := Table.exists_insert? hfree
  exact ⟨proposals, (replaceProposal_eq_ok currentProposal_mem).mpr ⟨haddable, hinsert⟩⟩

theorem moveDiagnosedCaseToDecisioned_ok {w : CaseWork} :
    ∃ w', moveDiagnosedCaseToDecisioned w = .ok w' := by
  unfold moveDiagnosedCaseToDecisioned
  split
  · rename_i hstate
    exact ⟨_, transitionCase_eq_ok.mpr (.inr ⟨by simp [hstate], by simp [hstate, allowedTransitions],
      rfl⟩)⟩
  · exact ⟨w, rfl⟩

/-- A generation with a new identifier is not refused by the database. -/
theorem persistLocked_ne_integrity {db : Db} {snapshot : StrategySnapshot}
    {modelResult : Option StrategyModelResult} {newId : Uuid} {now : Int}
    (hone : OneOpen db.strategyProposals) (hfresh : ∀ p ∈ db.strategyProposals, p.id ≠ newId) :
    persistLocked db snapshot modelResult newId now now ≠ .error .integrity := by
  unfold persistLocked lockStrategyCase
  cases hc : db.cases.get? snapshot.caseId with
  | none =>
      intro h
      cases h
  | some c =>
      have hid : c.id = snapshot.caseId := Table.get?_key hc
      simp only [requireSome, bind, Except.bind]
      split
      · intro h
        cases h
      · split
        · intro h
          cases h
        · rename_i hnew
          unfold validateGenerationState require
          split
          · rename_i e hrequire
            split at hrequire <;> cases hrequire
            intro h
            cases h
          · cases haction : proposedAction snapshot modelResult with
            | none =>
                intro h
                cases h
            | some action =>
                simp only
                split
                · intro h
                  cases h
                · obtain ⟨proposals, hreplace⟩ := replaceProposal_ok
                    (buildProposal snapshot action modelResult newId) now hone hid.symm
                    (by rw [hid]; exact hnew) hfresh
                  obtain ⟨w, hmove⟩ := moveDiagnosedCaseToDecisioned_ok (w := .lock c)
                  simp only [acceptProposal, hreplace, hmove, bind, Except.bind]
                  intro h
                  cases h

theorem step_strategists {s s' : System} {l : Label} (h : step s l = some s') (worker : Nat) :
    s'.strategists worker = s.strategists worker ∨
    ∃ sl m, l = .strategist worker sl ∧ strategistStep s (s.strategists worker) sl = some m ∧
      s'.strategists worker = m.phase ∧ s'.db = m.db := by
  cases l with
  | strategist moved l =>
      obtain ⟨m, hm, rfl⟩ := Option.map_eq_some_iff.mp h
      by_cases hw : worker = moved
      · subst hw
        exact .inr ⟨l, m, rfl, hm, by simp, rfl⟩
      · exact .inl (by simp [Function.update_of_ne hw])
  | executor moved l => obtain ⟨m, -, rfl⟩ := Option.map_eq_some_iff.mp h; exact .inl rfl
  | processor moved l => obtain ⟨m, -, rfl⟩ := Option.map_eq_some_iff.mp h; exact .inl rfl
  | observer moved l => obtain ⟨m, -, rfl⟩ := Option.map_eq_some_iff.mp h; exact .inl rfl
  | approver moved l => obtain ⟨m, -, rfl⟩ := Option.map_eq_some_iff.mp h; exact .inl rfl
  | provider l => obtain ⟨p, -, rfl⟩ := Option.map_eq_some_iff.mp h; exact .inl rfl
  | service l => cases h; exact .inl rfl
  | tick d => cases h; exact .inl rfl

/-- Only a proposal that the database refuses leads to its recovery. -/
theorem strategistStep_refused {s : System} {phase : StrategistPhase} {l : StrategistLabel}
    {m : Move StrategistPhase} {snapshot : StrategySnapshot} (h : strategistStep s phase l = some m)
    (hphase : m.phase = .refused snapshot) : ∃ newId modelResult, l = .persist newId ∧
      persistLocked s.db snapshot modelResult newId s.clock s.clock = .error .integrity := by
  cases phase with
  | idle =>
      cases l with
      | prepare caseId model =>
          simp only [strategistStep] at h
          split at h <;> cases h
          · dsimp only at hphase
            split at hphase <;> cases hphase
          · cases hphase
          · cases hphase
      | crash => cases h; cases hphase
      | _ => cases h
  | asking snapshot' => cases l <;> cases h <;> cases hphase
  | answered snapshot' modelResult =>
      cases l with
      | persist newId =>
          simp only [strategistStep] at h
          split at h
          · cases h
            cases hphase
          · rename_i hrefused
            cases h
            cases hphase
            exact ⟨newId, modelResult, rfl, hrefused⟩
          · cases h
            cases hphase
      | crash => cases h; cases hphase
      | _ => cases h
  | failing snapshot' reason => cases l <;> cases h <;> cases hphase
  | refused snapshot' => cases l <;> cases h <;> cases hphase

theorem not_refused_trace {clock : Int} {tr : List (Run.Step System Label)} {s : System}
    (h : RunTrace clock tr s) (hfresh : FreshProposals tr) (worker : Nat)
    (snapshot : StrategySnapshot) : s.strategists worker ≠ .refused snapshot := by
  induction h with
  | nil =>
      intro hphase
      cases hphase
  | @snoc tr s s' l htr hs ih =>
      intro hphase
      rcases step_strategists hs worker with hsame | ⟨sl, m, rfl, hm, hmoved, -⟩
      · exact ih (fun x hx => hfresh x (List.mem_append_left _ hx)) (hsame ▸ hphase)
      · obtain ⟨newId, modelResult, rfl, hrefused⟩ := strategistStep_refused hm (hmoved ▸ hphase)
        refine persistLocked_ne_integrity (oneOpen_reachable ⟨tr, htr⟩) ?_ hrefused
        exact hfresh _ (List.mem_append_right _ (List.mem_singleton_self _)) worker newId rfl

/-- The answer is the current proposal of the case. -/
def ReturnsCurrent (db : Db) (result : StrategyGenerationResult) : Prop :=
  ∃ c p, db.cases.get? result.caseId = some c ∧ db.currentProposal c.id = some p ∧
    result = strategyResult p c.currentState true

section

variable (hhash : Function.Injective Platform.hashFacts)
  (hhex : Function.Injective Platform.hexdigest)

include hhash hhex

/-- The identical proposal that a locked case has is the current one. -/
theorem returnsCurrent_of_identical {db : Db} {caseId : Uuid} {c : PaymentCase}
    {context : StrategyContext} {model : Option String} {existing : StrategyProposal}
    (hone : OneOpen db.strategyProposals) (hrests : ∀ p ∈ db.strategyProposals, Rests db p)
    (hc : db.cases.get? caseId = some c)
    (hexisting : findIdenticalProposal db caseId
      (buildStrategyInputFingerprint (buildAssessmentFingerprint c) context model) = some existing) :
    ReturnsCurrent db (strategyResult existing c.currentState true) := by
  obtain ⟨hmem, hcase, hinput⟩ := findIdenticalProposal_some hexisting
  have hstored : db.cases.get? existing.caseId = some c := by rw [hcase, hc]
  have hcurrent := (hrests existing hmem).current hhash hhex hone hmem hstored hinput
  rw [show existing.caseId = c.id from (Table.get?_key hstored).symm] at hcurrent
  exact ⟨c, existing, hstored, hcurrent, rfl⟩

theorem Answers.returnsCurrent {x : Run.Step System Label} {result : StrategyGenerationResult}
    (h : Answers x result) (hone : OneOpen x.pre.db.strategyProposals)
    (hrests : ∀ p ∈ x.pre.db.strategyProposals, Rests x.pre.db p)
    (hrefused : ∀ worker snapshot, x.pre.strategists worker ≠ .refused snapshot)
    (hidempotent : result.idempotent = true) : ReturnsCurrent x.pre.db result := by
  cases h with
  | prepared hlabel h =>
      obtain ⟨c, hc, h⟩ := bind_eq_ok.mp h
      obtain ⟨context, hcontext, h⟩ := bind_eq_ok.mp h
      obtain ⟨configured, -, h⟩ := bind_eq_ok.mp h
      obtain ⟨assessment, hassessment, h⟩ := bind_eq_ok.mp h
      have hstored := (validateStrategyContext_eq_ok hcontext).assessment
      have hread := requireSome_eq_ok.mp hassessment
      rw [hstored, Option.some.injEq] at hread
      subst hread
      simp only at h
      split at h
      · rename_i existing hexisting
        cases h
        exact returnsCurrent_of_identical hhash hhex hone hrests (requireSome_eq_ok.mp hc) hexisting
      · obtain ⟨_, -, h⟩ := bind_eq_ok.mp h
        cases h
  | @persisted worker snapshot modelResult newId db result hpersist h =>
      have hpersisted := persistLocked_persisted h
      generalize houtcome : (Except.ok result : Except Error StrategyGenerationResult) = outcome
        at hpersisted
      cases hpersisted with
      | discarded hc => cases houtcome
      | @identical c existing hc hcurrent hexisting =>
          cases houtcome
          obtain ⟨hcontext, hassessment, hinput⟩ := snapshotIsCurrent_eq_true.mp hcurrent
          have hstored := (validateStrategyContext_eq_ok hcontext).assessment
          rw [hassessment, Option.some.injEq] at hstored
          rw [hinput, hstored] at hexisting
          exact returnsCurrent_of_identical hhash hhex hone hrests hc hexisting
      | accepted hok hreplace hw hstate =>
          cases houtcome
          cases hidempotent
  | recovered hlabel hphase h => exact absurd hphase (hrefused _ _)

end

/--
**Strategy fencing.**  Along every run: a proposal that is added was built from the
context and the fingerprints that the locked case gives at its commit, for an eligible
case in a state that allows it and with a compatible action; at most one proposal of a
case is unsuperseded; and an answer that came too late or does not fit leaves the
proposals and the cases as they were.

Where readings are distinct, hashes are injective and identifiers are new, what a
generation returns as already there is the current proposal.
-/
theorem strategy_fenced {clock : Int} {tr : List (Run.Step System Label)} {s : System}
    (h : RunTrace clock tr s) :
    (∀ x ∈ tr, ∀ p ∈ x.post.db.strategyProposals,
      (∀ q ∈ x.pre.db.strategyProposals, q.id ≠ p.id) → ∃ c snapshot, Grounded x p c snapshot) ∧
    (∀ p ∈ s.db.strategyProposals, ∀ p' ∈ s.db.strategyProposals, p.caseId = p'.caseId →
      p.supersededAt = none → p'.supersededAt = none → p = p') ∧
    (∀ x ∈ tr, ∀ worker snapshot modelResult newId,
      PersistStep x worker snapshot modelResult newId →
      ∀ c, x.pre.db.cases.get? snapshot.caseId = some c →
      Unusable c snapshot modelResult x.pre.clock →
      x.post.db.strategyProposals = x.pre.db.strategyProposals ∧
        x.post.db.cases = x.pre.db.cases) ∧
    (Function.Injective Platform.hashFacts → Function.Injective Platform.hexdigest →
      DistinctReadings tr → FreshProposals tr →
      ∀ x ∈ tr, ∀ result, Answers x result → result.idempotent = true →
        ReturnsCurrent x.pre.db result) := by
  refine ⟨?_, oneOpen_reachable ⟨tr, h⟩, ?_, ?_⟩
  · intro x hx p hp hnew
    obtain ⟨hhints, -, -⟩ := audited_reachable (h.reachable_pre hx)
    exact step_grounded hhints (h.step_of_mem hx) hp hnew
  · intro x hx worker snapshot modelResult newId hpersist c hc hunusable
    exact hpersist.unusable (h.step_of_mem hx) hc hunusable
  · intro hhash hhex hdistinct hfresh x hx result hanswers hidempotent
    obtain ⟨before, after, rfl, hbefore, -⟩ := h.split hx
    obtain ⟨-, hrests⟩ := rests_trace hbefore fun y hy => hdistinct y (List.mem_append_left _ hy)
    exact hanswers.returnsCurrent hhash hhex (oneOpen_reachable ⟨before, hbefore⟩) hrests
      (not_refused_trace hbefore fun y hy => hfresh y (List.mem_append_left _ hy)) hidempotent

end Arc

namespace Arc

attribute [local instance] asciiPlatform

/-- Two generations for one diagnosed case; the second begins when the first has committed. -/
def generatedTwice : List Label := authorizedRun.take 9 ++ [.strategist 1 (.prepare 10 "model")]

/-- The run reports on no case it has already, and its one proposal has a new identifier. -/
def unreported (x : Run.Step System Label) : Bool :=
  match x.label with
  | .processor _ (.apply _) => x.pre.db.cases.rows.isEmpty
  | .strategist _ (.persist _) => x.pre.db.strategyProposals.rows.isEmpty
  | _ => true

theorem strategy_fenced_twice : ∃ tr s, RunTrace 0 tr s ∧
    tr.map Run.Step.label = generatedTwice ∧
    ((tr.getLast?.map fun x => match prepareSnapshot x.pre.db 10 "model" x.pre.clock with
      | .ok (.inr result) => result.idempotent
      | _ => false) = some true) ∧
    ∀ x ∈ tr, ∀ result, Answers x result → result.idempotent = true →
      ReturnsCurrent x.pre.db result := by
  have hrun : (Run.replay step (System.initial 0) generatedTwice).isSome = true := by
    decide +kernel
  obtain ⟨s, hs⟩ := Option.isSome_iff_exists.mp hrun
  obtain ⟨htr, hlabels⟩ := Run.Trace.of_steps hs
  have hquiet : ∀ x ∈ Run.steps step (System.initial 0) generatedTwice, unreported x = true := by
    decide +kernel
  refine ⟨_, s, htr, hlabels, by decide +kernel, ?_⟩
  refine (strategy_fenced htr).2.2.2 Function.injective_id Function.injective_id ?_ ?_
  · rintro x hx ⟨worker, fresh, hlabel⟩ c hc
    have hnone := hquiet x hx
    simp only [unreported, hlabel, List.isEmpty_iff] at hnone
    rw [Store.Table.mem_def, hnone] at hc
    cases hc
  · intro x hx worker newId hlabel p hp
    have hnone := hquiet x hx
    simp only [unreported, hlabel, List.isEmpty_iff] at hnone
    rw [Store.Table.mem_def, hnone] at hp
    cases hp

end Arc
