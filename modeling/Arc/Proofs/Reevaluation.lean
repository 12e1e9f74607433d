/-
Evaluating a case again.

An evaluation supersedes the current decision and, when an earlier one has the same
fingerprint, makes that one current again.  Both are updates of one flush, written in
the order of the ids, and the index on unsuperseded decisions is checked after each: an
earlier decision that is written before the current one finds it still in place.
-/
import Arc.Proofs.Verdicts

namespace Arc

open Store

variable [Platform]

/-! ### When a replacement goes through

SQLAlchemy writes the rows of one flush in the order of their identifiers, and the index
that allows one current decision is checked at each of them. So going back to an earlier
decision needs the current one to be written first.
-/

/-- The current decision is written before the one that is to take its place. -/
def SupersededFirst (current existing : Option PolicyDecision) : Prop :=
  ∀ c ∈ current, ∀ e ∈ existing, c.id ≤ e.id

/-- The index lets a reactivation through only after the current decision is superseded. -/
theorem replaceDecision_ordered {decisions : Table PolicyDecision}
    {current existing : Option PolicyDecision} {new : PolicyDecision} {at' : Int}
    {out : Table PolicyDecision × PolicyDecision} (hrows : Replaceable decisions current existing)
    (h : replaceDecision decisions current existing new at' = .ok out) :
    SupersededFirst current existing := by
  rintro c rfl e rfl
  obtain ⟨hcurrent, hopen⟩ := hrows.current_row c rfl
  obtain ⟨hexisting, hclosed⟩ := hrows.existing_row e rfl
  by_contra hafter
  simp only [replaceDecision, if_neg hafter] at h
  obtain ⟨first, hfirst, -⟩ := bind_eq_ok.mp h
  obtain ⟨hindex, -⟩ := flushDecision_eq_ok.mp hfirst
  have hid := otherCurrent_eq_false.mp (hindex rfl) c hcurrent (hrows.same_case c rfl e rfl) hopen
  obtain rfl : c = e := Table.eq_of_key_eq hcurrent hexisting hid
  exact hclosed hopen

/-- Once the current decision is superseded, no other decision of the case is current. -/
theorem otherCurrent_superseded {decisions : Table PolicyDecision} (hone : OneCurrent decisions)
    {current d : PolicyDecision} {at' : Int} (hcurrent : current ∈ decisions)
    (hopen : current.supersededAt = none) (hcase : current.caseId = d.caseId) :
    otherCurrent (decisions.put (current.superseded at')) d = false := by
  rw [otherCurrent_eq_false]
  intro x hx hxcase hxopen
  obtain ⟨y, hy, rfl⟩ := (mem_superseded hcurrent).mp hx
  obtain ⟨hsame, hnot⟩ := PolicyDecision.after_open hxopen
  rw [hsame] at hxcase hxopen
  exact absurd (congrArg PolicyDecision.id
    (hone current hcurrent y hy (hcase.trans hxcase.symm) hopen hxopen)) (hnot current rfl)

/-- A case without a current decision has no unsuperseded one. -/
theorem otherCurrent_of_none {db : Db} {d : PolicyDecision}
    (h : db.currentDecision d.caseId = none) : otherCurrent db.policyDecisions d = false := by
  rw [otherCurrent_eq_false]
  intro x hx hcase hopen
  have hfalse := Table.first?_eq_none.mp h x hx
  simp [hcase, hopen] at hfalse

/-- **A replacement in the order of the ids goes through.** -/
theorem replaceDecision_ok {db : Db} {c : PaymentCase} {existing : Option PolicyDecision}
    (new : PolicyDecision) (at' : Int) (hone : OneCurrent db.policyDecisions)
    (hrows : Replaceable db.policyDecisions (db.currentDecision c.id) existing)
    (hcase : ∀ e ∈ existing, e.caseId = c.id) (hnew : new.caseId = c.id)
    (hfresh : ∀ d ∈ db.policyDecisions, d.id ≠ new.id)
    (hnone : existing = none → ∀ d ∈ db.policyDecisions, d.caseId = c.id →
      d.authorizationInputFingerprint ≠ new.authorizationInputFingerprint)
    (horder : SupersededFirst (db.currentDecision c.id) existing) :
    ∃ out, replaceDecision db.policyDecisions (db.currentDecision c.id) existing new at'
      = .ok out := by
  cases hcurrent : db.currentDecision c.id with
  | none =>
      cases existing with
      | none =>
          have hother : otherCurrent db.policyDecisions new = false :=
            otherCurrent_of_none (hnew ▸ hcurrent)
          obtain ⟨inserted, hinsert⟩ :=
            Table.exists_insert? (t := db.policyDecisions) (Table.get?_eq_none.mpr hfresh)
          have hok : insertDecision db.policyDecisions new = .ok inserted :=
            insertDecision_eq_ok.mpr ⟨hother, hnew ▸ hnone rfl, hinsert⟩
          exact ⟨_, bind_eq_ok.mpr ⟨inserted, hok, rfl⟩⟩
      | some e =>
          have hother : otherCurrent db.policyDecisions e.reactivated = false :=
            otherCurrent_of_none (d := e.reactivated) ((hcase e rfl).symm ▸ hcurrent)
          exact ⟨_, bind_eq_ok.mpr
            ⟨_, flushDecision_eq_ok.mpr ⟨fun _ => hother, rfl⟩, rfl⟩⟩
  | some cur =>
      obtain ⟨hmem, hopen⟩ := hrows.current_row cur hcurrent
      have hcurcase : cur.caseId = c.id := (currentDecision_eq_some hcurrent).2.1
      have hclosed : (cur.superseded at').supersededAt ≠ none := Option.some_ne_none _
      have hflush : flushDecision db.policyDecisions (cur.superseded at') =
          .ok (db.policyDecisions.put (cur.superseded at')) :=
        flushDecision_eq_ok.mpr ⟨fun h => absurd h hclosed, rfl⟩
      cases existing with
      | none =>
          have hother : otherCurrent (db.policyDecisions.put (cur.superseded at')) new = false :=
            otherCurrent_superseded hone hmem hopen (hcurcase.trans hnew.symm)
          have hfree : ∀ x ∈ db.policyDecisions.put (cur.superseded at'), x.id ≠ new.id := by
            intro x hx
            obtain ⟨y, hy, rfl⟩ := (mem_superseded hmem).mp hx
            rw [PolicyDecision.after_id]
            exact hfresh y hy
          have hother' : ∀ x ∈ db.policyDecisions.put (cur.superseded at'), x.caseId = new.caseId →
              x.authorizationInputFingerprint ≠ new.authorizationInputFingerprint := by
            intro x hx hxcase hsame
            obtain ⟨y, hy, rfl⟩ := (mem_superseded hmem).mp hx
            have hcolumns := y.after_reactivated (some cur) at'
            have hycase := congrArg PolicyDecision.caseId hcolumns
            have hyfingerprint := congrArg PolicyDecision.authorizationInputFingerprint hcolumns
            exact hnone rfl y hy (hycase.symm.trans (hxcase.trans hnew))
              (hyfingerprint.symm.trans hsame)
          obtain ⟨inserted, hinsert⟩ := Table.exists_insert? (r := new)
            (t := db.policyDecisions.put (cur.superseded at')) (Table.get?_eq_none.mpr hfree)
          have hok := insertDecision_eq_ok.mpr ⟨hother, hother', hinsert⟩
          exact ⟨_, bind_eq_ok.mpr ⟨_, hflush, bind_eq_ok.mpr ⟨inserted, hok, rfl⟩⟩⟩
      | some e =>
          have hle : cur.id ≤ e.id := horder cur hcurrent e rfl
          have hecase : cur.caseId = e.reactivated.caseId := hcurcase.trans (hcase e rfl).symm
          have hother : otherCurrent (db.policyDecisions.put (cur.superseded at')) e.reactivated =
              false := otherCurrent_superseded hone hmem hopen hecase
          have hok := flushDecision_eq_ok.mpr ⟨fun _ => hother, rfl⟩
          have hordered : replaceDecision db.policyDecisions (some cur) (some e) new at' =
              (flushDecision db.policyDecisions (cur.superseded at') >>= fun decisions =>
                flushDecision decisions e.reactivated >>= fun decisions =>
                  .ok (decisions, e.reactivated)) := if_pos hle
          rw [hordered]
          exact ⟨(_, e.reactivated), bind_eq_ok.mpr ⟨_, hflush, bind_eq_ok.mpr ⟨_, hok, rfl⟩⟩⟩

/-! ### When an evaluation goes through

An evaluation that repeats the current inputs writes nothing, and one with new inputs
inserts a new decision. Only one that goes back to an earlier fingerprint meets the
order of the flush, which gives the equivalence.
-/

/-- The case has one unsuperseded decision, and it has the fingerprint of the current inputs. -/
def CurrentlyDecided (db db' : Db) (c : PaymentCase) (proposal : StrategyProposal) (now : Int) :
    Prop :=
  ∃ d, (∀ x, (x ∈ db'.policyDecisions ∧ x.caseId = c.id ∧ x.supersededAt = none) ↔ x = d) ∧
    d.authorizationInputFingerprint =
      (db.inputsFor c proposal now).authorizationInputFingerprint

/-- A successful evaluation leaves its case currently decided. -/
theorem Evaluated.currentlyDecided {db db' : Db} {c : PaymentCase} {proposal : StrategyProposal}
    {newId : Uuid} {now : Int} {result : PolicyEvaluationResult}
    (hone : OneCurrent db.policyDecisions) (h : Evaluated db c proposal newId now db' result) :
    CurrentlyDecided db db' c proposal now := by
  have hone' := hone.evaluated h
  have hunique : ∀ {d}, d ∈ db'.policyDecisions → d.caseId = c.id → d.supersededAt = none →
      ∀ x, (x ∈ db'.policyDecisions ∧ x.caseId = c.id ∧ x.supersededAt = none) ↔ x = d := by
    intro d hd hcase hopen x
    constructor
    · rintro ⟨hx, hxcase, hxopen⟩
      exact hone' x hx d hd (hxcase.trans hcase.symm) hxopen hopen
    · rintro rfl
      exact ⟨hd, hcase, hopen⟩
  cases h with
  | @reused d hidentical hopen =>
      obtain ⟨hd, hcase, hfingerprint⟩ := findIdenticalDecision_some hidentical
      exact ⟨d, hunique hd hcase hopen, hfingerprint⟩
  | @replaced decisions d w hrows hreplace hw =>
      obtain ⟨hd, hmem⟩ := replaceDecision_eq_ok hrows hreplace
      obtain ⟨hcase, hopen, hfingerprint⟩ := replacement_current hd
      exact ⟨d, hunique ((hmem d).mpr (.inl rfl)) hcase hopen, hfingerprint⟩

/-- No decision of the case has the fingerprint where none is found. -/
theorem identicalDecision_none {db : Db} {c : PaymentCase} {proposal : StrategyProposal} {now : Int}
    (h : db.identicalDecision c proposal now = none) : ∀ d ∈ db.policyDecisions, d.caseId = c.id →
      d.authorizationInputFingerprint ≠
        (db.inputsFor c proposal now).authorizationInputFingerprint := by
  intro d hd hcase hfingerprint
  have hfalse := Table.first?_eq_none.mp h d hd
  simp [hcase, hfingerprint] at hfalse

/-- The identical earlier decision of a case, when it is not the current one. -/
def Db.earlierDecision (db : Db) (c : PaymentCase) (proposal : StrategyProposal) (now : Int) :
    Option PolicyDecision :=
  (db.identicalDecision c proposal now).filter fun d => d.supersededAt.isSome

theorem evaluatePolicy_ok {db : Db} {c : PaymentCase} {proposal : StrategyProposal}
    {proposalId : Option Uuid} {newId : Uuid} {now : Int} (hone : OneCurrent db.policyDecisions)
    (hevaluable : Evaluable db c.id c proposal now) (hstate : c.currentState = .policyValidated)
    (hid : ∀ id ∈ proposalId, id = proposal.id) (hfresh : ∀ d ∈ db.policyDecisions, d.id ≠ newId)
    (horder : SupersededFirst (db.currentDecision c.id) (db.earlierDecision c proposal now)) :
    ∃ out, evaluatePolicy db c.id proposalId newId now = .ok out := by
  have hrecomputed : recomputeCurrentAuthorizationInputs db c proposal now =
      .ok (db.inputsFor c proposal now) := recompute_eq_ok.mpr ⟨hevaluable.current, rfl⟩
  have hinputs : (recomputeCurrentAuthorizationInputs db c proposal now).mapError
      asProposalNotCurrent = .ok (db.inputsFor c proposal now) := mapError_eq_ok.mpr hrecomputed
  have hnamed : proposalId.all (fun id => id == proposal.id) = true := by
    cases proposalId with
    | none => rfl
    | some id => simpa using hid id rfl
  -- all checks pass, so the evaluation is what it does with the identical decision
  have hreduced : evaluatePolicy db c.id proposalId newId now =
      ((db.identicalDecision c proposal now).filter fun d => d.supersededAt.isNone).elim
        (persistEvaluation db c proposal (db.inputsFor c proposal now)
          (db.identicalDecision c proposal now) newId now)
        fun d => .ok (db, policyResult d c proposal.action true) := by
    simp only [evaluatePolicy, hevaluable.stored, requireSome, require, hevaluable.state,
      hevaluable.proposal_current, hnamed, hinputs, if_true, bind, Except.bind]
    unfold Db.identicalDecision
    cases Option.filter (fun d => d.supersededAt.isNone) (findIdenticalDecision db c.id
      (db.inputsFor c proposal now).authorizationInputFingerprint) <;> rfl
  rw [hreduced]
  cases hclosed : (db.identicalDecision c proposal now).filter fun d => d.supersededAt.isNone with
  | some d => exact ⟨_, rfl⟩
  | none =>
    have hsuperseded : ∀ e ∈ db.identicalDecision c proposal now, e.supersededAt ≠ none := by
      intro e he hopen
      rw [Option.mem_def.mp he] at hclosed
      simp [Option.filter, hopen] at hclosed
    have hearlier : db.earlierDecision c proposal now = db.identicalDecision c proposal now := by
      unfold Db.earlierDecision
      cases hidentical : db.identicalDecision c proposal now with
      | none => rfl
      | some e =>
          have hsome := Option.isSome_iff_ne_none.mpr (hsuperseded e hidentical)
          simp [Option.filter, hsome]
    have hrows : Replaceable db.policyDecisions (db.currentDecision c.id)
        (db.identicalDecision c proposal now) := by
      refine ⟨fun cur hcur => ?_, fun e he => ?_, fun cur hcur e he => ?_⟩
      · obtain ⟨hmem, -, hopen⟩ := currentDecision_eq_some hcur
        exact ⟨hmem, hopen⟩
      · exact ⟨(findIdenticalDecision_some he).1, hsuperseded e he⟩
      · exact (currentDecision_eq_some hcur).2.1.trans (findIdenticalDecision_some he).2.1.symm
    obtain ⟨⟨decisions, d⟩, hreplace⟩ := replaceDecision_ok
      (buildDecision c proposal (db.inputsFor c proposal now) newId now) now hone hrows (fun e he => (findIdenticalDecision_some he).2.1) rfl hfresh
      identicalDecision_none (hearlier ▸ horder)
    obtain ⟨w, hw⟩ := applyPolicyTransition_ok (.inr hstate) d
    exact ⟨_, bind_eq_ok.mpr ⟨_, hreplace, bind_eq_ok.mpr ⟨w, hw, rfl⟩⟩⟩

/--
**Re-evaluation.**  In every state a run reaches, an evaluation of a validated case
whose proposal is current goes through, and leaves the case with one decision that has
the current fingerprint, exactly when the identical earlier decision, if there is one to
be made current again, does not have a smaller id than the decision it replaces.
-/
theorem reevaluation_iff {clock : Int} {tr : List (Run.Step System Label)} {s : System}
    (h : RunTrace clock tr s) {c : PaymentCase} {proposal : StrategyProposal}
    {proposalId : Option Uuid} {newId : Uuid} {now : Int}
    (hevaluable : Evaluable s.db c.id c proposal now) (hstate : c.currentState = .policyValidated)
    (hid : ∀ id ∈ proposalId, id = proposal.id)
    (hfresh : ∀ d ∈ s.db.policyDecisions, d.id ≠ newId) :
    (∃ db' result, evaluatePolicy s.db c.id proposalId newId now = .ok (db', result) ∧
      CurrentlyDecided s.db db' c proposal now) ↔
    SupersededFirst (s.db.currentDecision c.id) (s.db.earlierDecision c proposal now) := by
  have hone := (decisionsOk_trace h).one
  constructor
  · rintro ⟨db', result, hok, -⟩
    obtain ⟨c', proposal', hevaluable', hevaluated⟩ := evaluatePolicy_evaluated hok
    obtain rfl : c' = c := Option.some.inj (hevaluable'.stored.symm.trans hevaluable.stored)
    obtain rfl : proposal' = proposal :=
      Option.some.inj (hevaluable'.proposal_current.symm.trans hevaluable.proposal_current)
    cases hevaluated with
    | reused hidentical hopen =>
        intro cur hcur e he
        simp [Db.earlierDecision, hidentical, Option.filter, hopen] at he
    | replaced hrows hreplace hw =>
        intro cur hcur e he
        refine replaceDecision_ordered hrows hreplace cur hcur e ?_
        exact (Option.filter_eq_some_iff.mp he).1
  · intro horder
    obtain ⟨⟨db', result⟩, hok⟩ := evaluatePolicy_ok hone hevaluable hstate hid hfresh horder
    obtain ⟨c', proposal', hevaluable', hevaluated⟩ := evaluatePolicy_evaluated hok
    obtain rfl : c' = c := Option.some.inj (hevaluable'.stored.symm.trans hevaluable.stored)
    obtain rfl : proposal' = proposal :=
      Option.some.inj (hevaluable'.proposal_current.symm.trans hevaluable.proposal_current)
    exact ⟨db', result, hok, hevaluated.currentlyDecided hone⟩

end Arc

namespace Arc

attribute [local instance] asciiPlatform

/-- The operator edits the policy, the case is evaluated again, and the edit is taken back. -/
def revertedRun : List Label := authorizedRun ++ [
  .service (.setPolicy { samplePolicy with maxAutomatedAttempts := .int 5 }),
  .service (.evaluatePolicy 10 none 31),
  .service (.setPolicy samplePolicy)]

/-- The rows a concrete run has left for an evaluation of the sample case at time 0. -/
theorem evaluable_of_replay (ls : List Label)
    (h : ((Run.replay step (System.initial 0) ls).bind fun s =>
      (s.db.cases.get? 10).bind fun c => (s.db.currentProposal 10).map fun proposal =>
        (c.currentState, (validateCurrentProposal c proposal 0).toBool,
          s.db.policyDecisions.rows.map PolicyDecision.id)) =
      some (.policyValidated, true, [30, 31])) :
    ∃ tr s c proposal, RunTrace 0 tr s ∧ tr.map Run.Step.label = ls ∧
      Run.replay step (System.initial 0) ls = some s ∧ c.id = 10 ∧
      Evaluable s.db c.id c proposal 0 ∧ c.currentState = .policyValidated ∧
      ∀ d ∈ s.db.policyDecisions, d.id ≠ 32 := by
  obtain ⟨s, hs, h⟩ := Option.bind_eq_some_iff.mp h
  obtain ⟨c, hc, h⟩ := Option.bind_eq_some_iff.mp h
  obtain ⟨proposal, hproposal, h⟩ := Option.map_eq_some_iff.mp h
  simp only [Prod.mk.injEq] at h
  obtain ⟨hstate, hvalid, hids⟩ := h
  obtain ⟨tr, htr, hlabels⟩ := Run.Trace.of_replay hs
  have hid : c.id = 10 := Store.Table.get?_key hc
  refine ⟨tr, s, c, proposal, htr, hlabels, hs, hid,
    ⟨hid.symm ▸ hc, .inr hstate, hid.symm ▸ hproposal, ?_⟩, hstate, fun d hd => ?_⟩
  · cases hok : validateCurrentProposal c proposal 0 with
    | error e =>
        rw [hok] at hvalid
        cases hvalid
    | ok u => exact validateCurrentProposal_eq_ok.mp hok
  · have hmem : d.id ∈ s.db.policyDecisions.rows.map PolicyDecision.id :=
      List.mem_map_of_mem hd
    rw [hids] at hmem
    intro hfresh
    rw [hfresh] at hmem
    exact absurd hmem (by decide)

/-- Going back to the first policy is refused: the first decision has the smaller id. -/
theorem reevaluation_refused : ∃ tr s c proposal, RunTrace 0 tr s ∧
    tr.map Run.Step.label = revertedRun ∧ Evaluable s.db c.id c proposal 0 ∧
    c.currentState = .policyValidated ∧ (∀ d ∈ s.db.policyDecisions, d.id ≠ 32) ∧
    ¬ ∃ db' result, evaluatePolicy s.db c.id none 32 0 = .ok (db', result) ∧
      CurrentlyDecided s.db db' c proposal 0 := by
  obtain ⟨tr, s, c, proposal, htr, hlabels, hs, hid, hevaluable, hstate, hfresh⟩ :=
    evaluable_of_replay revertedRun (by decide +kernel)
  have hrefused : ((Run.replay step (System.initial 0) revertedRun).map fun s =>
      (evaluatePolicy s.db 10 none 32 0).toBool) = some false := by decide +kernel
  rw [hs, Option.map_some, Option.some.injEq] at hrefused
  refine ⟨tr, s, c, proposal, htr, hlabels, hevaluable, hstate, hfresh, ?_⟩
  rintro ⟨db', result, hok, -⟩
  rw [← hid, hok] at hrefused
  cases hrefused

/-- A third policy instead of the first one is evaluated. -/
def editedRun : List Label := authorizedRun ++ [
  .service (.setPolicy { samplePolicy with maxAutomatedAttempts := .int 5 }),
  .service (.evaluatePolicy 10 none 31),
  .service (.setPolicy { samplePolicy with maxAutomatedAttempts := .int 4 })]

theorem reevaluation_iff_edited : ∃ tr s c proposal, RunTrace 0 tr s ∧
    tr.map Run.Step.label = editedRun ∧
    ∃ db' result, evaluatePolicy s.db c.id none 32 0 = .ok (db', result) ∧
      CurrentlyDecided s.db db' c proposal 0 := by
  obtain ⟨tr, s, c, proposal, htr, hlabels, hs, hid, hevaluable, hstate, hfresh⟩ :=
    evaluable_of_replay editedRun (by decide +kernel)
  have hnone : ((Run.replay step (System.initial 0) editedRun).bind fun s =>
      (s.db.cases.get? 10).bind fun c => (s.db.currentProposal 10).map fun proposal =>
        (s.db.earlierDecision c proposal 0).isNone) = some true := by decide +kernel
  have hstored := hevaluable.stored
  have hproposal := hevaluable.proposal_current
  rw [hid] at hstored hproposal
  simp only [hs, hstored, hproposal, Option.bind_some, Option.map_some, Option.some.injEq,
    Option.isNone_iff_eq_none] at hnone
  refine ⟨tr, s, c, proposal, htr, hlabels, ?_⟩
  refine (reevaluation_iff htr hevaluable hstate (fun id h => by cases h) hfresh).mpr ?_
  intro cur hcur e he
  rw [hnone] at he
  cases he

end Arc
