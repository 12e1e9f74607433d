/-
The decisions of a case.

An evaluation leaves the decision it returns unsuperseded, supersedes the one that was
current, and touches no other.  So a case has at most one decision that is not
superseded, and every stored decision is the one some evaluation built, from the rows
of its moment, up to being superseded since.
-/
import Arc.Proofs.Authority

namespace Arc

open Store

variable [Platform]

/-! ### One replacement

A replacement returns one decision and ends the current one. It may insert the decision
or reactivate an earlier one; `replacement` covers both, and what happens to all other
rows does not depend on which it was.
-/

theorem otherCurrent_eq_false {decisions : Table PolicyDecision} {d : PolicyDecision} :
    otherCurrent decisions d = false ↔
      ∀ x ∈ decisions, x.caseId = d.caseId → x.supersededAt = none → x.id = d.id := by
  unfold otherCurrent
  rw [Table.any_eq_false]
  refine forall₂_congr fun x _ => ?_
  rw [Bool.eq_false_iff]
  simp only [ne_eq, Bool.and_eq_true, beq_iff_eq, Option.isNone_iff_eq_none, bne_iff_ne, not_and,
    not_not, and_imp]

theorem flushDecision_eq_ok {decisions decisions' : Table PolicyDecision} {d : PolicyDecision} :
    flushDecision decisions d = .ok decisions' ↔
      (d.supersededAt = none → otherCurrent decisions d = false) ∧
        decisions' = decisions.put d := by
  unfold flushDecision
  split
  · rename_i h
    simp only [Bool.and_eq_true, Option.isNone_iff_eq_none] at h
    simp [h]
  · rename_i h
    simp only [Bool.and_eq_true, Option.isNone_iff_eq_none, not_and, Bool.not_eq_true] at h
    rw [Except.ok.injEq, eq_comm]
    exact (and_iff_right h).symm

theorem insertDecision_eq_ok {decisions decisions' : Table PolicyDecision} {d : PolicyDecision} :
    insertDecision decisions d = .ok decisions' ↔ otherCurrent decisions d = false ∧
      (∀ x ∈ decisions, x.caseId = d.caseId →
        x.authorizationInputFingerprint ≠ d.authorizationInputFingerprint) ∧
      decisions.insert? d = some decisions' := by
  unfold insertDecision
  split
  · rename_i h
    simp only [Bool.or_eq_true, Table.any_eq_true, Bool.and_eq_true, beq_iff_eq] at h
    constructor
    · intro h'
      cases h'
    · rintro ⟨hother, hnone, -⟩
      rcases h with h | ⟨x, hx, hcase, hfingerprint⟩
      · rw [hother] at h
        cases h
      · exact absurd hfingerprint (hnone x hx hcase)
  · rename_i h
    simp only [Bool.or_eq_true, not_or, Bool.not_eq_true, Table.any_eq_false, Bool.and_eq_false_iff,
      beq_eq_false_iff_ne] at h
    obtain ⟨hother, hnone⟩ := h
    rw [requireSome_eq_ok]
    refine ⟨fun hinsert => ⟨hother, fun x hx hcase => ?_, hinsert⟩, fun hok => hok.2.2⟩
    exact (hnone x hx).resolve_left (not_not.mpr hcase)

def PolicyDecision.reactivated (d : PolicyDecision) : PolicyDecision :=
  { d with supersededAt := none }

/-- The decision that replaces: the identical one that was superseded, or the new one. -/
def replacement (existing : Option PolicyDecision) (new : PolicyDecision) : PolicyDecision :=
  (existing.map PolicyDecision.reactivated).getD new

/-- What a replacement makes of a decision that it does not return. -/
def PolicyDecision.after (current : Option PolicyDecision) (at' : Int) (d : PolicyDecision) :
    PolicyDecision :=
  if current.any fun c => c.id == d.id then d.superseded at' else d

/-- The rows a replacement is given: the current one, and an identical one that is not. -/
structure Replaceable (decisions : Table PolicyDecision) (current existing : Option PolicyDecision) :
    Prop where
  current_row : ∀ c ∈ current, c ∈ decisions ∧ c.supersededAt = none
  existing_row : ∀ e ∈ existing, e ∈ decisions ∧ e.supersededAt ≠ none
  same_case : ∀ c ∈ current, ∀ e ∈ existing, c.caseId = e.caseId

@[simp] theorem PolicyDecision.after_id (current : Option PolicyDecision) (at' : Int)
    (d : PolicyDecision) : (d.after current at').id = d.id := by
  unfold PolicyDecision.after
  split <;> rfl

@[simp] theorem PolicyDecision.after_none (at' : Int) (d : PolicyDecision) :
    d.after none at' = d := rfl

/-- Superseding the current decision, row by row. -/
theorem mem_superseded {decisions : Table PolicyDecision} {current x : PolicyDecision} {at' : Int}
    (hcurrent : current ∈ decisions) : x ∈ decisions.put (current.superseded at') ↔
      ∃ y ∈ decisions, x = y.after (some current) at' := by
  have hid : (current.superseded at').id = current.id := rfl
  refine (Table.mem_put_of_mem hcurrent hid).trans ⟨?_, ?_⟩
  · rintro (⟨hx, hne⟩ | rfl)
    · refine ⟨x, hx, ?_⟩
      have hother : current.id ≠ x.id := fun h => hne (h.symm.trans hid.symm)
      simp [PolicyDecision.after, hother]
    · exact ⟨current, hcurrent, by simp [PolicyDecision.after]⟩
  · rintro ⟨y, hy, rfl⟩
    by_cases hkey : current.id = y.id
    · obtain rfl : current = y := Table.eq_of_key_eq hcurrent hy hkey
      exact .inr (by simp [PolicyDecision.after])
    · have hafter : y.after (some current) at' = y := by simp [PolicyDecision.after, hkey]
      rw [hafter]
      exact .inl ⟨hy, fun h => hkey (h.trans hid).symm⟩

/-- **What a replacement writes**: it returns one decision and supersedes the current one. -/
theorem replaceDecision_eq_ok {decisions decisions' : Table PolicyDecision}
    {current existing : Option PolicyDecision} {new d : PolicyDecision} {at' : Int}
    (hrows : Replaceable decisions current existing)
    (h : replaceDecision decisions current existing new at' = .ok (decisions', d)) :
    d = replacement existing new ∧ ∀ x, x ∈ decisions' ↔ x = d ∨
      ∃ y ∈ decisions, y.id ≠ d.id ∧ x = y.after current at' := by
  cases current with
  | none =>
      cases existing with
      | none =>
          obtain ⟨inserted, hinsert, h⟩ := bind_eq_ok.mp h
          cases h
          obtain ⟨-, -, hinsert⟩ := insertDecision_eq_ok.mp hinsert
          refine ⟨rfl, fun x => (Table.insert?_mem hinsert).trans ⟨?_, ?_⟩⟩
          · rintro (hx | rfl)
            · exact .inr ⟨x, hx, Table.insert?_fresh hinsert hx, rfl⟩
            · exact .inl rfl
          · rintro (rfl | ⟨y, hy, -, rfl⟩)
            · exact .inr rfl
            · exact .inl hy
      | some existing =>
          obtain ⟨flushed, hflush, h⟩ := bind_eq_ok.mp h
          cases h
          obtain ⟨-, rfl⟩ := flushDecision_eq_ok.mp hflush
          obtain ⟨hexisting, -⟩ := hrows.existing_row existing rfl
          have hid : existing.reactivated.id = existing.id := rfl
          refine ⟨rfl, fun x => (Table.mem_put_of_mem hexisting hid).trans ⟨?_, ?_⟩⟩
          · rintro (⟨hx, hne⟩ | rfl)
            · exact .inr ⟨x, hx, hne, rfl⟩
            · exact .inl rfl
          · rintro (rfl | ⟨y, hy, hne, rfl⟩)
            · exact .inr rfl
            · exact .inl ⟨hy, hne⟩
  | some current =>
      obtain ⟨hcurrent, hopen⟩ := hrows.current_row current rfl
      cases existing with
      | none =>
          obtain ⟨flushed, hflush, h⟩ := bind_eq_ok.mp h
          obtain ⟨inserted, hinsert, h⟩ := bind_eq_ok.mp h
          cases h
          obtain ⟨-, rfl⟩ := flushDecision_eq_ok.mp hflush
          obtain ⟨-, -, hinsert⟩ := insertDecision_eq_ok.mp hinsert
          refine ⟨rfl, fun x => (Table.insert?_mem hinsert).trans ⟨?_, ?_⟩⟩
          · rintro (hx | rfl)
            · obtain ⟨y, hy, rfl⟩ := (mem_superseded hcurrent).mp hx
              have hfresh : (y.after (some current) at').id ≠ new.id :=
                Table.insert?_fresh hinsert hx
              exact .inr ⟨y, hy, by simpa using hfresh, rfl⟩
            · exact .inl rfl
          · rintro (rfl | ⟨y, hy, -, rfl⟩)
            · exact .inr rfl
            · exact .inl ((mem_superseded hcurrent).mpr ⟨y, hy, rfl⟩)
      | some existing =>
          obtain ⟨hexisting, hclosed⟩ := hrows.existing_row existing rfl
          have hapart : current.id ≠ existing.id := by
            intro hid
            obtain rfl : current = existing := Table.eq_of_key_eq hcurrent hexisting hid
            exact hclosed hopen
          simp only [replaceDecision] at h
          split at h
          · obtain ⟨first, hfirst, h⟩ := bind_eq_ok.mp h
            obtain ⟨second, hsecond, h⟩ := bind_eq_ok.mp h
            cases h
            obtain ⟨-, rfl⟩ := flushDecision_eq_ok.mp hfirst
            obtain ⟨-, rfl⟩ := flushDecision_eq_ok.mp hsecond
            have hstill : existing ∈ decisions.put (current.superseded at') := by
              refine (mem_superseded hcurrent).mpr ⟨existing, hexisting, ?_⟩
              simp [PolicyDecision.after, hapart]
            have hid : existing.reactivated.id = existing.id := rfl
            have hkey : ∀ y : PolicyDecision, Keyed.key (y.after (some current) at') = y.id :=
              fun y => y.after_id _ _
            refine ⟨rfl, fun x => (Table.mem_put_of_mem hstill hid).trans ?_⟩
            rw [mem_superseded hcurrent]
            constructor
            · rintro (⟨⟨y, hy, rfl⟩, hne⟩ | rfl)
              · exact .inr ⟨y, hy, fun h => hne ((hkey y).trans h), rfl⟩
              · exact .inl rfl
            · rintro (rfl | ⟨y, hy, hne, rfl⟩)
              · exact .inr rfl
              · exact .inl ⟨⟨y, hy, rfl⟩, fun h => hne ((hkey y).symm.trans h)⟩
          · -- the index refuses the reactivation while the other is still current
            obtain ⟨first, hfirst, -⟩ := bind_eq_ok.mp h
            obtain ⟨hindex, -⟩ := flushDecision_eq_ok.mp hfirst
            have hother := otherCurrent_eq_false.mp (hindex rfl) current hcurrent
            exact absurd (hother (hrows.same_case current rfl existing rfl) hopen) hapart

/-! ### One evaluation -/

/-- The authorization inputs of a case as the rows of `db` give them. -/
def Db.inputsFor (db : Db) (c : PaymentCase) (proposal : StrategyProposal) (now : Int) :
    CurrentAuthorizationInputs :=
  inputsOf c proposal now (db.policyFor c.merchantId)

/-- The decision of a case that has the fingerprint of the inputs. -/
def Db.identicalDecision (db : Db) (c : PaymentCase) (proposal : StrategyProposal) (now : Int) :
    Option PolicyDecision :=
  findIdenticalDecision db c.id (db.inputsFor c proposal now).authorizationInputFingerprint

/-- A case and its proposal stand for a policy evaluation at `now`. -/
structure Evaluable (db : Db) (caseId : Uuid) (c : PaymentCase) (proposal : StrategyProposal)
    (now : Int) : Prop where
  stored : db.cases.get? caseId = some c
  state : c.currentState = .decisioned ∨ c.currentState = .policyValidated
  proposal_current : db.currentProposal c.id = some proposal
  current : ProposalCurrent c proposal now

theorem findIdenticalDecision_some {db : Db} {caseId : Uuid} {fingerprint : Digest}
    {d : PolicyDecision} (h : findIdenticalDecision db caseId fingerprint = some d) :
    d ∈ db.policyDecisions ∧ d.caseId = caseId ∧
      d.authorizationInputFingerprint = fingerprint := by
  obtain ⟨hd, hcond⟩ := Table.first?_mem h
  simp only [Bool.and_eq_true, beq_iff_eq] at hcond
  exact ⟨hd, hcond⟩

/-- What an evaluation returns and what it leaves. -/
inductive Evaluated (db : Db) (c : PaymentCase) (proposal : StrategyProposal) (newId : Uuid)
    (now : Int) : Db → PolicyEvaluationResult → Prop
  /-- The current decision has the fingerprint already. -/
  | reused {d : PolicyDecision} (hidentical : db.identicalDecision c proposal now = some d)
      (hopen : d.supersededAt = none) :
      Evaluated db c proposal newId now db (policyResult d c proposal.action true)
  | replaced {decisions : Table PolicyDecision} {d : PolicyDecision} {w : CaseWork}
      (hrows : Replaceable db.policyDecisions (db.currentDecision c.id)
        (db.identicalDecision c proposal now))
      (hreplace : replaceDecision db.policyDecisions (db.currentDecision c.id)
        (db.identicalDecision c proposal now)
        (buildDecision c proposal (db.inputsFor c proposal now) newId now) now =
          .ok (decisions, d))
      (hw : applyPolicyTransition (.lock c) d = .ok w) :
      Evaluated db c proposal newId now
        (({ db with policyDecisions := decisions }).commitCase
          (appendPolicyAudit w d c.currentState (db.currentDecision c.id).isSome))
        (policyResult d w.row proposal.action false)

/-- **What a successful evaluation has found and done.** -/
theorem evaluatePolicy_evaluated {db db' : Db} {caseId newId : Uuid} {proposalId : Option Uuid}
    {now : Int} {result : PolicyEvaluationResult}
    (h : evaluatePolicy db caseId proposalId newId now = .ok (db', result)) :
    ∃ c proposal, Evaluable db caseId c proposal now ∧
      Evaluated db c proposal newId now db' result := by
  obtain ⟨c, hc, h⟩ := bind_eq_ok.mp h
  obtain ⟨_, hstate, h⟩ := bind_eq_ok.mp h
  obtain ⟨proposal, hproposal, h⟩ := bind_eq_ok.mp h
  obtain ⟨_, -, h⟩ := bind_eq_ok.mp h
  obtain ⟨inputs, hinputs, h⟩ := bind_eq_ok.mp h
  have hrecomputed : recomputeCurrentAuthorizationInputs db c proposal now = .ok inputs :=
    mapError_eq_ok.mp hinputs
  obtain ⟨hcurrent, rfl⟩ := recompute_eq_ok.mp hrecomputed
  refine ⟨c, proposal, ⟨requireSome_eq_ok.mp hc, require_eq_ok.mp hstate,
    requireSome_eq_ok.mp hproposal, hcurrent⟩, ?_⟩
  simp only at h
  split at h
  · rename_i d hfound
    cases h
    obtain ⟨hidentical, hopen⟩ := Option.filter_eq_some_iff.mp hfound
    exact .reused hidentical (by simpa using hopen)
  · rename_i hclosed
    obtain ⟨⟨decisions, d⟩, hreplace, h⟩ := bind_eq_ok.mp h
    obtain ⟨w, hw, h⟩ := bind_eq_ok.mp h
    cases h
    refine .replaced ⟨?_, ?_, ?_⟩ hreplace hw
    · intro current hsome
      obtain ⟨hmem, -, hopen⟩ := currentDecision_eq_some hsome
      exact ⟨hmem, hopen⟩
    · intro existing hsome
      refine ⟨(findIdenticalDecision_some hsome).1, fun hopen => ?_⟩
      replace hsome : findIdenticalDecision db c.id (inputsOf c proposal now
        (db.policyFor c.merchantId)).authorizationInputFingerprint = some existing := hsome
      rw [hsome] at hclosed
      simp [Option.filter, hopen] at hclosed
    · intro current hsome existing hsome'
      exact (currentDecision_eq_some hsome).2.1.trans (findIdenticalDecision_some hsome').2.1.symm

/-- A replacement returns a decision of the case, with the fingerprint, that is not superseded. -/
theorem replacement_current {db : Db} {c : PaymentCase} {proposal : StrategyProposal}
    {newId : Uuid} {now : Int} {d : PolicyDecision}
    (hd : d = replacement (db.identicalDecision c proposal now)
      (buildDecision c proposal (db.inputsFor c proposal now) newId now)) :
    d.caseId = c.id ∧ d.supersededAt = none ∧ d.authorizationInputFingerprint =
      (db.inputsFor c proposal now).authorizationInputFingerprint := by
  subst hd
  cases hidentical : db.identicalDecision c proposal now with
  | none => exact ⟨rfl, rfl, rfl⟩
  | some existing =>
      obtain ⟨-, hcase, hfingerprint⟩ := findIdenticalDecision_some hidentical
      exact ⟨hcase, rfl, hfingerprint⟩

/-! ### At most one current decision -/

/-- No two decisions of one case are unsuperseded. -/
def OneCurrent (decisions : Table PolicyDecision) : Prop :=
  ∀ d ∈ decisions, ∀ d' ∈ decisions, d.caseId = d'.caseId → d.supersededAt = none →
    d'.supersededAt = none → d = d'

/-- The current decision of a case is the one that is not superseded. -/
theorem OneCurrent.currentDecision {db : Db} (h : OneCurrent db.policyDecisions)
    {d : PolicyDecision} (hd : d ∈ db.policyDecisions) (hopen : d.supersededAt = none) :
    db.currentDecision d.caseId = some d := by
  refine Table.first?_eq_some_of_unique hd (by simp [hopen]) fun d' hd' hcond => ?_
  simp only [Bool.and_eq_true, beq_iff_eq, Option.isNone_iff_eq_none] at hcond
  exact h d' hd' d hd hcond.1 hcond.2 hopen

theorem PolicyDecision.after_open {current : Option PolicyDecision} {at' : Int}
    {d : PolicyDecision} (h : (d.after current at').supersededAt = none) :
    d.after current at' = d ∧ ∀ c ∈ current, c.id ≠ d.id := by
  unfold PolicyDecision.after at h ⊢
  split at h
  · cases h
  · rename_i hany
    rw [if_neg hany]
    refine ⟨rfl, fun c hc hid => hany ?_⟩
    rw [Option.mem_def.mp hc]
    simpa using hid

theorem OneCurrent.evaluated {db db' : Db} {c : PaymentCase} {proposal : StrategyProposal}
    {newId : Uuid} {now : Int} {result : PolicyEvaluationResult} (hone : OneCurrent db.policyDecisions)
    (h : Evaluated db c proposal newId now db' result) : OneCurrent db'.policyDecisions := by
  cases h with
  | reused hidentical hopen => exact hone
  | @replaced decisions d w hrows hreplace hw =>
      obtain ⟨hd, hmem⟩ := replaceDecision_eq_ok hrows hreplace
      obtain ⟨hcase, hopen, -⟩ := replacement_current hd
      -- a row that is left unsuperseded was so before, and was not the current one of the case
      have hothers : ∀ y ∈ db.policyDecisions,
          (y.after (db.currentDecision c.id) now).supersededAt = none →
          y.after (db.currentDecision c.id) now = y ∧ y.caseId ≠ d.caseId := by
        intro y hy hyopen
        obtain ⟨hsame, hnot⟩ := PolicyDecision.after_open hyopen
        refine ⟨hsame, fun hycase => ?_⟩
        have hcurrent := hone.currentDecision hy (hsame ▸ hyopen)
        rw [hycase, hcase] at hcurrent
        exact hnot y hcurrent rfl
      intro x hx x' hx' hxcase hxopen hxopen'
      rcases (hmem x).mp hx with rfl | ⟨y, hy, -, rfl⟩ <;>
        rcases (hmem x').mp hx' with rfl | ⟨y', hy', -, rfl⟩
      · rfl
      · obtain ⟨hsame, hne⟩ := hothers y' hy' hxopen'
        rw [hsame] at hxcase
        exact absurd hxcase.symm hne
      · obtain ⟨hsame, hne⟩ := hothers y hy hxopen
        rw [hsame] at hxcase
        exact absurd hxcase hne
      · obtain ⟨hsame, -⟩ := hothers y hy hxopen
        obtain ⟨hsame', -⟩ := hothers y' hy' hxopen'
        rw [hsame] at hxcase hxopen ⊢
        rw [hsame'] at hxcase hxopen' ⊢
        exact hone y hy y' hy' hxcase hxopen hxopen'

/-! ### Who made a decision

A decision is reactivated with the verdict it has stored, so what the verdict was
computed from is a fact about an earlier step. `MadeBy` names the step, and no later
step changes what it says, since only the end of a decision is ever written.
-/

/--
The step made the decision: it evaluated the policy on the case and the proposal of
that moment, and nothing but the end of the decision has been written since.
-/
structure MadeBy (x : Run.Step System Label) (d : PolicyDecision) (c : PaymentCase)
    (proposal : StrategyProposal) : Prop where
  label : ∃ proposalId, x.label = .service (.evaluatePolicy c.id proposalId d.id)
  evaluable : Evaluable x.pre.db c.id c proposal x.pre.clock
  columns : d.reactivated =
    buildDecision c proposal (x.pre.db.inputsFor c proposal x.pre.clock) d.id x.pre.clock

/-- A copy that differs in its end only was made by the same step. -/
theorem MadeBy.congr {x : Run.Step System Label} {d d' : PolicyDecision} {c : PaymentCase}
    {proposal : StrategyProposal} (h : MadeBy x d c proposal)
    (hd : d'.reactivated = d.reactivated) : MadeBy x d' c proposal := by
  have hid : d'.reactivated.id = d.reactivated.id := by rw [hd]
  replace hid : d'.id = d.id := hid
  exact ⟨hid ▸ h.label, h.evaluable, hid ▸ hd.trans h.columns⟩

/-- Decisions are written by policy evaluations only. -/
theorem step_decisions {s s' : System} {l : Label} (hhints : HintsOk s) (h : step s l = some s') :
    s'.db.policyDecisions = s.db.policyDecisions ∨
    ∃ proposalId newId result c proposal, l = .service (.evaluatePolicy c.id proposalId newId) ∧
      Evaluable s.db c.id c proposal s.clock ∧
      Evaluated s.db c proposal newId s.clock s'.db result := by
  have hcommit := step_commit hhints h
  generalize hdb : s'.db = db' at hcommit ⊢
  cases hcommit with
  | executed hmoved =>
      rw [hmoved.frame]
      exact .inl rfl
  | reconciled hphase howns hstatus hresult =>
      rw [reconcileEntity_frame hresult]
      exact .inl rfl
  | @evaluated caseId newId proposalId =>
      cases h
      simp only [serviceStep] at hdb
      split at hdb
      · rename_i db'' result hok
        obtain ⟨c, proposal, hevaluable, hevaluated⟩ := evaluatePolicy_evaluated hok
        have hid : c.id = caseId := Table.get?_key hevaluable.stored
        subst hid
        exact .inr ⟨proposalId, newId, result, c, proposal, rfl, hevaluable, hdb ▸ hevaluated⟩
      · exact .inl (congrArg Db.policyDecisions hdb.symm)
  | _ => exact .inl rfl

/-- A decision that is inserted has an identifier of its own. -/
theorem replaceDecision_fresh {decisions decisions' : Table PolicyDecision}
    {current : Option PolicyDecision} {new d : PolicyDecision} {at' : Int}
    (hcurrent : ∀ c ∈ current, c ∈ decisions)
    (h : replaceDecision decisions current none new at' = .ok (decisions', d)) :
    ∀ y ∈ decisions, y.id ≠ new.id := by
  intro y hy
  cases current with
  | none =>
      obtain ⟨inserted, hinsert, -⟩ := bind_eq_ok.mp h
      obtain ⟨-, -, hinsert⟩ := insertDecision_eq_ok.mp hinsert
      exact Table.insert?_fresh hinsert hy
  | some current =>
      obtain ⟨flushed, hflush, h⟩ := bind_eq_ok.mp h
      obtain ⟨inserted, hinsert, -⟩ := bind_eq_ok.mp h
      obtain ⟨-, rfl⟩ := flushDecision_eq_ok.mp hflush
      obtain ⟨-, -, hinsert⟩ := insertDecision_eq_ok.mp hinsert
      have hstill : y.after (some current) at' ∈ decisions.put (current.superseded at') :=
        (mem_superseded (hcurrent current rfl)).mpr ⟨y, hy, rfl⟩
      have hfresh : (y.after (some current) at').id ≠ new.id := Table.insert?_fresh hinsert hstill
      simpa using hfresh

theorem PolicyDecision.after_reactivated (current : Option PolicyDecision) (at' : Int)
    (d : PolicyDecision) : (d.after current at').reactivated = d.reactivated := by
  unfold PolicyDecision.after
  split <;> rfl

/-- An evaluation writes the ends of decisions, and no other column. -/
theorem Evaluated.kept {db db' : Db} {c : PaymentCase} {proposal : StrategyProposal} {newId : Uuid}
    {now : Int} {result : PolicyEvaluationResult}
    (h : Evaluated db c proposal newId now db' result) {y : PolicyDecision}
    (hy : y ∈ db.policyDecisions) :
    ∃ y' ∈ db'.policyDecisions, y'.reactivated = y.reactivated := by
  cases h with
  | reused hidentical hopen => exact ⟨y, hy, rfl⟩
  | @replaced decisions d w hrows hreplace hw =>
      obtain ⟨hd, hmem⟩ := replaceDecision_eq_ok hrows hreplace
      by_cases hid : y.id = d.id
      · refine ⟨d, (hmem d).mpr (.inl rfl), ?_⟩
        cases hidentical : db.identicalDecision c proposal now with
        | none =>
            rw [hidentical] at hreplace hd
            exact absurd (hid.trans (congrArg PolicyDecision.id hd))
              (replaceDecision_fresh (fun c hc => (hrows.current_row c hc).1) hreplace y hy)
        | some existing =>
            rw [hidentical] at hd
            have hsame : d = existing.reactivated := hd
            have hkey : y.id = existing.id := by rw [hid, hsame]; rfl
            rw [Table.eq_of_key_eq hy (findIdenticalDecision_some hidentical).1 hkey, hsame]
            rfl
      · exact ⟨_, (hmem _).mpr (.inr ⟨y, hy, hid, rfl⟩), y.after_reactivated _ _⟩

theorem step_decision_kept {s s' : System} {l : Label} (hhints : HintsOk s)
    (h : step s l = some s') {d : PolicyDecision} (hd : d ∈ s.db.policyDecisions) :
    ∃ d' ∈ s'.db.policyDecisions, d'.reactivated = d.reactivated := by
  rcases step_decisions hhints h with hsame | ⟨_, _, _, _, _, -, -, hevaluated⟩
  · exact ⟨d, hsame ▸ hd, rfl⟩
  · exact hevaluated.kept hd

/-- **A decision is never deleted, and nothing but its end is ever written.** -/
theorem decision_kept {s s' : System} {tr : List (Run.Step System Label)} (hhints : HintsOk s)
    (h : Run.Trace step s tr s') {d : PolicyDecision} (hd : d ∈ s.db.policyDecisions) :
    ∃ d' ∈ s'.db.policyDecisions, d'.reactivated = d.reactivated := by
  have hboth : HintsOk s' ∧ ∃ d' ∈ s'.db.policyDecisions, d'.reactivated = d.reactivated := by
    refine h.invariant (I := fun s => HintsOk s ∧
      ∃ d' ∈ s.db.policyDecisions, d'.reactivated = d.reactivated) ⟨hhints, d, hd, rfl⟩ ?_
    rintro x - ⟨hhints, d', hd', hsame⟩ hx
    obtain ⟨d'', hd'', hsame'⟩ := step_decision_kept hhints hx hd'
    exact ⟨hintsOk_step hhints hx, d'', hd'', hsame'.trans hsame⟩
  exact hboth.2

/-- The decisions a run has left. -/
structure DecisionsOk (tr : List (Run.Step System Label)) (s : System) : Prop where
  one : OneCurrent s.db.policyDecisions
  made : ∀ d ∈ s.db.policyDecisions, ∃ x ∈ tr, ∃ c proposal, MadeBy x d c proposal

theorem decisionsOk_trace {clock : Int} {tr : List (Run.Step System Label)} {s : System}
    (h : RunTrace clock tr s) : DecisionsOk tr s := by
  induction h with
  | nil =>
      exact ⟨fun d hd => absurd hd (Table.not_mem_empty _),
        fun d hd => absurd hd (Table.not_mem_empty _)⟩
  | @snoc tr s s' l htr hs ih =>
      obtain ⟨hhints, -, -⟩ := audited_reachable ⟨tr, htr⟩
      have hearlier : ∀ {d}, d ∈ s.db.policyDecisions → ∀ {d' : PolicyDecision},
          d'.reactivated = d.reactivated →
          ∃ x ∈ tr ++ [⟨s, l, s'⟩], ∃ c proposal, MadeBy x d' c proposal := by
        intro d hd d' hsame
        obtain ⟨x, hx, c, proposal, hmade⟩ := ih.made d hd
        exact ⟨x, List.mem_append_left _ hx, c, proposal, hmade.congr hsame⟩
      rcases step_decisions hhints hs with hsame | ⟨proposalId, newId, result, c, proposal, rfl,
        hevaluable, hevaluated⟩
      · exact ⟨hsame ▸ ih.one, fun d hd => hearlier (hsame ▸ hd) rfl⟩
      · refine ⟨ih.one.evaluated hevaluated, ?_⟩
        have hhere : MadeBy ⟨s, .service (.evaluatePolicy c.id proposalId newId), s'⟩
            (buildDecision c proposal (s.db.inputsFor c proposal s.clock) newId s.clock) c proposal :=
          ⟨⟨proposalId, rfl⟩, hevaluable, rfl⟩
        generalize s'.db = db' at hevaluated
        cases hevaluated with
        | reused hidentical hopen => exact fun d hd => hearlier hd rfl
        | @replaced decisions d w hrows hreplace hw =>
            obtain ⟨hd, hmem⟩ := replaceDecision_eq_ok hrows hreplace
            intro x hx
            rcases (hmem x).mp hx with rfl | ⟨y, hy, -, rfl⟩
            · cases hidentical : s.db.identicalDecision c proposal s.clock with
              | none =>
                  rw [hidentical] at hd
                  replace hd : x = buildDecision c proposal (s.db.inputsFor c proposal s.clock) newId
                    s.clock := hd
                  rw [hd]
                  exact ⟨_, by simp, c, proposal, hhere⟩
              | some existing =>
                  rw [hidentical] at hd
                  replace hd : x = existing.reactivated := hd
                  rw [hd]
                  exact hearlier (findIdenticalDecision_some hidentical).1 rfl
            · exact hearlier hy (y.after_reactivated _ _)

end Arc
