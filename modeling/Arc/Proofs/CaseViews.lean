/-
What the operator is shown.

Two things are proved of the read models in every reachable state.  The case list and the
case detail show the proposal, the decision and the approval the services act on.  And the
lists can be read page by page: the case list always, since its sort ends with the case
reference; the approval queue and the action list, which are sorted by an instant alone,
exactly where no two rows with one instant stand on different sides of a page boundary.
-/
import Arc.Proofs.Custody
import Arc.ReadModels.Cases
import Arc.Sorting.Paging
import Mathlib.Order.Extension.Linear

namespace Arc

open Store Sorting

section

variable [Platform]

/-! ### The rows the services act on

The services search with the database, the read model searches the rows it has loaded
with the case. The two find the same rows because there is one open proposal, one
current decision and one request for it, whatever order the rows were loaded in.
-/

/-- The case list and the case detail show the rows the services act on. -/
structure ShowsCurrent (createdAt : CaseRowsCreatedAt) (db : Db) (c : PaymentCase) : Prop where
  strategy : (caseDetail createdAt db c).strategy =
    (db.currentProposal c.id).map (strategyProjection createdAt)
  policy : (caseDetail createdAt db c).policy = (db.currentDecision c.id).map policyProjection
  approval : (caseDetail createdAt db c).approval =
    ((db.currentDecision c.id).bind fun d => db.approvalFor d.id).map approvalProjection
  item_strategy : (caseListItem createdAt db c).strategyAction =
    (db.currentProposal c.id).map StrategyProposal.action
  item_provenance : (caseListItem createdAt db c).strategyProvenance =
    strategyProvenance (db.currentProposal c.id)
  item_policy : (caseListItem createdAt db c).policyResult =
    (db.currentDecision c.id).map PolicyDecision.result
  item_approval : (caseListItem createdAt db c).approvalStatus =
    ((db.currentDecision c.id).bind fun d => db.approvalFor d.id).map ApprovalRequest.status

/-- An approval of a decision is of the decision's case. -/
theorem Custody.approval_case {db : Db} (h : Custody db) {d : PolicyDecision}
    (hd : d ∈ db.policyDecisions) {a : ApprovalRequest} (ha : a ∈ db.approvalRequests)
    (hdecision : a.policyDecisionId = d.id) : a.caseId = d.caseId := by
  obtain ⟨d', hd', habout⟩ := h.approvals a ha
  obtain rfl : d' = d := Table.eq_of_key_eq hd' hd (habout.decision_eq.symm.trans hdecision)
  exact habout.case_eq

/-- **What is shown as current is what the services take as current.** -/
theorem shows_current {clock : Int} {tr : List (Run.Step System Label)} {s : System}
    (h : RunTrace clock tr s) (createdAt : CaseRowsCreatedAt) (c : PaymentCase) :
    ShowsCurrent createdAt s.db c := by
  have hstrategy : currentStrategyOf createdAt s.db c.id = s.db.currentProposal c.id :=
    currentStrategyOf_eq (oneOpen_reachable ⟨tr, h⟩)
  have hpolicy : currentDecisionOf s.db c.id = s.db.currentDecision c.id :=
    currentDecisionOf_eq (decisionsOk_trace h).one
  have happroval : approvalForDecision s.db c.id (s.db.currentDecision c.id) =
      (s.db.currentDecision c.id).bind fun d => s.db.approvalFor d.id := by
    cases hcurrent : s.db.currentDecision c.id with
    | none => rfl
    | some d =>
        obtain ⟨hd, hcase, -⟩ := currentDecision_eq_some hcurrent
        refine approvalForDecision_eq (oneRequest_trace h) fun a ha hdecision => ?_
        exact ((custody_trace h).2.approval_case hd ha hdecision).trans hcase
  rw [← hpolicy] at happroval
  exact
    { strategy := by rw [← hstrategy]; rfl
      policy := by rw [← hpolicy]; rfl
      approval := by rw [← hpolicy, ← happroval]; rfl
      item_strategy := by rw [← hstrategy]; rfl
      item_provenance := by rw [← hstrategy]; rfl
      item_policy := by rw [← hpolicy]; rfl
      item_approval := by rw [← hpolicy, ← happroval]; rfl }

/-! ### The case list, page by page

A page is a query of its own with an offset, and the database may order tied rows
differently for each of them. The sort ends with the reference, so nothing ties, every
query sees one order, and the pages are consecutive pieces of it.
-/

section

variable (collation : LinearOrder CaseReference)

instance listedBefore_refl : Std.Refl (listedBefore collation) :=
  ⟨fun _ => .inr ⟨rfl, collation.le_refl _⟩⟩

instance listedBefore_trans : IsTrans PaymentCase (listedBefore collation) := by
  refine ⟨fun c c' c'' h h' => ?_⟩
  unfold listedBefore at h h' ⊢
  rcases h with h | ⟨h, hreference⟩ <;> rcases h' with h' | ⟨h', hreference'⟩
  · exact .inl (by omega)
  · exact .inl (by omega)
  · exact .inl (by omega)
  · exact .inr ⟨by omega, collation.le_trans _ _ _ hreference hreference'⟩

instance listedBefore_total : Std.Total (listedBefore collation) := by
  refine ⟨fun c c' => ?_⟩
  unfold listedBefore
  rcases lt_trichotomy c.detectedAt c'.detectedAt with h | h | h
  · exact .inr (.inl h)
  · rcases collation.le_total c.caseReference c'.caseReference with hle | hle
    · exact .inl (.inr ⟨h, hle⟩)
    · exact .inr (.inr ⟨h.symm, hle⟩)
  · exact .inl (.inl h)

/-- Two cases that tie have one reference. -/
theorem listedBefore_antisymm {c c' : PaymentCase} (h : listedBefore collation c c')
    (h' : listedBefore collation c' c) : c.caseReference = c'.caseReference := by
  unfold listedBefore at h h'
  rcases h with h | ⟨h, hle⟩ <;> rcases h' with h' | ⟨h', hle'⟩
  · omega
  · omega
  · omega
  · exact collation.le_antisymm _ _ hle hle'

theorem caseListRows_nodup (db : Db) (filter : CaseFilter) : (caseListRows db filter).Nodup :=
  (List.Nodup.of_map _ db.cases.nodup).filter _

/-- No two cases of a list tie, since no two cases have one reference. -/
theorem Audited.separates {db : Db} (h : Audited db) (filter : CaseFilter) :
    Separates (listedBefore collation) (caseListRows db filter) := by
  intro c hc c' hc' hbefore hafter
  exact h.reference c (Table.mem_select.mp hc).1 c' (Table.mem_select.mp hc').1
    (listedBefore_antisymm collation hbefore hafter)

end

/--
**The case list can be read page by page.**  In every reachable state the filter admits a
case once, each query returns the page the model computes, and enough pages show every case
admitted, in order, however the database orders rows it may order either way.
-/
theorem case_list_read_through {clock : Int} {tr : List (Run.Step System Label)} {s : System}
    (h : RunTrace clock tr s) (createdAt : CaseRowsCreatedAt)
    (collation : LinearOrder CaseReference) (filter : CaseFilter) (limit : Nat)
    {answers : Nat → List PaymentCase}
    (hanswers : ∀ k, Orders (listedBefore collation) (caseListRows s.db filter) (answers k)) :
    (caseListRows s.db filter).Nodup ∧
    (∀ k, (page limit (k * limit) (answers k)).map (caseListItem createdAt s.db) =
      listCaseSummaries createdAt s.db collation filter limit (k * limit)) ∧
    ∀ count, (caseListRows s.db filter).length ≤ count * limit →
      Orders (listedBefore collation) (caseListRows s.db filter) (pages limit answers count) := by
  obtain ⟨-, -, haudited⟩ := audited_reachable ⟨tr, h⟩
  have hseparates := haudited.separates collation filter
  have hsorted := orders_insertionSort (listedBefore collation) (caseListRows s.db filter)
  refine ⟨caseListRows_nodup s.db filter, fun k => ?_, fun count hcount => ?_⟩
  · rw [hseparates.orders_unique (hanswers k) hsorted]
    rfl
  · rw [hseparates.pages_eq hsorted hanswers,
      List.take_of_length_le (hsorted.perm.length_eq ▸ hcount)]
    exact hsorted

/-! ### The approval queue and the action list, page by page

An approval is joined with its case, its decision and the proposal, an action with its
case, and each list is sorted by one instant. `Custody` says that no join loses a row.
Rows of one instant may change places between two queries, so a page boundary between
them can show one of them twice and the other not at all; `Sorting.Cut` is that
situation.
-/

/-- `order_by(requested_at.desc())` -/
def requestedBefore (x y : ApprovalQueueRow) : Prop :=
  y.approval.requestedAt ≤ x.approval.requestedAt

/-- The rows of the approval queue, before they are put in order. -/
def queuedRows (db : Db) (status : ApprovalStatus) : List ApprovalQueueRow :=
  (db.approvalRequests.select fun a => a.status == status).filterMap (joinApproval db)

/-- `order_by(created_at.desc())` -/
def createdBefore (createdAt : RowsCreatedAt) (x y : RecoveryActionRow) : Prop :=
  createdAt.recoveryActions y.action.id ≤ createdAt.recoveryActions x.action.id

/-- The rows of the action list, before they are put in order. -/
def recordedRows (db : Db) : List RecoveryActionRow :=
  (db.recoveryActions.select fun _ => true).filterMap fun r =>
    (db.cases.get? r.caseId).map (RecoveryActionRow.mk r)

instance requestedBeforeDecidable : DecidableRel requestedBefore := fun x y =>
  inferInstanceAs (Decidable (y.approval.requestedAt ≤ x.approval.requestedAt))

instance createdBeforeDecidable (createdAt : RowsCreatedAt) : DecidableRel (createdBefore createdAt) :=
  fun x y => inferInstanceAs
    (Decidable (createdAt.recoveryActions y.action.id ≤ createdAt.recoveryActions x.action.id))

instance requestedBefore_trans : IsTrans ApprovalQueueRow requestedBefore :=
  ⟨fun _ _ _ h h' => Int.le_trans h' h⟩

instance requestedBefore_total : Std.Total requestedBefore := ⟨fun _ _ => Int.le_total _ _⟩

instance requestedBefore_refl : Std.Refl requestedBefore := ⟨fun _ => Int.le_refl _⟩

instance createdBefore_trans (createdAt : RowsCreatedAt) :
    IsTrans RecoveryActionRow (createdBefore createdAt) :=
  ⟨fun _ _ _ h h' => Int.le_trans h' h⟩

instance createdBefore_total (createdAt : RowsCreatedAt) : Std.Total (createdBefore createdAt) :=
  ⟨fun _ _ => Int.le_total _ _⟩

instance createdBefore_refl (createdAt : RowsCreatedAt) : Std.Refl (createdBefore createdAt) :=
  ⟨fun _ => Int.le_refl _⟩

omit [Platform] in
/-- Rows that are joined one for one are the rows of the table. -/
theorem map_filterMap_of_join {α β : Type} {f : α → Option β} {g : β → α} {rows : List α}
    (hback : ∀ a b, f a = some b → g b = a) (hjoin : ∀ a ∈ rows, ∃ b, f a = some b) :
    (rows.filterMap f).map g = rows := by
  rw [List.map_filterMap]
  refine (List.filterMap_congr fun a ha => ?_).trans List.filterMap_some
  obtain ⟨b, hb⟩ := hjoin a ha
  rw [hb, Option.map_some, hback a b hb]

/-- Every approval can be joined with its case, its decision and the proposal decided on. -/
theorem Custody.queuedRows_approval {db : Db} (h : Custody db) (status : ApprovalStatus) :
    (queuedRows db status).map ApprovalQueueRow.approval =
      db.approvalRequests.select fun a => a.status == status := by
  refine map_filterMap_of_join (fun a row hrow => ?_) fun a ha => ?_
  · obtain ⟨c, -, hrow⟩ := Option.bind_eq_some_iff.mp hrow
    obtain ⟨d, -, hrow⟩ := Option.bind_eq_some_iff.mp hrow
    obtain ⟨p, -, hrow⟩ := Option.bind_eq_some_iff.mp hrow
    cases hrow
    rfl
  · obtain ⟨d, hd, habout⟩ := h.approvals a (Table.mem_select.mp ha).1
    obtain ⟨p, hp, hdecides⟩ := h.decisions d hd
    obtain ⟨c, hc, hcase⟩ := h.proposals p hp
    have hcase' : db.cases.get? a.caseId = some c :=
      Table.get?_eq_some.mpr ⟨hc, (habout.case_eq.trans (hdecides.case_eq.trans hcase)).symm⟩
    have hdecision : db.policyDecisions.get? a.policyDecisionId = some d :=
      Table.get?_eq_some.mpr ⟨hd, habout.decision_eq.symm⟩
    have hproposal : db.strategyProposals.get? d.strategyProposalId = some p :=
      Table.get?_eq_some.mpr ⟨hp, hdecides.proposal_eq.symm⟩
    refine ⟨⟨a, c, d, p⟩, ?_⟩
    simp [joinApproval, hcase', hdecision, hproposal]

theorem Custody.recordedRows_action {db : Db} (h : Custody db) :
    (recordedRows db).map RecoveryActionRow.action = db.recoveryActions.rows := by
  have hall : (db.recoveryActions.select fun _ => true) = db.recoveryActions.rows :=
    List.filter_eq_self.mpr fun _ _ => rfl
  unfold recordedRows
  rw [hall]
  refine map_filterMap_of_join (fun r row hrow => ?_) fun r hr => ?_
  · obtain ⟨c, -, rfl⟩ := Option.map_eq_some_iff.mp hrow
    rfl
  · obtain ⟨d, -, p, hp, hdecides, habout, -⟩ := h.actions r hr
    obtain ⟨c, hc, hcase⟩ := h.proposals p hp
    have hcase' : db.cases.get? r.caseId = some c :=
      Table.get?_eq_some.mpr ⟨hc, (habout.case_eq.trans (hdecides.case_eq.trans hcase)).symm⟩
    exact ⟨⟨r, c⟩, by rw [hcase', Option.map_some]⟩

/--
A query that joins a table, sorts it by `r` and cuts a page out of it.  The join loses no row
of the table and adds none, and with pages enough for them each row is shown once, in order,
however the database orders rows that tie, if and only if no two of these stand on different
sides of a page boundary.
-/
structure ReadsThrough {α β γ : Type} (r : α → α → Prop) [DecidableRel r] (f : α → β)
    (rows : List α) (table : List β) (item : α → γ) (limit : Nat) (query : Nat → List γ) : Prop where
  joined : rows.map f = table
  queried : ∀ offset, query offset = (page limit offset (rows.insertionSort r)).map item
  once_iff : ∀ count, rows.length ≤ count * limit →
    (ShowsOnce r f rows limit count ↔ ∀ n, Cut r (rows.insertionSort r) (n * limit))

/--
**The approval queue and the action list can be read page by page exactly where no tie is
cut.**  In every reachable state every approval is in the queue of its status and every action
is in the list, whatever the size of the pages.
-/
theorem lists_read_through_iff {clock : Int} {tr : List (Run.Step System Label)} {s : System}
    (h : RunTrace clock tr s) (createdAt : RowsCreatedAt) {limit : Nat} (hlimit : 0 < limit) :
    (∀ status, ReadsThrough requestedBefore ApprovalQueueRow.approval (queuedRows s.db status)
      (s.db.approvalRequests.select fun a => a.status == status) (approvalQueueItem s.db) limit
      (listApprovalQueue s.db status limit)) ∧
    ReadsThrough (createdBefore createdAt) RecoveryActionRow.action (recordedRows s.db)
      s.db.recoveryActions.rows (recoveryActionItem createdAt s.db) limit
      (listRecoveryActions createdAt s.db limit) := by
  obtain ⟨-, hcustody⟩ := custody_trace h
  have hactions := hcustody.recordedRows_action
  refine ⟨fun status => ?_, hactions, fun offset => rfl, fun count hcount => ?_⟩
  · have hqueue := hcustody.queuedRows_approval status
    refine ⟨hqueue, fun offset => rfl, fun count hcount => ?_⟩
    refine showsOnce_iff ?_ (orders_insertionSort _ _) hlimit hcount
    rw [hqueue]
    exact (List.Nodup.of_map _ s.db.approvalRequests.nodup).filter _
  · refine showsOnce_iff ?_ (orders_insertionSort _ _) hlimit hcount
    rw [hactions]
    exact List.Nodup.of_map _ s.db.recoveryActions.nodup

end

/-! ### A run and what is shown of it -/

section

attribute [local instance] asciiPlatform

/-- Rows created one after the other, in the order of their keys. -/
def createdInTurn : CaseRowsCreatedAt where
  recoveryActions := fun id => id
  attributions := fun id => id
  outcomeObservations := fun id => id
  strategyProposals := fun id => id

theorem shows_current_approved : ∃ tr s, RunTrace 0 tr s ∧
    tr.map Run.Step.label = approvedRun ∧
    ∃ c ∈ s.db.cases, (caseListItem createdInTurn s.db c).approvalStatus = some .approved ∧
      ShowsCurrent createdInTurn s.db c := by
  have hrun : (Run.replay step (System.initial 0) approvedRun).isSome = true := by decide +kernel
  obtain ⟨tr, s, htr, hlabels, hs⟩ := Run.Trace.of_isSome hrun
  have hcase : ((Run.replay step (System.initial 0) approvedRun).bind fun s =>
      (s.db.cases.get? 10).map fun c => (caseListItem createdInTurn s.db c).approvalStatus) =
      some (some .approved) := by decide +kernel
  rw [hs, Option.bind_some] at hcase
  obtain ⟨c, hc, hstatus⟩ := Option.map_eq_some_iff.mp hcase
  exact ⟨tr, s, htr, hlabels, c, Table.mem_of_get? hc, hstatus, shows_current htr createdInTurn c⟩

/-- Some order of references. -/
theorem exists_collation : Nonempty (LinearOrder CaseReference) := by
  have heq : IsPartialOrder CaseReference Eq :=
    { refl := Eq.refl, trans := fun _ _ _ => Eq.trans, antisymm := fun _ _ h _ => h }
  obtain ⟨le, hle, -⟩ := extend_partialOrder (@Eq CaseReference)
  exact ⟨
    { le := le
      le_refl := hle.refl
      le_trans := hle.trans
      le_antisymm := hle.antisymm
      le_total := hle.total
      toDecidableLE := Classical.decRel _ }⟩

def failedPayload (paymentId : String) : Json :=
  .obj [("event", .str "payment.failed"), ("account_id", .str "acc"),
    ("payload", .obj [("payment", .obj [("entity", .obj [("id", .str paymentId)])])])]

/-- A failed payment, up to the approval of a link for it and the claim of the link. -/
def approvedCase (paymentId : String) (n : Nat) (now : Int) : List Label := [
  .service (.ingest (failedPayload paymentId) paymentId (.str "d") n),
  .processor 0 (.claim n),
  .processor 0 (.fetch (.response 200 (some { samplePayment with id := paymentId })) .noResponse),
  .processor 0 (.apply ⟨10 + n, now⟩),
  .service (.assess (10 + n)),
  .strategist 0 (.prepare (10 + n) "model"),
  .strategist 0 (.answer ⟨.createRecoveryLink, "", none, "model"⟩),
  .strategist 0 (.persist (20 + n)),
  .service (.evaluatePolicy (10 + n) none (30 + n)),
  .approver 0 (.requestHint (30 + n)),
  .approver 0 (.request (70 + n)),
  .approver 0 (.decideHint (70 + n) ⟨.approved, "operator", none⟩),
  .approver 0 .decide,
  .executor n (.prepare (10 + n) (40 + n) now)]

/-- One payment fails, and two more fail later in one instant. -/
def threeCasesRun : List Label :=
  .service (.setPolicy approvalPolicy) :: approvedCase "pay_1" 1 0 ++
    .tick 60 :: (approvedCase "pay_2" 2 60 ++ approvedCase "pay_3" 3 60)

/-- Whatever the size of a page, and two of the cases tie up to their references. -/
theorem case_list_read_through_three : ∃ tr s collation, RunTrace 0 tr s ∧
    tr.map Run.Step.label = threeCasesRun ∧
    (caseListRows s.db {}).map PaymentCase.detectedAt = [0, 60, 60] ∧
    ∀ answers, (∀ k, Orders (listedBefore collation) (caseListRows s.db {}) (answers k)) →
      Orders (listedBefore collation) (caseListRows s.db {}) (pages 1 answers 3) ∧
      Orders (listedBefore collation) (caseListRows s.db {}) (pages 2 answers 2) := by
  have hrun : (Run.replay step (System.initial 0) threeCasesRun).isSome = true := by
    decide +kernel
  obtain ⟨tr, s, htr, hlabels, hs⟩ := Run.Trace.of_isSome hrun
  have hrows : ((Run.replay step (System.initial 0) threeCasesRun).map fun s =>
      (caseListRows s.db {}).map PaymentCase.detectedAt) = some [0, 60, 60] := by decide +kernel
  rw [hs, Option.map_some, Option.some.injEq] at hrows
  have hlength : (caseListRows s.db {}).length = 3 := by
    simpa using congrArg List.length hrows
  obtain ⟨collation⟩ := exists_collation
  refine ⟨tr, s, collation, htr, hlabels, hrows, fun answers hanswers => ⟨?_, ?_⟩⟩
  · exact (case_list_read_through htr createdInTurn collation {} 1 hanswers).2.2 3 hlength.le
  · exact (case_list_read_through htr createdInTurn collation {} 2 hanswers).2.2 2
      (hlength.le.trans (by decide))

/-- Rows created together, but for the first action. -/
def createdTogether : RowsCreatedAt where
  recoveryActions := fun id => if id = 41 then 0 else 60
  attributions := fun _ => 0
  outcomeObservations := fun _ => 0

/-- Three rows are shown once in pages of two, and not in pages of one, if the last two tie. -/
theorem ReadsThrough.three {α β γ : Type} {r : α → α → Prop} [DecidableRel r] {f : α → β}
    {rows : List α} {table : List β} {item : α → γ} {query₁ query₂ : Nat → List γ}
    (h₂ : ReadsThrough r f rows table item 2 query₂) (h₁ : ReadsThrough r f rows table item 1 query₁)
    (hlength : rows.length = 3) (huncut : ∀ n < 3, Cut r (rows.insertionSort r) (n * 2))
    (htie : ¬ Cut r (rows.insertionSort r) (1 * 1)) :
    ShowsOnce r f rows 2 2 ∧ ¬ ShowsOnce r f rows 1 3 := by
  constructor
  · refine (h₂.once_iff 2 (hlength.le.trans (by decide))).mpr ?_
    rw [cuts_iff (by decide), List.length_insertionSort, hlength]
    exact huncut
  · intro honce
    exact htie ((h₁.once_iff 3 hlength.le).mp honce 1)

/-- The last two rows of each list tie; a page of two holds both, a page of one cuts between them. -/
theorem lists_read_through_iff_three : ∃ tr s, RunTrace 0 tr s ∧
    tr.map Run.Step.label = threeCasesRun ∧
    (queuedRows s.db .approved).map (fun row => row.approval.requestedAt) = [0, 60, 60] ∧
    (ShowsOnce requestedBefore ApprovalQueueRow.approval (queuedRows s.db .approved) 2 2 ∧
      ¬ ShowsOnce requestedBefore ApprovalQueueRow.approval (queuedRows s.db .approved) 1 3) ∧
    (recordedRows s.db).map (fun row => createdTogether.recoveryActions row.action.id) = [0, 60, 60] ∧
    ShowsOnce (createdBefore createdTogether) RecoveryActionRow.action (recordedRows s.db) 2 2 ∧
      ¬ ShowsOnce (createdBefore createdTogether) RecoveryActionRow.action (recordedRows s.db) 1 3 := by
  have hrun : (Run.replay step (System.initial 0) threeCasesRun).isSome = true := by
    decide +kernel
  obtain ⟨tr, s, htr, hlabels, hs⟩ := Run.Trace.of_isSome hrun
  have hrows : ((Run.replay step (System.initial 0) threeCasesRun).map fun s =>
      ((queuedRows s.db .approved).map fun row => row.approval.requestedAt,
        (recordedRows s.db).map fun row => createdTogether.recoveryActions row.action.id)) =
      some ([0, 60, 60], [0, 60, 60]) := by decide +kernel
  have hcuts : (Run.replay step (System.initial 0) threeCasesRun).all (fun s => decide
      (((∀ n < 3, Cut requestedBefore
          ((queuedRows s.db .approved).insertionSort requestedBefore) (n * 2)) ∧
        ¬ Cut requestedBefore ((queuedRows s.db .approved).insertionSort requestedBefore) (1 * 1)) ∧
      (∀ n < 3, Cut (createdBefore createdTogether)
          ((recordedRows s.db).insertionSort (createdBefore createdTogether)) (n * 2)) ∧
        ¬ Cut (createdBefore createdTogether)
          ((recordedRows s.db).insertionSort (createdBefore createdTogether)) (1 * 1))) = true := by
    decide +kernel
  rw [hs] at hrows hcuts
  simp only [Option.map_some, Option.some.injEq, Prod.mk.injEq] at hrows
  obtain ⟨⟨hqueue, hqueueTie⟩, hactions, hactionsTie⟩ := of_decide_eq_true hcuts
  obtain ⟨hqueued, hrecorded⟩ := hrows
  have hqueueLength : (queuedRows s.db .approved).length = 3 := by
    simpa using congrArg List.length hqueued
  have hactionsLength : (recordedRows s.db).length = 3 := by
    simpa using congrArg List.length hrecorded
  obtain ⟨hqueues₂, hlist₂⟩ := lists_read_through_iff htr createdTogether (show 0 < 2 by decide)
  obtain ⟨hqueues₁, hlist₁⟩ := lists_read_through_iff htr createdTogether (show 0 < 1 by decide)
  exact ⟨tr, s, htr, hlabels, hqueued,
    (hqueues₂ .approved).three (hqueues₁ .approved) hqueueLength hqueue hqueueTie, hrecorded,
    hlist₂.three hlist₁ hactionsLength hactions hactionsTie⟩

end

end Arc
