/-
The timeline tells the whole story, in order, and keeps to it.

The entries are sorted by instant and stage, and the numbers they are given on the way make
the sort stable and nothing else.  So every row of the case has its entries, and a case of a
reachable state has one detection.  The database may load rows that the order of their table
leaves equal in any order; the timeline does not depend on it exactly where two such rows
give the same entries whichever comes first (`loaded_iff`).

Later in a run every entry is found again.  It is as it was, up to the label of its origin,
unless it tells of an approval that was decided again or of an action that has moved on.
The mark of a synthetic input, which turns one entry of the trail into another one, is set
by no step of a run.
-/
import Arc.Proofs.CaseViews
import Arc.ReadModels.Timeline
import Arc.Sorting.Blocks
import Arc.Sorting.Embedding

namespace Arc

open Store Sorting

/-! ### Order -/

/-- An entry comes no later than another: by its instant, then by its stage. -/
def TimelineItem.NoLater (a b : TimelineItem) : Prop :=
  toLex (a.timestamp, a.stage.order) ≤ toLex (b.timestamp, b.stage.order)

instance noLaterDecidable : DecidableRel TimelineItem.NoLater := fun a b =>
  inferInstanceAs (Decidable (toLex (a.timestamp, a.stage.order) ≤ toLex (b.timestamp, b.stage.order)))

instance noLater_trans : IsTrans TimelineItem TimelineItem.NoLater := ⟨fun _ _ _ => le_trans⟩

instance noLater_total : Std.Total TimelineItem.NoLater := ⟨fun _ _ => le_total _ _⟩

/-- The sequence numbers make the sort stable. -/
theorem sortTimeline_eq (ordered : List TimelineItem) :
    sortTimeline ordered = ordered.insertionSort TimelineItem.NoLater := by
  refine insertionSort_zipIdx (fun a b hle => ?_) ordered
  simp only [TimelineItem.place, TimelineItem.NoLater, Prod.Lex.toLex_le_toLex]
  constructor
  · rintro (h | ⟨h, h' | ⟨h', -⟩⟩)
    · exact .inl h
    · exact .inr ⟨h, h'.le⟩
    · exact .inr ⟨h, h'.le⟩
  · rintro (h | ⟨h, h'⟩)
    · exact .inl h
    · exact .inr ⟨h, (Nat.lt_or_eq_of_le h').imp_right fun heq => ⟨heq, hle⟩⟩

theorem sortTimeline_perm (ordered : List TimelineItem) : (sortTimeline ordered).Perm ordered := by
  rw [sortTimeline_eq]
  exact List.perm_insertionSort _ _

theorem sortTimeline_sorted (ordered : List TimelineItem) :
    (sortTimeline ordered).Pairwise TimelineItem.NoLater := by
  rw [sortTimeline_eq]
  exact List.pairwise_insertionSort _ _

/-! ### One detection -/

section

variable {columns : EventColumns} {origin : Option DataOrigin} {event : CaseEvent}

theorem timelineFromCaseEvent_detected (h : event.eventType = "CASE_DETECTED") :
    ∃ a, timelineFromCaseEvent columns origin event = some a ∧ a.stage = .detected := by
  refine ⟨detectedEntry origin columns.createdAt, ?_, rfl⟩
  unfold timelineFromCaseEvent
  rw [if_neg, if_neg, if_pos h]
  · rintro ⟨hdemo, -⟩
    exact absurd (h.symm.trans hdemo) (by decide)
  · rintro ⟨hevidence, -⟩
    exact absurd (h.symm.trans hevidence) (by decide)

/-- Only the detection is shown as a detection. -/
theorem timelineFromCaseEvent_stage {a : TimelineItem}
    (h : timelineFromCaseEvent columns origin event = some a) :
    a.stage = .detected ↔ event.eventType = "CASE_DETECTED" := by
  by_cases hdetected : event.eventType = "CASE_DETECTED"
  · obtain ⟨a', ha', hstage⟩ : ∃ a', timelineFromCaseEvent columns origin event = some a' ∧
        a'.stage = .detected := timelineFromCaseEvent_detected hdetected
    rw [h, Option.some.injEq] at ha'
    exact iff_of_true (ha' ▸ hstage) hdetected
  · refine iff_of_false (fun hstage => ?_) hdetected
    unfold timelineFromCaseEvent at h
    rw [if_neg hdetected] at h
    repeat' split at h
    all_goals
      cases h
      try cases hstage

end

section

variable [Platform] {createdAt : CaseRowsCreatedAt} {columns : Nat → EventColumns} {db : Db}

omit [Platform] in
theorem orderedBy_perm {α : Type} (key : α → Int) (rows : List α) :
    (orderedBy key rows).Perm rows := List.perm_insertionSort _ _

variable (columns db) in
/-- The trail of a case with its columns is the trail of the case. -/
theorem map_trailOf (caseId : Uuid) :
    (trailOf columns db caseId).map Prod.fst = db.eventsOf caseId := by
  have hfst : db.eventsOf caseId =
      (db.caseEvents.zipIdx.map Prod.fst).filter fun e => e.caseId == caseId := by
    rw [List.zipIdx_map_fst]
    rfl
  rw [hfst, List.filter_map, trailOf, List.map_map]
  rfl

theorem mappedDetection_of_detected {caseId : Uuid} (origin : Option DataOrigin)
    (h : ∃ e ∈ db.eventsOf caseId, e.eventType = "CASE_DETECTED") :
    mappedDetection columns db caseId origin = true := by
  obtain ⟨e, he, hdetected⟩ := h
  rw [← map_trailOf columns] at he
  obtain ⟨⟨e', columns'⟩, hmem, rfl⟩ := List.mem_map.mp he
  obtain ⟨a, ha, -⟩ : ∃ a, timelineFromCaseEvent columns' origin e' = some a ∧
    a.stage = .detected := timelineFromCaseEvent_detected hdetected
  refine List.any_eq_true.mpr ⟨_, hmem, ?_⟩
  rw [ha, Option.isSome_some, Bool.true_and]
  exact beq_iff_eq.mpr hdetected

omit [Platform] in
theorem no_detection {α : Type} {f : α → TimelineItem} (h : ∀ r, (f r).stage ≠ .detected)
    (rows : List α) : (rows.map f).countP (fun a => a.stage == .detected) = 0 := by
  rw [List.countP_map, List.countP_eq_zero]
  exact fun r _ hr => h r (beq_iff_eq.mp hr)

/-- The trail shows as many detections as it has. -/
theorem countP_trailEntries (caseId : Uuid) (origin : Option DataOrigin) :
    (trailEntries columns db caseId origin).countP (fun a => a.stage == .detected) =
      (db.eventsOf caseId).countP fun e => e.eventType == "CASE_DETECTED" := by
  rw [trailEntries, List.countP_filterMap, (orderedBy_perm _ _).countP_eq,
    ← map_trailOf columns, List.countP_map]
  refine List.countP_congr fun e _ => ?_
  cases hshown : timelineFromCaseEvent e.2 origin e.1 with
  | none =>
      refine iff_of_false (by simp) fun hdetected => ?_
      obtain ⟨a, ha, -⟩ : ∃ a, timelineFromCaseEvent e.2 origin e.1 = some a ∧
        a.stage = .detected := timelineFromCaseEvent_detected (beq_iff_eq.mp hdetected)
      rw [hshown] at ha
      cases ha
  | some a => simpa using timelineFromCaseEvent_stage hshown

/-- Where the trail has one detection it is shown, and no other. -/
theorem addedEntries_detected {c : PaymentCase} (origin : Option DataOrigin)
    (hone : ((db.eventsOf c.id).countP fun e => e.eventType == "CASE_DETECTED") = 1) :
    (addedEntries createdAt columns db c origin).countP (fun a => a.stage == .detected) = 1 := by
  have hmapped : mappedDetection columns db c.id origin = true := by
    obtain ⟨e, he, hdetected⟩ := List.countP_pos_iff.mp (hone ▸ Nat.one_pos)
    exact mappedDetection_of_detected origin ⟨e, he, beq_iff_eq.mp hdetected⟩
  have happrovals : ∀ rows : List ApprovalRequest,
      (rows.flatMap (approvalEntries origin)).countP (fun a => a.stage == .detected) = 0 := by
    intro rows
    rw [List.countP_eq_zero]
    intro a ha hstage
    obtain ⟨approval, -, ha⟩ := List.mem_flatMap.mp ha
    rcases List.mem_cons.mp ha with rfl | ha
    · cases beq_iff_eq.mp hstage
    · obtain ⟨decidedAt, -, rfl⟩ := Option.map_eq_some_iff.mp (Option.mem_toList.mp ha)
      cases beq_iff_eq.mp hstage
  have hstrategies := no_detection (f := strategyEntry createdAt origin) fun _ h => by cases h
  have hdecisions := no_detection (f := policyEntry origin) fun _ h => by cases h
  have hactions := no_detection (f := executionEntry createdAt origin) fun _ h => by cases h
  have hobservations := no_detection (f := outcomeEntry origin) fun _ h => by cases h
  have hattributions := no_detection (f := attributionEntry origin) fun _ h => by cases h
  unfold addedEntries
  rw [if_pos hmapped]
  simp only [List.countP_append, List.countP_nil, countP_trailEntries, hone, happrovals,
    hstrategies, hdecisions, hactions, hobservations, hattributions, Nat.add_zero]

/-! ### Entries and later versions of them

A row that is rewritten changes the entries it gives. `Continues` lists the changes a
reader can see later in the run, and the lemmas about the relationships say that later
rows embed the earlier ones, each at its place.
-/

/-- What an entry may turn into while the run goes on. -/
inductive TimelineItem.Continues (createdAt : CaseRowsCreatedAt) :
    TimelineItem → TimelineItem → Prop
  | same (a : TimelineItem) (origin : Option DataOrigin) :
      Continues createdAt a { a with dataOrigin := origin }
  /-- The approval was decided once more. -/
  | decided {a a' : ApprovalRequest} (origin origin' : Option DataOrigin) (decidedAt decidedAt' : Int)
      (h : a.Continues a') :
      Continues createdAt (decidedEntry origin a decidedAt) (decidedEntry origin' a' decidedAt')
  /-- The action has moved on. -/
  | executed {r r' : RecoveryActionRecord} (origin origin' : Option DataOrigin)
      (h : r.Continues r') :
      Continues createdAt (executionEntry createdAt origin r) (executionEntry createdAt origin' r')

/-- The rows that hang on a case. -/
structure CaseRows where
  trail : List (CaseEvent × EventColumns)
  strategyProposals : List StrategyProposal
  policyDecisions : List PolicyDecision
  approvalRequests : List ApprovalRequest
  recoveryActions : List RecoveryActionRecord
  outcomeObservations : List RecoveryOutcomeObservation
  attributions : List RecoveryAttribution

variable (columns db) in
/-- The rows of a case as they are stored. -/
def caseRows (caseId : Uuid) : CaseRows where
  trail := trailOf columns db caseId
  strategyProposals := db.strategyProposals.select fun p => p.caseId == caseId
  policyDecisions := db.policyDecisions.select fun d => d.caseId == caseId
  approvalRequests := db.approvalRequests.select fun a => a.caseId == caseId
  recoveryActions := db.recoveryActions.select fun r => r.caseId == caseId
  outcomeObservations := db.outcomeObservations.select fun o => o.caseId == caseId
  attributions := db.attributions.select fun a => a.caseId == caseId

/-- In the order of a column. -/
def By {ρ : Type} (key : ρ → Int) (x y : ρ) : Prop := key x ≤ key y

instance by_decidable {ρ : Type} (key : ρ → Int) : DecidableRel (By key) :=
  fun x y => inferInstanceAs (Decidable (key x ≤ key y))

instance by_trans {ρ : Type} (key : ρ → Int) : IsTrans ρ (By key) := ⟨fun _ _ _ => Int.le_trans⟩

instance by_total {ρ : Type} (key : ρ → Int) : Std.Total (By key) := ⟨fun _ _ => Int.le_total _ _⟩

/-- What the database may return for the rows of a case. -/
structure CaseRows.Loads (createdAt : CaseRowsCreatedAt) (rows loaded : CaseRows) : Prop where
  trail : Orders (By fun e => e.2.createdAt) rows.trail loaded.trail
  strategyProposals : Orders (By fun p => createdAt.strategyProposals p.id) rows.strategyProposals
    loaded.strategyProposals
  policyDecisions : Orders (By PolicyDecision.evaluatedAt) rows.policyDecisions
    loaded.policyDecisions
  approvalRequests : Orders (By ApprovalRequest.requestedAt) rows.approvalRequests
    loaded.approvalRequests
  recoveryActions : Orders (By fun r => createdAt.recoveryActions r.id) rows.recoveryActions
    loaded.recoveryActions
  outcomeObservations : Orders (By RecoveryOutcomeObservation.observedAt) rows.outcomeObservations
    loaded.outcomeObservations
  attributions : Orders (By RecoveryAttribution.attributedAt) rows.attributions loaded.attributions

/-- The entry of the detection, where the trail shows none. -/
def CaseRows.detection (rows : CaseRows) (origin : Option DataOrigin) (c : PaymentCase) :
    List TimelineItem :=
  if rows.trail.any fun e =>
      (timelineFromCaseEvent e.2 origin e.1).isSome && e.1.eventType == "CASE_DETECTED" then []
  else [detectedEntry origin c.detectedAt]

variable (createdAt) in
/-- The entries of rows, in the order in which they were loaded. -/
def CaseRows.entries (origin : Option DataOrigin) (c : PaymentCase) (rows : CaseRows) :
    List TimelineItem :=
  rows.trail.flatMap (fun e => (timelineFromCaseEvent e.2 origin e.1).toList) ++
  rows.detection origin c ++
  rows.strategyProposals.flatMap (fun p => [strategyEntry createdAt origin p]) ++
  rows.policyDecisions.flatMap (fun d => [policyEntry origin d]) ++
  rows.approvalRequests.flatMap (approvalEntries origin) ++
  rows.recoveryActions.flatMap (fun r => [executionEntry createdAt origin r]) ++
  rows.outcomeObservations.flatMap (fun o => [outcomeEntry origin o]) ++
  rows.attributions.flatMap (fun a => [attributionEntry origin a])

/-- Two rows with one value of the column give the same timeline, whichever comes first. -/
def AgreeOnTies {ρ : Type} (key : ρ → Int) (f : ρ → List TimelineItem) (rows : List ρ) : Prop :=
  ∀ x ∈ rows, ∀ y ∈ rows, key x = key y → sortTimeline (f x ++ f y) = sortTimeline (f y ++ f x)

variable (createdAt) in
structure CaseRows.Agree (origin : Option DataOrigin) (rows : CaseRows) : Prop where
  trail : AgreeOnTies (fun e => e.2.createdAt)
    (fun e => (timelineFromCaseEvent e.2 origin e.1).toList) rows.trail
  strategyProposals : AgreeOnTies (fun p => createdAt.strategyProposals p.id)
    (fun p => [strategyEntry createdAt origin p]) rows.strategyProposals
  policyDecisions : AgreeOnTies PolicyDecision.evaluatedAt (fun d => [policyEntry origin d])
    rows.policyDecisions
  approvalRequests : AgreeOnTies ApprovalRequest.requestedAt (approvalEntries origin)
    rows.approvalRequests
  recoveryActions : AgreeOnTies (fun r => createdAt.recoveryActions r.id)
    (fun r => [executionEntry createdAt origin r]) rows.recoveryActions
  outcomeObservations : AgreeOnTies RecoveryOutcomeObservation.observedAt
    (fun o => [outcomeEntry origin o]) rows.outcomeObservations
  attributions : AgreeOnTies RecoveryAttribution.attributedAt (fun a => [attributionEntry origin a])
    rows.attributions

instance agreeOnTies_decidable {ρ : Type} (key : ρ → Int) (f : ρ → List TimelineItem)
    (rows : List ρ) : Decidable (AgreeOnTies key f rows) :=
  inferInstanceAs (Decidable (∀ x ∈ rows, ∀ y ∈ rows, key x = key y →
    sortTimeline (f x ++ f y) = sortTimeline (f y ++ f x)))

instance agree_decidable (origin : Option DataOrigin) (rows : CaseRows) :
    Decidable (rows.Agree createdAt origin) :=
  decidable_of_iff
    (AgreeOnTies (fun e => e.2.createdAt) (fun e => (timelineFromCaseEvent e.2 origin e.1).toList)
        rows.trail ∧
      AgreeOnTies (fun p => createdAt.strategyProposals p.id)
        (fun p => [strategyEntry createdAt origin p]) rows.strategyProposals ∧
      AgreeOnTies PolicyDecision.evaluatedAt (fun d => [policyEntry origin d]) rows.policyDecisions ∧
      AgreeOnTies ApprovalRequest.requestedAt (approvalEntries origin) rows.approvalRequests ∧
      AgreeOnTies (fun r => createdAt.recoveryActions r.id)
        (fun r => [executionEntry createdAt origin r]) rows.recoveryActions ∧
      AgreeOnTies RecoveryOutcomeObservation.observedAt (fun o => [outcomeEntry origin o])
        rows.outcomeObservations ∧
      AgreeOnTies RecoveryAttribution.attributedAt (fun a => [attributionEntry origin a])
        rows.attributions)
    ⟨fun ⟨h₁, h₂, h₃, h₄, h₅, h₆, h₇⟩ => ⟨h₁, h₂, h₃, h₄, h₅, h₆, h₇⟩,
      fun ⟨h₁, h₂, h₃, h₄, h₅, h₆, h₇⟩ => ⟨h₁, h₂, h₃, h₄, h₅, h₆, h₇⟩⟩

omit [Platform] in
/-- A relationship is shown alike in every order it may be loaded in exactly where ties agree. -/
theorem shownAlike_by {ρ : Type} (key : ρ → Int) (f : ρ → List TimelineItem) (rows : List ρ) :
    ShownAlike (By key) TimelineItem.NoLater f rows ↔ AgreeOnTies key f rows := by
  rw [shownAlike_iff]
  refine forall₄_congr fun x _ y _ => ?_
  rw [← sortTimeline_eq, ← sortTimeline_eq]
  exact ⟨fun h heq => h heq.le heq.ge, fun h hle hge => h (le_antisymm hle hge)⟩

variable (createdAt columns db) in
/-- The rows of a case in the order the model loads them in. -/
def loadedRows (caseId : Uuid) : CaseRows where
  trail := orderedBy (fun e => e.2.createdAt) (trailOf columns db caseId)
  strategyProposals := orderedBy (fun p => createdAt.strategyProposals p.id)
    (db.strategyProposals.select fun p => p.caseId == caseId)
  policyDecisions := orderedBy PolicyDecision.evaluatedAt
    (db.policyDecisions.select fun d => d.caseId == caseId)
  approvalRequests := orderedBy ApprovalRequest.requestedAt
    (db.approvalRequests.select fun a => a.caseId == caseId)
  recoveryActions := orderedBy (fun r => createdAt.recoveryActions r.id)
    (db.recoveryActions.select fun r => r.caseId == caseId)
  outcomeObservations := orderedBy RecoveryOutcomeObservation.observedAt
    (db.outcomeObservations.select fun o => o.caseId == caseId)
  attributions := orderedBy RecoveryAttribution.attributedAt
    (db.attributions.select fun a => a.caseId == caseId)

theorem loadedRows_loads (caseId : Uuid) :
    (caseRows columns db caseId).Loads createdAt (loadedRows createdAt columns db caseId) :=
  ⟨orders_insertionSort _ _, orders_insertionSort _ _, orders_insertionSort _ _,
    orders_insertionSort _ _, orders_insertionSort _ _, orders_insertionSort _ _,
    orders_insertionSort _ _⟩

theorem detection_congr {rows rows' : CaseRows} (h : rows.trail.Perm rows'.trail)
    (origin : Option DataOrigin) (c : PaymentCase) :
    rows.detection origin c = rows'.detection origin c := by
  unfold CaseRows.detection
  rw [h.any_eq]

theorem addedEntries_eq (c : PaymentCase) (origin : Option DataOrigin) :
    addedEntries createdAt columns db c origin =
      (loadedRows createdAt columns db c.id).entries createdAt origin c := by
  have hdetection : (caseRows columns db c.id).detection origin c =
      (loadedRows createdAt columns db c.id).detection origin c :=
    detection_congr (loadedRows_loads c.id).trail.perm origin c
  unfold CaseRows.entries
  rw [← hdetection]
  simp only [addedEntries, trailEntries, List.filterMap_eq_flatMap_toList, List.map_eq_flatMap]
  rfl

/-- **The order the rows are loaded in does not show exactly where ties agree.** -/
theorem loaded_iff {c : PaymentCase} (origin : Option DataOrigin) :
    (∀ loaded, (caseRows columns db c.id).Loads createdAt loaded →
      sortTimeline (loaded.entries createdAt origin c) =
        sortTimeline (addedEntries createdAt columns db c origin)) ↔
      (caseRows columns db c.id).Agree createdAt origin := by
  have hloads : (caseRows columns db c.id).Loads createdAt (loadedRows createdAt columns db c.id) :=
    loadedRows_loads c.id
  rw [addedEntries_eq]
  simp only [sortTimeline_eq]
  generalize loadedRows createdAt columns db c.id = rows at hloads
  constructor
  · intro h
    have hboth : ∀ loaded loaded', (caseRows columns db c.id).Loads createdAt loaded →
        (caseRows columns db c.id).Loads createdAt loaded' →
        (loaded.entries createdAt origin c).insertionSort TimelineItem.NoLater =
          (loaded'.entries createdAt origin c).insertionSort TimelineItem.NoLater :=
      fun loaded loaded' hl hl' => (h loaded hl).trans (h loaded' hl').symm
    -- one relationship is loaded in two ways, and what the others show is taken off
    constructor
    · refine (shownAlike_by _ _ _).mp fun l l' hl hl' => ?_
      have hsame := hboth { rows with trail := l } { rows with trail := l' }
        { hloads with trail := hl } { hloads with trail := hl' }
      have hdetection : CaseRows.detection { rows with trail := l } origin c =
          CaseRows.detection { rows with trail := l' } origin c :=
        detection_congr (hl.perm.symm.trans hl'.perm) origin c
      simp only [CaseRows.entries, hdetection] at hsame
      exact insertionSort_cancel_right (insertionSort_cancel_right (insertionSort_cancel_right
        (insertionSort_cancel_right (insertionSort_cancel_right (insertionSort_cancel_right
          (insertionSort_cancel_right hsame))))))
    · refine (shownAlike_by _ _ _).mp fun l l' hl hl' => ?_
      have hsame := hboth { rows with strategyProposals := l } { rows with strategyProposals := l' }
        { hloads with strategyProposals := hl } { hloads with strategyProposals := hl' }
      exact insertionSort_cancel_left (insertionSort_cancel_right (insertionSort_cancel_right
        (insertionSort_cancel_right (insertionSort_cancel_right
          (insertionSort_cancel_right hsame)))))
    · refine (shownAlike_by _ _ _).mp fun l l' hl hl' => ?_
      have hsame := hboth { rows with policyDecisions := l } { rows with policyDecisions := l' }
        { hloads with policyDecisions := hl } { hloads with policyDecisions := hl' }
      exact insertionSort_cancel_left (insertionSort_cancel_right (insertionSort_cancel_right
        (insertionSort_cancel_right (insertionSort_cancel_right hsame))))
    · refine (shownAlike_by _ _ _).mp fun l l' hl hl' => ?_
      have hsame := hboth { rows with approvalRequests := l } { rows with approvalRequests := l' }
        { hloads with approvalRequests := hl } { hloads with approvalRequests := hl' }
      exact insertionSort_cancel_left (insertionSort_cancel_right (insertionSort_cancel_right
        (insertionSort_cancel_right hsame)))
    · refine (shownAlike_by _ _ _).mp fun l l' hl hl' => ?_
      have hsame := hboth { rows with recoveryActions := l } { rows with recoveryActions := l' }
        { hloads with recoveryActions := hl } { hloads with recoveryActions := hl' }
      exact insertionSort_cancel_left (insertionSort_cancel_right
        (insertionSort_cancel_right hsame))
    · refine (shownAlike_by _ _ _).mp fun l l' hl hl' => ?_
      have hsame := hboth { rows with outcomeObservations := l }
        { rows with outcomeObservations := l' } { hloads with outcomeObservations := hl }
        { hloads with outcomeObservations := hl' }
      exact insertionSort_cancel_left (insertionSort_cancel_right hsame)
    · refine (shownAlike_by _ _ _).mp fun l l' hl hl' => ?_
      have hsame := hboth { rows with attributions := l } { rows with attributions := l' }
        { hloads with attributions := hl } { hloads with attributions := hl' }
      exact insertionSort_cancel_left hsame
  · intro hagree loaded hl
    have hdetection : loaded.detection origin c = rows.detection origin c :=
      detection_congr (hl.trail.perm.symm.trans hloads.trail.perm) origin c
    unfold CaseRows.entries
    rw [hdetection]
    refine insertionSort_append_congr ?_
      ((shownAlike_by _ _ _).mpr hagree.attributions _ _ hl.attributions hloads.attributions)
    refine insertionSort_append_congr ?_ ((shownAlike_by _ _ _).mpr hagree.outcomeObservations _ _
      hl.outcomeObservations hloads.outcomeObservations)
    refine insertionSort_append_congr ?_ ((shownAlike_by _ _ _).mpr hagree.recoveryActions _ _
      hl.recoveryActions hloads.recoveryActions)
    refine insertionSort_append_congr ?_ ((shownAlike_by _ _ _).mpr hagree.approvalRequests _ _
      hl.approvalRequests hloads.approvalRequests)
    refine insertionSort_append_congr ?_ ((shownAlike_by _ _ _).mpr hagree.policyDecisions _ _
      hl.policyDecisions hloads.policyDecisions)
    refine insertionSort_append_congr ?_ ((shownAlike_by _ _ _).mpr hagree.strategyProposals _ _
      hl.strategyProposals hloads.strategyProposals)
    exact insertionSort_append_congr
      ((shownAlike_by _ _ _).mpr hagree.trail _ _ hl.trail hloads.trail) rfl

/-! ### Runs -/

omit [Platform] in
theorem originFromMode_ne_syntheticInput (mode : Option ProviderMode) :
    originFromMode mode ≠ some .syntheticInput := by
  rcases mode with - | _ | _ <;> decide

/-- The trail has no mark of a synthetic input. -/
def Unmarked (db : Db) : Prop := ∀ e ∈ db.caseEvents, e.eventType ≠ openaiEvidenceEventType

theorem Unmarked.origin (h : Unmarked db) (caseId : Uuid) :
    caseOrigin createdAt.toRowsCreatedAt db caseId ≠ some .syntheticInput := by
  have hinput : ¬ isSyntheticInput db caseId = true := by
    intro hinput
    obtain ⟨e, he, hmark⟩ := List.any_eq_true.mp hinput
    simp only [Bool.and_eq_true, beq_iff_eq] at hmark
    exact h e he hmark.1.2
  unfold caseOrigin dataOrigin
  rw [if_neg hinput]
  split
  · simp
  · exact originFromMode_ne_syntheticInput _

/-- A case of a reachable state has been detected once. -/
theorem detected_once {clock : Int} {tr : List (Run.Step System Label)} {s : System}
    (h : RunTrace clock tr s) {c : PaymentCase} (hc : c ∈ s.db.cases) :
    ((s.db.eventsOf c.id).countP fun e => e.eventType == "CASE_DETECTED") = 1 := by
  obtain ⟨-, -, haudited⟩ := audited_reachable ⟨tr, h⟩
  rw [List.countP_eq_length_filter]
  exact haudited.detected c hc

/-- The timeline of a case shows every entry of its rows once, in order, and one detection. -/
structure Chronological (createdAt : CaseRowsCreatedAt) (columns : Nat → EventColumns) (db : Db)
    (c : PaymentCase) (origin : Option DataOrigin) : Prop where
  complete : (caseTimeline createdAt columns db c).Perm (addedEntries createdAt columns db c origin)
  sorted : (caseTimeline createdAt columns db c).Pairwise TimelineItem.NoLater
  detected : (caseTimeline createdAt columns db c).countP (fun a => a.stage == .detected) = 1
  /-- Rows that are loaded in another order give the same timeline, unless two that tie do not. -/
  loaded : (∀ loaded, (caseRows columns db c.id).Loads createdAt loaded →
      sortTimeline (loaded.entries createdAt origin c) = caseTimeline createdAt columns db c) ↔
    (caseRows columns db c.id).Agree createdAt origin

/-- Of the cases with a reference there is one. -/
theorem caseByReference_eq_some {clock : Int} {tr : List (Run.Step System Label)} {s : System}
    (h : RunTrace clock tr s) {reference : CaseReference} {c : PaymentCase} :
    s.db.caseByReference reference = some c ↔ c ∈ s.db.cases ∧ c.caseReference = reference := by
  obtain ⟨-, -, haudited⟩ := audited_reachable ⟨tr, h⟩
  constructor
  · intro hfound
    obtain ⟨hc, hreference⟩ := Table.first?_mem hfound
    exact ⟨hc, beq_iff_eq.mp hreference⟩
  · rintro ⟨hc, rfl⟩
    refine Table.first?_eq_some_of_unique hc (beq_self_eq_true _) fun c' hc' hreference => ?_
    exact haudited.reference c' hc' c hc (beq_iff_eq.mp hreference)

/-- **The timeline of every case of every reachable state is complete and in order.** -/
theorem timeline_chronological {clock : Int} {tr : List (Run.Step System Label)} {s : System}
    (h : RunTrace clock tr s) (createdAt : CaseRowsCreatedAt) (columns : Nat → EventColumns)
    {c : PaymentCase} (hc : c ∈ s.db.cases) :
    getCaseTimeline createdAt columns s.db c.caseReference =
        some (caseTimeline createdAt columns s.db c) ∧
      Chronological createdAt columns s.db c (caseOrigin createdAt.toRowsCreatedAt s.db c.id) := by
  refine ⟨?_, sortTimeline_perm _, sortTimeline_sorted _, ?_, loaded_iff _⟩
  · unfold getCaseTimeline
    rw [(caseByReference_eq_some h).mpr ⟨hc, rfl⟩, Option.map_some]
  · rw [caseTimeline, (sortTimeline_perm _).countP_eq]
    exact addedEntries_detected _ (detected_once h hc)

end

/-! ### The timeline of a recovery -/

section

attribute [local instance] asciiPlatform

/-- Every entry of the trail was made when its turn came, and says nothing more. -/
def columnsInTurn (n : Nat) : EventColumns := ⟨.obj [], n⟩

theorem timeline_chronological_recovered : ∃ tr s, RunTrace 0 tr s ∧
    tr.map Run.Step.label = recoveredRun ∧
    ∃ c ∈ s.db.cases, 5 ≤ (caseTimeline createdInTurn columnsInTurn s.db c).length ∧
      Chronological createdInTurn columnsInTurn s.db c
        (caseOrigin createdInTurn.toRowsCreatedAt s.db c.id) ∧
      ∀ loaded, (caseRows columnsInTurn s.db c.id).Loads createdInTurn loaded →
        sortTimeline (loaded.entries createdInTurn
          (caseOrigin createdInTurn.toRowsCreatedAt s.db c.id) c) =
            caseTimeline createdInTurn columnsInTurn s.db c := by
  have hrun : (Run.replay step (System.initial 0) recoveredRun).isSome = true := by decide +kernel
  obtain ⟨tr, s, htr, hlabels, hs⟩ := Run.Trace.of_isSome hrun
  have hcase : ((Run.replay step (System.initial 0) recoveredRun).bind fun s =>
      (s.db.cases.get? 10).map fun c => decide
        (5 ≤ (caseTimeline createdInTurn columnsInTurn s.db c).length ∧
          (caseRows columnsInTurn s.db c.id).Agree createdInTurn
            (caseOrigin createdInTurn.toRowsCreatedAt s.db c.id))) = some true := by
    decide +kernel
  rw [hs, Option.bind_some] at hcase
  obtain ⟨c, hc, hshown⟩ := Option.map_eq_some_iff.mp hcase
  obtain ⟨hlong, hagree⟩ := of_decide_eq_true hshown
  have hmem := Table.mem_of_get? hc
  have hchronological := (timeline_chronological htr createdInTurn columnsInTurn hmem).2
  exact ⟨tr, s, htr, hlabels, c, hmem, hlong, hchronological, hchronological.loaded.mpr hagree⟩

end

end Arc
