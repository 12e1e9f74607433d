/-
The read model of outcomes.

`created_at` is set by the database and read by this query only, so the instants at
which rows were created are a parameter of it.
-/
import Arc.Outcomes.Service
import Mathlib.Data.List.MinMax
import Mathlib.Data.Prod.Lex

namespace Arc

open Store

attribute [local instance] instantOrder

variable [Platform]

/-- The columns the query orders by, the most recent row first. -/
def RecoveryOutcomeObservation.recency (createdAt : Uuid → Int) (o : RecoveryOutcomeObservation) :
    Int ×ₗ Int :=
  toLex (o.observedAt, createdAt o.id)

def getCurrentOutcomeForCase (createdAt : Uuid → Int) (db : Db) (caseId : Uuid) :
    Option RecoveryOutcomeObservation :=
  (db.outcomeObservations.select fun o => o.caseId == caseId).argmax
    (RecoveryOutcomeObservation.recency createdAt)

/-- A new observation becomes the current one exactly when it is the most recent. -/
theorem getCurrentOutcomeForCase_insert (createdAt : Uuid → Int) {db db' : Db}
    {o : RecoveryOutcomeObservation}
    (h : db.outcomeObservations.insert? o = some db'.outcomeObservations) :
    getCurrentOutcomeForCase createdAt db' o.caseId = some o ↔
      ∀ o', getCurrentOutcomeForCase createdAt db o.caseId = some o' →
        o'.recency createdAt < o.recency createdAt := by
  have hrows : db'.outcomeObservations.select (fun x => x.caseId == o.caseId) =
      db.outcomeObservations.select (fun x => x.caseId == o.caseId) ++ [o] := by
    unfold Table.select
    rw [(Table.insert?_eq_some.mp h).2, List.filter_append]
    simp
  unfold getCurrentOutcomeForCase
  rw [hrows, List.argmax_concat]
  cases hcurrent : (db.outcomeObservations.select fun x => x.caseId == o.caseId).argmax
      (RecoveryOutcomeObservation.recency createdAt) with
  | none => simp
  | some o' =>
      have hmem := (Table.mem_select.mp (List.argmax_mem hcurrent)).1
      have hother : o' ≠ o := fun hsame => Table.insert?_fresh h hmem (hsame ▸ rfl)
      by_cases hlater : o'.recency createdAt < o.recency createdAt
      · simp [hlater]
      · simp [hlater, hother]

end Arc
