/-
Sorting by a key that may tie.

`insertionSort` keeps elements that tie in the order it finds them.  So a list sorted by
a key is a canonical form of its elements exactly when no two of them tie, and what a
tie leaves undetermined is the order of the elements that share it.
-/
import Mathlib.Data.List.Sort

namespace Sorting

universe u

variable {α : Type u} (r : α → α → Prop)

/-- No two different elements tie. -/
def Separates (l : List α) : Prop := ∀ a ∈ l, ∀ b ∈ l, r a b → r b a → a = b

/-- All orders of the elements are sorted alike. -/
def Canonical [DecidableRel r] (l : List α) : Prop :=
  ∀ l' : List α, l.Perm l' → l.insertionSort r = l'.insertionSort r

variable {r} [DecidableRel r] [Std.Total r] [IsTrans α r]

theorem Separates.canonical {l : List α} (h : Separates r l) : Canonical r l := by
  intro l' hperm
  have hsorted : (l.insertionSort r).Perm (l'.insertionSort r) :=
    ((List.perm_insertionSort r l).trans hperm).trans (List.perm_insertionSort r l').symm
  refine hsorted.eq_of_pairwise ?_ (List.pairwise_insertionSort r l)
    (List.pairwise_insertionSort r l')
  intro a b ha hb hab hba
  have hb' : b ∈ l := hperm.mem_iff.mpr ((List.mem_insertionSort r).mp hb)
  exact h a ((List.mem_insertionSort r).mp ha) b hb' hab hba

omit [Std.Total r] in
/-- The elements that tie with one of them stand in the sorted list as they stood before. -/
theorem filter_insertionSort [DecidableEq α] (l : List α) (a : α) :
    (l.insertionSort r).filter (fun b => decide (r a b ∧ r b a)) =
      l.filter fun b => decide (r a b ∧ r b a) := by
  have hties : (l.filter fun b => decide (r a b ∧ r b a)).Pairwise r := by
    refine List.pairwise_of_forall_mem_list fun b hb c hc => ?_
    simp only [List.mem_filter, decide_eq_true_eq] at hb hc
    exact IsTrans.trans _ _ _ hb.2.2 hc.2.1
  have hsub := (List.sublist_insertionSort hties List.filter_sublist).filter
    fun b => decide (r a b ∧ r b a)
  rw [List.filter_filter] at hsub
  simp only [Bool.and_self] at hsub
  refine (hsub.eq_of_length ?_).symm
  exact ((List.perm_insertionSort r l).filter _).length_eq.symm

/-- **A sort by key is canonical exactly where the key separates the elements.** -/
theorem canonical_iff [DecidableEq α] {l : List α} : Canonical r l ↔ Separates r l := by
  refine ⟨fun h a ha b hb hab hba => ?_, Separates.canonical⟩
  -- bring each of the two to the front, and compare the first element of their tie
  have hfront : ∀ x ∈ l, (l.insertionSort r).filter (fun c => decide (r a c ∧ r c a)) =
      (x :: l.erase x).filter fun c => decide (r a c ∧ r c a) := by
    intro x hx
    rw [h _ (List.perm_cons_erase hx), filter_insertionSort]
  have hboth := (hfront a ha).symm.trans (hfront b hb)
  have haa : r a a := (Std.Total.total a a).elim id id
  rw [List.filter_cons_of_pos (by simp [haa]), List.filter_cons_of_pos (by simp [hab, hba])]
    at hboth
  exact (List.cons.inj hboth).1

end Sorting
