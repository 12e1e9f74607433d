/-
Columns that take no value twice.

A relation can have a column that no two rows agree on without a constraint that says
so, because of how its rows come to be.  Where that is known, a sum over rows can be
taken over the values of the column instead, each counted once.
-/
import Mathlib.Algebra.BigOperators.Group.Finset.Basic
import Arc.Store.Table
import Mathlib.Algebra.GroupWithZero.Nat

namespace Store

open scoped BigOperators

universe u v w

namespace Table

variable {ρ : Type u} {κ : Type v} [Keyed ρ κ] {α : Type w} {t t' : Table ρ} {f : ρ → α}

/-- No two rows have the same value in the column `f`. -/
def UniqueColumn (t : Table ρ) (f : ρ → α) : Prop :=
  ∀ r ∈ t, ∀ r' ∈ t, f r = f r' → r = r'

theorem uniqueColumn_empty : (empty : Table ρ).UniqueColumn f :=
  fun r hr => absurd hr (not_mem_empty r)

/-- A row with a new value can be added. -/
theorem UniqueColumn.insert [DecidableEq κ] (h : t.UniqueColumn f) {r : ρ}
    (hinsert : t.insert? r = some t') (hnew : ∀ x ∈ t, f x ≠ f r) : t'.UniqueColumn f := by
  intro x hx y hy hxy
  rcases (insert?_mem hinsert).mp hx with hx | rfl <;>
    rcases (insert?_mem hinsert).mp hy with hy | rfl
  · exact h x hx y hy hxy
  · exact absurd hxy (hnew x hx)
  · exact absurd hxy.symm (hnew y hy)
  · rfl

/-- An update that keeps a column of its row keeps the column. -/
theorem map_put [DecidableEq κ] {r₀ r : ρ} (h₀ : r₀ ∈ t) (hk : Keyed.key r = Keyed.key r₀)
    (hf : f r = f r₀) : (t.put r).rows.map f = t.rows.map f := by
  simp only [put, List.map_map]
  refine List.map_congr_left fun x hx => ?_
  by_cases hkey : Keyed.key x = Keyed.key r
  · rw [Function.comp_apply, if_pos hkey, hf, eq_of_key_eq hx h₀ (hkey.trans hk)]
  · rw [Function.comp_apply, if_neg hkey]

/-- The values of the column over some of the rows. -/
theorem UniqueColumn.nodup (h : t.UniqueColumn f) (p : ρ → Bool) :
    ((t.select p).map f).Nodup := by
  refine List.Nodup.map_on ?_ ((List.Nodup.of_map _ t.nodup).filter p)
  intro x hx y hy hxy
  exact h x (mem_select.mp hx).1 y (mem_select.mp hy).1 hxy

variable [DecidableEq α]

/-- What a row adds, found by its value in the column. -/
def valueAt (t : Table ρ) (f : ρ → α) (g : ρ → Nat) (a : α) : Nat :=
  ((t.first? fun r => f r == a).map g).getD 0

theorem UniqueColumn.valueAt_of_mem (h : t.UniqueColumn f) (g : ρ → Nat) {r : ρ} (hr : r ∈ t) :
    t.valueAt f g (f r) = g r := by
  have hfirst : (t.first? fun x => f x == f r) = some r :=
    first?_eq_some_of_unique hr (by simp) fun x hx hxr => h x hx r hr (by simpa using hxr)
  rw [valueAt, hfirst]
  rfl

theorem valueAt_of_forall_ne {g : ρ → Nat} {a : α} (h : ∀ r ∈ t, f r ≠ a) :
    t.valueAt f g a = 0 := by
  have hfirst : (t.first? fun x => f x == a) = none :=
    first?_eq_none.mpr fun r hr => by simpa using h r hr
  rw [valueAt, hfirst]
  rfl

/-- A sum over some of the rows is a sum over their values in the column. -/
theorem UniqueColumn.sum_eq (h : t.UniqueColumn f) (g : ρ → Nat) (p : ρ → Bool) :
    ((t.select p).map g).sum = ∑ a ∈ ((t.select p).map f).toFinset, t.valueAt f g a := by
  rw [List.sum_toFinset _ (h.nodup p), List.map_map]
  congr 1
  refine List.map_congr_left fun r hr => ?_
  exact (h.valueAt_of_mem g (mem_select.mp hr).1).symm

/-- A sum over the rows with a value in a set is a sum over the set. -/
theorem UniqueColumn.sum_mem_eq (h : t.UniqueColumn f) (g : ρ → Nat) (s : Finset α) :
    ((t.select fun r => decide (f r ∈ s)).map g).sum = ∑ a ∈ s, t.valueAt f g a := by
  rw [h.sum_eq]
  refine Finset.sum_subset ?_ ?_
  · intro a ha
    obtain ⟨r, hr, rfl⟩ := List.mem_map.mp (List.mem_toFinset.mp ha)
    simpa using (mem_select.mp hr).2
  · intro a ha hout
    refine valueAt_of_forall_ne fun r hr hra => hout ?_
    rw [List.mem_toFinset, List.mem_map]
    exact ⟨r, mem_select.mpr ⟨hr, by simpa [hra] using ha⟩, hra⟩

end Table

/-! ### Rows matched with rows

A sum over one table is bounded by a sum over another if the rows are matched one to one
and none is larger than its match.
-/

/-- Where each row of one list has its own, larger row in another, so have the sums. -/
theorem sum_le_of_matched {α β γ : Type*} {f : α → γ} (f' : β → γ) {g : α → Nat} {g' : β → Nat} :
    ∀ {xs : List α} {ys : List β}, (xs.map f).Nodup →
      (∀ x ∈ xs, ∃ y ∈ ys, f' y = f x ∧ g x ≤ g' y) → (xs.map g).sum ≤ (ys.map g').sum
  | [], _, _, _ => Nat.zero_le _
  | x :: xs, ys, hnodup, hmatched => by
      obtain ⟨hnew, hnodup⟩ := List.nodup_cons.mp hnodup
      obtain ⟨y, hy, hkey, hle⟩ := hmatched x (List.mem_cons_self ..)
      obtain ⟨before, after, rfl⟩ := List.append_of_mem hy
      have hrest : (xs.map g).sum ≤ ((before ++ after).map g').sum := by
        refine sum_le_of_matched f' hnodup fun x' hx' => ?_
        obtain ⟨y', hy', hkey', hle'⟩ := hmatched x' (List.mem_cons_of_mem x hx')
        refine ⟨y', ?_, hkey', hle'⟩
        -- the row of `x` is taken
        have hne : y' ≠ y := by
          rintro rfl
          exact hnew (List.mem_map.mpr ⟨x', hx', hkey'.symm.trans hkey⟩)
        simpa [hne] using hy'
      simp only [List.map_append, List.map_cons, List.sum_append, List.sum_cons] at hrest ⊢
      omega

theorem length_le_of_matched {α β γ : Type*} {f : α → γ} (f' : β → γ) {xs : List α} {ys : List β}
    (hnodup : (xs.map f).Nodup) (hmatched : ∀ x ∈ xs, ∃ y ∈ ys, f' y = f x) :
    xs.length ≤ ys.length := by
  have hle : (xs.map fun _ => 1).sum ≤ (ys.map fun _ => 1).sum := by
    refine sum_le_of_matched f' hnodup fun x hx => ?_
    obtain ⟨y, hy, hkey⟩ := hmatched x hx
    exact ⟨y, hy, hkey, le_refl 1⟩
  simpa using hle

/-- Two selections with the same rows differ in their order at most. -/
theorem Table.select_perm {ρ : Type u} {κ : Type v} [Keyed ρ κ] {t t' : Table ρ} {p p' : ρ → Bool}
    (h : ∀ r, (r ∈ t' ∧ p' r = true) ↔ r ∈ t ∧ p r = true) : (t'.select p').Perm (t.select p) := by
  refine (List.perm_ext_iff_of_nodup ?_ ?_).mpr fun r => ?_
  · exact (List.Nodup.of_map _ t'.nodup).filter p'
  · exact (List.Nodup.of_map _ t.nodup).filter p
  · rw [mem_select, mem_select]
    exact h r

end Store
