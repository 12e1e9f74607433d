/-
Relations with a primary key.

A `Table` is a list of rows in insertion order together with the proof that no two
of them share a key, so a table with a duplicated key cannot be built.  Rows are
read by key (`get?`) or by a condition (`first?`), added by `insert?`, which refuses
a key that is taken, and rewritten by `put`, which replaces the row that carries the
same key and does nothing when there is none.  The key of a row is a field of the
row, so an update can never move a row to another key.

Nothing here knows what the rows are about.  What the proofs above this file use is
the membership of each operation: who is in the table afterwards, in terms of who
was in it before.
-/
import Mathlib.Data.List.Nodup

namespace Store

universe u v

/-- A row type with a primary-key column. -/
class Keyed (ρ : Type u) (κ : outParam (Type v)) where
  key : ρ → κ

open Keyed

/-- Rows in insertion order, no two with the same key. -/
structure Table (ρ : Type u) {κ : Type v} [Keyed ρ κ] where
  rows : List ρ
  nodup : (rows.map key).Nodup

namespace Table

variable {ρ : Type u} {κ : Type v} [Keyed ρ κ]

instance : Membership ρ (Table ρ) := ⟨fun t r => r ∈ t.rows⟩

theorem mem_def {t : Table ρ} {r : ρ} : r ∈ t ↔ r ∈ t.rows := Iff.rfl

/-- The table without rows. -/
def empty : Table ρ := ⟨[], List.nodup_nil⟩

@[simp] theorem not_mem_empty (r : ρ) : r ∉ (empty : Table ρ) := List.not_mem_nil

/-- The first row, in insertion order, that meets a condition. -/
def first? (t : Table ρ) (p : ρ → Bool) : Option ρ := t.rows.find? p

/-- Whether some row meets a condition. -/
def any (t : Table ρ) (p : ρ → Bool) : Bool := t.rows.any p

/-- All rows that meet a condition, in insertion order. -/
def select (t : Table ρ) (p : ρ → Bool) : List ρ := t.rows.filter p

/-- Two rows of one table with the same key are one row. -/
theorem eq_of_key_eq {t : Table ρ} {r r' : ρ} (hr : r ∈ t) (hr' : r' ∈ t)
    (h : key r = key r') : r = r' :=
  List.inj_on_of_nodup_map t.nodup hr hr' h

variable [DecidableEq κ]

/-- The row with a given key. -/
def get? (t : Table ρ) (k : κ) : Option ρ := t.rows.find? fun r => decide (key r = k)

/-- Add a row at the end; `none` when its key is taken. -/
def insert? (t : Table ρ) (r : ρ) : Option (Table ρ) :=
  if h : key r ∈ t.rows.map key then none
  else some ⟨t.rows ++ [r], by
    rw [List.map_append, List.nodup_append]
    refine ⟨t.nodup, by simp, ?_⟩
    intro a ha b hb hab
    rw [List.map_singleton, List.mem_singleton] at hb
    exact h (hb ▸ hab ▸ ha)⟩

/-- Replace the row that has the key of `r` by `r`. -/
def put (t : Table ρ) (r : ρ) : Table ρ :=
  ⟨t.rows.map fun x => if key x = key r then r else x, by
    have hkeys : (t.rows.map fun x => if key x = key r then r else x).map key
        = t.rows.map key := by
      rw [List.map_map]
      refine List.map_congr_left fun x _ => ?_
      by_cases hx : key x = key r
      · simp [hx]
      · simp [hx]
    rw [hkeys]
    exact t.nodup⟩

/-! ### Keys -/

theorem get?_eq_some {t : Table ρ} {k : κ} {r : ρ} :
    t.get? k = some r ↔ r ∈ t ∧ key r = k := by
  constructor
  · intro h
    exact ⟨List.mem_of_find?_eq_some h, by simpa using List.find?_some h⟩
  · rintro ⟨hr, rfl⟩
    cases hg : t.get? (key r) with
    | none =>
        have := List.find?_eq_none.mp hg r hr
        simp at this
    | some r' =>
        have hr' : r' ∈ t := List.mem_of_find?_eq_some hg
        have hk : key r' = key r := by simpa using List.find?_some hg
        rw [eq_of_key_eq hr' hr hk]

theorem get?_key {t : Table ρ} {k : κ} {r : ρ} (h : t.get? k = some r) : key r = k :=
  (get?_eq_some.mp h).2

theorem mem_of_get? {t : Table ρ} {k : κ} {r : ρ} (h : t.get? k = some r) : r ∈ t :=
  (get?_eq_some.mp h).1

theorem get?_of_mem {t : Table ρ} {r : ρ} (h : r ∈ t) : t.get? (key r) = some r :=
  get?_eq_some.mpr ⟨h, rfl⟩

theorem get?_eq_none {t : Table ρ} {k : κ} : t.get? k = none ↔ ∀ r ∈ t, key r ≠ k := by
  simp [get?, List.find?_eq_none, mem_def]

/-! ### Conditions

The queries of the services are first matches and selections by a condition. That the
row found does not depend on the order is a fact about the condition: no two rows meet
it.
-/

omit [DecidableEq κ] in
theorem first?_mem {t : Table ρ} {p : ρ → Bool} {r : ρ} (h : t.first? p = some r) :
    r ∈ t ∧ p r = true :=
  ⟨List.mem_of_find?_eq_some h, List.find?_some h⟩

omit [DecidableEq κ] in
theorem first?_eq_none {t : Table ρ} {p : ρ → Bool} :
    t.first? p = none ↔ ∀ r ∈ t, p r = false := by
  simp [first?, List.find?_eq_none, mem_def]

omit [DecidableEq κ] in
/-- A condition that only one row meets is answered by that row. -/
theorem first?_eq_some_of_unique {t : Table ρ} {p : ρ → Bool} {r : ρ} (hr : r ∈ t)
    (hp : p r = true) (huniq : ∀ r' ∈ t, p r' = true → r' = r) : t.first? p = some r := by
  cases h : t.first? p with
  | none => simpa [hp] using first?_eq_none.mp h r hr
  | some r' =>
      obtain ⟨hmem, hp'⟩ := first?_mem h
      rw [huniq r' hmem hp']

omit [DecidableEq κ] in
theorem any_eq_true {t : Table ρ} {p : ρ → Bool} :
    t.any p = true ↔ ∃ r ∈ t, p r = true := by
  simp [any, mem_def]

omit [DecidableEq κ] in
theorem any_eq_false {t : Table ρ} {p : ρ → Bool} :
    t.any p = false ↔ ∀ r ∈ t, p r = false := by
  simp [any, mem_def]

omit [DecidableEq κ] in
theorem mem_select {t : Table ρ} {p : ρ → Bool} {r : ρ} :
    r ∈ t.select p ↔ r ∈ t ∧ p r = true := List.mem_filter

/-! ### Insertion -/

theorem insert?_eq_some {t t' : Table ρ} {r : ρ} :
    t.insert? r = some t' ↔ t.get? (key r) = none ∧ t'.rows = t.rows ++ [r] := by
  unfold insert?
  split
  · rename_i h
    obtain ⟨x, hx, hk⟩ := List.mem_map.mp h
    refine ⟨by simp, fun ⟨hnone, _⟩ => absurd hk (get?_eq_none.mp hnone x hx)⟩
  · rename_i h
    have hnone : t.get? (key r) = none :=
      get?_eq_none.mpr fun x hx hk => h (List.mem_map.mpr ⟨x, hx, hk⟩)
    constructor
    · intro he
      have := Option.some.inj he
      exact ⟨hnone, by rw [← this]⟩
    · rintro ⟨-, hrows⟩
      obtain ⟨rows, nodup⟩ := t'
      simp only at hrows
      subst hrows
      rfl

theorem insert?_mem {t t' : Table ρ} {r : ρ} (h : t.insert? r = some t') {x : ρ} :
    x ∈ t' ↔ x ∈ t ∨ x = r := by
  rw [mem_def, (insert?_eq_some.mp h).2, List.mem_append, List.mem_singleton, mem_def]

theorem insert?_fresh {t t' : Table ρ} {r : ρ} (h : t.insert? r = some t') {x : ρ}
    (hx : x ∈ t) : key x ≠ key r :=
  get?_eq_none.mp (insert?_eq_some.mp h).1 x hx

/-- A row with a free key can be added. -/
theorem exists_insert? {t : Table ρ} {r : ρ} (h : t.get? (key r) = none) :
    ∃ t', t.insert? r = some t' := by
  refine ⟨⟨t.rows ++ [r], ?_⟩, insert?_eq_some.mpr ⟨h, rfl⟩⟩
  rw [List.map_append, List.nodup_append]
  refine ⟨t.nodup, by simp, ?_⟩
  intro a ha b hb hab
  obtain ⟨x, hx, rfl⟩ := List.mem_map.mp ha
  rw [List.map_singleton, List.mem_singleton] at hb
  exact get?_eq_none.mp h x hx (hab.trans hb)

/-! ### Update

An update replaces the row with a key and leaves the rest. These lemmas are the frame
rules of the development.
-/

theorem mem_put {t : Table ρ} {r x : ρ} :
    x ∈ t.put r ↔ (x ∈ t ∧ key x ≠ key r) ∨ (x = r ∧ (t.get? (key r)).isSome) := by
  simp only [mem_def, put, List.mem_map]
  constructor
  · rintro ⟨y, hy, rfl⟩
    by_cases hk : key y = key r
    · rw [if_pos hk]
      exact Or.inr ⟨rfl, by rw [get?_eq_some.mpr ⟨hy, hk⟩]; rfl⟩
    · rw [if_neg hk]
      exact Or.inl ⟨hy, hk⟩
  · rintro (⟨hx, hk⟩ | ⟨rfl, hsome⟩)
    · exact ⟨x, hx, if_neg hk⟩
    · obtain ⟨y, hy⟩ := Option.isSome_iff_exists.mp hsome
      obtain ⟨hmem, hkey⟩ := get?_eq_some.mp hy
      exact ⟨y, hmem, if_pos hkey⟩

/-- An update of a stored row: everything else stays. -/
theorem mem_put_of_mem {t : Table ρ} {r₀ r x : ρ} (h₀ : r₀ ∈ t) (hk : key r = key r₀) :
    x ∈ t.put r ↔ (x ∈ t ∧ key x ≠ key r) ∨ x = r := by
  have hsome : (t.get? (key r)).isSome := by rw [hk, get?_of_mem h₀]; rfl
  rw [mem_put]
  simp [hsome]

/-- Writing a row as it is stored changes nothing. -/
theorem put_of_mem {t : Table ρ} {r : ρ} (h : r ∈ t) : t.put r = t := by
  have hrows : (t.rows.map fun x => if key x = key r then r else x) = t.rows := by
    refine (List.map_congr_left fun x hx => ?_).trans (List.map_id _)
    by_cases hk : key x = key r
    · rw [if_pos hk, eq_of_key_eq h hx hk.symm]
      rfl
    · rw [if_neg hk]
      rfl
  obtain ⟨rows, nodup⟩ := t
  simp only [put, Table.mk.injEq]
  exact hrows

theorem get?_put (t : Table ρ) (r : ρ) (k : κ) :
    (t.put r).get? k = if k = key r then (t.get? k).map fun _ => r else t.get? k := by
  cases hg : t.get? k with
  | none =>
      have hnone : (t.put r).get? k = none := by
        refine get?_eq_none.mpr fun x hx hxk => ?_
        rcases mem_put.mp hx with ⟨hx, -⟩ | ⟨rfl, hsome⟩
        · exact get?_eq_none.mp hg x hx hxk
        · rw [hxk, hg] at hsome
          exact absurd hsome (by simp)
      rw [hnone]
      simp
  | some x =>
      obtain ⟨hx, hxk⟩ := get?_eq_some.mp hg
      by_cases hk : k = key r
      · rw [if_pos hk]
        exact get?_eq_some.mpr
          ⟨mem_put.mpr (Or.inr ⟨rfl, by rw [← hk, hg]; rfl⟩), hk.symm⟩
      · rw [if_neg hk]
        exact get?_eq_some.mpr
          ⟨mem_put.mpr (Or.inl ⟨hx, fun h => hk (hxk.symm.trans h)⟩), hxk⟩

theorem get?_put_self {t : Table ρ} {r₀ r : ρ} (h₀ : t.get? (key r) = some r₀) :
    (t.put r).get? (key r) = some r := by
  rw [get?_put, if_pos rfl, h₀, Option.map_some]

theorem get?_put_of_ne {t : Table ρ} {r : ρ} {k : κ} (h : k ≠ key r) :
    (t.put r).get? k = t.get? k := by
  rw [get?_put, if_neg h]

/-- An update of the row a condition finds, by a row that meets it, is found by it. -/
theorem first?_put {t : Table ρ} {p : ρ → Bool} {r r' : ρ} (h : t.first? p = some r)
    (hk : key r' = key r) (hp : p r' = true) : (t.put r').first? p = some r' := by
  obtain ⟨-, before, after, hrows, hbefore⟩ := List.find?_eq_some_iff_append.mp h
  have hnodup := t.nodup
  rw [hrows, List.map_append, List.nodup_append] at hnodup
  obtain ⟨-, -, hapart⟩ := hnodup
  refine List.find?_eq_some_iff_append.mpr
    ⟨hp, before, after.map fun x => if key x = key r' then r' else x, ?_, hbefore⟩
  have hkept : (before.map fun x => if key x = key r' then r' else x) = before := by
    refine (List.map_congr_left fun x hx => ?_).trans (List.map_id _)
    have hne : key x ≠ key r := hapart _ (List.mem_map_of_mem hx) _ (by simp)
    rw [hk, if_neg hne]
    rfl
  show (t.rows.map fun x => if key x = key r' then r' else x) = _
  rw [hrows, List.map_append, hkept, List.map_cons, hk, if_pos rfl]

/-- A condition that no row meets finds an added row that meets it. -/
theorem first?_insert {t t' : Table ρ} {p : ρ → Bool} {r : ρ} (hinsert : t.insert? r = some t')
    (hnone : t.first? p = none) (hp : p r = true) : t'.first? p = some r := by
  unfold first? at hnone ⊢
  rw [(insert?_eq_some.mp hinsert).2, List.find?_append, hnone]
  simp [hp]

end Table

end Store
