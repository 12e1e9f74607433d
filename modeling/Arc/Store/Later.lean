/-
Later versions of a table.

Some tables are never shortened: a row that is in one stays in it, under its key, and
only turns into later versions of itself.  What a version may turn into is a relation
`R` on rows, and `Later R` lifts it to whole tables.  Where `R` is equality, the rows
that are there are never written again.

The lift is a preorder when `R` is one, so it can be proved of one update at a time.
-/
import Arc.Sorting.Embedding
import Arc.Store.Table

namespace Store

universe u v

namespace Table

open Keyed Sorting

variable {ρ : Type u} {κ : Type v} [Keyed ρ κ] {R R' : ρ → ρ → Prop} {t t' t'' : Table ρ}

/-- Every row is still there, as a later version of itself. -/
def Later (R : ρ → ρ → Prop) (t t' : Table ρ) : Prop :=
  ∀ r ∈ t, ∃ r' ∈ t', key r' = key r ∧ R r r'

theorem Later.refl (hR : ∀ r, R r r) (t : Table ρ) : t.Later R t :=
  fun r hr => ⟨r, hr, rfl, hR r⟩

theorem Later.of_eq (hR : ∀ r, R r r) (h : t' = t) : t.Later R t' := h ▸ .refl hR t

theorem Later.trans (hR : ∀ a b c, R a b → R b c → R a c) (h : t.Later R t')
    (h' : t'.Later R t'') : t.Later R t'' := by
  intro r hr
  obtain ⟨r', hr', hk, hrel⟩ := h r hr
  obtain ⟨r'', hr'', hk', hrel'⟩ := h' r' hr'
  exact ⟨r'', hr'', hk'.trans hk, hR r r' r'' hrel hrel'⟩

theorem Later.mono (hR : ∀ r r', R r r' → R' r r') (h : t.Later R t') : t.Later R' t' := by
  intro r hr
  obtain ⟨r', hr', hk, hrel⟩ := h r hr
  exact ⟨r', hr', hk, hR r r' hrel⟩

/-- The version a row has turned into is the row that has its key. -/
theorem Later.row (h : t.Later R t') {r r' : ρ} (hr : r ∈ t) (hr' : r' ∈ t')
    (hk : key r' = key r) : R r r' := by
  obtain ⟨x, hx, hxk, hrel⟩ := h r hr
  rwa [eq_of_key_eq hr' hx (hk.trans hxk.symm)]

/-- A row of the later table is a version of an earlier one, or its key is new. -/
theorem Later.old_or_new (h : t.Later R t') {r' : ρ} (hr' : r' ∈ t') :
    (∃ r ∈ t, key r' = key r ∧ R r r') ∨ ∀ r ∈ t, key r ≠ key r' := by
  by_cases hold : ∃ r ∈ t, key r = key r'
  · obtain ⟨r, hr, hk⟩ := hold
    exact .inl ⟨r, hr, hk.symm, h.row hr hr' hk.symm⟩
  · exact .inr fun r hr hk => hold ⟨r, hr, hk⟩

variable [DecidableEq κ]

theorem Later.get? (h : t.Later R t') {k : κ} {r : ρ} (hr : t.get? k = some r) :
    ∃ r', t'.get? k = some r' ∧ R r r' := by
  obtain ⟨hmem, rfl⟩ := get?_eq_some.mp hr
  obtain ⟨r', hr', hk, hrel⟩ := h r hmem
  exact ⟨r', get?_eq_some.mpr ⟨hr', hk⟩, hrel⟩

/-- An added row leaves the others as they are. -/
theorem Later.insert (hR : ∀ r, R r r) {r : ρ} (h : t.insert? r = some t') : t.Later R t' :=
  fun x hx => ⟨x, (insert?_mem h).mpr (.inl hx), rfl, hR x⟩

/-- An update turns one row into a later version of itself, and leaves the others as they are. -/
theorem Later.put (hR : ∀ r, R r r) {r₀ r : ρ} (h₀ : r₀ ∈ t) (hk : key r = key r₀)
    (hr : R r₀ r) : t.Later R (t.put r) := by
  intro x hx
  by_cases hkey : key x = key r
  · obtain rfl : x = r₀ := eq_of_key_eq hx h₀ (hkey.trans hk)
    exact ⟨r, (mem_put_of_mem h₀ hk).mpr (.inr rfl), hk, hr⟩
  · exact ⟨x, (mem_put_of_mem h₀ hk).mpr (.inl ⟨hx, hkey⟩), rfl, hR x⟩

end Table

end Store
