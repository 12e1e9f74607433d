/-
JSON values with their keys in order.

Sorting moves the fields of a dictionary and nothing else: a value with its keys in order
holds the same values under the same keys, nests as deep and can be stored as well.
Sorting twice is sorting once, and the compact text of a value, which is sorted as it is
written, does not see the difference.

So `json.loads` gives back, of what `json.dumps` wrote, the value with its keys in order.
-/
import Arc.Text.PyRoundTrip
import Arc.Text.PyValue

namespace Text

namespace PyJson

/-! ### Fields in order

Keys are in order after a round trip, and the import looks at what it reads by key. A
dictionary without a repeated key is the same to look at in any order.
-/

section

variable {α β : Type}

instance : Std.Total fun a b : Str × α => a.1 ≤ b.1 := ⟨fun a b => le_total a.1 b.1⟩

instance : IsTrans (Str × α) fun a b => a.1 ≤ b.1 := ⟨fun _ _ _ => le_trans⟩

/-- Fields by their keys. -/
def inOrder (fields : List (Str × α)) : List (Str × α) :=
  fields.insertionSort fun a b => a.1 ≤ b.1

theorem inOrder_perm (fields : List (Str × α)) : (inOrder fields).Perm fields :=
  List.perm_insertionSort _ _

theorem mem_inOrder {fields : List (Str × α)} {f : Str × α} : f ∈ inOrder fields ↔ f ∈ fields :=
  (inOrder_perm fields).mem_iff

/-- Fields in order are left where they are. -/
theorem inOrder_inOrder (fields : List (Str × α)) : inOrder (inOrder fields) = inOrder fields :=
  (List.pairwise_insertionSort _ fields).insertionSort_eq

/-- The values do not matter for the order. -/
theorem inOrder_map (g : α → β) (fields : List (Str × α)) :
    inOrder (fields.map fun f => (f.1, g f.2)) = (inOrder fields).map fun f => (f.1, g f.2) :=
  (List.map_insertionSort (fun a b : Str × α => a.1 ≤ b.1) (fun a b : Str × β => a.1 ≤ b.1)
    (fun f => (f.1, g f.2)) fields fun _ _ _ _ => Iff.rfl).symm

theorem inOrder_keys (fields : List (Str × α)) :
    ((inOrder fields).map Prod.fst).Perm (fields.map Prod.fst) :=
  (inOrder_perm fields).map Prod.fst

/-- Where no key stands twice, a field is what is found under its key. -/
theorem lookup_eq_some_iff {fields : List (Str × α)} (h : (fields.map Prod.fst).Nodup) {key : Str}
    {value : α} : fields.lookup key = some value ↔ (key, value) ∈ fields := by
  induction fields with
  | nil => simp
  | cons f fields ih =>
      obtain ⟨head, x⟩ := f
      rw [List.map_cons, List.nodup_cons] at h
      rw [List.lookup_cons]
      split
      · rename_i hkey
        obtain rfl : key = head := by simpa using hkey
        have hnot : (key, value) ∉ fields :=
          fun hmem => h.1 (List.mem_map.mpr ⟨(key, value), hmem, rfl⟩)
        simp [hnot, eq_comm]
      · rename_i hkey
        have hne : key ≠ head := by simpa using hkey
        rw [ih h.2]
        simp [hne]

/-- Fields in another order hold the same under each key. -/
theorem lookup_perm {fields fields' : List (Str × α)} (hperm : fields.Perm fields')
    (h : (fields.map Prod.fst).Nodup) (key : Str) : fields.lookup key = fields'.lookup key := by
  have h' : (fields'.map Prod.fst).Nodup := (hperm.map Prod.fst).nodup_iff.mp h
  apply Option.ext
  intro value
  rw [lookup_eq_some_iff h, lookup_eq_some_iff h', hperm.mem_iff]

theorem lookup_map_value (g : α → β) (fields : List (Str × α)) (key : Str) :
    (fields.map fun f => (f.1, g f.2)).lookup key = (fields.lookup key).map g := by
  induction fields with
  | nil => rfl
  | cons f fields ih =>
      rw [List.map_cons, List.lookup_cons, List.lookup_cons, ih]
      split <;> rfl

end

/-! ### Values in order -/

/-- Induction over a value, through the items of its lists and the fields of its dictionaries. -/
theorem nested_induction {P : PyJson → Prop} (null : P .none) (truth : ∀ b, P (.bool b))
    (integer : ∀ n, P (.int n)) (decimal : ∀ literal, P (.float literal)) (text : ∀ s, P (.str s))
    (items : ∀ items, (∀ item ∈ items, P item) → P (.list items))
    (fields : ∀ fields, (∀ f ∈ fields, P f.2) → P (.dict fields)) (value : PyJson) : P value :=
  @PyJson.rec P (fun items => ∀ item ∈ items, P item) (fun fields => ∀ f ∈ fields, P f.2)
    (fun f => P f.2) null truth integer decimal text items fields
    (fun _ h => nomatch h) (fun _ _ hitem hitems => List.forall_mem_cons.mpr ⟨hitem, hitems⟩)
    (fun _ h => nomatch h) (fun _ _ hfield hfields => List.forall_mem_cons.mpr ⟨hfield, hfields⟩)
    (fun _ _ hvalue => hvalue) value

/-- The fields of a dictionary in order, with their values in order. -/
def sortedFields (fields : List (Str × PyJson)) : List (Str × PyJson) :=
  (inOrder fields).map fun f => (f.1, f.2.sortKeys)

theorem sortKeys_list (items : List PyJson) :
    (PyJson.list items).sortKeys = .list (items.map sortKeys) := by
  rw [sortKeys, sortItems_eq_map]

theorem sortKeys_dict (fields : List (Str × PyJson)) :
    (PyJson.dict fields).sortKeys = .dict (sortedFields fields) := by
  rw [sortKeys, sortFields_eq_map, ← inOrder, inOrder_map, sortedFields]

theorem sortedFields_keys (fields : List (Str × PyJson)) :
    ((sortedFields fields).map Prod.fst).Perm (fields.map Prod.fst) := by
  rw [sortedFields, List.map_map]
  exact inOrder_keys fields

theorem mem_sortedFields {fields : List (Str × PyJson)} {f : Str × PyJson} :
    f ∈ sortedFields fields ↔ ∃ g ∈ fields, f = (g.1, g.2.sortKeys) := by
  simp only [sortedFields, List.mem_map, mem_inOrder, eq_comm]

/-- **A value in order holds the same under each key, in order.** -/
theorem field_sorted {fields : List (Str × PyJson)} (h : (fields.map Prod.fst).Nodup) (key : String) :
    field (sortedFields fields) key = (field fields key).sortKeys := by
  rw [field, field, sortedFields, lookup_map_value, lookup_perm (inOrder_perm fields)
    ((inOrder_keys fields).nodup_iff.mpr h)]
  cases fields.lookup (Str.ofString key) <;> rfl

section

variable {repr : Str → Str}

theorem depthItems_le_iff {items : List PyJson} {n : Nat} :
    depthItems items ≤ n ↔ ∀ item ∈ items, item.depth ≤ n := by
  induction items with
  | nil => simp [depthItems]
  | cons item items ih => simp [depthItems, ih]

theorem depthFields_le_iff {fields : List (Str × PyJson)} {n : Nat} :
    depthFields fields ≤ n ↔ ∀ f ∈ fields, f.2.depth ≤ n := by
  induction fields with
  | nil => simp [depthFields]
  | cons f fields ih => simp [depthFields, ih]

/-- A value in order nests as deep. -/
theorem depth_sortKeys (value : PyJson) : ∀ n, value.sortKeys.depth ≤ n ↔ value.depth ≤ n := by
  induction value using nested_induction with
  | null | truth b | integer n | decimal literal | text s => exact fun _ => Iff.rfl
  | items items ih =>
      intro n
      rw [sortKeys_list, depth, depth]
      cases n with
      | zero => simp
      | succ n =>
          rw [Nat.succ_le_succ_iff, Nat.succ_le_succ_iff, depthItems_le_iff, depthItems_le_iff,
            List.forall_mem_map]
          exact forall₂_congr fun item hitem => ih item hitem n
  | fields fields ih =>
      intro n
      rw [sortKeys_dict, sortedFields, depth, depth]
      cases n with
      | zero => simp
      | succ n =>
          rw [Nat.succ_le_succ_iff, Nat.succ_le_succ_iff, depthFields_le_iff, depthFields_le_iff,
            List.forall_mem_map]
          simp only [mem_inOrder]
          exact forall₂_congr fun f hf => ih f hf n

/-- A value in order can be stored where the value can. -/
theorem storable_sortKeys {value : PyJson} (h : value.Storable repr) :
    value.sortKeys.Storable repr := by
  induction value using nested_induction with
  | null | truth b | integer n | decimal literal | text s => exact h
  | items items ih =>
      rw [Storable, storableItems_iff] at h
      rw [sortKeys_list, Storable, storableItems_iff, List.forall_mem_map]
      exact fun item hitem => ih item hitem (h item hitem)
  | fields fields ih =>
      rw [Storable, storableFields_iff] at h
      rw [sortKeys_dict, Storable, storableFields_iff]
      refine ⟨(sortedFields_keys fields).nodup_iff.mpr h.1, fun f hf => ?_⟩
      obtain ⟨g, hmem, rfl⟩ := mem_sortedFields.mp hf
      exact ⟨(h.2 g hmem).1, ih g hmem (h.2 g hmem).2⟩

/-- Sorting twice is sorting once. -/
theorem sortKeys_sortKeys (value : PyJson) : value.sortKeys.sortKeys = value.sortKeys := by
  induction value using nested_induction with
  | null | truth b | integer n | decimal literal | text s => rfl
  | items items ih =>
      rw [sortKeys_list, sortKeys_list, List.map_map]
      exact congrArg PyJson.list (List.map_congr_left ih)
  | fields fields ih =>
      rw [sortKeys_dict, sortKeys_dict, sortedFields, sortedFields, inOrder_map, inOrder_inOrder,
        List.map_map]
      refine congrArg PyJson.dict (List.map_congr_left fun f hf => ?_)
      exact congrArg (Prod.mk f.1) (ih f (mem_inOrder.mp hf))

/-- What can be stored has no integer that is too long. -/
theorem hasOverlong_of_storable {value : PyJson} (h : value.Storable repr) :
    value.hasOverlong = false := by
  have hitems : ∀ items : List PyJson, (∀ item ∈ items, item.hasOverlong = false) →
      hasOverlongItem items = false := by
    intro items
    induction items with
    | nil => exact fun _ => rfl
    | cons item items ih =>
        intro hall
        rw [List.forall_mem_cons] at hall
        rw [hasOverlongItem, hall.1, ih hall.2]
        rfl
  have hfields : ∀ fields : List (Str × PyJson), (∀ f ∈ fields, f.2.hasOverlong = false) →
      hasOverlongField fields = false := by
    intro fields
    induction fields with
    | nil => exact fun _ => rfl
    | cons f fields ih =>
        intro hall
        rw [List.forall_mem_cons] at hall
        rw [hasOverlongField, hall.1, ih hall.2]
        rfl
  induction value using nested_induction with
  | null | truth b | decimal literal | text s => rfl
  | integer n => exact h
  | items items ih =>
      rw [Storable, storableItems_iff] at h
      rw [hasOverlong]
      exact hitems items fun item hitem => ih item hitem (h item hitem)
  | fields fields ih =>
      rw [Storable, storableFields_iff] at h
      rw [hasOverlong]
      exact hfields fields fun f hf => ih f hf (h.2 f hf).2

/-! ### Writing -/

theorem dumpItems_eq_map (items : List PyJson) : dumpItems repr items = items.map (dumps repr) := by
  induction items with
  | nil => rfl
  | cons item items ih => rw [dumpItems, ih, List.map_cons]

theorem dumpFields_eq_map (fields : List (Str × PyJson)) :
    dumpFields repr fields = fields.map fun f => (f.1, f.2.dumps repr) := by
  induction fields with
  | nil => rfl
  | cons f fields ih => rw [dumpFields, ih, List.map_cons]

/-- The compact text of a value is that of the value in order. -/
theorem dumps_sortKeys (value : PyJson) : value.sortKeys.dumps repr = value.dumps repr := by
  induction value using nested_induction with
  | null | truth b | integer n | decimal literal | text s => rfl
  | items items ih =>
      rw [sortKeys_list, dumps, dumps, dumpItems_eq_map, dumpItems_eq_map, List.map_map]
      exact congrArg (fun texts => 0x5B :: List.intercalate [0x2C] texts ++ [0x5D])
        (List.map_congr_left ih)
  | fields fields ih =>
      have hmembers : inOrder (dumpFields repr (sortedFields fields)) =
          inOrder (dumpFields repr fields) := by
        rw [sortedFields, dumpFields_eq_map, dumpFields_eq_map, inOrder_map, inOrder_map, inOrder_inOrder,
          inOrder_map, List.map_map]
        exact List.map_congr_left fun f hf => congrArg (Prod.mk f.1) (ih f (mem_inOrder.mp hf))
      rw [sortKeys_dict, dumps, dumps]
      exact congrArg (fun members => 0x7B :: List.intercalate [0x2C]
        (members.map fun m => quote m.1 ++ 0x3A :: m.2) ++ [0x7D]) hmembers

/-- **`json.loads` gives back what `json.dumps` wrote, with its keys in order.** -/
theorem loadsText_write {nesting : Nat} {indent : Option Nat} {value : PyJson} {blank : Str}
    (h : value.Storable repr) (hdepth : value.depth ≤ nesting)
    (hblank : ∀ c ∈ blank, isWhitespace c = true) :
    loadsText nesting (write repr indent 0 value.sortKeys ++ blank) = .ok value.sortKeys := by
  have hstorable := storable_sortKeys h
  have hends : Ends blank := by
    intro c hc
    have hwhite := hblank c (List.mem_of_mem_head? hc)
    simp only [isWhitespace, Bool.or_eq_true, beq_iff_eq] at hwhite
    simp only [continuesNumber, isDigit, Bool.or_eq_false_iff, Bool.and_eq_false_iff,
      decide_eq_false_iff_not, beq_eq_false_iff_ne]
    omega
  have hskip : skipWhitespace ([] ++ (write repr indent 0 value.sortKeys ++ blank)) =
      write repr indent 0 value.sortKeys ++ blank :=
    skipWhitespace_write hstorable (by simp) blank
  have hread : read nesting (write repr indent 0 value.sortKeys ++ blank) =
      .ok (value.sortKeys, blank) :=
    read_write value.sortKeys 0 hstorable ((depth_sortKeys value nesting).mpr hdepth) hends
  rw [List.nil_append] at hskip
  rw [loadsText, hskip, hread, Run.ok_bind]
  exact if_pos (List.dropWhile_eq_nil_iff.mpr hblank)

end

end PyJson

end Text
