/-
JSON as `json.loads` reads it.

The scanner recurses on how deep it may nest: a bracket at depth zero is a
`RecursionError`.  The loops over the items of a list and the fields of an object take
the scanner of the level below as an argument and run on a bound, the length of the text;
since a scan leaves a shorter text, a larger bound changes nothing
(`readItems_bound`, `readFields_bound`).

The bytes of a request are read with the constants refused (`readStandard`); the scanner
is otherwise the same.

What is read can be written again: it nests no deeper than the scanner may, and no
integer in it is too long (`read_writable`, `loads_writable`).
-/
import Arc.Run.Loop
import Arc.Text.PyWrite
import Mathlib.Algebra.Group.Nat.Defs
import Mathlib.Data.List.Induction
import Mathlib.Data.List.TakeWhile

namespace Text

namespace PyJson

/-! ### Reading -/

/-- The constants that are no JSON; they are floats. -/
def readConstant (s : Str) : Option (PyJson × Str) :=
  if (Str.ofString "NaN").isPrefixOf s then some (.float (Str.ofString "NaN"), s.drop 3)
  else if (Str.ofString "Infinity").isPrefixOf s then
    some (.float (Str.ofString "Infinity"), s.drop 8)
  else if (Str.ofString "-Infinity").isPrefixOf s then
    some (.float (Str.ofString "-Infinity"), s.drop 9)
  else Option.none

/-- A number, or else a constant. -/
def readNumber (s : Str) : Except JsonError (PyJson × Str) :=
  match scanInteger (scanSign s).2 with
  | Option.none =>
    match readConstant s with
    | some out => .ok out
    | Option.none => .error .jsonDecodeError
  | some (digits, rest) =>
    let sign := (scanSign s).1
    let fraction := (scanFraction rest).1
    let exponent := (scanExponent (scanFraction rest).2).1
    let rest := (scanExponent (scanFraction rest).2).2
    if fraction = [] ∧ exponent = [] then
      -- `int` refuses a text of too many digits
      if digits.length ≤ maxIntDigits then
        let n : Int := digitsValue digits
        .ok (.int (if sign = [] then n else -n), rest)
      else .error .valueError
    else .ok (.float (sign ++ digits ++ fraction ++ exponent), rest)

/-- A scanner: a value, and the rest of the text. -/
abbrev Scanner := Str → Except JsonError (PyJson × Str)

/-- The items of a list up to its bracket. -/
def readItems (read : Scanner) : Nat → Str → Except JsonError (List PyJson × Str)
  | 0, _ => .error .jsonDecodeError
  | bound + 1, s => do
    let (item, rest) ← read s
    match skipWhitespace rest with
    | c :: rest =>
      if c.val = 0x5D then .ok ([item], rest)
      else if c.val = 0x2C then do
        let (items, rest) ← readItems read bound (skipWhitespace rest)
        .ok (item :: items, rest)
      else .error .jsonDecodeError
    | [] => .error .jsonDecodeError

/-- A field of an object. -/
def readField (read : Scanner) (s : Str) : Except JsonError ((Str × PyJson) × Str) :=
  match s with
  | quote :: rest =>
    if quote.val ≠ 0x22 then .error .jsonDecodeError
    else
      match scanString rest with
      | some (key, rest) =>
        match skipWhitespace rest with
        | colon :: rest =>
          if colon.val ≠ 0x3A then .error .jsonDecodeError
          else do
            let (value, rest) ← read (skipWhitespace rest)
            .ok ((key, value), rest)
        | [] => .error .jsonDecodeError
      | Option.none => .error .jsonDecodeError
  | [] => .error .jsonDecodeError

/-- The fields of an object up to its brace, after those already read. -/
def readFields (read : Scanner) : Nat → List (Str × PyJson) → Str →
    Except JsonError (List (Str × PyJson) × Str)
  | 0, _, _ => .error .jsonDecodeError
  | bound + 1, fields, s => do
    let (field, rest) ← readField read s
    let fields := setField fields field.1 field.2
    match skipWhitespace rest with
    | c :: rest =>
      if c.val = 0x7D then .ok (fields, rest)
      else if c.val = 0x2C then readFields read bound fields (skipWhitespace rest)
      else .error .jsonDecodeError
    | [] => .error .jsonDecodeError

def readList (read : Scanner) : Scanner := fun s =>
  match skipWhitespace s with
  | c :: rest =>
    if c.val = 0x5D then .ok (.list [], rest)
    else do
      let (items, rest) ← readItems read (s.length + 1) (c :: rest)
      .ok (.list items, rest)
  | [] => .error .jsonDecodeError

def readDict (read : Scanner) : Scanner := fun s =>
  match skipWhitespace s with
  | c :: rest =>
    if c.val = 0x7D then .ok (.dict [], rest)
    else do
      let (fields, rest) ← readFields read (s.length + 1) [] (c :: rest)
      .ok (.dict fields, rest)
  | [] => .error .jsonDecodeError

/-- One value, by what its first character is; `list` and `dict` read after a bracket. -/
def readWith (list dict : Scanner) : Scanner
  | [] => .error .jsonDecodeError
  | c :: rest =>
    if c.val = 0x22 then
      match scanString rest with
      | some (text, rest) => .ok (.str text, rest)
      | Option.none => .error .jsonDecodeError
    else if c.val = 0x7B then dict rest
    else if c.val = 0x5B then list rest
    else
      match scanLiteral (c :: rest) with
      | some out => .ok out
      | Option.none => readNumber (c :: rest)

/-- `scan_once`, in an interpreter that nests this deep. -/
def read : Nat → Scanner
  | 0 => readWith (fun _ => .error .recursionError) (fun _ => .error .recursionError)
  | nesting + 1 => readWith (readList (read nesting)) (readDict (read nesting))

/-- `json.loads` of a text. -/
def loadsText (nesting : Nat) (text : Str) : Except JsonError PyJson := do
  let (value, rest) ← read nesting (skipWhitespace text)
  if skipWhitespace rest = [] then .ok value else .error .jsonDecodeError

/-- The scanner, with a constant refused. -/
def refuseConstants (read : Scanner) : Scanner := fun s =>
  if (readConstant s).isSome then .error .valueError else read s

/-- `scan_once` with a `parse_constant` that raises `ValueError`. -/
def readStandard : Nat → Scanner
  | 0 =>
    refuseConstants (readWith (fun _ => .error .recursionError) fun _ => .error .recursionError)
  | nesting + 1 =>
    refuseConstants (readWith (readList (readStandard nesting)) (readDict (readStandard nesting)))

/-- `json.loads` of bytes with a `parse_constant` that raises; so may decoding, a `ValueError`. -/
def loads (nesting : Nat) (bytes : List UInt8) : Except JsonError PyJson :=
  match decodeBytes bytes with
  | Option.none => .error .valueError
  | some text => do
    let (value, rest) ← readStandard nesting (skipWhitespace text)
    if skipWhitespace rest = [] then .ok value else .error .jsonDecodeError

/-! ### A scan leaves a shorter text

The loops over items and fields are bounded by the length of the text. Every scan leaves
a text that is shorter, so the bound is never reached and stands for no behaviour of the
scanner.
-/

def Shortens (read : Scanner) : Prop :=
  ∀ {s rest : Str} {value : PyJson}, read s = .ok (value, rest) → rest.length < s.length

theorem readConstant_shorter {s rest : Str} {value : PyJson}
    (h : readConstant s = some (value, rest)) : rest.length < s.length := by
  have hdrop : ∀ {word : String} {n : Nat}, (Str.ofString word).isPrefixOf s = true →
      0 < n → n ≤ (Str.ofString word).length → (s.drop n).length < s.length := by
    intro word n hprefix hpos hle
    have := (List.isPrefixOf_iff_prefix.mp hprefix).length_le
    rw [List.length_drop]
    omega
  unfold readConstant at h
  split at h
  · rename_i hword
    cases h
    exact hdrop hword (by decide) (by decide)
  split at h
  · rename_i hword
    cases h
    exact hdrop hword (by decide) (by decide)
  split at h
  · rename_i hword
    cases h
    exact hdrop hword (by decide) (by decide)
  · cases h

theorem readNumber_shortens : Shortens readNumber := by
  intro s rest value h
  unfold readNumber at h
  split at h
  · split at h
    · rename_i out hconstant
      cases h
      exact readConstant_shorter hconstant
    · cases h
  · rename_i digits rest₁ hdigits
    have hinteger := scanInteger_shorter hdigits
    have hfraction := length_scanFraction_le rest₁
    have hexponent := length_scanExponent_le (scanFraction rest₁).2
    have hsign := length_scanSign_le s
    have hrest : rest = (scanExponent (scanFraction rest₁).2).2 := by
      dsimp only at h
      split at h
      · split at h <;> cases h
        rfl
      · cases h
        rfl
    rw [hrest]
    omega

section

variable {read : Scanner} {s rest : Str}

theorem readItems_shorter (hread : Shortens read) {bound : Nat} {items : List PyJson}
    (h : readItems read bound s = .ok (items, rest)) : rest.length < s.length := by
  induction bound generalizing s items with
  | zero => cases h
  | succ bound ih =>
      unfold readItems at h
      obtain ⟨⟨item, rest₁⟩, hitem, h⟩ := Run.bind_eq_ok.mp h
      have hfirst := hread hitem
      have hskip := length_skipWhitespace_le rest₁
      dsimp only at h
      split at h
      · rename_i c rest₂ heq
        rw [heq, List.length_cons] at hskip
        split at h
        · cases h
          omega
        split at h
        · obtain ⟨⟨items', rest'⟩, hitems, h⟩ := Run.bind_eq_ok.mp h
          obtain rfl : rest' = rest := congrArg Prod.snd (Except.ok.inj h)
          have hrest := ih hitems
          have hskip' := length_skipWhitespace_le rest₂
          omega
        · cases h
      · cases h

theorem readField_shorter (hread : Shortens read) {field : Str × PyJson}
    (h : readField read s = .ok (field, rest)) : rest.length < s.length := by
  cases s with
  | nil => cases h
  | cons quote tail =>
      unfold readField at h
      dsimp only at h
      split at h
      · cases h
      split at h
      · rename_i key rest₁ hkey
        have hfirst := scanString_shorter hkey
        have hskip := length_skipWhitespace_le rest₁
        split at h
        · rename_i colon rest₂ heq
          rw [heq, List.length_cons] at hskip
          split at h
          · cases h
          obtain ⟨⟨value, rest₃⟩, hvalue, h⟩ := Run.bind_eq_ok.mp h
          obtain rfl : rest₃ = rest := congrArg Prod.snd (Except.ok.inj h)
          have hsecond := hread hvalue
          have hskip' := length_skipWhitespace_le rest₂
          rw [List.length_cons]
          omega
        · cases h
      · cases h

theorem readFields_shorter (hread : Shortens read) {bound : Nat}
    {before fields : List (Str × PyJson)} (h : readFields read bound before s = .ok (fields, rest)) :
    rest.length < s.length := by
  induction bound generalizing s before with
  | zero => cases h
  | succ bound ih =>
      unfold readFields at h
      obtain ⟨⟨field, rest₁⟩, hfield, h⟩ := Run.bind_eq_ok.mp h
      have hfirst := readField_shorter hread hfield
      have hskip := length_skipWhitespace_le rest₁
      dsimp only at h
      split at h
      · rename_i c rest₂ heq
        rw [heq, List.length_cons] at hskip
        split at h
        · cases h
          omega
        split at h
        · have hrest := ih h
          have hskip' := length_skipWhitespace_le rest₂
          omega
        · cases h
      · cases h

/-- **From the length of the text on, the bound of a loop does not matter.** -/
theorem readItems_bound (hread : Shortens read) {bound bound' : Nat} (h : s.length < bound)
    (h' : s.length < bound') : readItems read bound s = readItems read bound' s := by
  induction bound generalizing s bound' with
  | zero => exact absurd h (Nat.not_lt_zero _)
  | succ bound ih =>
      obtain ⟨bound', rfl⟩ := Nat.exists_eq_succ_of_ne_zero (Nat.ne_of_gt (Nat.zero_lt_of_lt h'))
      unfold readItems
      cases hitem : read s with
      | error e => rfl
      | ok out =>
          obtain ⟨item, rest⟩ := out
          have hfirst := hread hitem
          have hskip := length_skipWhitespace_le rest
          rw [Run.ok_bind, Run.ok_bind]
          dsimp only
          cases heq : skipWhitespace rest with
          | nil => rfl
          | cons c rest' =>
              rw [heq, List.length_cons] at hskip
              have hskip' := length_skipWhitespace_le rest'
              dsimp only
              rw [ih (by omega) (by omega : (skipWhitespace rest').length < bound')]

theorem readFields_bound (hread : Shortens read) {bound bound' : Nat}
    {fields : List (Str × PyJson)} (h : s.length < bound) (h' : s.length < bound') :
    readFields read bound fields s = readFields read bound' fields s := by
  induction bound generalizing s bound' fields with
  | zero => exact absurd h (Nat.not_lt_zero _)
  | succ bound ih =>
      obtain ⟨bound', rfl⟩ := Nat.exists_eq_succ_of_ne_zero (Nat.ne_of_gt (Nat.zero_lt_of_lt h'))
      unfold readFields
      cases hfield : readField read s with
      | error e => rfl
      | ok out =>
          obtain ⟨field, rest⟩ := out
          have hfirst := readField_shorter hread hfield
          have hskip := length_skipWhitespace_le rest
          rw [Run.ok_bind, Run.ok_bind]
          dsimp only
          cases heq : skipWhitespace rest with
          | nil => rfl
          | cons c rest' =>
              rw [heq, List.length_cons] at hskip
              have hskip' := length_skipWhitespace_le rest'
              dsimp only
              rw [ih (by omega) (by omega : (skipWhitespace rest').length < bound')]

theorem readList_shorter (hread : Shortens read) {value : PyJson}
    (h : readList read s = .ok (value, rest)) : rest.length < s.length := by
  have hskip := length_skipWhitespace_le s
  unfold readList at h
  split at h
  · rename_i c tail heq
    rw [heq, List.length_cons] at hskip
    split at h
    · cases h
      omega
    · obtain ⟨⟨items, rest'⟩, hitems, h⟩ := Run.bind_eq_ok.mp h
      obtain rfl : rest' = rest := congrArg Prod.snd (Except.ok.inj h)
      have := readItems_shorter hread hitems
      rw [List.length_cons] at this
      omega
  · cases h

theorem readDict_shorter (hread : Shortens read) {value : PyJson}
    (h : readDict read s = .ok (value, rest)) : rest.length < s.length := by
  have hskip := length_skipWhitespace_le s
  unfold readDict at h
  split at h
  · rename_i c tail heq
    rw [heq, List.length_cons] at hskip
    split at h
    · cases h
      omega
    · obtain ⟨⟨fields, rest'⟩, hfields, h⟩ := Run.bind_eq_ok.mp h
      obtain rfl : rest' = rest := congrArg Prod.snd (Except.ok.inj h)
      have := readFields_shorter hread hfields
      rw [List.length_cons] at this
      omega
  · cases h

end

theorem readWith_shortens {list dict : Scanner} (hlist : Shortens list) (hdict : Shortens dict) :
    Shortens (readWith list dict) := by
  intro s rest value h
  cases s with
  | nil => cases h
  | cons c tail =>
      rw [List.length_cons]
      rw [readWith] at h
      split at h
      · split at h
        · rename_i text rest' hstring
          cases h
          exact (scanString_shorter hstring).trans (Nat.lt_succ_self _)
        · cases h
      split at h
      · exact (hdict h).trans (Nat.lt_succ_self _)
      split at h
      · exact (hlist h).trans (Nat.lt_succ_self _)
      split at h
      · rename_i out hliteral
        cases h
        exact scanLiteral_shorter hliteral
      · exact readNumber_shortens h

theorem read_shortens (nesting : Nat) : Shortens (read nesting) := by
  induction nesting with
  | zero => exact readWith_shortens (fun h => by cases h) (fun h => by cases h)
  | succ nesting ih => exact readWith_shortens (readList_shorter ih) (readDict_shorter ih)

/-! ### What is read can be written

The writer fails at two values: one that nests too deep, and an integer of too many
digits. The scanner of the same interpreter meets the same two limits first.
-/

/-- The value can be written by an interpreter that nests this deep. -/
def Writable (nesting : Nat) (value : PyJson) : Prop :=
  value.depth ≤ nesting ∧ value.hasOverlong = false

theorem writable_list {nesting : Nat} {items : List PyJson} :
    Writable (nesting + 1) (.list items) ↔ ∀ item ∈ items, Writable nesting item := by
  simp only [Writable, depth, hasOverlong, Nat.add_le_add_iff_right]
  induction items with
  | nil => simp [depthItems, hasOverlongItem]
  | cons item items ih =>
      rw [List.forall_mem_cons, ← ih, depthItems, hasOverlongItem, Nat.max_le, Bool.or_eq_false_iff]
      tauto

theorem writable_dict {nesting : Nat} {fields : List (Str × PyJson)} :
    Writable (nesting + 1) (.dict fields) ↔ ∀ f ∈ fields, Writable nesting f.2 := by
  simp only [Writable, depth, hasOverlong, Nat.add_le_add_iff_right]
  induction fields with
  | nil => simp [depthFields, hasOverlongField]
  | cons f fields ih =>
      rw [List.forall_mem_cons, ← ih, depthFields, hasOverlongField, Nat.max_le,
        Bool.or_eq_false_iff]
      tauto

theorem digitsValue_lt {digits : Str} (h : ∀ c ∈ digits, isDigit c = true) :
    digitsValue digits < 10 ^ digits.length := by
  induction digits using List.reverseRecOn with
  | nil => simp [digitsValue]
  | append_singleton digits c ih =>
      rw [List.forall_mem_append, List.forall_mem_singleton] at h
      have hdigit := h.2
      simp only [isDigit, Bool.and_eq_true, decide_eq_true_eq] at hdigit
      have hlt := ih h.1
      rw [digitsValue, List.foldl_append, List.foldl_cons, List.foldl_nil, ← digitsValue,
        List.length_append, List.length_singleton, Nat.pow_succ]
      omega

theorem scanInteger_digits {s digits rest : Str} (h : scanInteger s = some (digits, rest)) :
    digits ≠ [] ∧ ∀ c ∈ digits, isDigit c = true := by
  unfold scanInteger at h
  split at h
  · rename_i c tail
    split at h
    · rename_i hzero
      cases h
      refine ⟨by simp, ?_⟩
      simp [isDigit, hzero]
    split at h
    · rename_i hdigit
      cases h
      refine ⟨?_, fun c hc => List.mem_takeWhile_imp hc⟩
      simp [hdigit]
    · cases h
  · cases h

theorem readConstant_float {s rest : Str} {value : PyJson}
    (h : readConstant s = some (value, rest)) : ∃ literal, value = .float literal := by
  unfold readConstant at h
  split at h
  · cases h
    exact ⟨_, rfl⟩
  split at h
  · cases h
    exact ⟨_, rfl⟩
  split at h
  · cases h
    exact ⟨_, rfl⟩
  · cases h

theorem readNumber_writable {s rest : Str} {value : PyJson} {nesting : Nat}
    (h : readNumber s = .ok (value, rest)) : Writable nesting value := by
  unfold readNumber at h
  split at h
  · split at h
    · rename_i out hconstant
      cases h
      obtain ⟨literal, rfl⟩ := readConstant_float hconstant
      exact ⟨Nat.zero_le _, rfl⟩
    · cases h
  · rename_i digits rest₁ hdigits
    obtain ⟨hne, hall⟩ := scanInteger_digits hdigits
    dsimp only at h
    split at h
    · split at h
      · rename_i hlength
        cases h
        refine ⟨Nat.zero_le _, ?_⟩
        rw [hasOverlong, overlong, decide_eq_false_iff_not, not_lt]
        refine le_trans ?_ hlength
        rw [Nat.length_toDigits_le_iff (by decide) (List.length_pos_of_ne_nil hne)]
        have hlt := digitsValue_lt hall
        split
        · exact hlt
        · rw [Int.natAbs_neg]
          exact hlt
      · cases h
    · cases h
      exact ⟨Nat.zero_le _, rfl⟩

theorem scanLiteral_writable {s rest : Str} {value : PyJson} {nesting : Nat}
    (h : scanLiteral s = some (value, rest)) : Writable nesting value := by
  unfold scanLiteral at h
  split at h
  · cases h
    exact ⟨Nat.zero_le _, rfl⟩
  split at h
  · cases h
    exact ⟨Nat.zero_le _, rfl⟩
  split at h
  · cases h
    exact ⟨Nat.zero_le _, rfl⟩
  · cases h

/-- Every value the scanner reads has the property. -/
def Yields (read : Scanner) (P : PyJson → Prop) : Prop :=
  ∀ {s rest : Str} {value : PyJson}, read s = .ok (value, rest) → P value

section

variable {read : Scanner} {P : PyJson → Prop} {s rest : Str}

theorem readItems_yields (hread : Yields read P) {bound : Nat} {items : List PyJson}
    (h : readItems read bound s = .ok (items, rest)) : ∀ item ∈ items, P item := by
  induction bound generalizing s items with
  | zero => cases h
  | succ bound ih =>
      unfold readItems at h
      obtain ⟨⟨item, rest₁⟩, hitem, h⟩ := Run.bind_eq_ok.mp h
      have hfirst := hread hitem
      dsimp only at h
      split at h
      · split at h
        · cases h
          exact List.forall_mem_singleton.mpr hfirst
        split at h
        · obtain ⟨⟨items', rest'⟩, hitems, h⟩ := Run.bind_eq_ok.mp h
          cases h
          exact List.forall_mem_cons.mpr ⟨hfirst, ih hitems⟩
        · cases h
      · cases h

theorem readField_yields (hread : Yields read P) {field : Str × PyJson}
    (h : readField read s = .ok (field, rest)) : P field.2 := by
  unfold readField at h
  split at h
  · split at h
    · cases h
    split at h
    · split at h
      · split at h
        · cases h
        obtain ⟨⟨value, rest'⟩, hvalue, h⟩ := Run.bind_eq_ok.mp h
        cases h
        exact hread hvalue
      · cases h
    · cases h
  · cases h

theorem mem_setField {fields : List (Str × PyJson)} {key : Str} {value : PyJson}
    {f : Str × PyJson} (h : f ∈ setField fields key value) : f ∈ fields ∨ f.2 = value := by
  unfold setField at h
  split at h
  · obtain ⟨g, hg, rfl⟩ := List.mem_map.mp h
    split
    · exact .inr rfl
    · exact .inl hg
  · rw [List.mem_append, List.mem_singleton] at h
    exact h.imp id fun h => by rw [h]

theorem readFields_yields (hread : Yields read P) {bound : Nat}
    {before fields : List (Str × PyJson)} (hbefore : ∀ f ∈ before, P f.2)
    (h : readFields read bound before s = .ok (fields, rest)) : ∀ f ∈ fields, P f.2 := by
  induction bound generalizing s before with
  | zero => cases h
  | succ bound ih =>
      unfold readFields at h
      obtain ⟨⟨field, rest₁⟩, hfield, h⟩ := Run.bind_eq_ok.mp h
      have hset : ∀ f ∈ setField before field.1 field.2, P f.2 := by
        intro f hf
        rcases mem_setField hf with hf | hf
        · exact hbefore f hf
        · rw [hf]
          exact readField_yields hread hfield
      dsimp only at h
      split at h
      · split at h
        · cases h
          exact hset
        split at h
        · exact ih hset h
        · cases h
      · cases h

theorem readList_writable {nesting : Nat} (hread : Yields read (Writable nesting)) :
    Yields (readList read) (Writable (nesting + 1)) := by
  intro s rest value h
  unfold readList at h
  split at h
  · split at h
    · cases h
      exact writable_list.mpr (by simp)
    · obtain ⟨⟨items, rest'⟩, hitems, h⟩ := Run.bind_eq_ok.mp h
      cases h
      exact writable_list.mpr (readItems_yields hread hitems)
  · cases h

theorem readDict_writable {nesting : Nat} (hread : Yields read (Writable nesting)) :
    Yields (readDict read) (Writable (nesting + 1)) := by
  intro s rest value h
  unfold readDict at h
  split at h
  · split at h
    · cases h
      exact writable_dict.mpr (by simp)
    · obtain ⟨⟨fields, rest'⟩, hfields, h⟩ := Run.bind_eq_ok.mp h
      cases h
      exact writable_dict.mpr (readFields_yields hread (by simp) hfields)
  · cases h

end

theorem readWith_writable {list dict : Scanner} {nesting : Nat}
    (hlist : Yields list (Writable nesting)) (hdict : Yields dict (Writable nesting)) :
    Yields (readWith list dict) (Writable nesting) := by
  intro s rest value h
  unfold readWith at h
  split at h
  · cases h
  split at h
  · split at h
    · cases h
      exact ⟨Nat.zero_le _, rfl⟩
    · cases h
  split at h
  · exact hdict h
  split at h
  · exact hlist h
  split at h
  · rename_i hliteral
    cases h
    exact scanLiteral_writable hliteral
  · exact readNumber_writable h

/-- **What an interpreter reads it can write.** -/
theorem read_writable (nesting : Nat) : Yields (read nesting) (Writable nesting) := by
  induction nesting with
  | zero => exact readWith_writable (fun h => by cases h) (fun h => by cases h)
  | succ nesting ih => exact readWith_writable (readList_writable ih) (readDict_writable ih)

theorem refuseConstants_writable {read : Scanner} {nesting : Nat}
    (h : Yields read (Writable nesting)) : Yields (refuseConstants read) (Writable nesting) := by
  intro s rest value hread
  unfold refuseConstants at hread
  split at hread
  · cases hread
  · exact h hread

theorem readStandard_writable (nesting : Nat) : Yields (readStandard nesting) (Writable nesting) := by
  induction nesting with
  | zero =>
      exact refuseConstants_writable
        (readWith_writable (fun h => by cases h) (fun h => by cases h))
  | succ nesting ih =>
      exact refuseConstants_writable
        (readWith_writable (readList_writable ih) (readDict_writable ih))

theorem loads_writable {nesting : Nat} {bytes : List UInt8} {value : PyJson}
    (h : loads nesting bytes = .ok value) : Writable nesting value := by
  unfold loads at h
  split at h
  · cases h
  · obtain ⟨⟨value', rest⟩, hread, h⟩ := Run.bind_eq_ok.mp h
    dsimp only at h
    split at h
    · cases h
      exact readStandard_writable nesting hread
    · cases h

theorem loadsText_writable {nesting : Nat} {text : Str} {value : PyJson}
    (h : loadsText nesting text = .ok value) : Writable nesting value := by
  obtain ⟨⟨value', rest⟩, hread, h⟩ := Run.bind_eq_ok.mp h
  dsimp only at h
  split at h
  · cases h
    exact read_writable nesting hread
  · cases h

end PyJson

end Text
