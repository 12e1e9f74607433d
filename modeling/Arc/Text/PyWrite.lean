/-
JSON as `json.dumps` writes it in ASCII, with the keys sorted and an indentation.

`sortKeys` orders the fields of every dictionary and `write` lays out what it is given.
The escape of a text is the escapes of its characters one after the other, so a text that
is part of another has its escape in the escape of the other; and the escape of every
text of a value, the keys included, stands in what is written (`escaped_infix_write`).

The writer raises where a value nests too deep or holds an integer of too many digits.
Python raises whichever of the two it comes to first; here the depth is looked at first.
-/
import Arc.Text.PyJson

namespace Text

/-- The exceptions of `json`. -/
inductive JsonError
  | jsonDecodeError
  | valueError
  | recursionError
  deriving DecidableEq, Repr

namespace PyJson

/-! ### The order of the keys -/

mutual

/-- `sort_keys=True` -/
def sortKeys : PyJson → PyJson
  | .list items => .list (sortItems items)
  | .dict fields => .dict ((sortFields fields).insertionSort fun a b => a.1 ≤ b.1)
  | value => value

def sortItems : List PyJson → List PyJson
  | [] => []
  | item :: items => item.sortKeys :: sortItems items

/-- The values sorted, before the fields are. -/
def sortFields : List (Str × PyJson) → List (Str × PyJson)
  | [] => []
  | (key, value) :: fields => (key, value.sortKeys) :: sortFields fields

end

theorem sortItems_eq_map (items : List PyJson) : sortItems items = items.map sortKeys := by
  induction items with
  | nil => rfl
  | cons item items ih => rw [sortItems, ih, List.map_cons]

theorem sortFields_eq_map (fields : List (Str × PyJson)) :
    sortFields fields = fields.map fun f => (f.1, f.2.sortKeys) := by
  induction fields with
  | nil => rfl
  | cons f fields ih => rw [sortFields, ih, List.map_cons]

/-! ### Escapes -/

/-- `\u` and the four digits of a unit. -/
def unicodeEscape (n : Nat) : Str :=
  Str.ofString "\\u" ++
    [hexDigit (n / 4096 % 16), hexDigit (n / 256 % 16), hexDigit (n / 16 % 16), hexDigit (n % 16)]

/-- `ensure_ascii=True`: how a character stands in a quoted string. -/
def escapeAscii (c : CodePoint) : Str :=
  if c.val = 0x22 ∨ c.val = 0x5C then [0x5C, c]
  else if c.val = 0x0A then Str.ofString "\\n"
  else if c.val = 0x0D then Str.ofString "\\r"
  else if c.val = 0x09 then Str.ofString "\\t"
  else if c.val = 0x0C then Str.ofString "\\f"
  else if c.val = 0x08 then Str.ofString "\\b"
  else if 0x20 ≤ c.val ∧ c.val ≤ 0x7E then [c]
  else if c.val < 0x10000 then unicodeEscape c.val
  else
    unicodeEscape (0xD800 + (c.val - 0x10000) / 0x400) ++
      unicodeEscape (0xDC00 + (c.val - 0x10000) % 0x400)

/-- The escape of a text. -/
def escaped (s : Str) : Str := s.flatMap escapeAscii

def quoteAscii (s : Str) : Str := 0x22 :: (escaped s ++ [0x22])

/-! ### Layout -/

/-- The line break before a value of a level, where there is an indentation. -/
def newline (indent : Option Nat) (level : Nat) : Str :=
  match indent with
  | Option.none => []
  | some n => 0x0A :: List.replicate (n * level) 0x20

/-- What stands after the comma between two values. -/
def gap (indent : Option Nat) (level : Nat) : Str :=
  match indent with
  | Option.none => [0x20]
  | some _ => newline indent level

section

variable (repr : Str → Str) (indent : Option Nat)

mutual

/-- The text of a value that starts at a level. -/
def write (level : Nat) : PyJson → Str
  | .none => Str.ofString "null"
  | .bool b => Str.ofString (if b then "true" else "false")
  | .int n => Str.ofString (toString n)
  | .float literal => repr literal
  | .str s => quoteAscii s
  | .list [] => Str.ofString "[]"
  | .list (item :: items) =>
    0x5B :: (newline indent (level + 1) ++ write (level + 1) item ++
      writeItems (level + 1) items ++ newline indent level ++ [0x5D])
  | .dict [] => Str.ofString "\x7b\x7d"
  | .dict ((key, value) :: fields) =>
    0x7B :: (newline indent (level + 1) ++ quoteAscii key ++ Str.ofString ": " ++
      write (level + 1) value ++ writeFields (level + 1) fields ++ newline indent level ++ [0x7D])

/-- The items after the first. -/
def writeItems (level : Nat) : List PyJson → Str
  | [] => []
  | item :: items => 0x2C :: (gap indent level ++ write level item ++ writeItems level items)

/-- The fields after the first. -/
def writeFields (level : Nat) : List (Str × PyJson) → Str
  | [] => []
  | (key, value) :: fields =>
    0x2C :: (gap indent level ++ quoteAscii key ++ Str.ofString ": " ++ write level value ++
      writeFields level fields)

end

end

/-! ### What cannot be written

Python refuses to write what nests deeper than it may recurse and to print an integer of
more than 4300 digits. These are the only errors of the writer for values that were read
from JSON.
-/

mutual

/-- How deep a value nests. -/
def depth : PyJson → Nat
  | .list items => depthItems items + 1
  | .dict fields => depthFields fields + 1
  | _ => 0

def depthItems : List PyJson → Nat
  | [] => 0
  | item :: items => max item.depth (depthItems items)

def depthFields : List (Str × PyJson) → Nat
  | [] => 0
  | (_, value) :: fields => max value.depth (depthFields fields)

end

/-- `str` of the integer raises. -/
def overlong (n : Int) : Bool := maxIntDigits < (Nat.toDigits 10 n.natAbs).length

mutual

def hasOverlong : PyJson → Bool
  | .int n => overlong n
  | .list items => hasOverlongItem items
  | .dict fields => hasOverlongField fields
  | _ => false

def hasOverlongItem : List PyJson → Bool
  | [] => false
  | item :: items => item.hasOverlong || hasOverlongItem items

def hasOverlongField : List (Str × PyJson) → Bool
  | [] => false
  | (_, value) :: fields => value.hasOverlong || hasOverlongField fields

end

/-- `json.dumps(value, indent=indent, sort_keys=True)`, in an interpreter that nests this deep. -/
def dumpsAscii (nesting : Nat) (repr : Str → Str) (indent : Option Nat) (value : PyJson) :
    Except JsonError Str :=
  if nesting < value.depth then .error .recursionError
  else if value.hasOverlong then .error .valueError
  else .ok (write repr indent 0 value.sortKeys)

theorem dumpsAscii_eq_ok {nesting : Nat} {repr : Str → Str} {indent : Option Nat} {value : PyJson}
    {text : Str} : dumpsAscii nesting repr indent value = .ok text ↔
      value.depth ≤ nesting ∧ value.hasOverlong = false ∧
        text = write repr indent 0 value.sortKeys := by
  unfold dumpsAscii
  split
  · rename_i hdeep
    simp only [reduceCtorEq, false_iff, not_and]
    exact fun h => absurd h (Nat.not_le_of_lt hdeep)
  split
  · rename_i hlong
    simp [hlong]
  · rename_i hdeep hlong
    simp only [Except.ok.injEq]
    exact ⟨fun h => ⟨Nat.le_of_not_lt hdeep, by simpa using hlong, h.symm⟩, fun h => h.2.2.symm⟩

/-- `json.dumps` with `ensure_ascii=False`, in an interpreter that nests this deep. -/
def dumpsCompact (nesting : Nat) (repr : Str → Str) (value : PyJson) : Except JsonError Str :=
  if nesting < value.depth then .error .recursionError
  else if value.hasOverlong then .error .valueError
  else .ok (value.dumps repr)

/-! ### The texts of a value -/

mutual

/-- Every text of the value, the keys included. -/
def strings : PyJson → List Str
  | .str s => [s]
  | .list items => itemStrings items
  | .dict fields => fieldStrings fields
  | _ => []

def itemStrings : List PyJson → List Str
  | [] => []
  | item :: items => item.strings ++ itemStrings items

def fieldStrings : List (Str × PyJson) → List Str
  | [] => []
  | (key, value) :: fields => key :: (value.strings ++ fieldStrings fields)

end

theorem mem_fieldStrings {s : Str} {fields : List (Str × PyJson)} :
    s ∈ fieldStrings fields ↔ ∃ f ∈ fields, s = f.1 ∨ s ∈ f.2.strings := by
  induction fields with
  | nil => simp [fieldStrings]
  | cons f fields ih => simp [fieldStrings, ih, or_assoc]

mutual

/-- Sorting the keys keeps the texts. -/
theorem mem_strings_sortKeys {s : Str} : ∀ value : PyJson,
    s ∈ value.sortKeys.strings ↔ s ∈ value.strings
  | .none | .bool _ | .int _ | .float _ | .str _ => Iff.rfl
  | .list items => by
      rw [sortKeys, strings, strings]
      exact mem_itemStrings_sortItems items
  | .dict fields => by
      rw [sortKeys, strings, strings, mem_fieldStrings]
      simp only [List.mem_insertionSort]
      rw [← mem_fieldStrings]
      exact mem_fieldStrings_sortFields fields

theorem mem_itemStrings_sortItems {s : Str} : ∀ items : List PyJson,
    s ∈ itemStrings (sortItems items) ↔ s ∈ itemStrings items
  | [] => Iff.rfl
  | item :: items => by
      rw [sortItems, itemStrings, itemStrings, List.mem_append, List.mem_append,
        mem_strings_sortKeys item, mem_itemStrings_sortItems items]

theorem mem_fieldStrings_sortFields {s : Str} : ∀ fields : List (Str × PyJson),
    s ∈ fieldStrings (sortFields fields) ↔ s ∈ fieldStrings fields
  | [] => Iff.rfl
  | (key, value) :: fields => by
      rw [sortFields, fieldStrings, fieldStrings, List.mem_cons, List.mem_cons, List.mem_append,
        List.mem_append, mem_strings_sortKeys value, mem_fieldStrings_sortFields fields]

end

/-- A part of a text has its escape in the escape of the text. -/
theorem escaped_infix {v s : Str} (h : v <:+: s) : escaped v <:+: escaped s := by
  obtain ⟨before, after, rfl⟩ := h
  exact ⟨escaped before, escaped after, by simp [escaped]⟩

theorem escaped_infix_quoteAscii (s : Str) : escaped s <:+: quoteAscii s :=
  ⟨[0x22], [0x22], rfl⟩

section

variable {repr : Str → Str} {indent : Option Nat}

mutual

/-- **The escape of every text of a value stands in what is written.** -/
theorem escaped_infix_write {s : Str} : ∀ (level : Nat) (value : PyJson), s ∈ value.strings →
    escaped s <:+: write repr indent level value
  | _, .none, h | _, .bool _, h | _, .int _, h | _, .float _, h => by simp [strings] at h
  | level, .str text, h => by
      obtain rfl : s = text := by simpa [strings] using h
      exact escaped_infix_quoteAscii s
  | _, .list [], h => by simp [strings, itemStrings] at h
  | level, .list (item :: items), h => by
      rw [strings, itemStrings, List.mem_append] at h
      rw [write]
      rcases h with h | h
      · obtain ⟨before, after, heq⟩ := escaped_infix_write (level + 1) item h
        exact ⟨0x5B :: (newline indent (level + 1) ++ before),
          after ++ writeItems repr indent (level + 1) items ++ newline indent level ++ [0x5D],
          by simp [← heq]⟩
      · obtain ⟨before, after, heq⟩ := escaped_infix_writeItems (level + 1) items h
        exact ⟨0x5B :: (newline indent (level + 1) ++ write repr indent (level + 1) item ++ before),
          after ++ newline indent level ++ [0x5D], by simp [← heq]⟩
  | _, .dict [], h => by simp [strings, fieldStrings] at h
  | level, .dict ((key, value) :: fields), h => by
      rw [strings, fieldStrings, List.mem_cons, List.mem_append] at h
      rw [write]
      rcases h with rfl | h | h
      · obtain ⟨before, after, heq⟩ := escaped_infix_quoteAscii s
        exact ⟨0x7B :: (newline indent (level + 1) ++ before),
          after ++ Str.ofString ": " ++ write repr indent (level + 1) value ++
            writeFields repr indent (level + 1) fields ++ newline indent level ++ [0x7D],
          by simp [← heq]⟩
      · obtain ⟨before, after, heq⟩ := escaped_infix_write (level + 1) value h
        exact ⟨0x7B :: (newline indent (level + 1) ++ quoteAscii key ++ Str.ofString ": " ++ before),
          after ++ writeFields repr indent (level + 1) fields ++ newline indent level ++ [0x7D],
          by simp [← heq]⟩
      · obtain ⟨before, after, heq⟩ := escaped_infix_writeFields (level + 1) fields h
        exact ⟨0x7B :: (newline indent (level + 1) ++ quoteAscii key ++ Str.ofString ": " ++
          write repr indent (level + 1) value ++ before),
          after ++ newline indent level ++ [0x7D], by simp [← heq]⟩

theorem escaped_infix_writeItems {s : Str} : ∀ (level : Nat) (items : List PyJson),
    s ∈ itemStrings items → escaped s <:+: writeItems repr indent level items
  | _, [], h => by simp [itemStrings] at h
  | level, item :: items, h => by
      rw [itemStrings, List.mem_append] at h
      rw [writeItems]
      rcases h with h | h
      · obtain ⟨before, after, heq⟩ := escaped_infix_write level item h
        exact ⟨0x2C :: (gap indent level ++ before), after ++ writeItems repr indent level items,
          by simp [← heq]⟩
      · obtain ⟨before, after, heq⟩ := escaped_infix_writeItems level items h
        exact ⟨0x2C :: (gap indent level ++ write repr indent level item ++ before), after,
          by simp [← heq]⟩

theorem escaped_infix_writeFields {s : Str} : ∀ (level : Nat) (fields : List (Str × PyJson)),
    s ∈ fieldStrings fields → escaped s <:+: writeFields repr indent level fields
  | _, [], h => by simp [fieldStrings] at h
  | level, (key, value) :: fields, h => by
      rw [fieldStrings, List.mem_cons, List.mem_append] at h
      rw [writeFields]
      rcases h with rfl | h | h
      · obtain ⟨before, after, heq⟩ := escaped_infix_quoteAscii s
        exact ⟨0x2C :: (gap indent level ++ before), after ++ Str.ofString ": " ++
          write repr indent level value ++ writeFields repr indent level fields, by simp [← heq]⟩
      · obtain ⟨before, after, heq⟩ := escaped_infix_write level value h
        exact ⟨0x2C :: (gap indent level ++ quoteAscii key ++ Str.ofString ": " ++ before),
          after ++ writeFields repr indent level fields, by simp [← heq]⟩
      · obtain ⟨before, after, heq⟩ := escaped_infix_writeFields level fields h
        exact ⟨0x2C :: (gap indent level ++ quoteAscii key ++ Str.ofString ": " ++
          write repr indent level value ++ before), after, by simp [← heq]⟩

end

end

/-! ### What an escape looks like -/

/-- A character that is written as it is. -/
def isPlain (c : CodePoint) : Bool :=
  0x20 ≤ c.val && c.val ≤ 0x7E && c.val != 0x22 && c.val != 0x5C

/-- A character that can be seen in ASCII. -/
def isPrintable (c : CodePoint) : Bool := 0x20 ≤ c.val && c.val ≤ 0x7E

theorem escapeAscii_plain {c : CodePoint} (h : isPlain c = true) : escapeAscii c = [c] := by
  simp only [isPlain, Bool.and_eq_true, decide_eq_true_eq, bne_iff_ne] at h
  obtain ⟨⟨⟨hlow, hhigh⟩, hquote⟩, hslash⟩ := h
  unfold escapeAscii
  rw [if_neg (by omega), if_neg (by omega), if_neg (by omega), if_neg (by omega),
    if_neg (by omega), if_neg (by omega), if_pos ⟨hlow, hhigh⟩]

/-- A text of plain characters is its own escape. -/
theorem escaped_plain {s : Str} (h : ∀ c ∈ s, isPlain c = true) : escaped s = s := by
  induction s with
  | nil => rfl
  | cons c s ih =>
      rw [List.forall_mem_cons] at h
      rw [escaped, List.flatMap_cons, escapeAscii_plain h.1]
      exact congrArg (c :: ·) (ih h.2)

theorem hexDigit_printable {n : Nat} (h : n < 16) : isPrintable (hexDigit n) = true := by
  have hall : ∀ m : Fin 16, isPrintable (hexDigit m.val) = true := by decide +kernel
  exact hall ⟨n, h⟩

theorem unicodeEscape_printable (n : Nat) : ∀ c ∈ unicodeEscape n, isPrintable c = true := by
  have hmod : ∀ m, isPrintable (hexDigit (m % 16)) = true :=
    fun m => hexDigit_printable (Nat.mod_lt _ (by decide))
  have hstart : ∀ c ∈ Str.ofString "\\u", isPrintable c = true := by
    simp [Str.ofString, CodePoint.ofChar, isPrintable]
  intro c hc
  rw [unicodeEscape, List.mem_append] at hc
  rcases hc with hc | hc
  · exact hstart c hc
  · simp only [List.mem_cons, List.not_mem_nil, or_false] at hc
    rcases hc with rfl | rfl | rfl | rfl <;> exact hmod _

/-- An escape holds printable characters only. -/
theorem escapeAscii_printable (c : CodePoint) : ∀ x ∈ escapeAscii c, isPrintable x = true := by
  have hshort : ∀ text ∈ ["\\n", "\\r", "\\t", "\\f", "\\b"], ∀ x ∈ Str.ofString text,
      isPrintable x = true := by simp [Str.ofString, CodePoint.ofChar, isPrintable]
  have hslash : isPrintable 0x5C = true := by decide
  intro x hx
  unfold escapeAscii at hx
  split at hx
  · rename_i hc
    rw [List.mem_cons, List.mem_singleton] at hx
    rcases hx with rfl | rfl
    · exact hslash
    · simp only [isPrintable, Bool.and_eq_true, decide_eq_true_eq]
      omega
  split at hx
  · exact hshort "\\n" (by simp) x hx
  split at hx
  · exact hshort "\\r" (by simp) x hx
  split at hx
  · exact hshort "\\t" (by simp) x hx
  split at hx
  · exact hshort "\\f" (by simp) x hx
  split at hx
  · exact hshort "\\b" (by simp) x hx
  split at hx
  · rename_i hc
    rw [List.mem_singleton] at hx
    subst hx
    simpa [isPrintable] using hc
  split at hx
  · exact unicodeEscape_printable _ x hx
  · rw [List.mem_append] at hx
    exact hx.elim (unicodeEscape_printable _ x) (unicodeEscape_printable _ x)

theorem escaped_printable (s : Str) : ∀ c ∈ escaped s, isPrintable c = true := by
  intro c hc
  obtain ⟨d, -, hd⟩ := List.mem_flatMap.mp hc
  exact escapeAscii_printable d c hd

end PyJson

end Text
