/-
A text in a file.

The decoder reads the bytes of one character and leaves what follows, so what the strict
encoder writes of a text is read as the text.  JSON that is written in ASCII holds
characters that can be seen and line feeds, and nothing else: a file read with universal
newlines has the lines it was written with.
-/
import Arc.Text.PySorted

namespace Text

/-! ### UTF-8 there and back

The encoder goes code point by code point, and the decoder reads one code point off the
bytes at a time. So the lemma about one character, with arbitrary bytes after it, is
enough.
-/

theorem toNat_ofNat_byte {n : Nat} (h : n < 0x100) : (UInt8.ofNat n).toNat = n :=
  UInt8.toNat_ofNat_of_lt' h

theorem isTail_digit (n : Nat) : isTail (.ofNat (0x80 + n % 64)) = true := by
  have hlt : n % 64 < 64 := Nat.mod_lt _ (by decide)
  rw [isTail, toNat_ofNat_byte (by omega), Bool.and_eq_true, decide_eq_true_eq, decide_eq_true_eq]
  omega

theorem tail_digit (n : Nat) : (UInt8.ofNat (0x80 + n % 64)).toNat - 0x80 = n % 64 := by
  have hlt : n % 64 < 64 := Nat.mod_lt _ (by decide)
  rw [toNat_ofNat_byte (by omega)]
  omega

theorem ofNat?_val (c : CodePoint) : CodePoint.ofNat? c.val = some c := dif_pos c.isLt

/-- The decoder reads the bytes of one character and leaves what follows. -/
theorem decodeUtf8_utf8Bytes (c : CodePoint) (rest : List UInt8) :
    decodeUtf8 (utf8Bytes c ++ rest) = (decodeUtf8 rest).map (c :: ·) := by
  have hc := c.isLt
  have hsome : ∀ {p : Option CodePoint}, p = some c →
      (do return (← p) :: (← decodeUtf8 rest)) = (decodeUtf8 rest).map (c :: ·) := by
    rintro p rfl
    cases decodeUtf8 rest <;> rfl
  unfold utf8Bytes
  dsimp only
  split
  · rename_i h
    have hlead := toNat_ofNat_byte (n := c.val) (by omega)
    rw [List.cons_append, List.nil_append, decodeUtf8.eq_def]
    dsimp only
    rw [if_pos (by omega), hlead]
    exact hsome (ofNat?_val c)
  split
  · have hlead := toNat_ofNat_byte (n := 0xC0 + c.val / 64) (by omega)
    have hsum : c.val / 64 * 64 + c.val % 64 = c.val := by omega
    rw [List.cons_append, List.cons_append, List.nil_append, decodeUtf8.eq_def]
    dsimp only
    rw [if_neg (by omega), if_pos (by omega), hlead]
    refine hsome ?_
    simp only [utf8Point, List.all_cons, List.all_nil, isTail_digit, Bool.and_self, if_true,
      List.foldl_cons, List.foldl_nil, tail_digit, Nat.add_sub_cancel_left, hsum]
    rw [if_pos (by omega), ofNat?_val]
  split
  · have hlead := toNat_ofNat_byte (n := 0xE0 + c.val / 4096) (by omega)
    have hsum : (c.val / 4096 * 64 + c.val / 64 % 64) * 64 + c.val % 64 = c.val := by omega
    simp only [List.cons_append, List.nil_append]
    rw [decodeUtf8.eq_def]
    dsimp only
    rw [if_neg (by omega), if_neg (by omega), if_pos (by omega), hlead]
    refine hsome ?_
    simp only [utf8Point, List.all_cons, List.all_nil, isTail_digit, Bool.and_self, if_true,
      List.foldl_cons, List.foldl_nil, tail_digit, Nat.add_sub_cancel_left, hsum]
    rw [if_pos (by omega), ofNat?_val]
  · have hlead := toNat_ofNat_byte (n := 0xF0 + c.val / 262144) (by omega)
    have hsum : ((c.val / 262144 * 64 + c.val / 4096 % 64) * 64 + c.val / 64 % 64) * 64 +
        c.val % 64 = c.val := by omega
    simp only [List.cons_append, List.nil_append]
    rw [decodeUtf8.eq_def]
    dsimp only
    rw [if_neg (by omega), if_neg (by omega), if_neg (by omega), if_pos (by omega), hlead]
    refine hsome ?_
    simp only [utf8Point, List.all_cons, List.all_nil, isTail_digit, Bool.and_self, if_true,
      List.foldl_cons, List.foldl_nil, tail_digit, Nat.add_sub_cancel_left, hsum]
    rw [if_pos (by omega), ofNat?_val]

/-- **What the strict encoder writes of a text is read as the text.** -/
theorem decodeUtf8_encodeUtf8 {s : Str} {bytes : List UInt8} (h : encodeUtf8 s = some bytes) :
    decodeUtf8 bytes = some s := by
  induction s generalizing bytes with
  | nil =>
      cases h
      rfl
  | cons c s ih =>
      rw [encodeUtf8] at h
      split at h
      · cases h
      · obtain ⟨rest, hrest, rfl⟩ := Option.map_eq_some_iff.mp h
        rw [decodeUtf8_utf8Bytes, ih hrest]
        rfl

namespace PyJson

/-! ### What is written can be seen

The writer escapes every character that is not printable ASCII. Line feeds come from the
indentation alone, and a carriage return is never written, so reading the file as text
changes nothing.
-/

/-- A character of JSON in ASCII: one that can be seen, or with an indent a line feed. -/
def Visible (indent : Option Nat) (c : CodePoint) : Prop :=
  isPrintable c = true ∨ indent.isSome = true ∧ c.val = 0x0A

variable {indent : Option Nat}

/-- No character of JSON in ASCII is a carriage return. -/
theorem Visible.ne_return {c : CodePoint} (h : Visible indent c) : c.val ≠ 0x0D := by
  intro hreturn
  rcases h with h | ⟨-, h⟩
  · simp only [isPrintable, Bool.and_eq_true, decide_eq_true_eq] at h
    omega
  · omega

theorem visible_of_printable {s : Str} (h : ∀ c ∈ s, isPrintable c = true) :
    ∀ c ∈ s, Visible indent c :=
  fun c hc => .inl (h c hc)

theorem visible_append {s t : Str} (hs : ∀ c ∈ s, Visible indent c)
    (ht : ∀ c ∈ t, Visible indent c) : ∀ c ∈ s ++ t, Visible indent c :=
  List.forall_mem_append.mpr ⟨hs, ht⟩

theorem newline_visible (indent : Option Nat) (level : Nat) :
    ∀ c ∈ newline indent level, Visible indent c := by
  cases indent with
  | none => simp [newline]
  | some n =>
      rw [newline]
      refine List.forall_mem_cons.mpr ⟨.inr ⟨rfl, rfl⟩, fun c hc => .inl ?_⟩
      rw [List.eq_of_mem_replicate hc]
      rfl

theorem gap_visible (indent : Option Nat) (level : Nat) :
    ∀ c ∈ gap indent level, Visible indent c := by
  cases indent with
  | none => exact List.forall_mem_singleton.mpr (.inl rfl)
  | some n => exact newline_visible (some n) level

theorem quoteAscii_visible (s : Str) : ∀ c ∈ quoteAscii s, Visible indent c := by
  rw [quoteAscii]
  refine List.forall_mem_cons.mpr ⟨.inl rfl, visible_append ?_ ?_⟩
  · exact visible_of_printable (escaped_printable s)
  · exact List.forall_mem_singleton.mpr (.inl rfl)

theorem decimal_visible (n : Nat) : ∀ c ∈ decimal n, Visible indent c := by
  intro c hc
  have hdigit := decimal_digits n c hc
  simp only [isDigit, Bool.and_eq_true, decide_eq_true_eq] at hdigit
  refine .inl ?_
  simp only [isPrintable, Bool.and_eq_true, decide_eq_true_eq]
  omega

/-- The digits of an integer can be seen. -/
theorem toString_visible (n : Int) : ∀ c ∈ Str.ofString (toString n), Visible indent c := by
  cases n with
  | ofNat n =>
      have htext : Str.ofString (toString (Int.ofNat n)) = decimal n := by
        show (n.repr).toList.map CodePoint.ofChar = _
        rw [Nat.toList_repr, decimal]
      rw [htext]
      exact decimal_visible n
  | negSucc n =>
      have htext : Str.ofString (toString (Int.negSucc n)) = 0x2D :: decimal (n + 1) := by
        show (("-" ++ (n + 1).repr).toList).map CodePoint.ofChar = _
        rw [String.toList_append, Nat.toList_repr, List.map_append]
        rfl
      rw [htext]
      exact List.forall_mem_cons.mpr ⟨.inl rfl, decimal_visible (n + 1)⟩

section

variable {repr : Str → Str}

theorem writeItems_visible {level : Nat} {items : List PyJson}
    (h : ∀ item ∈ items, ∀ c ∈ write repr indent level item, Visible indent c) :
    ∀ c ∈ writeItems repr indent level items, Visible indent c := by
  induction items with
  | nil => simp [writeItems]
  | cons item items ih =>
      rw [List.forall_mem_cons] at h
      rw [writeItems]
      refine List.forall_mem_cons.mpr ⟨.inl rfl, visible_append ?_ (ih h.2)⟩
      exact visible_append (gap_visible indent level) h.1

theorem writeFields_visible {level : Nat} {fields : List (Str × PyJson)}
    (h : ∀ f ∈ fields, ∀ c ∈ write repr indent level f.2, Visible indent c) :
    ∀ c ∈ writeFields repr indent level fields, Visible indent c := by
  have hcolon : ∀ c ∈ Str.ofString ": ", Visible indent c :=
    visible_of_printable (by simp [Str.ofString, CodePoint.ofChar, isPrintable])
  induction fields with
  | nil => simp [writeFields]
  | cons f fields ih =>
      rw [List.forall_mem_cons] at h
      rw [writeFields]
      refine List.forall_mem_cons.mpr ⟨.inl rfl, visible_append ?_ (ih h.2)⟩
      refine visible_append (visible_append (visible_append ?_ ?_) hcolon) h.1
      · exact gap_visible indent level
      · exact quoteAscii_visible f.1

/-- **JSON in ASCII holds characters that can be seen, and line feeds where it is indented.** -/
theorem write_visible (hrepr : ∀ literal, ∀ c ∈ repr literal, isPrintable c = true)
    (value : PyJson) : ∀ level, ∀ c ∈ write repr indent level value, Visible indent c := by
  have hliteral : ∀ text ∈ ["null", "true", "false", "[]", "\x7b\x7d", ": "],
      ∀ c ∈ Str.ofString text, Visible indent c := by
    intro text htext
    refine visible_of_printable ?_
    revert text
    simp [Str.ofString, CodePoint.ofChar, isPrintable]
  induction value using nested_induction with
  | null => exact fun level => hliteral "null" (by simp)
  | truth b =>
      intro level
      cases b with
      | false => exact hliteral "false" (by simp)
      | true => exact hliteral "true" (by simp)
  | integer n => exact fun level => toString_visible n
  | decimal literal => exact fun level => visible_of_printable (hrepr literal)
  | text s => exact fun level => quoteAscii_visible s
  | items items ih =>
      intro level
      cases items with
      | nil => exact hliteral "[]" (by simp)
      | cons item items =>
          rw [List.forall_mem_cons] at ih
          rw [write]
          refine List.forall_mem_cons.mpr ⟨.inl rfl, visible_append ?_ ?_⟩
          · refine visible_append (visible_append (visible_append ?_ ?_) ?_) ?_
            · exact newline_visible indent _
            · exact ih.1 _
            · exact writeItems_visible fun item hitem => ih.2 item hitem _
            · exact newline_visible indent _
          · exact List.forall_mem_singleton.mpr (.inl rfl)
  | fields fields ih =>
      intro level
      cases fields with
      | nil => exact hliteral "\x7b\x7d" (by simp)
      | cons f fields =>
          rw [List.forall_mem_cons] at ih
          rw [write]
          refine List.forall_mem_cons.mpr ⟨.inl rfl, visible_append ?_ ?_⟩
          · refine visible_append (visible_append (visible_append (visible_append
              (visible_append ?_ ?_) ?_) ?_) ?_) ?_
            · exact newline_visible indent _
            · exact quoteAscii_visible f.1
            · exact hliteral ": " (by simp)
            · exact ih.1 _
            · exact writeFields_visible fun f hf => ih.2 f hf _
            · exact newline_visible indent _
          · exact List.forall_mem_singleton.mpr (.inl rfl)

end

end PyJson

end Text
