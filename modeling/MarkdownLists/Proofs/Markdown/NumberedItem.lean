import MarkdownLists.Proofs.Listing.Heads
import MarkdownLists.Proofs.Listing.Items
import MarkdownLists.Proofs.Markdown.BlockStart

/-! # Numbered items read again

A line that begins with up to nine digits, a suffix, and a space or nothing begins an item of an ordered list.
With more digits it does not. All markers of a list have equally many, so a list keeps either all of its items
or none.
-/

namespace MarkdownLists
set_option autoImplicit false

open Listing Markdown

/-- The marker is one to nine digits and the suffix. -/
def OrderedMarker.Marks (suffix : OrderedMarker) (marker : Text) : Prop :=
  ∃ digits : Text, marker = digits ++ suffix.text ∧ 1 ≤ digits.length ∧ digits.length ≤ 9 ∧
    ∀ c ∈ digits, c.isDigit = true

theorem OrderedMarker.marks_iff {suffix : OrderedMarker} {digits : Text} (hDigits : digits ≠ [])
    (hAll : ∀ c ∈ digits, c.isDigit = true) : suffix.Marks (digits ++ suffix.text) ↔ digits.length ≤ 9 := by
  constructor
  · rintro ⟨digits', hMarker, -, hLength, -⟩
    rwa [List.append_cancel_right hMarker]
  · intro hLength
    exact ⟨digits, rfl, List.length_pos_iff.mpr hDigits, hLength, hAll⟩

namespace Markdown

namespace BlockStart

theorem numeral_eq_ofDigitChars {digits : Text} (h : ∀ c ∈ digits, c.isDigit = true) :
    Reference.numeral 10 digits = Nat.ofDigitChars 10 digits 0 := by
  rw [Reference.numeral, Nat.ofDigitChars]
  generalize 0 = n
  induction digits generalizing n with
  | nil => rfl
  | cons c rest ih =>
    have hValue : Reference.digitValue c = c.toNat - '0'.toNat := by
      rw [Reference.digitValue, if_pos (h c List.mem_cons_self)]
    rw [List.foldl_cons, List.foldl_cons, hValue, Nat.mul_comm n]
    exact ih (fun d hd => h d (List.mem_cons_of_mem c hd)) _

variable {suffix : OrderedMarker} {digits rest : Text}

theorem marker?_digits (hDigits : digits ≠ []) (hAll : ∀ c ∈ digits, c.isDigit = true) :
    marker? (digits ++ suffix.char :: rest) =
      if digits.length ≤ 9 then
        some (⟨suffix.char, .ordered (some (Nat.ofDigitChars 10 digits 0).toUInt64)⟩, digits.length + 1)
      else none := by
  have hSuffix : suffix.char.isDigit = false := by cases suffix <;> rfl
  have hDelimiter : suffix.char = '.' ∨ suffix.char = ')' := by cases suffix <;> decide
  have hEnd : ∀ c ∈ (suffix.char :: rest).head?, c.isDigit = false := by
    rintro c ⟨⟩
    exact hSuffix
  have hTake := Text.takeWhile_append_of_head hAll hEnd
  have hDrop := Text.dropWhile_append_of_head hAll hEnd
  have hValue := numeral_eq_ofDigitChars hAll
  obtain ⟨c, tail, rfl⟩ := List.exists_cons_of_ne_nil hDigits
  have hDigit : c.isDigit = true := hAll c List.mem_cons_self
  have hNotBullet : (c = '-' || c = '+' || c = '*') = false := by
    simp [ne_of_isDigit hDigit (d := '-') rfl, ne_of_isDigit hDigit (d := '+') rfl,
      ne_of_isDigit hDigit (d := '*') rfl]
  rw [List.cons_append] at hTake hDrop ⊢
  rw [marker?, hNotBullet, hTake, hDrop]
  simp [hDelimiter, hValue]

theorem indent_ne_zero (hEnds : Head.endsMarker rest = true) (hRest : rest ≠ []) (column : Nat) :
    Cursor.indent ⟨column, rest⟩ ≠ 0 := by
  obtain ⟨c, rest, rfl⟩ := List.exists_cons_of_ne_nil hRest
  have hSpace : c = ' ' := of_decide_eq_true hEnds
  rw [hSpace, Cursor.indent, Cursor.widthOf]
  exact Nat.succ_ne_zero _

theorem item?_digits (hDigits : digits ≠ []) (hAll : ∀ c ∈ digits, c.isDigit = true)
    (hLength : digits.length ≤ 9) (hEnds : Head.endsMarker rest = true) (column : Nat) :
    ∃ offset after, item? false 0 ⟨column, digits ++ suffix.char :: rest⟩ =
      some (.item ⟨suffix.char, .ordered (some (Nat.ofDigitChars 10 digits 0).toUInt64)⟩ offset after) := by
  have hDrop : (digits ++ suffix.char :: rest).drop (digits.length + 1) = rest := by
    simp [List.drop_append]
  -- A marker needs a space after it only if something follows on its line.
  have hSpaced : (decide (Cursor.indent ⟨column + (digits.length + 1), rest⟩ = 0) && !rest.isEmpty) =
      false := by
    cases rest with
    | nil => simp
    | cons c rest => simp [indent_ne_zero hEnds (List.cons_ne_nil c rest)]
  rw [item?, marker?_digits hDigits hAll, if_pos hLength]
  simp only [Cursor.advance, hDrop, hSpaced, Bool.not_false, Bool.true_or, Bool.not_true, Bool.or_self,
    Bool.false_eq_true, if_false]
  split
  · exact ⟨_, _, rfl⟩
  · exact ⟨_, _, rfl⟩

theorem item?_digits_eq_none (hDigits : digits ≠ []) (hAll : ∀ c ∈ digits, c.isDigit = true)
    (hLength : 9 < digits.length) (column : Nat) :
    item? false 0 ⟨column, digits ++ suffix.char :: rest⟩ = none := by
  rw [item?, marker?_digits hDigits hAll, if_neg (Nat.not_le_of_lt hLength)]

theorem exists_markedLine_eq (digits : Text) (suffix : OrderedMarker) (line : Text) :
    ∃ rest, Head.endsMarker rest = true ∧
      markedLine (digits ++ suffix.text) line = digits ++ suffix.char :: rest := by
  unfold markedLine
  split
  · exact ⟨[], rfl, rfl⟩
  · exact ⟨' ' :: line, rfl, by simp [OrderedMarker.text]⟩

/-- Outside of a paragraph, a line behind a number begins an item just if the number has few enough digits. -/
theorem find?_markedLine_iff (hDigits : digits ≠ []) (hAll : ∀ c ∈ digits, c.isDigit = true) (line : Text)
    (afterParagraph : Bool) (column : Nat) :
    (∃ n offset after, find? none afterParagraph ⟨column, markedLine (digits ++ suffix.text) line⟩ =
      some (.item ⟨suffix.char, .ordered (some n)⟩ offset after)) ↔ digits.length ≤ 9 := by
  obtain ⟨rest, hEnds, hLine⟩ := exists_markedLine_eq digits suffix line
  have hFind : find? none afterParagraph ⟨column, digits ++ suffix.char :: rest⟩ =
      item? false 0 ⟨column, digits ++ suffix.char :: rest⟩ := by
    obtain ⟨c, tail, rfl⟩ := List.exists_cons_of_ne_nil hDigits
    have hPlain := beginsPlainly_of_isDigit (hAll c List.mem_cons_self) (tail ++ suffix.char :: rest)
    exact find?_of_beginsPlainly hPlain none afterParagraph column
  rw [hLine, hFind]
  constructor
  · rintro ⟨n, offset, after, hItem⟩
    by_contra hLength
    rw [item?_digits_eq_none hDigits hAll (Nat.lt_of_not_le hLength)] at hItem
    cases hItem
  · intro hLength
    exact ⟨_, item?_digits hDigits hAll hLength hEnds column⟩

end BlockStart

end Markdown

namespace Numbering

theorem length_decimal_le_nine_iff {n : Nat} : (decimal n).length ≤ 9 ↔ n ≤ 999999999 := by
  rw [decimal, Nat.length_toDigits_le_iff (by decide) (by decide)]
  omega

theorem width_le_nine_iff {start count : Nat} {number : Bool} : width start count number ≤ 9 ↔
    (if number then start + (count - 1) else start) ≤ 999999999 := by
  rw [width, length_decimal_le_nine_iff]
  cases number with
  | true =>
    have hGreatest : greatest = 18446744073709551615 := by decide
    simp only [if_true, consecutive, hGreatest]
    omega
  | false => rfl

theorem marks_iff_of_mem_markers {start count : Nat} {suffix : OrderedMarker} {number : Bool} {marker : Text}
    (h : marker ∈ markers start count suffix number) :
    suffix.Marks marker ↔ (if number then start + (count - 1) else start) ≤ 999999999 := by
  obtain ⟨n, hn, rfl⟩ := List.mem_map.mp h
  rw [OrderedMarker.marks_iff (padded_ne_nil _ n) (fun _ => isDigit_of_mem_padded),
    length_padded (length_decimal_le_width hn), width_le_nine_iff]

/-- An ordered list keeps its items where its largest number has up to nine digits, and loses all of them
elsewhere: no marker is one that a reader accepts, and none of the lines behind them begins an item. -/
theorem marks_markersFor?_iff (start : Option UInt64) (count : Nat) (suffix : OrderedMarker)
    (number : Bool) :
    let first := (start.getD 1).toNat
    ∃ markers, markersFor? (.ordered start) count suffix number = some markers ∧
      ∀ marker ∈ markers,
        (suffix.Marks marker ↔ (if number then first + (count - 1) else first) ≤ 999999999) ∧
        ∀ (line : Text) (afterParagraph : Bool) (column : Nat),
          (∃ n offset after, BlockStart.find? none afterParagraph ⟨column, markedLine marker line⟩ =
            some (.item ⟨suffix.char, .ordered (some n)⟩ offset after)) ↔ suffix.Marks marker := by
  intro first
  refine ⟨markers first count suffix number, rfl, ?_⟩
  intro marker hMarker
  refine ⟨marks_iff_of_mem_markers hMarker, fun line afterParagraph column => ?_⟩
  obtain ⟨n, -, rfl⟩ := List.mem_map.mp hMarker
  have hDigits := padded_ne_nil (width first count number) n
  have hAll : ∀ c ∈ padded (width first count number) n, c.isDigit = true :=
    fun _ => isDigit_of_mem_padded
  rw [OrderedMarker.marks_iff hDigits hAll]
  exact BlockStart.find?_markedLine_iff hDigits hAll line afterParagraph column

/-- From the largest number with nine digits, consecutive numbers go on to one with ten. -/
theorem not_marks_markersFor? : ¬ ∀ (start : Option UInt64) (count : Nat) (suffix : OrderedMarker)
    (number : Bool) (markers : List Text), (start.getD 1).toNat ≤ 999999999 →
    markersFor? (.ordered start) count suffix number = some markers →
      ∀ marker ∈ markers, suffix.Marks marker := by
  intro h
  -- Both markers are as wide as the second number.
  have hLength := length_markers 999999999 2 .period true
  obtain ⟨marker, hMarker⟩ := List.exists_mem_of_ne_nil _ (List.ne_nil_of_length_eq_add_one hLength)
  have hMarks := h (some 999999999) 2 .period true _ (by decide) rfl marker hMarker
  rw [marks_iff_of_mem_markers hMarker] at hMarks
  exact absurd hMarks (by decide)

end Numbering

end MarkdownLists
