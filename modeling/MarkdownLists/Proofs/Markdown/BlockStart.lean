import MarkdownLists.Markdown.BlockStart
import MarkdownLists.Proofs.Text.Lines
import Mathlib.Data.Bool.AllAny

/-! # What a line can begin, by its first character

Every block but a paragraph begins with a character of its own, with an angle bracket before a name or a sign, or
with a number. A line that begins otherwise begins nothing, whether or not it follows a paragraph.
-/

namespace MarkdownLists.Markdown
set_option autoImplicit false

theorem Cursor.indent_of_not_isBlank {c : Char} (h : CharClass.isBlank c = false) (column : Nat) (t : Text) :
    Cursor.indent ⟨column, c :: t⟩ = 0 := by
  simp only [CharClass.isBlank, Bool.or_eq_false_iff, decide_eq_false_iff_not] at h
  simp [indent, widthOf, h]

theorem Cursor.skipBlanks_of_not_isBlank {c : Char} (h : CharClass.isBlank c = false) (column : Nat)
    (t : Text) : Cursor.skipBlanks ⟨column, c :: t⟩ = ⟨column, c :: t⟩ := by
  rw [skipBlanks, indent_of_not_isBlank h]
  simp only [CharClass.isBlank, Bool.or_eq_false_iff, decide_eq_false_iff_not] at h
  simp [skip, skipFrom, h]

def Html.opensTag (c : Char) : Bool := c.isAlpha || ['/', '!', '?'].contains c

theorem Html.blockEnding?_eq_none {t : Text} (h : ∀ c ∈ t.head?, opensTag c = false) (interrupts : Bool) :
    blockEnding? interrupts t = none := by
  cases t with
  | nil => cases interrupts <;> rfl
  | cons c t =>
    have hc := h c rfl
    simp only [opensTag, List.contains_cons, Bool.or_eq_false_iff, beq_eq_false_iff_ne] at hc
    obtain ⟨hAlpha, hSlash, hBang, hQuestion, -⟩ := hc
    have hName : tagName? (c :: t) = none := by rw [tagName?, hAlpha, if_neg Bool.false_ne_true]
    simp [blockEnding?, isVerbatimOpening, isBlockOpening, isLoneTag, afterOpeningTag?, Text.startsWith, hName,
      hSlash, Ne.symm hBang, hBang, Ne.symm hQuestion]

theorem ne_of_isDigit {c d : Char} (hc : c.isDigit = true) (hd : d.isDigit = false) : c ≠ d := by
  rintro rfl
  rw [hc] at hd
  cases hd

namespace BlockStart

/-- The first characters that make a line something other than text on their own. -/
def openers : List Char := ['#', '>', '-', '+', '*', '_', '=', '~', backtick, '[']

/-- Whether the line begins with a character that belongs to no block start but perhaps that of a numbered item. -/
def BeginsPlainly (line : Text) : Prop :=
  ∃ c t, line = c :: t ∧ CharClass.isBlank c = false ∧ c ∉ openers ∧
    (c = '<' → ∀ d ∈ t.head?, Html.opensTag d = false)

theorem beginsPlainly_of_isDigit {c : Char} (h : c.isDigit = true) (t : Text) : BeginsPlainly (c :: t) := by
  have hSpace : c ≠ ' ' := ne_of_isDigit h rfl
  have hTab : c ≠ '\t' := ne_of_isDigit h rfl
  have hOpeners : ∀ d ∈ openers, d.isDigit = false := List.all_iff_forall_prop.mp (by decide)
  refine ⟨c, t, rfl, ?_, Text.not_mem_of_holds h hOpeners, ?_⟩
  · simp [CharClass.isBlank, hSpace, hTab]
  · rintro rfl
    cases h

theorem underline?_eq_none {c : Char} (h : c ∉ openers) (t : Text) : underline? (c :: t) = none := by
  have hPrefix : Text.trimEnd CharClass.isBlank (c :: t) <+: c :: t := by
    rw [Text.trimEnd, ← List.reverse_suffix, List.reverse_reverse]
    exact List.dropWhile_suffix _
  rw [underline?]
  cases hMarks : Text.trimEnd CharClass.isBlank (c :: t) with
  | nil => rfl
  | cons d marks =>
    rw [hMarks, List.cons_prefix_cons] at hPrefix
    obtain ⟨rfl, -⟩ := hPrefix
    have hEqual : d ≠ '=' := by rintro rfl; exact h (by decide)
    have hDash : d ≠ '-' := by rintro rfl; exact h (by decide)
    simp [hEqual, hDash]

theorem find?_of_beginsPlainly {line : Text} (h : BeginsPlainly line) (paragraph : Option Text)
    (afterParagraph : Bool) (column : Nat) :
    find? paragraph afterParagraph ⟨column, line⟩ = item? paragraph.isSome 0 ⟨column, line⟩ := by
  obtain ⟨c, t, rfl, hBlank, hOpener, hTag⟩ := h
  have hNe {d : Char} (hd : d ∈ openers) : c ≠ d := by
    rintro rfl
    exact hOpener hd
  have hHash : c ≠ '#' := hNe (by decide)
  have hHeading : heading? (c :: t) = none := by simp [heading?, hHash]
  have hTilde : c ≠ '~' := hNe (by decide)
  have hBacktick : c ≠ backtick := hNe (by decide)
  have hFence : fence? 0 (c :: t) = none := by simp [fence?, hTilde, hBacktick]
  have hStar : c ≠ '*' := hNe (by decide)
  have hDash : c ≠ '-' := hNe (by decide)
  have hUnderscore : c ≠ '_' := hNe (by decide)
  have hRule : isRule (c :: t) = false := by simp [isRule, hBlank, hStar, hDash, hUnderscore]
  have hUnderline : underline? (c :: t) = none := underline?_eq_none hOpener t
  have hGreater : c ≠ '>' := hNe (by decide)
  rw [find?, Cursor.indent_of_not_isBlank hBlank, Cursor.skipBlanks_of_not_isBlank hBlank]
  simp only [Cursor.isBlank, List.all_cons, hBlank, Bool.false_and, Bool.false_eq_true, if_false,
    show ¬ 4 ≤ 0 by decide, List.head?_cons, Option.some.injEq, hGreater, hHeading, hFence, hRule, hUnderline,
    ite_self]
  split
  · rename_i rest hLine
    obtain ⟨rfl, rfl⟩ := List.cons.inj hLine
    rw [Html.blockEnding?_eq_none (hTag rfl)]
    cases paragraph <;> rfl
  · cases paragraph <;> rfl

theorem marker?_eq_none {line : Text} (hPlain : BeginsPlainly line)
    (hNumber : ∀ c ∈ (line.dropWhile Char.isDigit).head?, c = '.' ∨ c = ')' →
      (line.takeWhile Char.isDigit).length = 0 ∨ 9 < (line.takeWhile Char.isDigit).length) :
    marker? line = none := by
  obtain ⟨c, t, rfl, -, hOpener, -⟩ := hPlain
  have hBullet : (c = '-' || c = '+' || c = '*') = false := by
    simp only [Bool.or_eq_false_iff, decide_eq_false_iff_not]
    refine ⟨⟨?_, ?_⟩, ?_⟩
    all_goals
      rintro rfl
      exact hOpener (by decide)
  rw [marker?, hBullet, if_neg Bool.false_ne_true]
  split
  · rename_i d rest hDrop
    rw [hDrop] at hNumber
    apply if_neg
    rw [Bool.and_eq_true, Bool.and_eq_true, Bool.or_eq_true, decide_eq_true_eq, decide_eq_true_eq]
    rintro ⟨⟨hSuffix, hPos⟩, hLength⟩
    have hMany := hNumber d rfl hSuffix
    have hLeast := of_decide_eq_true hPos
    have hMost := of_decide_eq_true hLength
    omega
  · rfl

end BlockStart

theorem definition?_eq_none {t : Text} (h : t.head? ≠ some '[') : definition? t = none := by
  have hLabel : label? t = none := by
    unfold label?
    split
    · exact absurd rfl h
    · rfl
  rw [definition?, hLabel]
  rfl

/-- Nothing but a paragraph begins with the line, wherever it stands and whatever lines follow it. -/
def OpensNothing (line : Text) : Prop :=
  (∀ paragraph afterParagraph column, BlockStart.find? paragraph afterParagraph ⟨column, line⟩ = none) ∧
  ∀ more : Text, (∀ c ∈ more.head?, c = '\n') → definition? (line ++ more) = none

theorem opensNothing_nil : OpensNothing [] := by
  constructor
  · intro paragraph afterParagraph column
    rfl
  · intro more hMore
    apply definition?_eq_none
    intro hBracket
    exact absurd (hMore _ hBracket) (by decide)

theorem opensNothing_of_beginsPlainly {line : Text} (hPlain : BlockStart.BeginsPlainly line)
    (hNumber : ∀ c ∈ (line.dropWhile Char.isDigit).head?, c = '.' ∨ c = ')' →
      (line.takeWhile Char.isDigit).length = 0 ∨ 9 < (line.takeWhile Char.isDigit).length) :
    OpensNothing line := by
  constructor
  · intro paragraph afterParagraph column
    rw [BlockStart.find?_of_beginsPlainly hPlain, BlockStart.item?, BlockStart.marker?_eq_none hPlain hNumber]
  · intro more _
    obtain ⟨c, t, rfl, -, hOpener, -⟩ := hPlain
    apply definition?_eq_none
    rintro ⟨⟩
    exact hOpener (by decide)

theorem opensNothing_of_not_isDigit {c : Char} {t : Text} (hPlain : BlockStart.BeginsPlainly (c :: t))
    (hDigit : c.isDigit = false) : OpensNothing (c :: t) := by
  apply opensNothing_of_beginsPlainly hPlain
  intro d _ _
  left
  rw [List.takeWhile_cons_of_neg (by simp [hDigit])]
  rfl

theorem opensNothing_backslash (t : Text) : OpensNothing ('\\' :: t) := by
  refine opensNothing_of_not_isDigit ⟨'\\', t, rfl, rfl, by decide, ?_⟩ rfl
  exact nofun

theorem opensNothing_digits {digits rest : Text} (hDigits : digits ≠ []) (hAll : ∀ c ∈ digits, c.isDigit = true)
    (hRest : ∀ c ∈ rest.head?, c.isDigit = false ∧ (c = '.' ∨ c = ')' → 9 < digits.length)) :
    OpensNothing (digits ++ rest) := by
  have hEnd : ∀ c ∈ rest.head?, c.isDigit = false := fun c hc => (hRest c hc).1
  have hPlain : BlockStart.BeginsPlainly (digits ++ rest) := by
    obtain ⟨c, tail, rfl⟩ := List.exists_cons_of_ne_nil hDigits
    exact BlockStart.beginsPlainly_of_isDigit (hAll c List.mem_cons_self) (tail ++ rest)
  apply opensNothing_of_beginsPlainly hPlain
  rw [Text.takeWhile_append_of_head hAll hEnd, Text.dropWhile_append_of_head hAll hEnd]
  intro c hc hSuffix
  exact .inr ((hRest c hc).2 hSuffix)

end MarkdownLists.Markdown
