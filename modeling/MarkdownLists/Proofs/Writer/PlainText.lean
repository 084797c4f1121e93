import MarkdownLists.Proofs.Markdown.BlockStart
import MarkdownLists.Proofs.Writer.Inlines
import Mathlib.Data.List.Forall2

/-! # Plain text opens no block

A paragraph of texts and breaks is written in one line for each stretch between two breaks. Since what could begin
a block is escaped at the front of a line, a reader finds none at any of these lines.
-/

namespace MarkdownLists
set_option autoImplicit false

open Markdown

namespace Writer

theorem head?_escapeInline_append {c : Char} (rest after : Text) :
    ((escapeInline (c :: rest)) ++ after).head? = some (if needsEscape c rest then '\\' else c) := by
  rw [escapeInline]
  split <;> rfl

theorem escapeInline_digits_append {digits : Text} (hAll : ∀ c ∈ digits, c.isDigit = true) (rest : Text) :
    escapeInline (digits ++ rest) = digits ++ escapeInline rest := by
  have hSyntax : ∀ c ∈ '&' :: '<' :: inlineSyntax, c.isDigit = false :=
    List.all_iff_forall_prop.mp (by decide)
  exact escapeInline_append (fun c hc => Text.not_mem_of_holds (hAll c hc) hSyntax) rest

theorem escapeLineStart_digits_append {digits rest : Text} (hDigits : digits ≠ [])
    (hAll : ∀ c ∈ digits, c.isDigit = true) (hRest : ∀ c ∈ rest.head?, c.isDigit = false) :
    escapeLineStart (digits ++ rest) =
      digits ++ if digits.length ≤ 9 ∧ (rest.head? = some '.' ∨ rest.head? = some ')') then
        '\\' :: escapeInline rest else escapeInline rest := by
  have hLeast : 1 ≤ digits.length := List.length_pos_iff.mpr hDigits
  rw [escapeLineStart, Text.takeWhile_append_of_head hAll hRest, Text.dropWhile_append_of_head hAll hRest]
  cases rest with
  | nil => simpa using escapeInline_digits_append hAll []
  | cons c rest =>
    have hSome : digits.isEmpty = false := by simp [hDigits]
    simp only [hSome, Bool.false_and, Bool.false_eq_true, if_false, List.head?_cons, Option.some.injEq]
    by_cases hSuffix : digits.length ≤ 9 ∧ (c = '.' ∨ c = ')')
    · have hPlain : needsEscape c rest = false := by
        rcases hSuffix.2 with rfl | rfl <;> rfl
      rw [if_pos hSuffix, if_pos (by simpa [hLeast] using hSuffix), escapeInline, hPlain]
      rfl
    · rw [if_neg hSuffix, if_neg (by simpa [hLeast] using hSuffix), escapeInline_digits_append hAll]

variable {ending : Text} (hEnding : ∀ c ∈ ending.head?, c = '\\')
include hEnding

theorem opensNothing_escapeInline {c : Char} {rest : Text} (hBlank : CharClass.isBlank c = false)
    (hDigit : c.isDigit = false) (hBlock : c ∉ blockStart) :
    OpensNothing (escapeInline (c :: rest) ++ ending) := by
  rw [escapeInline]
  split
  · exact opensNothing_backslash _
  · rename_i hPlain
    have hPlain : needsEscape c rest = false := Bool.not_eq_true _ ▸ hPlain
    have hOpener : c ∉ BlockStart.openers := by
      have hAll : ∀ d ∈ BlockStart.openers, d ∈ blockStart ∨ d ∈ inlineSyntax :=
        List.all_iff_forall_prop.mp (by decide)
      intro hMem
      exact (hAll c hMem).elim hBlock (not_mem_inlineSyntax hPlain)
    refine opensNothing_of_not_isDigit ⟨c, escapeInline rest ++ ending, rfl, hBlank, hOpener, ?_⟩ hDigit
    rintro rfl d hd
    cases rest with
    | nil =>
      obtain rfl := hEnding d hd
      rfl
    | cons e rest =>
      rw [head?_escapeInline_append] at hd
      obtain rfl := Option.some.inj hd
      split
      · rfl
      · simpa [needsEscape, startsTag, Html.opensTag, and_assoc] using hPlain

theorem opensNothing_escape {t : Text} (hFirst : ∀ c ∈ t.head?, CharClass.isBlank c = false) :
    OpensNothing (escape true t ++ ending) := by
  obtain ⟨digits, rest, rfl, hAll, hRest⟩ : ∃ digits rest, t = digits ++ rest ∧
      (∀ c ∈ digits, c.isDigit = true) ∧ ∀ c ∈ rest.head?, c.isDigit = false := by
    refine ⟨_, _, List.takeWhile_append_dropWhile.symm, List.all_eq_true.mp List.all_takeWhile, ?_⟩
    intro c hc
    have hHead := List.head?_dropWhile_not Char.isDigit t
    rw [hc] at hHead
    exact hHead
  rw [escape, if_pos rfl]
  by_cases hDigits : digits = []
  · subst hDigits
    rw [List.nil_append] at hFirst ⊢
    cases rest with
    | nil =>
      cases ending with
      | nil => exact opensNothing_nil
      | cons c ending =>
        obtain rfl := hEnding c rfl
        exact opensNothing_backslash ending
    | cons c rest =>
      have hDigit := hRest c rfl
      by_cases hBlock : c ∈ blockStart
      · have hEscaped : escapeLineStart (c :: rest) = '\\' :: c :: escapeInline rest := by
          simp [escapeLineStart, hDigit, hBlock]
        rw [hEscaped]
        exact opensNothing_backslash _
      · rw [escapeLineStart_of_head (by rintro d ⟨⟩; exact ⟨hDigit, hBlock⟩)]
        exact opensNothing_escapeInline hEnding (hFirst c rfl) hDigit hBlock
  · rw [escapeLineStart_digits_append hDigits hAll hRest, List.append_assoc]
    apply opensNothing_digits hDigits hAll
    have hBackslash : '\\'.isDigit = false ∧ ('\\' = '.' ∨ '\\' = ')' → 9 < digits.length) := by
      exact ⟨rfl, fun hSuffix => absurd hSuffix (by decide)⟩
    split
    · rintro c ⟨⟩
      exact hBackslash
    · rename_i hSuffix
      cases rest with
      | nil =>
        intro c hc
        obtain rfl := hEnding c hc
        exact hBackslash
      | cons c rest =>
        rw [head?_escapeInline_append]
        rintro d ⟨⟩
        split
        · exact hBackslash
        · refine ⟨hRest c rfl, fun hDot => Nat.lt_of_not_le fun hLength => ?_⟩
          exact hSuffix (by simpa using ⟨hLength, hDot⟩)

end Writer

namespace Inline

def isBreak : Inline → Bool
  | .softBreak | .hardBreak => true
  | _ => false

/-- The texts between the breaks, in one piece each, after a first part of them. -/
def stretches : Text → List Inline → List Text
  | run, [] => [run]
  | run, .text t :: rest => stretches (run ++ t) rest
  | run, _ :: rest => run :: stretches [] rest

theorem length_stretches {content : List Inline} (h : ∀ i ∈ content, i.isText || i.isBreak) (run : Text) :
    (stretches run content).length = content.countP isBreak + 1 := by
  induction content generalizing run with
  | nil => rfl
  | cons i rest ih =>
    have hRest := ih fun j hj => h j (List.mem_cons_of_mem i hj)
    cases i with
    | text t =>
      rw [List.countP_cons_of_neg Bool.false_ne_true]
      exact hRest (run ++ t)
    | softBreak | hardBreak =>
      rw [List.countP_cons_of_pos rfl, ← hRest []]
      rfl
    | _ => cases h _ List.mem_cons_self

def Writes (t line : Text) : Prop := ∃ ending ∈ [[], ['\\']], line = Writer.escape true t ++ ending

/-- Between the two drafts a line was written for each of the stretches, the first one in the line that is current
in the first draft. -/
def WritesLines (d : Draft) (stretches : List Text) (d' : Draft) : Prop :=
  ∃ lines, d'.lines = d.done.map Line.text ++ lines ∧ List.Forall₂ Writes stretches lines

/-- The lines that are written for the stretches: a hard break leaves a backslash at the end of its line. -/
def writtenStretches : Text → List Inline → List Text
  | run, [] => [Writer.escape true run]
  | run, .text t :: rest => writtenStretches (run ++ t) rest
  | run, .hardBreak :: rest => (Writer.escape true run ++ ['\\']) :: writtenStretches [] rest
  | run, _ :: rest => Writer.escape true run :: writtenStretches [] rest

theorem forall₂_writtenStretches (content : List Inline) (run : Text) :
    List.Forall₂ Writes (stretches run content) (writtenStretches run content) := by
  have hPlain (run : Text) : Writes run (Writer.escape true run) := ⟨[], by simp⟩
  induction content generalizing run with
  | nil => exact .cons (hPlain run) .nil
  | cons i rest ih =>
    cases i with
    | text t => exact ih (run ++ t)
    | hardBreak => exact .cons ⟨['\\'], by simp⟩ (ih [])
    | _ => exact .cons (hPlain run) (ih [])

theorem lines_writeAll {content : List Inline} (h : ∀ i ∈ content, i.isText || i.isBreak) (run : Text)
    (hLine : ∀ t ∈ stretches run content, '\n' ∉ t) {d : Draft} (hBlank : d.current.text = []) :
    (writeAll content run d).lines = d.done.map Line.text ++ writtenStretches run content := by
  have hRun {run : Text} (h : '\n' ∉ run) : d.Extends (Writer.escape true run) (d.writeText run false) :=
    .writeText_of_blank hBlank h
  induction content generalizing run d with
  | nil => rw [writeAll, (hRun (hLine run List.mem_cons_self)).lines, hBlank, List.nil_append, writtenStretches]
  | cons i rest ih =>
    have hRest := ih fun j hj => h j (List.mem_cons_of_mem i hj)
    -- The line is finished by a break, and the next one begins with nothing in it.
    have hBreak {ending : Text} {d' : Draft} (hLines : ∀ t ∈ stretches [] rest, '\n' ∉ t)
        (hWritten : d.Extends ending d') : (writeAll rest [] d'.breakLine).lines =
          d.done.map Line.text ++ ending :: writtenStretches [] rest := by
      have hDone : d'.breakLine.done.map Line.text = d'.lines := rfl
      rw [hRest [] hLines rfl fun h => .writeText_of_blank rfl h, hDone, hWritten.lines, hBlank, List.nil_append,
        List.append_assoc, List.singleton_append]
    cases i with
    | text t => exact hRest (run ++ t) hLine hBlank hRun
    | softBreak =>
      obtain ⟨hFirst, hAfter⟩ := List.forall_mem_cons.mp hLine
      exact hBreak hAfter (hRun hFirst)
    | hardBreak =>
      obtain ⟨hFirst, hAfter⟩ := List.forall_mem_cons.mp hLine
      exact hBreak hAfter ((hRun hFirst).trans (.push _ ['\\']))
    | _ => cases h _ List.mem_cons_self

theorem writesLines_writeAll {content : List Inline} (h : ∀ i ∈ content, i.isText || i.isBreak) (run : Text)
    (hLine : ∀ t ∈ stretches run content, '\n' ∉ t) {d : Draft} (hBlank : d.current.text = []) :
    WritesLines d (stretches run content) (writeAll content run d) :=
  ⟨writtenStretches run content, lines_writeAll h run hLine hBlank, forall₂_writtenStretches content run⟩

/-- A paragraph of texts and breaks has one line for each stretch of text between two breaks. Where no stretch holds
a line feed or begins with a blank, none of these lines opens anything. -/
theorem opensNothing_region {content : List Inline} (hPlain : ∀ i ∈ content, i.isText || i.isBreak)
    (hStretches : ∀ t ∈ stretches [] content, '\n' ∉ t ∧ ∀ c ∈ t.head?, CharClass.isBlank c = false) :
    (region content).lines.length = content.countP isBreak + 1 ∧
    List.Forall₂ (fun t line => Writes t line ∧ OpensNothing line) (stretches [] content)
      ((region content).lines.map Line.text) := by
  obtain ⟨lines, hLines, hWritten⟩ :=
    writesLines_writeAll hPlain [] (fun t ht => (hStretches t ht).1) (d := .empty) rfl
  have hRegion : (region content).lines.map Line.text = lines := by rw [map_text_region, hLines]; rfl
  constructor
  · rw [← List.length_map Line.text, hRegion, ← hWritten.length_eq, length_stretches hPlain]
  · rw [hRegion, List.forall₂_iff_zip]
    obtain ⟨hLength, hZip⟩ := List.forall₂_iff_zip.mp hWritten
    refine ⟨hLength, fun {t line} hMem => ?_⟩
    have hWrites := hZip hMem
    refine ⟨hWrites, ?_⟩
    obtain ⟨ending, hEnding, rfl⟩ := hWrites
    apply Writer.opensNothing_escape
    · simp only [List.mem_cons, List.not_mem_nil, or_false] at hEnding
      rcases hEnding with rfl | rfl
      · exact nofun
      · rintro c ⟨⟩
        rfl
    · exact (hStretches t (List.of_mem_zip hMem).1).2

theorem opensNothing_region_cutNumber :
    let content : List Inline := [.text ['1', '9'], .text ['.', ' ', 'a'], .hardBreak, .text ['='], .softBreak,
      .text ['<', 'b'], .text ['>']]
    (∀ i ∈ content, i.isText || i.isBreak) ∧
    (∀ t ∈ stretches [] content, '\n' ∉ t ∧ ∀ c ∈ t.head?, CharClass.isBlank c = false) ∧
    (region content).lines.length = 3 ∧
    List.Forall₂ (fun t line => Writes t line ∧ OpensNothing line) (stretches [] content)
      ((region content).lines.map Line.text) := by
  intro content
  have hPlain : ∀ i ∈ content, i.isText || i.isBreak := by decide
  have hStretches : ∀ t ∈ stretches [] content, '\n' ∉ t ∧ ∀ c ∈ t.head?, CharClass.isBlank c = false := by
    simp [content, stretches, CharClass.isBlank]
  exact ⟨hPlain, hStretches, opensNothing_region hPlain hStretches⟩

example : (region [.text ['1', '9'], .text ['.', ' ', 'a'], .hardBreak, .text ['=']]).text =
    "19\\. a\\\n\\=".toList := by decide

end Inline

end MarkdownLists
