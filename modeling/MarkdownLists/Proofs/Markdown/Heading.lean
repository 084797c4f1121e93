import MarkdownLists.Proofs.Markdown.Escape
import MarkdownLists.Proofs.Writer.PlainText
import MarkdownLists.Proofs.Writer.Quote

/-! # Reading a heading back

A heading is written in one line, in which the lines of its text are joined by spaces. A last `#` of the text is
escaped, so a reader takes none of it for a closing sequence. The backslash of a hard break is joined with the rest:
no line ends after it any more, so it is read as a character of the text.
-/

namespace MarkdownLists
set_option autoImplicit false

namespace Text

variable {t u : Text}

/-- Neither empty nor with a blank at one of its ends. -/
structure Solid (t : Text) : Prop where
  ne_nil : t ≠ []
  head : ∀ c ∈ t.head?, CharClass.isBlank c = false
  last : ∀ c ∈ t.getLast?, CharClass.isBlank c = false

theorem solid_iff (t : Text) : t.Solid ↔
    t ≠ [] ∧ t.head?.all (!CharClass.isBlank ·) = true ∧ t.getLast?.all (!CharClass.isBlank ·) = true := by
  simp only [Option.all_eq_true, Bool.not_eq_true']
  exact ⟨fun h => ⟨h.ne_nil, h.head, h.last⟩, fun h => ⟨h.1, h.2.1, h.2.2⟩⟩

instance (t : Text) : Decidable t.Solid := decidable_of_iff' _ (solid_iff t)

theorem Solid.append (ht : t.Solid) (hu : u.Solid) (middle : Text) : Solid (t ++ middle ++ u) where
  ne_nil := by simp [ht.ne_nil]
  head := by
    rw [List.append_assoc, List.head?_append_of_ne_nil _ ht.ne_nil]
    exact ht.head
  last := by
    rw [List.getLast?_append_of_ne_nil _ hu.ne_nil]
    exact hu.last

theorem solid_intercalate {separator : Text} {ts : List Text} (hSome : ts ≠ []) (h : ∀ t ∈ ts, Solid t) :
    Solid (separator.intercalate ts) := by
  induction ts with
  | nil => exact absurd rfl hSome
  | cons t rest ih =>
    obtain ⟨ht, hRest⟩ := List.forall_mem_cons.mp h
    cases rest with
    | nil => rwa [List.intercalate_singleton]
    | cons u rest =>
      rw [List.intercalate_cons_cons]
      exact ht.append (ih (List.cons_ne_nil u rest) hRest) separator

end Text

namespace Writer.Spells

variable {escapes : Char → Prop} {w t : Text}

theorem solid (h : Spells escapes w t) (ht : t.Solid) : w.Solid where
  ne_nil := by
    rintro rfl
    cases h
    exact ht.ne_nil rfl
  head := by
    intro c hc
    rcases h.head?_eq c hc with rfl | hc
    · rfl
    · exact ht.head c hc
  last := by
    rw [h.getLast?_eq]
    exact ht.last

end Writer.Spells

namespace Markdown.BlockStart

variable {t : Text}

/-- A text is read to its end if a last `#` stands after a backslash. -/
theorem headingText_space (h : t.Solid) (hEnd : ∀ front, t = front ++ ['#'] → front.getLast? = some '\\') :
    headingText (' ' :: t) = t := by
  have hTrim : trimBlanks (' ' :: t) = t := Text.trim_of_ends (t := t) h.head h.last
  rw [headingText, hTrim]
  rcases List.eq_nil_or_concat t with rfl | ⟨front, c, rfl⟩
  · exact absurd rfl h.ne_nil
  · simp only [List.concat_eq_append] at h hEnd ⊢
    by_cases hc : c = '#'
    · subst hc
      have hFront := hEnd front rfl
      have hKept : Text.trimEnd (· = '#') (front ++ ['#']) = front := by
        rw [Text.trimEnd_concat rfl, Text.trimEnd_of_getLast? (by simp [hFront])]
      rw [hKept, hFront]
      rfl
    · have hKept : Text.trimEnd (· = '#') (front ++ [c]) = front ++ [c] := Text.trimEnd_of_getLast? (by simpa using hc)
      have hBlank := h.last c (by simp)
      rw [hKept]
      simp [hBlank]

theorem find?_heading (level : Fin 6) (t : Text) (paragraph : Option Text) (afterParagraph : Bool) (column : Nat) :
    find? paragraph afterParagraph ⟨column, List.replicate (level.val + 1) '#' ++ ' ' :: t⟩ =
      some (.heading level (headingText (' ' :: t))) := by
  have hSpace : (' ' :: t).head? ≠ some '#' := by simp
  have hHeading : heading? (List.replicate (level.val + 1) '#' ++ ' ' :: t) =
      some (.heading level (headingText (' ' :: t))) := by
    have hLevel : level.val + 1 ≤ 6 := level.isLt
    simp [heading?, Text.takeWhile_replicate_append hSpace, Text.dropWhile_replicate_append hSpace, hLevel,
      CharClass.isBlank]
  have hBlank : CharClass.isBlank '#' = false := rfl
  rw [List.replicate_succ, List.cons_append] at hHeading ⊢
  rw [find?, Cursor.indent_of_not_isBlank hBlank, Cursor.skipBlanks_of_not_isBlank hBlank]
  simp [Cursor.isBlank, hBlank, hHeading]

end Markdown.BlockStart

namespace Inline

open Markdown

variable {content : List Inline}

/-- What a reader finds in a heading after a first part of it: the stretches of text joined by spaces, with a backslash
at the end of each one that a hard break follows. -/
def foldedText : Text → List Inline → Text
  | run, [] => run
  | run, .text t :: rest => foldedText (run ++ t) rest
  | run, .hardBreak :: rest => run ++ '\\' :: ' ' :: foldedText [] rest
  | run, _ :: rest => run ++ ' ' :: foldedText [] rest

theorem stretches_ne_nil (run : Text) (content : List Inline) : stretches run content ≠ [] := by
  fun_induction stretches run content with
  | case1 => exact List.cons_ne_nil _ _
  | case2 run t rest ih => exact ih
  | case3 => exact List.cons_ne_nil _ _

theorem writtenStretches_ne_nil (run : Text) (content : List Inline) : writtenStretches run content ≠ [] := by
  intro hNone
  have hLength := (forall₂_writtenStretches content run).length_eq
  rw [hNone] at hLength
  exact stretches_ne_nil run content (List.eq_nil_of_length_eq_zero hLength)

theorem foldedText_eq_iff (run : Text) (content : List Inline) :
    foldedText run content = [' '].intercalate (stretches run content) ↔ .hardBreak ∉ content := by
  induction content generalizing run with
  | nil => simp [foldedText, stretches]
  | cons i rest ih =>
    have hJoined := Text.intercalate_singleton_cons ' ' run (stretches_ne_nil [] rest)
    cases i with
    | text t => simp [foldedText, stretches, ih]
    | hardBreak => simp [foldedText, stretches, hJoined]
    | _ => simp [foldedText, stretches, hJoined, ih]

theorem resolved_writtenStretches (run : Text) (content : List Inline) :
    resolved ([' '].intercalate (writtenStretches run content)) = foldedText run content := by
  have hWritten (run after : Text) : resolved (Writer.escape true run ++ after) = run ++ resolved after :=
    resolved_append_of_spells (fun _ h => h.1) (Writer.spells_escape true run) after
  have hSpace (t : Text) : resolved (' ' :: t) = ' ' :: resolved t :=
    resolved_cons fun d _ => keeps_of_ne (by decide) d
  induction content generalizing run with
  | nil =>
    have hLast := hWritten run []
    rw [List.append_nil, resolved_nil, List.append_nil] at hLast
    rw [writtenStretches, List.intercalate_singleton, hLast, foldedText]
  | cons i rest ih =>
    have hJoined (w : Text) := Text.intercalate_singleton_cons ' ' w (writtenStretches_ne_nil [] rest)
    have hBreak : resolved ([' '].intercalate (Writer.escape true run :: writtenStretches [] rest)) =
        run ++ ' ' :: foldedText [] rest := by rw [hJoined, hWritten, hSpace, ih]
    cases i with
    | text t => exact ih (run ++ t)
    | hardBreak =>
      -- The line that would have ended after the backslash goes on with a space, which no backslash escapes.
      have hBackslash (t : Text) : resolved ('\\' :: ' ' :: t) = '\\' :: resolved (' ' :: t) := by
        refine resolved_cons ?_
        rintro d ⟨⟩ -
        rfl
      rw [writtenStretches, hJoined, List.append_assoc, hWritten, List.singleton_append, hBackslash, hSpace, ih,
        foldedText]
    | _ => exact hBreak

theorem Writes.solid {t line : Text} (h : Writes t line) (ht : t.Solid) : line.Solid := by
  have hEscaped := (Writer.spells_escape true t).solid ht
  obtain ⟨ending, hEnding, rfl⟩ := h
  simp only [List.mem_cons, List.not_mem_nil, or_false] at hEnding
  rcases hEnding with rfl | rfl
  · rwa [List.append_nil]
  · have hBackslash : Text.Solid ['\\'] := ⟨List.cons_ne_nil _ _, by rintro c ⟨⟩; rfl, by rintro c ⟨⟩; rfl⟩
    simpa using hEscaped.append hBackslash []

theorem solid_of_forall₂_writes {ts lines : List Text} (h : List.Forall₂ Writes ts lines) (hSolid : ∀ t ∈ ts, t.Solid) :
    ∀ line ∈ lines, line.Solid := by
  induction h with
  | nil => exact nofun
  | cons hWrites _ ih =>
    obtain ⟨hFirst, hRest⟩ := List.forall_mem_cons.mp hSolid
    exact List.forall_mem_cons.mpr ⟨hWrites.solid hFirst, ih hRest⟩

end Inline

namespace Writer

open Markdown

variable {t : Text}

/-- The text that is written in a heading after its marker. -/
def headingEnd (t : Text) : Text := if ['\\', '#'].isSuffixOf t then t else escapeLast '#' t

/-- Only a last `#` without a backslash before it gets one. -/
theorem headingEnd_eq (t : Text) :
    (headingEnd t = t ∧ ∀ front, t = front ++ ['#'] → front.getLast? = some '\\') ∨
    ∃ front, t = front ++ ['#'] ∧ front.getLast? ≠ some '\\' ∧ headingEnd t = front ++ ['\\', '#'] := by
  rcases List.eq_nil_or_concat t with rfl | ⟨front, c, rfl⟩
  · exact .inl ⟨rfl, by simp⟩
  · simp only [List.concat_eq_append]
    by_cases hc : c = '#'
    · subst hc
      by_cases hFront : front.getLast? = some '\\'
      · obtain ⟨before, rfl⟩ := List.getLast?_eq_some_iff.mp hFront
        left
        constructor
        · exact if_pos (by simp)
        · intro front' hSame
          rw [← List.append_cancel_right hSame, hFront]
      · right
        refine ⟨front, rfl, hFront, ?_⟩
        have hSuffix : ¬ ['\\', '#'] <:+ front ++ ['#'] := by
          rintro ⟨before, hSame⟩
          rw [List.append_cons] at hSame
          rw [← List.append_cancel_right hSame, List.getLast?_concat] at hFront
          exact hFront rfl
        rw [headingEnd, if_neg (by simpa using hSuffix)]
        simp [escapeLast]
    · left
      constructor
      · simp [headingEnd, escapeLast, hc]
      · intro front' hSame
        exact absurd (List.append_inj_right' hSame rfl) (by simpa using hc)

theorem resolved_headingEnd (t : Text) : resolved (headingEnd t) = resolved t := by
  rcases headingEnd_eq t with ⟨hSame, -⟩ | ⟨front, rfl, hFront, hEscaped⟩
  · rw [hSame]
  · rw [hEscaped, resolved_append hFront, resolved_append hFront]
    rfl

theorem solid_headingEnd (h : t.Solid) : (headingEnd t).Solid := by
  rcases headingEnd_eq t with ⟨hSame, -⟩ | ⟨front, rfl, -, hEscaped⟩
  · rwa [hSame]
  · rw [hEscaped]
    refine ⟨by simp, ?_, ?_⟩
    · cases front with
      | nil =>
        rintro c ⟨⟩
        rfl
      | cons d front => exact h.head
    · rintro c hc
      rw [List.getLast?_append_cons] at hc
      cases hc
      rfl

theorem headingText_headingEnd (h : t.Solid) : BlockStart.headingText (' ' :: headingEnd t) = headingEnd t := by
  apply BlockStart.headingText_space (solid_headingEnd h)
  intro front hFront
  rcases headingEnd_eq t with ⟨hSame, hEnd⟩ | ⟨front', rfl, -, hEscaped⟩
  · exact hEnd front (hSame ▸ hFront)
  · rw [hEscaped, List.append_cons] at hFront
    rw [← List.append_cancel_right hFront, List.getLast?_concat]

variable {content : List Inline}

theorem exists_headingRegion_eq (level : Fin 6) {lines : List Text}
    (hLines : (Inline.region content).lines.map Line.text = lines) (h : headingEnd ([' '].intercalate lines) ≠ []) :
    ∃ l, headingRegion level content = ⟨[l]⟩ ∧
      l.text = List.replicate (level.val + 1) '#' ++ ' ' :: headingEnd ([' '].intercalate lines) := by
  subst hLines
  refine ⟨_, congrArg (fun l => Region.mk [l]) (if_neg (mt List.isEmpty_iff.mp h)), ?_⟩
  simp [headingEnd]

variable {ω ε : Type}

/-- A heading whose stretches of text are neither empty nor padded with blanks is written in one line and read as a
heading of its level, whatever paragraph it follows. What is read is the stretches joined by spaces just if there is
no hard break between them: the backslash of one is read as well. -/
theorem find?_headingRegion_iff (level : Fin 6) (hPlain : ∀ i ∈ content, i.isText || i.isBreak)
    (hStretches : ∀ t ∈ Inline.stretches [] content, t.Solid ∧ '\n' ∉ t) :
    ∃ (l : Line) (text : Text), (∀ before (w : World ω),
        ((Block.heading level content).render before : Render ω ε Region) w = (.ok ⟨[l]⟩, w)) ∧
      '\n' ∉ l.text ∧
      (∀ paragraph afterParagraph column,
        BlockStart.find? paragraph afterParagraph ⟨column, l.text⟩ = some (.heading level text)) ∧
      resolved text = Inline.foldedText [] content ∧
      (resolved text = [' '].intercalate (Inline.stretches [] content) ↔ .hardBreak ∉ content) := by
  let joined : Text := [' '].intercalate (Inline.writtenStretches [] content)
  have hLines : (Inline.region content).lines.map Line.text = Inline.writtenStretches [] content := by
    rw [Inline.map_text_region, Inline.lines_writeAll hPlain [] (fun t ht => (hStretches t ht).2) rfl]
    rfl
  have hSolid : joined.Solid := by
    apply Text.solid_intercalate (Inline.writtenStretches_ne_nil [] content)
    exact Inline.solid_of_forall₂_writes (Inline.forall₂_writtenStretches content []) fun t ht => (hStretches t ht).1
  have hEnd := solid_headingEnd hSolid
  obtain ⟨l, hRegion, hLine⟩ := exists_headingRegion_eq level hLines hEnd.ne_nil
  have hRead : resolved (headingEnd joined) = Inline.foldedText [] content := by
    rw [resolved_headingEnd, Inline.resolved_writtenStretches]
  refine ⟨l, headingEnd joined, ?_, ?_, ?_, hRead, ?_⟩
  · intro before w
    rw [← hRegion]
    rfl
  · exact unbroken_headingRegion level content l (by simp [hRegion])
  · intro paragraph afterParagraph column
    rw [hLine, BlockStart.find?_heading, headingText_headingEnd hSolid]
  · rw [hRead, Inline.foldedText_eq_iff]

theorem find?_headingRegion_lastSharp :
    let content : List Inline := [.text ['1', '.'], .softBreak, .text ['b', ' '], .text ['#']]
    (∀ i ∈ content, i.isText || i.isBreak) ∧ (∀ t ∈ Inline.stretches [] content, t.Solid ∧ '\n' ∉ t) ∧
    ∃ (l : Line) (text : Text), (∀ before (w : World Unit),
        ((Block.heading 1 content).render before : Render Unit Empty Region) w = (.ok ⟨[l]⟩, w)) ∧
      (∀ paragraph afterParagraph column,
        BlockStart.find? paragraph afterParagraph ⟨column, l.text⟩ = some (.heading 1 text)) ∧
      resolved text = ['1', '.', ' ', 'b', ' ', '#'] := by
  intro content
  have hPlain : ∀ i ∈ content, i.isText || i.isBreak := by decide
  have hStretches : ∀ t ∈ Inline.stretches [] content, t.Solid ∧ '\n' ∉ t := by decide
  obtain ⟨l, text, hRender, -, hFind, -, hText⟩ := find?_headingRegion_iff (ω := Unit) (ε := Empty) 1 hPlain hStretches
  exact ⟨hPlain, hStretches, l, text, hRender, hFind, hText.mpr (by simp [content])⟩

/-- The backslash of a hard break is read in a heading. -/
theorem not_find?_headingRegion : ¬ ∀ (level : Fin 6) (content : List Inline), (∀ i ∈ content, i.isText || i.isBreak) →
    (∀ t ∈ Inline.stretches [] content, t.Solid ∧ '\n' ∉ t) →
    ∀ (w : World Unit) (r : Region),
      ((Block.heading level content).render [] : Render Unit Empty Region) w = (.ok r, w) →
      ∃ (l : Line) (text : Text), r.lines = [l] ∧ BlockStart.find? none false ⟨0, l.text⟩ = some (.heading level text) ∧
        resolved text = [' '].intercalate (Inline.stretches [] content) := by
  intro h
  obtain ⟨l, text, hLines, hFind, hText⟩ :=
    h 0 [.text ['a'], .hardBreak, .text ['b']] (by decide) (by decide) ⟨{}, []⟩ _ rfl
  cases hLines
  have hRead : BlockStart.heading 0 ['a', '\\', ' ', 'b'] = .heading 0 text := Option.some.inj hFind
  cases hRead
  exact absurd hText (by decide)

end Writer

end MarkdownLists
