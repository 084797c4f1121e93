import MarkdownLists.Proofs.Document.Regrouped
import MarkdownLists.Proofs.Writer.Inlines

/-! # How emphasis is written

Words between delimiters are written as they stand, each delimiter by the same characters at both ends, and a strong
emphasis by the delimiters of two. What is written therefore shows the marks of a sequence and nothing else of it.
-/

namespace MarkdownLists
set_option autoImplicit false

theorem isDigit_of_isAlpha {c : Char} (h : c.isAlpha = true) : c.isDigit = false := by
  have hLeast : 'A'.val ≤ c.val := by
    rcases Bool.or_eq_true_iff.mp h with hUpper | hLower
    · exact (of_decide_eq_true hUpper).1
    · exact UInt32.le_trans (by decide) (of_decide_eq_true (Bool.and_eq_true_iff.mp hLower).1)
  have hDigit : ¬ c.val ≤ '9'.val := fun h => absurd (UInt32.le_trans hLeast h) (by decide)
  rw [Char.isDigit, decide_eq_false hDigit, Bool.and_false]

theorem Writer.escape_of_isAlpha {t : Text} (h : ∀ c ∈ t, c.isAlpha = true) (lineStart : Bool) :
    escape lineStart t = t := by
  have hInline : escapeInline t = t := by
    have hSyntax : ∀ c ∈ '&' :: '<' :: inlineSyntax, c.isAlpha = false :=
      List.all_iff_forall_prop.mp (by decide)
    have hPlain : ∀ c ∈ t, c ∉ '&' :: '<' :: inlineSyntax := fun c hc => Text.not_mem_of_holds (h c hc) hSyntax
    simpa [escapeInline] using escapeInline_append hPlain []
  cases lineStart with
  | false => exact hInline
  | true =>
    have hHead : ∀ c ∈ t.head?, c.isDigit = false ∧ c ∉ blockStart := by
      intro c hc
      have hAlpha := h c (List.mem_of_mem_head? hc)
      have hBlock : ∀ d ∈ blockStart, d.isAlpha = false := List.all_iff_forall_prop.mp (by decide)
      exact ⟨isDigit_of_isAlpha hAlpha, Text.not_mem_of_holds hAlpha hBlock⟩
    exact (escapeLineStart_of_head hHead).trans hInline

theorem Draft.Extends.word {t : Text} (h : ∀ c ∈ t, c.isAlpha = true) (d : Draft) :
    d.Extends t (d.writeText t false) := by
  have hLine : '\n' ∉ t := fun hMem => absurd (h _ hMem) (by decide)
  have hWritten := Draft.Extends.writeText (d := d) hLine
  rwa [Writer.escape_of_isAlpha h] at hWritten

/-! ## Marks -/

def Mark.text : Mark → Text
  | .inline (.text t) => t
  | .inline _ => []
  | .delimiter d => d.span.opening

/-- No inline stands at the front. -/
def StartsDelimited (marks : List Mark) : Prop := ∀ m ∈ marks.head?, ∃ d, m = .delimiter d

theorem startsDelimited_cons (d : Delimiter) (marks : List Mark) : StartsDelimited (.delimiter d :: marks) := by
  rintro m ⟨⟩
  exact ⟨d, rfl⟩

/-- Marks that are delimiters and words of letters, with a delimiter between any two words. -/
inductive Legible : List Mark → Prop
  | nil : Legible []
  | delimiter (d : Delimiter) {marks : List Mark} (h : Legible marks) : Legible (.delimiter d :: marks)
  | word {t : Text} {marks : List Mark} (hSome : t ≠ []) (hAll : ∀ c ∈ t, c.isAlpha = true)
      (hNext : StartsDelimited marks) (h : Legible marks) : Legible (.inline (.text t) :: marks)

def Mark.first? : Text → Option Mark
  | [] => none
  | '*' :: _ => some (.delimiter .star)
  | '~' :: _ => some (.delimiter .waves)
  | t => some (.inline (.text (t.takeWhile Char.isAlpha)))

namespace Legible

variable {m : Mark} {marks marks' : List Mark}

theorem delimiters (ds : List Delimiter) (h : Legible marks) : Legible (ds.map Mark.delimiter ++ marks) := by
  induction ds with
  | nil => exact h
  | cons d ds ih => exact .delimiter d ih

theorem tail (h : Legible (m :: marks)) : Legible marks := by
  cases h <;> assumption

theorem not_isAlpha_of_startsDelimited (hNext : StartsDelimited marks) :
    ∀ c ∈ (marks.flatMap Mark.text).head?, c.isAlpha = false := by
  cases marks with
  | nil => exact nofun
  | cons m marks =>
    obtain ⟨d, rfl⟩ := hNext m rfl
    cases d <;> rintro c ⟨⟩ <;> rfl

theorem first?_text (h : Legible marks) : Mark.first? (marks.flatMap Mark.text) = marks.head? := by
  cases h with
  | nil => rfl
  | delimiter d => cases d <;> rfl
  | @word t marks hSome hAll hNext =>
    obtain ⟨c, t, rfl⟩ := List.exists_cons_of_ne_nil hSome
    have hTake := Text.takeWhile_append_of_head hAll (not_isAlpha_of_startsDelimited hNext)
    have hFirst : c.isAlpha = true := hAll c List.mem_cons_self
    rw [List.flatMap_cons, Mark.text, List.cons_append, Mark.first?, ← List.cons_append, hTake, List.head?_cons]
    · exact List.cons_ne_nil _ _
    all_goals
      rintro rest ⟨⟩
      cases hFirst

theorem eq_of_text_eq (h : Legible marks) (h' : Legible marks')
    (hText : marks.flatMap Mark.text = marks'.flatMap Mark.text) : marks = marks' := by
  induction marks generalizing marks' with
  | nil =>
    have hHead := h'.first?_text
    rw [← hText] at hHead
    exact (List.head?_eq_none_iff.mp hHead.symm).symm
  | cons m marks ih =>
    have hHead := h'.first?_text
    rw [← hText, h.first?_text] at hHead
    obtain ⟨rest, rfl⟩ := List.head?_eq_some_iff.mp hHead.symm
    rw [ih h.tail h'.tail (List.append_cancel_left hText)]

end Legible

/-! ## Words and emphasis -/

theorem Span.written_of_delimiters {s : Span} (h : s.delimiters.isEmpty = false) :
    s.bareText? = none ∧ s.opening = (s.delimiters.map Mark.delimiter).flatMap Mark.text ∧ s.closing = s.opening ∧
      '\n' ∉ s.opening := by
  cases s with
  | link | image => cases h
  | _ => exact ⟨rfl, rfl, rfl, by decide⟩

namespace Inline

mutual
/-- Words of letters, and emphasis and strikethrough of them. No word directly follows another. -/
def isLettered : Inline → Bool
  | .text t => !t.isEmpty && t.all Char.isAlpha
  | .span s children => !s.delimiters.isEmpty && !children.isEmpty && areLettered children
  | _ => false

def areLettered : List Inline → Bool
  | [] => true
  | i :: rest => i.isLettered && areLettered rest && !(i.isText && rest.head?.any isText)
end

theorem isLettered_text {t : Text} (h : (text t).isLettered = true) : t ≠ [] ∧ ∀ c ∈ t, c.isAlpha = true := by
  simpa [isLettered] using h

theorem isLettered_span {s : Span} {children : List Inline} (h : (span s children).isLettered = true) :
    s.delimiters.isEmpty = false ∧ areLettered children = true := by
  simp only [isLettered, Bool.and_eq_true, Bool.not_eq_true'] at h
  exact ⟨h.1.1, h.2⟩

theorem areLettered_cons {i : Inline} {rest : List Inline} (h : areLettered (i :: rest) = true) :
    i.isLettered = true ∧ areLettered rest = true ∧ (i.isText = true → ∀ j ∈ rest.head?, j.isText = false) := by
  simp only [areLettered, Bool.and_eq_true] at h
  refine ⟨h.1.1, h.1.2, ?_⟩
  rintro hText j hj
  simpa [hText, show rest.head? = some j from hj] using h.2

theorem flatMap_marks_text (t : Text) : (text t).marks.flatMap Mark.text = t := List.append_nil t

theorem marks_span_of_delimiters {s : Span} (h : s.delimiters.isEmpty = false) (children : List Inline) :
    (span s children).marks =
      s.delimiters.map Mark.delimiter ++ (marksAll children ++ s.delimiters.map Mark.delimiter) := by
  rw [marks, h, if_neg Bool.false_ne_true]

theorem startsDelimited_delimiters {s : Span} (h : s.delimiters.isEmpty = false) (following : List Mark) :
    StartsDelimited (s.delimiters.map Mark.delimiter ++ following) := by
  obtain ⟨d, rest, hDelimiters⟩ := List.exists_cons_of_ne_nil (List.isEmpty_eq_false_iff.mp h)
  rw [hDelimiters]
  exact startsDelimited_cons d _

theorem startsDelimited_marks {i : Inline} (h : i.isLettered = true) (hSpan : i.isText = false)
    (following : List Mark) : StartsDelimited (i.marks ++ following) := by
  cases i with
  | text t => cases hSpan
  | span s children =>
    have hSome := (isLettered_span h).1
    rw [marks_span_of_delimiters hSome, List.append_assoc]
    exact startsDelimited_delimiters hSome _
  | _ => cases h

mutual
theorem legible_marks {i : Inline} (h : i.isLettered = true) {following : List Mark} (hFollowing : Legible following)
    (hNext : i.isText = true → StartsDelimited following) : Legible (i.marks ++ following) := by
  cases i with
  | text t => exact .word (isLettered_text h).1 (isLettered_text h).2 (hNext rfl) hFollowing
  | span s children =>
    obtain ⟨hSome, hChildren⟩ := isLettered_span h
    have hEnd := startsDelimited_delimiters hSome following
    have hInside := legible_marksAll hChildren (hFollowing.delimiters s.delimiters) hEnd
    rw [marks_span_of_delimiters hSome, List.append_assoc, List.append_assoc]
    exact hInside.delimiters s.delimiters
  | _ => cases h

theorem legible_marksAll {content : List Inline} (h : areLettered content = true) {following : List Mark}
    (hFollowing : Legible following) (hNext : StartsDelimited following) :
    Legible (marksAll content ++ following) := by
  cases content with
  | nil => exact hFollowing
  | cons i rest =>
    obtain ⟨hFirst, hRest, hApart⟩ := areLettered_cons h
    rw [marksAll, List.append_assoc]
    apply legible_marks hFirst (legible_marksAll hRest hFollowing hNext)
    intro hText
    cases rest with
    | nil => exact hNext
    | cons j rest =>
      rw [marksAll, List.append_assoc]
      exact startsDelimited_marks (areLettered_cons hRest).1 (hApart hText j rfl) _
end

mutual
theorem extends_write {i : Inline} (h : i.isLettered = true) (d : Draft) :
    d.Extends (i.marks.flatMap Mark.text) (i.write d) := by
  cases i with
  | text t =>
    rw [flatMap_marks_text]
    exact .word (isLettered_text h).2 d
  | span s children =>
    obtain ⟨hSome, hChildren⟩ := isLettered_span h
    obtain ⟨hBare, hOpening, hClosing, hLine⟩ := Span.written_of_delimiters hSome
    have hInside := extends_writeAll hChildren [] nofun (d.push s.opening)
    have hAll := (Draft.Extends.push d s.opening).trans (hInside.trans (.pushText _ hLine))
    rw [marks_span_of_delimiters hSome, List.flatMap_append, List.flatMap_append, ← hOpening, write, hBare, hClosing]
    exact hAll
  | _ => cases h

theorem extends_writeAll {content : List Inline} (h : areLettered content = true) (run : Text)
    (hRun : ∀ c ∈ run, c.isAlpha = true) (d : Draft) :
    d.Extends (run ++ (marksAll content).flatMap Mark.text) (writeAll content run d) := by
  cases content with
  | nil =>
    rw [marksAll, List.flatMap_nil, List.append_nil]
    exact .word hRun d
  | cons i rest =>
    obtain ⟨hFirst, hRest, -⟩ := areLettered_cons h
    rw [marksAll, List.flatMap_append]
    cases i with
    | text t =>
      have hRuns : ∀ c ∈ run ++ t, c.isAlpha = true :=
        List.forall_mem_append.mpr ⟨hRun, (isLettered_text hFirst).2⟩
      rw [flatMap_marks_text, ← List.append_assoc]
      exact extends_writeAll hRest (run ++ t) hRuns d
    | span s children =>
      have hBracket : (span s children).opensBracket = false := by
        cases s with
        | link | image => cases hFirst
        | _ => rfl
      rw [writeAll_span_cons, hBracket]
      exact .trans (.word hRun d) (.trans (extends_write hFirst _) (extends_writeAll hRest [] nofun _))
    | _ => cases hFirst
end

theorem text_region_of_areLettered {content : List Inline} (h : areLettered content = true) :
    (region content).text = (marksAll content).flatMap Mark.text := by
  have hLines := (extends_writeAll h [] nofun .empty).lines
  rw [Region.text, map_text_region, hLines]
  exact List.intercalate_singleton

/-- Lettered sequences are written alike just if one can be regrouped into the other. -/
theorem text_region_eq_iff_regrouped {xs ys : List Inline} (hx : areLettered xs = true) (hy : areLettered ys = true) :
    (region xs).text = (region ys).text ↔ Regrouped xs ys := by
  rw [text_region_of_areLettered hx, text_region_of_areLettered hy, ← marksAll_eq_iff_regrouped]
  constructor
  · intro hText
    have hLegible : ∀ {content : List Inline}, areLettered content = true → Legible (marksAll content) :=
      fun h => by simpa using legible_marksAll h .nil nofun
    exact (hLegible hx).eq_of_text_eq (hLegible hy) hText
  · exact congrArg (List.flatMap Mark.text)

theorem text_region_neighbours :
    let nested : List Inline := [.span .emphasis [.text ['a'], .span .emphasis [.text ['b']], .text ['c']]]
    let neighbours : List Inline := [.span .emphasis [.text ['a']], .text ['b'], .span .emphasis [.text ['c']]]
    areLettered nested = true ∧ areLettered neighbours = true ∧
      (region nested).text = (region neighbours).text ∧ Regrouped nested neighbours := by
  intro nested neighbours
  have hNested : areLettered nested = true := by decide
  have hNeighbours : areLettered neighbours = true := by decide
  have hText : (region nested).text = (region neighbours).text := by decide
  exact ⟨hNested, hNeighbours, hText, (text_region_eq_iff_regrouped hNested hNeighbours).mp hText⟩

theorem not_injective_text_region : ¬ ∀ xs ys : List Inline, areLettered xs = true → areLettered ys = true →
    (region xs).text = (region ys).text → xs = ys := by
  intro h
  have hSame := h [.span .emphasis [.span .emphasis [.text ['a']]]] [.span .strong [.text ['a']]]
    (by decide) (by decide) (by decide)
  cases hSame

end Inline

end MarkdownLists
