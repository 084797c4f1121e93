import MarkdownLists.Markdown.Inlines
import MarkdownLists.Proofs.Text.Backtick
import MarkdownLists.Proofs.Writer.Inlines

/-! # Code spans read again

A code span is written between two runs of backticks that are longer than every run inside, so that a reader finds
its end. At the ends of the code the reader takes off one space each. The writer provides for that by putting
spaces there, but not around white space alone, of which only spaces are safe from the reader.
-/

namespace MarkdownLists
set_option autoImplicit false

namespace Markdown

def codeSpan? (t : Text) : Option (Text × Text) :=
  if t.backtickRun = 0 then none
  else (codeContent? t.backtickRun true (t.drop t.backtickRun)).map fun (content, after) => (normalCode content, after)

theorem readPiece_of_codeSpan? {rest after code : Text} (h : codeSpan? (backtick :: rest) = some (code, after))
    (definitions : List Definition) (before : Char) (s : InlineState) :
    readPiece definitions before backtick rest s = (s.push (.code code), after) := by
  have hRun : Text.backtickRun (backtick :: rest) ≠ 0 := Nat.succ_ne_zero _
  rw [codeSpan?, if_neg hRun] at h
  obtain ⟨⟨content, after'⟩, hContent, hRead⟩ := Option.map_eq_some_iff.mp h
  obtain ⟨rfl, rfl⟩ := Prod.mk.inj hRead
  have hBackslash : backtick ≠ '\\' := by decide
  rw [readPiece.eq_def, if_neg hBackslash, if_pos rfl]
  dsimp only
  rw [hContent]

theorem codeContent?_append {n : Nat} {content rest : Text} (hRuns : content.longestBacktickRun < n)
    (hLast : content.getLast? ≠ some backtick) (hRest : rest.head? ≠ some backtick) {atRun : Bool}
    (hAtRun : content = [] → atRun = true) :
    codeContent? n atRun (content ++ (List.replicate n backtick ++ rest)) = some (content, rest) := by
  induction content generalizing atRun with
  | nil =>
    have hFence := Text.backtickRun_replicate_append n hRest
    obtain ⟨m, rfl⟩ := Nat.exists_eq_succ_of_ne_zero (Nat.ne_of_gt hRuns)
    have hDrop : (List.replicate (m + 1) backtick ++ rest).drop (m + 1) = rest := by simp
    rw [List.replicate_succ, List.cons_append] at hFence hDrop
    rw [List.nil_append, List.replicate_succ, List.cons_append, codeContent?, if_pos rfl, hAtRun rfl, hFence, hDrop]
    simp
  | cons c content ih =>
    have hInner : Text.longestBacktickRun content < n :=
      Nat.lt_of_le_of_lt (Text.longestBacktickRun_le_of_infix (List.suffix_cons c content).isInfix) hRuns
    have hFirst : Text.backtickRun (c :: content) < n :=
      Nat.lt_of_le_of_lt (Text.backtickRun_le_longest _) hRuns
    have hEnd : content.getLast? ≠ some backtick := by
      cases content with
      | nil => exact nofun
      | cons d content => rwa [List.getLast?_cons_cons] at hLast
    rw [List.cons_append, codeContent?]
    by_cases hc : c = backtick
    · subst hc
      have hContent : content ≠ [] := by
        rintro rfl
        exact hLast rfl
      -- The run that begins here ends within the content.
      have hRun := Text.backtickRun_append (List.cons_ne_nil backtick content) hLast
        (List.replicate n backtick ++ rest)
      rw [List.cons_append] at hRun
      have hNotEnd : ¬ (atRun && decide (Text.backtickRun
          (backtick :: (content ++ (List.replicate n backtick ++ rest))) = n)) = true := by
        rw [hRun]
        simp [Nat.ne_of_lt hFirst]
      rw [if_pos rfl, if_neg hNotEnd, ih hInner hEnd fun h => absurd h hContent]
      rfl
    · rw [if_neg hc, ih hInner hEnd fun _ => rfl]
      rfl

theorem codeSpan?_fence_append {n : Nat} {content rest : Text} (hContent : content ≠ [])
    (hRuns : content.longestBacktickRun < n) (hFirst : content.head? ≠ some backtick)
    (hLast : content.getLast? ≠ some backtick) (hRest : rest.head? ≠ some backtick) :
    codeSpan? (List.replicate n backtick ++ (content ++ (List.replicate n backtick ++ rest))) =
      some (normalCode content, rest) := by
  have hHead : (content ++ (List.replicate n backtick ++ rest)).head? ≠ some backtick := by
    obtain ⟨c, content, rfl⟩ := List.exists_cons_of_ne_nil hContent
    exact hFirst
  have hDrop : (List.replicate n backtick ++ (content ++ (List.replicate n backtick ++ rest))).drop n =
      content ++ (List.replicate n backtick ++ rest) := by simp
  rw [codeSpan?, Text.backtickRun_replicate_append n hHead, if_neg (Nat.ne_of_gt (Nat.zero_lt_of_lt hRuns)), hDrop,
    codeContent?_append hRuns hLast hRest fun h => absurd h hContent]
  rfl

theorem normalCode_of_not_mem {t : Text} (h : '\n' ∉ t) : normalCode t =
    if t.head? = some ' ' ∧ t.getLast? = some ' ' ∧ ¬ t.all (· = ' ') = true then t.tail.dropLast else t := by
  have hMap : t.map (fun c => if c = '\n' then ' ' else c) = t := by
    have hSame : ∀ c ∈ t, (if c = '\n' then ' ' else c) = id c := by
      intro c hc
      exact if_neg fun hNewline : c = '\n' => h (hNewline ▸ hc)
    rw [List.map_congr_left hSame, List.map_id]
  rw [normalCode, hMap]
  simp [and_assoc]

end Markdown

namespace Writer

open Markdown

def LosesSpaces (code : Text) : Prop :=
  code.head? = some ' ' ∧ code.getLast? = some ' ' ∧ (∀ c ∈ code, CharClass.isWhiteSpace c = true) ∧
    ∃ c ∈ code, c ≠ ' '

instance (code : Text) : Decidable (LosesSpaces code) :=
  have : Decidable (∀ c ∈ code, CharClass.isWhiteSpace c = true) := List.decidableBAll _ code
  have : Decidable (∃ c ∈ code, c ≠ ' ') := List.decidableBEx _ code
  inferInstanceAs (Decidable (_ ∧ _ ∧ _ ∧ _))

variable {code : Text}

theorem needsPadding_iff : needsPadding code = true ↔ code.head? = some backtick ∨ code.getLast? = some backtick ∨
    (code.head? = some ' ' ∧ code.getLast? = some ' ' ∧ ∃ c ∈ code, CharClass.isWhiteSpace c = false) := by
  simp [needsPadding, or_assoc, and_assoc]

theorem LosesSpaces.not_needsPadding (h : LosesSpaces code) : ¬ needsPadding code = true := by
  obtain ⟨hFirst, hLast, hWhite, -⟩ := h
  rw [needsPadding_iff, hFirst, hLast]
  rintro (hBacktick | hBacktick | ⟨-, -, c, hc, hBlack⟩)
  · exact absurd hBacktick (by decide)
  · exact absurd hBacktick (by decide)
  · rw [hWhite c hc] at hBlack
    cases hBlack

theorem exists_ne_space_of_needsPadding (h : needsPadding code = true) : ∃ c ∈ code, c ≠ ' ' := by
  have hBacktick : backtick ≠ ' ' := by decide
  rcases needsPadding_iff.mp h with hFirst | hLast | ⟨-, -, c, hc, hBlack⟩
  · exact ⟨backtick, List.mem_of_head? hFirst, hBacktick⟩
  · exact ⟨backtick, List.mem_of_getLast? hLast, hBacktick⟩
  · refine ⟨c, hc, ?_⟩
    rintro rfl
    exact absurd hBlack (by decide)

theorem fence_one (code : Text) : fence 1 code = List.replicate (code.longestBacktickRun + 1) backtick := by
  rw [fence, Nat.max_eq_right (Nat.le_add_left 1 _)]

theorem codeSpan?_codeSpan_append (hCode : code ≠ []) (hLine : '\n' ∉ code) {rest : Text}
    (hRest : rest.head? ≠ some backtick) :
    codeSpan? (codeSpan code ++ rest) = some (if LosesSpaces code then code.tail.dropLast else code, rest) := by
  have hSpace : ' ' ≠ backtick := by decide
  by_cases hPadding : needsPadding code = true
  · have hKept : ¬ LosesSpaces code := fun hLoses => hLoses.not_needsPadding hPadding
    have hSpan : codeSpan code ++ rest = List.replicate (code.longestBacktickRun + 1) backtick ++
        (' ' :: (code ++ [' ']) ++ (List.replicate (code.longestBacktickRun + 1) backtick ++ rest)) := by
      simp [codeSpan, hPadding, fence_one]
    have hRuns : Text.longestBacktickRun (' ' :: (code ++ [' '])) < code.longestBacktickRun + 1 := by
      rw [Text.longestBacktickRun_cons_of_ne hSpace, Text.longestBacktickRun_append_singleton hSpace]
      exact Nat.lt_succ_self _
    have hLast : (' ' :: (code ++ [' '])).getLast? = some ' ' := by rw [← List.cons_append, List.getLast?_concat]
    have hEnds : some ' ' ≠ some backtick := fun h => hSpace (Option.some.inj h)
    have hNewline : '\n' ∉ ' ' :: (code ++ [' ']) := by simpa using hLine
    have hOther : ¬ (' ' :: (code ++ [' '])).all (· = ' ') = true := by
      obtain ⟨c, hc, hne⟩ := exists_ne_space_of_needsPadding hPadding
      intro hAll
      exact hne (of_decide_eq_true (List.all_eq_true.mp hAll c (by simp [hc])))
    rw [hSpan, codeSpan?_fence_append (List.cons_ne_nil _ _) hRuns hEnds (hLast ▸ hEnds) hRest,
      normalCode_of_not_mem hNewline, if_pos ⟨rfl, hLast, hOther⟩, if_neg hKept, List.tail_cons,
      List.dropLast_concat]
  · have hSpan : codeSpan code ++ rest = List.replicate (code.longestBacktickRun + 1) backtick ++
        (code ++ (List.replicate (code.longestBacktickRun + 1) backtick ++ rest)) := by
      simp [codeSpan, hPadding, fence_one]
    obtain ⟨hFirst, hLast, hBoth⟩ : code.head? ≠ some backtick ∧ code.getLast? ≠ some backtick ∧
        (code.head? = some ' ' → code.getLast? = some ' ' → ∀ c ∈ code, CharClass.isWhiteSpace c = true) := by
      simpa [needsPadding_iff] using hPadding
    have hLoses : (code.head? = some ' ' ∧ code.getLast? = some ' ' ∧ ¬ code.all (· = ' ') = true) ↔
        LosesSpaces code := by
      have hOther : (¬ code.all (· = ' ') = true) ↔ ∃ c ∈ code, c ≠ ' ' := by simp
      rw [hOther]
      constructor
      · rintro ⟨hHead, hEnd, hOther⟩
        exact ⟨hHead, hEnd, hBoth hHead hEnd, hOther⟩
      · rintro ⟨hHead, hEnd, -, hOther⟩
        exact ⟨hHead, hEnd, hOther⟩
    rw [hSpan, codeSpan?_fence_append hCode (Nat.lt_succ_self _) hFirst hLast hRest, normalCode_of_not_mem hLine]
    simp only [hLoses]

theorem newline_not_mem_codeSpan (h : '\n' ∉ code) : '\n' ∉ codeSpan code := by
  have hFence := newline_not_mem_fence 1 code
  unfold codeSpan
  split <;> simp [hFence, h]

/-- A code span of one line is read to its end, and gives the code that was written, except for white space between
two spaces that holds other white space than spaces: this loses a space at each end. -/
theorem codeSpan?_codeSpan_iff (hCode : code ≠ []) (hLine : '\n' ∉ code) :
    let written := codeSpan code
    let kept := if LosesSpaces code then code.tail.dropLast else code
    (∀ d : Draft, d.Extends written ((Inline.code code).write d)) ∧
      (∀ rest : Text, rest.head? ≠ some backtick → codeSpan? (written ++ rest) = some (kept, rest)) ∧
      (∀ definitions before s tail, written = backtick :: tail →
        readPiece definitions before backtick tail s = (s.push (.code kept), [])) ∧
      (codeSpan? written = some (code, []) ↔ ¬ LosesSpaces code) := by
  intro written kept
  have hRead : codeSpan? written = some (kept, []) := by
    have hAlone : codeSpan? (written ++ []) = some (kept, []) := codeSpan?_codeSpan_append hCode hLine nofun
    rwa [List.append_nil] at hAlone
  refine ⟨?_, fun rest => codeSpan?_codeSpan_append hCode hLine, ?_, ?_⟩
  · intro d
    exact Draft.Extends.pushText d (newline_not_mem_codeSpan hLine)
  · intro definitions before s tail hTail
    rw [hTail] at hRead
    exact readPiece_of_codeSpan? hRead definitions before s
  · rw [hRead, Option.some.injEq, Prod.mk.injEq, and_iff_left rfl]
    constructor
    · intro hKept hLoses
      have hShorter := congrArg List.length hKept
      rw [show kept = code.tail.dropLast from if_pos hLoses, List.length_dropLast, List.length_tail] at hShorter
      have hLength := List.length_pos_iff.mpr hCode
      omega
    · exact fun hLoses => if_neg hLoses

theorem codeSpan?_codeSpan_backtickBetweenSpaces :
    let code := [' ', backtick, backtick, ' ']
    code ≠ [] ∧ '\n' ∉ code ∧ ¬ LosesSpaces code ∧ codeSpan? (codeSpan code) = some (code, []) := by
  intro code
  have hCode : code ≠ [] := by decide
  have hLine : '\n' ∉ code := by decide
  have hKept : ¬ LosesSpaces code := by decide
  exact ⟨hCode, hLine, hKept, (codeSpan?_codeSpan_iff hCode hLine).2.2.2.mpr hKept⟩

/-- A tab between two spaces is read back alone. -/
theorem not_codeSpan?_codeSpan : ¬ ∀ code : Text, code ≠ [] → '\n' ∉ code →
    codeSpan? (Inline.region [.code code]).text = some (code, []) := by
  intro h
  exact absurd (h [' ', '\t', ' '] (by decide) (by decide)) (by decide)

end Writer

end MarkdownLists
