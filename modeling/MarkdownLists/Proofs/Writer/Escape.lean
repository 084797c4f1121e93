import MarkdownLists.Proofs.Text.Lines
import MarkdownLists.Writer.Inlines
import Mathlib.Data.Bool.AllAny

/-! # Reading escaped text

A reader takes a backslash and the ASCII punctuation behind it as that character, and every other character as
itself. Escaped text is read back as the text that was escaped, and no character that stands for itself in it
begins anything else.
-/

namespace MarkdownLists.Writer
set_option autoImplicit false

/-- A character as a reader meets it: whether a backslash gave it, and the text that follows. -/
structure Met where
  char : Char
  escaped : Bool
  rest : Text

/-- Reads from left to right. -/
def readEscaped : Text → List Met
  | '\\' :: c :: rest =>
    if CharClass.isAsciiPunctuation c then ⟨c, true, rest⟩ :: readEscaped rest
    else ⟨'\\', false, c :: rest⟩ :: readEscaped (c :: rest)
  | c :: rest => ⟨c, false, rest⟩ :: readEscaped rest
  | [] => []

/-- Whether a character that stands for itself would be read as syntax: a delimiter, an ampersand before the
rest of a character reference, or an opening angle bracket before the rest of a tag. -/
def Live (c : Char) (rest : Text) : Prop :=
  c ∈ ['\\', backtick, '*', '_', '[', ']', '~'] ∨
  (c = '&' ∧ ∃ name after, rest = name ++ ';' :: after ∧ name ≠ [] ∧
    ∀ d ∈ name, d.isAlphanum = true ∨ d = '#') ∨
  (c = '<' ∧ ∃ d after, rest = d :: after ∧ (d.isAlpha = true ∨ d ∈ ['/', '!', '?']))

/-- How a run of text is written: escaped, with an exclamation mark at its end escaped before a bracket. -/
def writtenRun (lineStart beforeBracket : Bool) (t : Text) : Text :=
  if beforeBracket then escapeLast '!' (escape lineStart t) else escape lineStart t

/-- The first text is the second one with backslashes before some characters, all of them among `escapes`, and
before every character that needs one. -/
inductive Spells (escapes : Char → Prop) : Text → Text → Prop
  | nil : Spells escapes [] []
  | escaped {c : Char} {w t : Text} (h : escapes c) (hRest : Spells escapes w t) :
      Spells escapes ('\\' :: c :: w) (c :: t)
  | plain {c : Char} {w t : Text} (h : needsEscape c t = false) (hRest : Spells escapes w t) :
      Spells escapes (c :: w) (c :: t)

theorem not_mem_inlineSyntax {c : Char} {t : Text} (h : needsEscape c t = false) : c ∉ inlineSyntax := by
  intro hMem
  have hSyntax : inlineSyntax.contains c = true := List.contains_iff_mem.mpr hMem
  rw [needsEscape, if_neg (by rintro rfl; revert hMem; decide), if_neg (by rintro rfl; revert hMem; decide),
    hSyntax] at h
  cases h

theorem needsEscape_of_not_mem {c : Char} (h : c ∉ '&' :: '<' :: inlineSyntax) (rest : Text) :
    needsEscape c rest = false := by
  simp only [List.mem_cons, not_or] at h
  rw [needsEscape, if_neg h.1, if_neg h.2.1]
  simpa [inlineSyntax] using h.2.2

theorem ne_backslash_of_needsEscape {c : Char} {t : Text} (h : needsEscape c t = false) : c ≠ '\\' := by
  rintro rfl
  cases h

theorem readEscaped_escaped {c : Char} (h : CharClass.isAsciiPunctuation c = true) (rest : Text) :
    readEscaped ('\\' :: c :: rest) = ⟨c, true, rest⟩ :: readEscaped rest := by
  rw [readEscaped, if_pos h]

theorem readEscaped_plain {c : Char} (h : c ≠ '\\') (rest : Text) :
    readEscaped (c :: rest) = ⟨c, false, rest⟩ :: readEscaped rest := by
  rw [readEscaped]
  rintro d rest' hc -
  exact h hc

theorem escapeLast_cons (c d : Char) {t : Text} (h : t ≠ []) : escapeLast d (c :: t) = c :: escapeLast d t := by
  obtain ⟨e, rest, rfl⟩ := List.exists_cons_of_ne_nil h
  rw [escapeLast, escapeLast, List.getLast?_cons_cons, List.getLast?_cons, List.dropLast_cons_of_ne_nil h]
  dsimp only
  split <;> rfl

namespace Spells

variable {escapes escapes' : Char → Prop} {c : Char} {w t : Text}

theorem mono (hMono : ∀ c, escapes c → escapes' c) (h : Spells escapes w t) : Spells escapes' w t := by
  induction h with
  | nil => exact .nil
  | escaped hc _ ih => exact .escaped (hMono _ hc) ih
  | plain hc _ ih => exact .plain hc ih

theorem mem_of_mem {c : Char} (h : Spells escapes w t) (hMem : c ∈ w) : c = '\\' ∨ c ∈ t := by
  induction h with
  | nil => exact .inr hMem
  | escaped _ _ ih =>
    simp only [List.mem_cons] at hMem ⊢
    rcases hMem with hSlash | hFirst | hRest
    · exact .inl hSlash
    · exact .inr (.inl hFirst)
    · exact (ih hRest).imp_right .inr
  | plain _ _ ih =>
    simp only [List.mem_cons] at hMem ⊢
    rcases hMem with hFirst | hRest
    · exact .inr (.inl hFirst)
    · exact (ih hRest).imp_right .inr

theorem head?_eq (h : Spells escapes w t) : ∀ c ∈ w.head?, c = '\\' ∨ c ∈ t.head? := by
  cases h with
  | nil => exact nofun
  | escaped hc hRest =>
    rintro c ⟨⟩
    exact .inl rfl
  | plain hc hRest =>
    rintro c ⟨⟩
    exact .inr rfl

theorem getLast?_eq (h : Spells escapes w t) : w.getLast? = t.getLast? := by
  induction h with
  | nil => rfl
  | escaped hc hRest ih => simp [List.getLast?_cons, ih]
  | plain hc hRest ih => simp [List.getLast?_cons, ih]

theorem exists_of_cons (hc : c ≠ '\\') (h : Spells escapes (c :: w) t) :
    needsEscape c t.tail = false ∧ ∃ u, t = c :: u ∧ Spells escapes w u := by
  cases h with
  | escaped => exact absurd rfl hc
  | plain hPlain hRest => exact ⟨hPlain, _, rfl, hRest⟩

/-- What is written without backslashes is there in the text as well, and none of it is always escaped. -/
theorem exists_of_append {part after : Text} (hPart : '\\' ∉ part) (h : Spells escapes (part ++ after) t) :
    (∀ c ∈ part, c ∉ inlineSyntax) ∧ ∃ rest, t = part ++ rest ∧ Spells escapes after rest := by
  induction part generalizing t with
  | nil => exact ⟨nofun, t, rfl, h⟩
  | cons c part ih =>
    obtain ⟨hc, hPart⟩ := not_or.mp (mt List.mem_cons.mpr hPart)
    obtain ⟨hPlain, u, rfl, hRest⟩ := exists_of_cons (Ne.symm hc) h
    obtain ⟨hSyntax, rest, rfl, hAfter⟩ := ih hPart hRest
    exact ⟨List.forall_mem_cons.mpr ⟨not_mem_inlineSyntax hPlain, hSyntax⟩, rest, rfl, hAfter⟩

/-! ## Reading -/

-- The escaping looks ahead in the text, but a reader in what is written. They see the same names and tags,
-- since no character of these is a backslash.
theorem not_live (hRest : Spells escapes w t) (h : needsEscape c t = false) : ¬ Live c w := by
  rintro (hMem | ⟨rfl, name, after, rfl, hName, hAll⟩ | ⟨rfl, d, after, rfl, hd⟩)
  · exact not_mem_inlineSyntax h hMem
  · have hPart : '\\' ∉ name ++ [';'] := by
      intro hMem
      rcases List.mem_append.mp hMem with hMem | hMem
      · exact absurd (hAll _ hMem) (by decide)
      · exact absurd hMem (by decide)
    obtain ⟨-, rest, rfl, -⟩ := exists_of_append hPart (by simpa using hRest)
    have hBefore : ∀ d ∈ name, decide (d ≠ ';') = true := by
      intro d hd
      refine decide_eq_true ?_
      rintro rfl
      exact absurd (hAll _ hd) (by decide)
    have hTake : (name ++ [';'] ++ rest).takeWhile (· ≠ ';') = name := by
      rw [List.append_assoc, List.takeWhile_append_of_pos hBefore]
      simp
    have hReference : startsReference (name ++ [';'] ++ rest) = true := by
      rw [startsReference, hTake]
      simpa [hName] using hAll
    rw [needsEscape, if_pos rfl, hReference] at h
    cases h
  · have hPart : '\\' ∉ [d] := by
      intro hMem
      rw [← List.mem_singleton.mp hMem] at hd
      exact absurd hd (by decide)
    obtain ⟨-, rest, rfl, -⟩ := exists_of_append hPart hRest
    have hTag : startsTag (d :: rest) = true := by simpa [startsTag, or_assoc] using hd
    rw [needsEscape, if_neg (by decide), if_pos rfl, List.singleton_append, hTag] at h
    cases h

theorem read (hEscapes : ∀ c, escapes c → CharClass.isAsciiPunctuation c = true) (h : Spells escapes w t) :
    (readEscaped w).map Met.char = t ∧ ∀ m ∈ readEscaped w, m.escaped = false → ¬ Live m.char m.rest := by
  induction h with
  | nil => exact ⟨rfl, nofun⟩
  | escaped hc _ ih =>
    obtain ⟨hText, hMet⟩ := ih
    rw [readEscaped_escaped (hEscapes _ hc), List.map_cons, hText, List.forall_mem_cons]
    exact ⟨rfl, nofun, hMet⟩
  | plain hc hRest ih =>
    obtain ⟨hText, hMet⟩ := ih
    rw [readEscaped_plain (ne_backslash_of_needsEscape hc), List.map_cons, hText, List.forall_mem_cons]
    exact ⟨rfl, fun _ => hRest.not_live hc, hMet⟩

/-! ## Escaping -/

theorem append_digits {digits : Text} (hAll : ∀ c ∈ digits, c.isDigit = true) (h : Spells escapes w t) :
    Spells escapes (digits ++ w) (digits ++ t) := by
  induction digits with
  | nil => exact h
  | cons c digits ih =>
    obtain ⟨hDigit, hDigits⟩ := List.forall_mem_cons.mp hAll
    have hSyntax : ∀ d ∈ '&' :: '<' :: inlineSyntax, d.isDigit = false := List.all_iff_forall_prop.mp (by decide)
    have hPlain := needsEscape_of_not_mem (Text.not_mem_of_holds hDigit hSyntax) (digits ++ t)
    exact .plain hPlain (ih hDigits)

end Spells

/-- The characters that escaping puts backslashes before. -/
def Escapable (c : Char) : Prop := CharClass.isAsciiPunctuation c = true ∧ c ≠ '!'

theorem escapable_of_needsEscape {c : Char} {rest : Text} (h : needsEscape c rest = true) : Escapable c := by
  have hAll : ∀ c ∈ '&' :: '<' :: inlineSyntax, CharClass.isAsciiPunctuation c = true ∧ c ≠ '!' :=
    List.all_iff_forall_prop.mp (by decide)
  apply hAll
  unfold needsEscape at h
  split at h
  · rename_i hc
    simp [hc]
  · split at h
    · rename_i hc
      simp [hc]
    · exact List.mem_cons_of_mem _ (List.mem_cons_of_mem _ (List.contains_iff_mem.mp h))

theorem escapeInline_append {part : Text} (h : ∀ c ∈ part, c ∉ '&' :: '<' :: inlineSyntax) (rest : Text) :
    escapeInline (part ++ rest) = part ++ escapeInline rest := by
  induction part with
  | nil => rfl
  | cons c part ih =>
    obtain ⟨hc, hPart⟩ := List.forall_mem_cons.mp h
    rw [List.cons_append, escapeInline, needsEscape_of_not_mem hc, if_neg Bool.false_ne_true, ih hPart]
    rfl

theorem escapeLineStart_of_head {t : Text} (h : ∀ c ∈ t.head?, c.isDigit = false ∧ c ∉ blockStart) :
    escapeLineStart t = escapeInline t := by
  cases t with
  | nil => rfl
  | cons c rest =>
    obtain ⟨hDigit, hBlock⟩ := h c rfl
    simp [escapeLineStart, hDigit, hBlock]

theorem spells_escapeInline (t : Text) : Spells Escapable (escapeInline t) t := by
  induction t with
  | nil => exact .nil
  | cons c rest ih =>
    rw [escapeInline]
    split
    · exact .escaped (escapable_of_needsEscape ‹_›) ih
    · exact .plain (Bool.not_eq_true _ ▸ ‹¬ _›) ih

theorem spells_escapeLineStart (t : Text) : Spells Escapable (escapeLineStart t) t := by
  have hDigits := List.all_eq_true.mp (List.all_takeWhile (p := Char.isDigit) (l := t))
  have hText := List.takeWhile_append_dropWhile (p := Char.isDigit) (l := t)
  have hInline := spells_escapeInline t
  unfold escapeLineStart
  dsimp only
  split
  · exact hInline
  · rename_i c rest hDrop
    have hRest := spells_escapeInline rest
    rw [hDrop] at hText
    split
    · rename_i hFirst
      obtain ⟨hNil, hBlock⟩ := Bool.and_eq_true_iff.mp hFirst
      have hEscapable : ∀ c ∈ blockStart, Escapable c := by
        unfold Escapable
        exact List.all_iff_forall_prop.mp (by decide)
      rw [List.isEmpty_iff.mp hNil, List.nil_append] at hText
      rw [← hText]
      exact .escaped (hEscapable c (List.contains_iff_mem.mp hBlock)) hRest
    · split
      · rename_i hSuffix
        have hEscapable : Escapable c := by
          simp only [Bool.and_eq_true, Bool.or_eq_true, decide_eq_true_eq] at hSuffix
          rcases hSuffix.2 with rfl | rfl <;> exact ⟨rfl, by decide⟩
        have hMarked := hRest.escaped hEscapable |>.append_digits hDigits
        rwa [hText] at hMarked
      · exact hInline

theorem spells_escape (lineStart : Bool) (t : Text) : Spells Escapable (escape lineStart t) t := by
  cases lineStart with
  | true => exact spells_escapeLineStart t
  | false => exact spells_escapeInline t

theorem newline_not_mem_escape {lineStart : Bool} {t : Text} (h : '\n' ∉ t) : '\n' ∉ escape lineStart t := by
  intro hMem
  rcases (spells_escape lineStart t).mem_of_mem hMem with hSlash | hMem
  · cases hSlash
  · exact h hMem

/-! ## The end before a bracket -/

/-- The text does not end in an exclamation mark that stands for itself. -/
def EndsWithoutBang (w : Text) : Prop := ∀ m ∈ (readEscaped w).getLast?, m.escaped = false → m.char ≠ '!'

theorem readEscaped_ne_nil {w : Text} (h : w ≠ []) : readEscaped w ≠ [] := by
  unfold readEscaped
  split
  · split <;> exact List.cons_ne_nil _ _
  · exact List.cons_ne_nil _ _
  · exact absurd rfl h

theorem EndsWithoutBang.cons {w w' : Text} (hRead : ∃ m, readEscaped w' = m :: readEscaped w) (hw : w ≠ [])
    (h : EndsWithoutBang w) : EndsWithoutBang w' := by
  obtain ⟨m, hRead⟩ := hRead
  obtain ⟨n, rest, hRest⟩ := List.exists_cons_of_ne_nil (readEscaped_ne_nil hw)
  unfold EndsWithoutBang at h ⊢
  rwa [hRead, hRest, List.getLast?_cons_cons, ← hRest]

theorem escapeLast_ne_nil (d : Char) {t : Text} (h : t ≠ []) : escapeLast d t ≠ [] := by
  unfold escapeLast
  split
  · split
    · simp
    · exact h
  · exact h

theorem spells_escapeLast {w t : Text} (h : Spells Escapable w t) :
    Spells (CharClass.isAsciiPunctuation · = true) (escapeLast '!' w) t ∧
      EndsWithoutBang (escapeLast '!' w) := by
  induction h with
  | nil => exact ⟨.nil, nofun⟩
  | @escaped c w t hc hRest ih =>
    have hRead := readEscaped_escaped hc.1
    cases w with
    | nil =>
      have hSame : escapeLast '!' ['\\', c] = ['\\', c] := by
        rw [escapeLast]
        exact if_neg hc.2
      rw [hSame]
      refine ⟨.escaped hc.1 (hRest.mono fun _ h => h.1), ?_⟩
      rintro m hm
      rw [hRead] at hm
      cases hm
      exact nofun
    | cons d w =>
      obtain ⟨hSpells, hEnds⟩ := ih
      rw [escapeLast_cons _ _ (List.cons_ne_nil c _), escapeLast_cons _ _ (List.cons_ne_nil d w)]
      exact ⟨.escaped hc.1 hSpells, hEnds.cons ⟨_, hRead _⟩ (escapeLast_ne_nil _ (List.cons_ne_nil d w))⟩
  | @plain c w t hc hRest ih =>
    have hRead := readEscaped_plain (ne_backslash_of_needsEscape hc)
    cases w with
    | nil =>
      cases hRest
      by_cases hBang : c = '!'
      · subst hBang
        refine ⟨.escaped rfl .nil, ?_⟩
        rintro m ⟨⟩
        exact nofun
      · have hSame : escapeLast '!' [c] = [c] := by
          rw [escapeLast]
          exact if_neg hBang
        rw [hSame]
        refine ⟨.plain hc .nil, ?_⟩
        rintro m hm -
        rw [hRead] at hm
        cases hm
        exact hBang
    | cons d w =>
      obtain ⟨hSpells, hEnds⟩ := ih
      rw [escapeLast_cons _ _ (List.cons_ne_nil d w)]
      exact ⟨.plain hc hSpells, hEnds.cons ⟨_, hRead _⟩ (escapeLast_ne_nil _ (List.cons_ne_nil d w))⟩

/-- A written run of text reads back as the text. The reader meets nothing live on its way, and before a bracket no
exclamation mark at the end that stands for itself. -/
theorem readEscaped_writtenRun (lineStart beforeBracket : Bool) (t : Text) :
    let written := writtenRun lineStart beforeBracket t
    (∀ d : Draft, d.current.isBlank = lineStart → d.writeText t beforeBracket = d.pushText written) ∧
      (readEscaped written).map Met.char = t ∧
      (∀ m ∈ readEscaped written, m.escaped = false → ¬ Live m.char m.rest) ∧
      (beforeBracket = true → ∀ m ∈ (readEscaped written).getLast?, m.escaped = false → m.char ≠ '!') := by
  intro written
  have hSpells := spells_escape lineStart t
  have hWritten : Spells (CharClass.isAsciiPunctuation · = true) written t ∧
      (beforeBracket = true → EndsWithoutBang written) := by
    cases beforeBracket with
    | true =>
      obtain ⟨hLast, hEnds⟩ := spells_escapeLast hSpells
      exact ⟨hLast, fun _ => hEnds⟩
    | false => exact ⟨hSpells.mono fun _ h => h.1, nofun⟩
  obtain ⟨hText, hMet⟩ := hWritten.1.read fun _ h => h
  refine ⟨?_, hText, hMet, hWritten.2⟩
  rintro d rfl
  rfl

example : writtenRun true true "1986. <b>&amp; \\!".toList = "1986\\. \\<b>\\&amp; \\\\\\!".toList := by decide

end MarkdownLists.Writer
