import MarkdownLists.Markdown.Inlines
import MarkdownLists.Proofs.Markdown.LinkSyntax
import MarkdownLists.Proofs.Writer.Inlines
import Mathlib.Data.Bool.AllAny

/-! # Link tails read again

The destination of a link and its title are written almost as they are: a destination gets angle brackets around it
if it holds a space or a parenthesis, and a title backslashes before its quotation marks. Nothing else is escaped. So
a backslash is read as one only before a character that it cannot escape, angle brackets must not be mistaken for
those around a destination, and an empty destination is not there for a reader.
-/

namespace MarkdownLists
set_option autoImplicit false

namespace Markdown

variable {c d : Char} {t u : Text}

/-! ## Titles -/

/-- The text with a backslash before each quotation mark. -/
def quoteTitle (t : Text) : Text := t.flatMap fun c => if c = '"' then ['\\', '"'] else [c]

theorem quoteTitle_quote (t : Text) : quoteTitle ('"' :: t) = '\\' :: '"' :: quoteTitle t := rfl

theorem quoteTitle_cons (h : c ≠ '"') (t : Text) : quoteTitle (c :: t) = c :: quoteTitle t := by
  simp [quoteTitle, h]

theorem count_quoteTitle (t : Text) : (quoteTitle t).count '"' = t.count '"' := by
  induction t with
  | nil => rfl
  | cons c t ih =>
    by_cases h : c = '"'
    · subst h
      simp [quoteTitle_quote, ih]
    · rw [quoteTitle_cons h, List.count_cons_of_ne h, List.count_cons_of_ne h, ih]

theorem mem_of_mem_quoteTitle (h : c ∈ quoteTitle t) : c = '\\' ∨ c ∈ t := by
  obtain ⟨d, hd, hMem⟩ := List.mem_flatMap.mp h
  split at hMem
  · rename_i hQuote
    rcases List.mem_cons.mp hMem with rfl | hMem
    · exact .inl rfl
    · rw [List.mem_singleton] at hMem
      exact .inr (by rwa [hMem, ← hQuote])
  · rw [List.mem_singleton] at hMem
    exact .inr (hMem ▸ hd)

theorem ampersand_not_mem_quoteTitle (h : '&' ∉ t) : '&' ∉ quoteTitle t := by
  intro hMem
  exact (mem_of_mem_quoteTitle hMem).elim (by decide) h

theorem keeps_head?_quoteTitle (h : ∀ d ∈ (t ++ u).head?, Keeps c d) : ∀ d ∈ (quoteTitle t ++ u).head?, Keeps c d := by
  cases t with
  | nil => exact h
  | cons d t =>
    by_cases hd : d = '"'
    · subst hd
      have hc : c ≠ '\\' := fun hc => absurd (h '"' rfl hc) (by decide)
      exact fun d _ => keeps_of_ne hc d
    · rw [quoteTitle_cons hd]
      exact h

theorem length_resolved_quoteTitle_le (t : Text) : (resolved (quoteTitle t)).length ≤ t.length := by
  induction t using escapeInduction with
  | nil => exact Nat.le_refl 0
  | escaped d t hd ih =>
    have hSlash : '\\' ≠ '"' := by decide
    rw [quoteTitle_cons hSlash]
    by_cases hQuote : d = '"'
    · subst hQuote
      rw [quoteTitle_quote, resolved_escaped rfl, resolved_cons fun d _ => keeps_of_ne (by decide) d]
      simpa using ih
    · rw [quoteTitle_cons hQuote, resolved_escaped hd]
      exact Nat.le_succ_of_le (Nat.succ_le_succ ih)
  | plain c t hc ih =>
    by_cases hQuote : c = '"'
    · subst hQuote
      rw [quoteTitle_quote, resolved_escaped rfl]
      exact Nat.succ_le_succ ih
    · have hNext : ∀ d ∈ (quoteTitle t).head?, Keeps c d := by
        simpa using keeps_head?_quoteTitle (u := []) (by simpa using hc)
      rw [quoteTitle_cons hQuote, resolved_cons hNext]
      exact Nat.succ_le_succ ih

/-- A written title is read to its closing quotation mark, and as the title, just if no backslash in it escapes
anything, not even that mark. -/
theorem titleBody?_quoteTitle_iff (t rest : Text) :
    titleBody? '"' (quoteTitle t ++ '"' :: rest) = some (quoteTitle t, rest) ∧ resolved (quoteTitle t) = t ↔
      Literal (t ++ ['"']) := by
  have hSlash : '\\' ≠ '"' := by decide
  have hMark : CharClass.isAsciiPunctuation '"' = true := rfl
  induction t using escapeInduction with
  | nil => exact iff_of_true ⟨titleBody?_close rest, rfl⟩ (List.isChain_singleton _)
  | escaped d t hd ih =>
    refine iff_of_false ?_ (not_literal_escaped hd (t ++ ['"']))
    rintro ⟨hRead, hSame⟩
    rw [quoteTitle_cons hSlash] at hRead hSame
    by_cases hQuote : d = '"'
    · -- The backslash is read as escaping the one before the mark, which then ends the title.
      subst hQuote
      rw [quoteTitle_quote, List.cons_append, List.cons_append, scans_titleBody?.escaped _ _ rfl] at hRead
      simp [titleBody?_close] at hRead
    · rw [quoteTitle_cons hQuote, resolved_escaped hd] at hSame
      have hLength := congrArg List.length hSame
      have hShorter := length_resolved_quoteTitle_le t
      simp only [List.length_cons] at hLength
      omega
  | plain c t hc ih =>
    by_cases hQuote : c = '"'
    · subst hQuote
      have hNext : ∀ d ∈ (t ++ ['"']).head?, Keeps '"' d := fun d _ => keeps_of_ne (by decide) d
      rw [quoteTitle_quote, List.cons_append, List.cons_append, scans_titleBody?.escaped _ _ rfl, resolved_escaped rfl,
        List.cons_append, literal_cons_iff, and_iff_right hNext, List.cons.injEq, and_iff_right rfl]
      exact (and_congr_left' (map_append_eq_some_iff ['\\', '"'])).trans ih
    · by_cases hNext : ∀ d ∈ (t ++ ['"']).head?, Keeps c d
      · have hWritten : ∀ d ∈ (quoteTitle t ++ '"' :: rest).head?, Keeps c d :=
          keeps_head?_quoteTitle (by simpa [List.head?_append] using hNext)
        have hTitle : ∀ d ∈ (quoteTitle t).head?, Keeps c d := by
          simpa using keeps_head?_quoteTitle (u := []) (by simpa using hc)
        rw [quoteTitle_cons hQuote, List.cons_append, List.cons_append, scans_titleBody?.plain c _ hQuote hWritten,
          literal_cons_iff, and_iff_right hNext, resolved_cons hTitle, List.cons.injEq, and_iff_right rfl]
        exact (and_congr_left' (map_append_eq_some_iff [c])).trans ih
      · obtain ⟨rfl, rfl, -⟩ := eq_nil_of_not_keeps hc hNext
        refine iff_of_false ?_ (not_literal_escaped hMark [])
        have hRead := scans_titleBody?.escaped '"' rest hMark
        rw [quoteTitle_cons hSlash]
        simp [quoteTitle, hRead, Option.map_eq_some_iff]

end Markdown

namespace Target

open Markdown

variable {t : Target} {u : Text}

def isBracketed (t : Target) : Bool := t.destination.any fun c => c = ' ' || c = '(' || c = ')'

/-- The character that is written after the destination. -/
def delimiter (t : Target) : Char := if t.isBracketed then '>' else if t.title.isEmpty then ')' else ' '

/-- What is needed for a target to be read as it was written. -/
structure ReadsBack (t : Target) : Prop where
  /-- Inside of angle brackets there is no further one. -/
  brackets : t.isBracketed = true → '<' ∉ t.destination ∧ '>' ∉ t.destination
  /-- A destination without brackets does not begin with one. -/
  bare : t.isBracketed = false → t.destination.head? ≠ some '<'
  /-- There is a destination before the title, which would be read as one. -/
  present : t.title ≠ [] → t.destination ≠ []
  /-- No backslash in the destination or at its end escapes anything. -/
  destination : Literal (t.destination ++ [t.delimiter])
  /-- No backslash in the title or at its end escapes anything. -/
  title : Literal (t.title ++ ['"'])

/-! ### The title -/

theorem writtenTitle_of_ne_nil (h : t.title ≠ []) :
    t.writtenTitle = ' ' :: '"' :: (quoteTitle t.title ++ ['"']) := by
  rw [writtenTitle, if_neg (by simpa using h)]
  rfl

theorem writtenTitle_append (h : t.title ≠ []) (rest : Text) :
    t.writtenTitle ++ rest = ' ' :: '"' :: (quoteTitle t.title ++ '"' :: rest) := by
  simp [writtenTitle_of_ne_nil h]

theorem writtenTitle_of_eq_nil (h : t.title = []) : t.writtenTitle = [] := by
  rw [writtenTitle, if_pos (by simpa using h)]

theorem titleTail?_writtenTitle (h : Literal (t.title ++ ['"'])) (hTitle : '&' ∉ t.title) (rest : Text) :
    titleTail? (t.writtenTitle ++ ')' :: rest) = some (t.title, rest) := by
  by_cases hNil : t.title = []
  · rw [writtenTitle_of_eq_nil hNil, hNil]
    exact titleTail?_paren rest
  · obtain ⟨hRead, hSame⟩ := (titleBody?_quoteTitle_iff t.title (')' :: rest)).mpr h
    have hUnescape : unescape (quoteTitle t.title) = t.title := by
      rw [unescape_eq_resolved (ampersand_not_mem_quoteTitle hTitle), hSame]
    have hSkip : skipSeparator (')' :: rest) = ')' :: rest := skipSeparator_of_head? (by simp)
    rw [writtenTitle_append hNil, titleTail?_title, hRead]
    simp [hSkip, hUnescape, Text.afterPart?]

theorem literal_of_titleTail? {rest : Text} (hTitle : '&' ∉ t.title) (hRest : '&' ∉ rest)
    (h : titleTail? (t.writtenTitle ++ ')' :: rest) = some (t.title, rest)) : Literal (t.title ++ ['"']) := by
  by_cases hNil : t.title = []
  · rw [hNil]
    exact List.isChain_singleton _
  · rw [writtenTitle_append hNil, titleTail?_title] at h
    obtain ⟨⟨raw, after⟩, hRead, hClosed⟩ := Option.bind_eq_some_iff.mp h
    obtain ⟨_, -, hResult⟩ := Option.map_eq_some_iff.mp hClosed
    obtain ⟨hSame, -⟩ := Prod.mk.inj hResult
    have hParts := eq_of_titleBody? hRead
    have hNone : '&' ∉ raw ++ '"' :: after := by
      rw [← hParts]
      simp [ampersand_not_mem_quoteTitle hTitle, hRest]
    rw [unescape_eq_resolved fun hMem => hNone (List.mem_append_left _ hMem)] at hSame
    -- The quotation marks in the title are those in what was read, so it was read to the closing one.
    have hCount : raw.count '"' = (quoteTitle t.title).count '"' := by
      rw [count_quoteTitle, ← hSame, count_resolved (by decide)]
    obtain ⟨rfl, rfl⟩ := append_cons_inj_of_count hParts hCount
    exact (titleBody?_quoteTitle_iff t.title _).mp ⟨hRead, hSame⟩

/-! ### The destination -/

theorem lt_toNat_of_isAsciiControl {c : Char} (h : CharClass.isAsciiControl c = false) (hSpace : c ≠ ' ') :
    0x20 < c.toNat := by
  have hNat : c.toNat ≠ 0x20 := fun hNat => hSpace (Char.toNat_inj.mp hNat)
  simp only [CharClass.isAsciiControl, Bool.or_eq_false_iff, decide_eq_false_iff_not] at h
  omega

theorem forall_of_not_isBracketed (h : t.isBracketed = false)
    (hControl : ∀ c ∈ t.destination, CharClass.isAsciiControl c = false) :
    ∀ c ∈ t.destination, 0x20 < c.toNat ∧ c ∉ ['(', ')'] := by
  intro c hc
  have hPlain := List.any_eq_false.mp h c hc
  simp only [Bool.or_eq_true, decide_eq_true_eq, not_or] at hPlain
  exact ⟨lt_toNat_of_isAsciiControl (hControl c hc) hPlain.1.1, by simp [hPlain]⟩

theorem forall_of_isBracketed (hOpen : '<' ∉ t.destination) (hClose : '>' ∉ t.destination)
    (hControl : ∀ c ∈ t.destination, CharClass.isAsciiControl c = false) :
    ∀ c ∈ t.destination, c ∉ ['>', '<', '\n'] := by
  intro c hc hMem
  simp only [List.mem_cons, List.not_mem_nil, or_false] at hMem
  rcases hMem with rfl | rfl | rfl
  · exact hClose hc
  · exact hOpen hc
  · exact absurd (hControl _ hc) (by decide)

theorem not_mem_separators {c : Char} (h : 0x20 < c.toNat) (hOpen : c ≠ '<') : c ∉ [' ', '\t', '\n', '<'] := by
  intro hMem
  simp only [List.mem_cons, List.not_mem_nil, or_false] at hMem
  rcases hMem with rfl | rfl | rfl | rfl
  · exact absurd h (by decide)
  · exact absurd h (by decide)
  · exact absurd h (by decide)
  · exact hOpen rfl

theorem writtenDestination_of_isBracketed (h : t.isBracketed = true) :
    t.writtenDestination = '<' :: (t.destination ++ ['>']) := if_pos h

theorem writtenDestination_of_not_isBracketed (h : t.isBracketed = false) : t.writtenDestination = t.destination :=
  if_neg (Bool.eq_false_iff.mp h)

theorem delimiter_of_isBracketed (h : t.isBracketed = true) : t.delimiter = '>' := if_pos h

theorem delimiter_ne {c : Char} (h : c ∉ ['>', ')', ' ']) : t.delimiter ≠ c := by
  rintro rfl
  apply h
  unfold delimiter
  split
  · simp
  · split <;> simp

/-- What follows a destination without brackets begins with its delimiter. -/
theorem exists_writtenTitle_append (h : t.isBracketed = false) (rest : Text) :
    ∃ more, t.writtenTitle ++ ')' :: rest = t.delimiter :: more ∧ (t.delimiter = ' ' ∨ t.delimiter = ')') := by
  by_cases hNil : t.title = []
  · exact ⟨rest, by simp [writtenTitle_of_eq_nil hNil, delimiter, h, hNil], by simp [delimiter, h, hNil]⟩
  · refine ⟨'"' :: (quoteTitle t.title ++ '"' :: ')' :: rest), ?_, by simp [delimiter, h, hNil]⟩
    simp [writtenTitle_append hNil, delimiter, h, hNil]

/-- Nothing is skipped before a destination without brackets, and it is read as one. -/
theorem not_mem_of_head? (h : t.isBracketed = false)
    (hControl : ∀ c ∈ t.destination, CharClass.isAsciiControl c = false) (hBare : t.destination.head? ≠ some '<')
    (hPresent : t.title ≠ [] → t.destination ≠ []) (rest : Text) :
    ∀ c ∈ (t.destination ++ (t.writtenTitle ++ ')' :: rest)).head?, c ∉ [' ', '\t', '\n', '<'] := by
  intro c hc
  cases hDestination : t.destination with
  | nil =>
    have hNil : t.title = [] := not_not.mp (mt hPresent (by simp [hDestination]))
    rw [hDestination, writtenTitle_of_eq_nil hNil] at hc
    cases hc
    decide
  | cons d destination =>
    have hFirst := (forall_of_not_isBracketed h hControl d (hDestination ▸ List.mem_cons_self)).1
    rw [hDestination] at hc hBare
    cases hc
    refine not_mem_separators hFirst ?_
    rintro rfl
    exact hBare rfl

theorem destination?_bare (hHead : ∀ c ∈ u.head?, c ∉ [' ', '\t', '\n', '<']) :
    destination? (skipSeparator u) = plainDestination? 0 u := by
  rw [skipSeparator_of_head? (fun c hc hMem => hHead c hc (List.mem_append_left ['<'] hMem)),
    destination?_of_head? (fun hOpen => hHead _ hOpen (by decide))]

theorem destination?_writtenDestination (h : t.ReadsBack)
    (hControl : ∀ c ∈ t.destination, CharClass.isAsciiControl c = false) (rest : Text) :
    let more := t.writtenTitle ++ ')' :: rest
    destination? (skipSeparator (t.writtenDestination ++ more)) = some (t.destination, more) ∧
      resolved t.destination = t.destination := by
  intro more
  have hLiteral := h.destination
  cases hBracketed : t.isBracketed with
  | true =>
    obtain ⟨hOpen, hClose⟩ := h.brackets hBracketed
    have hChars := forall_of_isBracketed hOpen hClose hControl
    rw [delimiter_of_isBracketed hBracketed] at hLiteral
    rw [writtenDestination_of_isBracketed hBracketed, skipSeparator_of_head? (by simp), List.cons_append,
      List.append_assoc]
    exact (scans_angleDestination?.append_iff hChars rfl).mpr hLiteral
  | false =>
    have hChars := forall_of_not_isBracketed hBracketed hControl
    obtain ⟨after, hMore, hDelimiter⟩ := exists_writtenTitle_append hBracketed rest
    have hRead := (scans_plainDestination?.append_iff hChars (plainDestination?_stop hDelimiter after)).mpr hLiteral
    rw [writtenDestination_of_not_isBracketed hBracketed,
      destination?_bare (not_mem_of_head? hBracketed hControl (h.bare hBracketed) h.present rest)]
    rwa [← hMore] at hRead

section
variable {raw after rest : Text} (hSame : resolved raw = t.destination)
include hSame

theorem count_raw {c : Char} (hc : c ≠ '\\') : raw.count c = t.destination.count c := by
  rw [← hSame, count_resolved hc]

theorem length_le_raw : t.destination.length ≤ raw.length := by
  rw [← hSame]
  exact length_resolved_le raw

theorem present_of_destination? (hBracketed : t.isBracketed = false)
    (h : destination? (skipSeparator (t.writtenDestination ++ (t.writtenTitle ++ ')' :: rest))) = some (raw, after)) :
    t.title ≠ [] → t.destination ≠ [] := by
  intro hTitle hNil
  rw [writtenDestination_of_not_isBracketed hBracketed, hNil, writtenTitle_append hTitle] at h
  -- What is read as the destination begins with the quotation mark of the title, so it is not empty.
  have hRead : plainDestination? 0 ('"' :: (quoteTitle t.title ++ '"' :: ')' :: rest)) = some (raw, after) := h
  rw [scans_plainDestination?.plain '"' _ (by decide) fun d _ => keeps_of_ne (by decide) d] at hRead
  obtain ⟨⟨raw, after⟩, -, hResult⟩ := Option.map_eq_some_iff.mp hRead
  cases hResult
  have hCount := count_raw hSame (c := '"') (by decide)
  simp [hNil] at hCount

theorem bare_of_destination? (hBracketed : t.isBracketed = false)
    (h : destination? (skipSeparator (t.writtenDestination ++ (t.writtenTitle ++ ')' :: rest))) = some (raw, after)) :
    t.destination.head? ≠ some '<' := by
  intro hHead
  obtain ⟨destination, hDestination⟩ := List.head?_eq_some_iff.mp hHead
  obtain ⟨more, hMore, -⟩ := exists_writtenTitle_append hBracketed rest
  have hNeOpen : '<' ≠ t.delimiter := (delimiter_ne (by decide)).symm
  rw [writtenDestination_of_not_isBracketed hBracketed, hDestination, hMore, List.cons_append,
    skipSeparator_of_head? (by simp)] at h
  -- It is read as a destination in brackets, which is one character short of it where its delimiter ends it.
  have hParts := eq_of_angleDestination? h
  have hLength := length_le_raw hSame
  have hCount := count_raw hSame (delimiter_ne (t := t) (by decide))
  rw [hDestination, List.length_cons] at hLength
  rw [hDestination, List.count_cons_of_ne hNeOpen] at hCount
  have hRaw := eq_of_count hParts (Nat.le_of_succ_le hLength) hCount
  rw [hRaw] at hLength
  exact absurd hLength (Nat.not_succ_le_self _)

theorem literal_of_destination? (hControl : ∀ c ∈ t.destination, CharClass.isAsciiControl c = false)
    (h : destination? (skipSeparator (t.writtenDestination ++ (t.writtenTitle ++ ')' :: rest))) = some (raw, after)) :
    after = t.writtenTitle ++ ')' :: rest ∧ Literal (t.destination ++ [t.delimiter]) ∧
      (t.isBracketed = true → '<' ∉ t.destination ∧ '>' ∉ t.destination) := by
  cases hBracketed : t.isBracketed with
  | true =>
    rw [writtenDestination_of_isBracketed hBracketed, skipSeparator_of_head? (by simp), List.cons_append,
      List.append_assoc] at h
    have hParts := eq_of_angleDestination? h
    obtain ⟨rfl, rfl⟩ := append_cons_inj_of_count hParts (count_raw hSame (by decide))
    obtain ⟨hOpen, hClose⟩ := not_mem_of_angleDestination? h (resolved_eq_self_iff.mp hSame)
    have hChars := forall_of_isBracketed hOpen hClose hControl
    rw [delimiter_of_isBracketed hBracketed]
    exact ⟨rfl, (scans_angleDestination?.append_iff hChars rfl).mp ⟨h, hSame⟩, fun _ => ⟨hOpen, hClose⟩⟩
  | false =>
    have hChars := forall_of_not_isBracketed hBracketed hControl
    have hHead := not_mem_of_head? hBracketed hControl (bare_of_destination? hSame hBracketed h)
      (present_of_destination? hSame hBracketed h) rest
    obtain ⟨more, hMore, hDelimiter⟩ := exists_writtenTitle_append hBracketed rest
    rw [writtenDestination_of_not_isBracketed hBracketed, destination?_bare hHead, hMore] at h
    have hParts := eq_of_plainDestination? h
    obtain rfl := eq_of_count hParts (length_le_raw hSame) (count_raw hSame (delimiter_ne (by decide)))
    obtain rfl := List.append_cancel_left hParts
    rw [hMore]
    refine ⟨rfl, ?_, nofun⟩
    exact (scans_plainDestination?.append_iff hChars (plainDestination?_stop hDelimiter more)).mp ⟨h, hSame⟩

end

/-! ### All of it -/

theorem not_mem_tail {c : Char} (hc : c ∉ [']', '(', ')', '<', '>', ' ', '"', '\\'])
    (h : c ∉ t.destination ++ t.title) : c ∉ t.tail := by
  obtain ⟨hDestination, hTitle⟩ := not_or.mp (mt List.mem_append.mpr h)
  simp only [List.mem_cons, List.not_mem_nil, or_false, not_or] at hc
  obtain ⟨hBracket, hOpen, hClose, hLess, hGreater, hSpace, hQuote, hSlash⟩ := hc
  have hQuoted : c ∉ quoteTitle t.title := by
    intro hMem
    exact (mem_of_mem_quoteTitle hMem).elim hSlash hTitle
  have hWrittenDestination : c ∉ t.writtenDestination := by
    unfold writtenDestination
    split <;> simp [hDestination, hLess, hGreater]
  have hWrittenTitle : c ∉ t.writtenTitle := by
    by_cases hNil : t.title = []
    · simp [writtenTitle_of_eq_nil hNil]
    · simp [writtenTitle_of_ne_nil hNil, hQuoted, hSpace, hQuote]
  simp [tail, hWrittenDestination, hWrittenTitle, hBracket, hOpen, hClose]

theorem inlineTail?_of_readsBack (h : t.ReadsBack) (hControl : ∀ c ∈ t.destination, CharClass.isAsciiControl c = false)
    (hReference : '&' ∉ t.destination ++ t.title) (rest : Text) :
    inlineTail? ('(' :: (t.writtenDestination ++ t.writtenTitle ++ [')']) ++ rest) =
      some ((t.destination, t.title), rest) := by
  obtain ⟨hDestination, hTitle⟩ := not_or.mp (mt List.mem_append.mpr hReference)
  obtain ⟨hRead, hSame⟩ := destination?_writtenDestination h hControl rest
  have hUnescape : unescape t.destination = t.destination := by rw [unescape_eq_resolved hDestination, hSame]
  rw [List.cons_append, inlineTail?_eq_some_iff]
  refine ⟨t.destination, _, ?_, hUnescape, titleTail?_writtenTitle h.title hTitle rest⟩
  simpa using hRead

theorem readsBack_of_inlineTail? (hControl : ∀ c ∈ t.destination, CharClass.isAsciiControl c = false)
    (hReference : '&' ∉ t.destination ++ t.title)
    (h : inlineTail? ('(' :: (t.writtenDestination ++ t.writtenTitle ++ [')'])) =
      some ((t.destination, t.title), [])) : t.ReadsBack := by
  obtain ⟨hDestination, hTitle⟩ := not_or.mp (mt List.mem_append.mpr hReference)
  obtain ⟨raw, after, hRead, hUnescape, hTail⟩ := inlineTail?_eq_some_iff.mp h
  rw [List.append_assoc] at hRead
  have hRaw : '&' ∉ raw := by
    intro hMem
    have hTail : '&' ∉ t.tail := not_mem_tail (by decide) hReference
    have hWritten := mem_of_mem_skipSeparator (mem_of_destination? hRead hMem)
    exact hTail (by simpa [tail] using hWritten)
  rw [unescape_eq_resolved hRaw] at hUnescape
  have hPresent : t.title ≠ [] → t.destination ≠ [] := by
    cases hBracketed : t.isBracketed with
    | true =>
      rintro - hNil
      simp [isBracketed, hNil] at hBracketed
    | false => exact present_of_destination? hUnescape hBracketed hRead
  obtain ⟨rfl, hLiteral, hBrackets⟩ := literal_of_destination? hUnescape hControl hRead
  exact {
    brackets := hBrackets
    bare := fun hBracketed => bare_of_destination? hUnescape hBracketed hRead
    present := hPresent
    destination := hLiteral
    title := literal_of_titleTail? hTitle List.not_mem_nil hTail }

theorem extends_write {s : Span} (h : s = .link t ∨ s = .image t) (hBare : s.bareText? = none) (hLine : '\n' ∉ t.tail)
    (children : List Inline) (d : Draft) :
    (Inline.writeAll children [] (d.push s.opening)).Extends t.tail ((Inline.span s children).write d) := by
  have hClosing : s.closing = t.tail := by rcases h with rfl | rfl <;> rfl
  rw [Inline.write, hBare]
  dsimp only
  rw [hClosing]
  exact Draft.Extends.pushText _ hLine

/-- The tail of a link or of an image is read to its closing parenthesis, whatever follows it, and as the target that
was written, just if none of its backslashes is before a character that it can escape, no angle bracket stands in a
destination in brackets or in front of one without, and there is no title without a destination. -/
theorem inlineTail?_tail_iff (hControl : ∀ c ∈ t.destination ++ t.title, CharClass.isAsciiControl c = false)
    (hReference : '&' ∉ t.destination ++ t.title) :
    ∃ tail, t.tail = ']' :: tail ∧
      (∀ s : Span, s = .link t ∨ s = .image t → s.bareText? = none → ∀ (children : List Inline) (d : Draft),
        (Inline.writeAll children [] (d.push s.opening)).Extends t.tail ((Inline.span s children).write d)) ∧
      (inlineTail? tail = some ((t.destination, t.title), []) ↔ t.ReadsBack) ∧
      (t.ReadsBack → ∀ rest, inlineTail? (tail ++ rest) = some ((t.destination, t.title), rest) ∧
        ∀ definitions b label,
          target? definitions b label (tail ++ rest) = some (⟨.inline, t.destination, t.title⟩, rest)) := by
  have hDestination : ∀ c ∈ t.destination, CharClass.isAsciiControl c = false :=
    fun c hc => hControl c (List.mem_append_left _ hc)
  have hRead (h : t.ReadsBack) (rest : Text) := inlineTail?_of_readsBack h hDestination hReference rest
  have hLine : '\n' ∉ t.tail := by
    apply not_mem_tail (by decide)
    intro hMem
    exact absurd (hControl _ hMem) (by decide)
  refine ⟨_, rfl, fun s hs hBare => extends_write hs hBare hLine, ?_, ?_⟩
  · constructor
    · exact readsBack_of_inlineTail? hDestination hReference
    · intro h
      simpa using hRead h []
  · intro h rest
    refine ⟨hRead h rest, fun definitions b label => ?_⟩
    rw [target?, hRead h rest]

theorem inlineTail?_tail_quotedTitle :
    let t : Target := ⟨.inline, "a (b)\\c".toList, "say \"hi\"".toList⟩
    (∀ c ∈ t.destination ++ t.title, CharClass.isAsciiControl c = false) ∧ '&' ∉ t.destination ++ t.title ∧
    t.ReadsBack ∧ ∃ tail, t.tail = ']' :: tail ∧ inlineTail? tail = some ((t.destination, t.title), []) := by
  intro t
  have hControl : ∀ c ∈ t.destination ++ t.title, CharClass.isAsciiControl c = false :=
    List.all_iff_forall_prop.mp (by decide)
  have hReference : '&' ∉ t.destination ++ t.title := by decide
  have hReadsBack : t.ReadsBack := ⟨by decide, by decide, by decide, by decide, by decide⟩
  obtain ⟨tail, hTail, -, hRead, -⟩ := inlineTail?_tail_iff hControl hReference
  exact ⟨hControl, hReference, hReadsBack, tail, hTail, hRead.mpr hReadsBack⟩

/-- A title without a destination is read as the destination. -/
theorem not_inlineTail?_tail : ¬ ∀ t : Target,
    (∀ c ∈ t.destination ++ t.title, CharClass.isAsciiControl c = false) → '&' ∉ t.destination ++ t.title →
    ∀ tail, t.tail = ']' :: tail → inlineTail? tail = some ((t.destination, t.title), []) := by
  intro h
  have hControl : ∀ c ∈ ['t'], CharClass.isAsciiControl c = false := List.all_iff_forall_prop.mp (by decide)
  have hRead := h ⟨.inline, [], ['t']⟩ hControl (by decide) _ rfl
  exact (readsBack_of_inlineTail? (t := ⟨.inline, [], ['t']⟩) nofun (by decide) hRead).present nofun rfl

end Target

end MarkdownLists
