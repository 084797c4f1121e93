import MarkdownLists.Markdown.LinkSyntax
import MarkdownLists.Proofs.Markdown.Escape

/-! # Reading destinations and titles

The readers of the parts of a link go over escaped characters and over plain ones, up to a character that ends the
part. What they have read and what they leave is the text again.
-/

namespace MarkdownLists.Markdown
set_option autoImplicit false

variable {c d y : Char} {t u raw after rest : Text}

/-! ## Scanning over escapes -/

/-- The reader goes over escaped characters, and over those of `p` when they do not escape the next one. -/
structure Scans (read : Text → Option (Text × Text)) (p : Char → Prop) : Prop where
  escaped : ∀ d rest, CharClass.isAsciiPunctuation d = true →
    read ('\\' :: d :: rest) = (read rest).map fun (t, after) => ('\\' :: d :: t, after)
  plain : ∀ c rest, p c → (∀ d ∈ rest.head?, Keeps c d) →
    read (c :: rest) = (read rest).map fun (t, after) => (c :: t, after)

theorem map_append_eq_some_iff {r : Option (Text × Text)} (front : Text) :
    (r.map fun (t, after) => (front ++ t, after)) = some (front ++ t, after) ↔ r = some (t, after) := by
  simp [Option.map_eq_some_iff]

/-- A character that keeps the next one of a text, but not the one after it, is a backslash at the end. -/
theorem eq_nil_of_not_keeps (hText : ∀ d ∈ t.head?, Keeps c d) (h : ¬ ∀ d ∈ (t ++ [y]).head?, Keeps c d) :
    t = [] ∧ c = '\\' ∧ CharClass.isAsciiPunctuation y = true := by
  cases t with
  | nil => simpa [Keeps] using h
  | cons d t => exact absurd hText h

/-- A text up to a character that ends it is read as it stands just if no backslash in it escapes anything, not even
the character at its end. -/
theorem Scans.append_iff {read : Text → Option (Text × Text)} {p : Char → Prop} (h : Scans read p)
    (ht : ∀ c ∈ t, p c) (hEnd : read (y :: rest) = some ([], after)) :
    read (t ++ y :: rest) = some (t, after) ∧ resolved t = t ↔ Literal (t ++ [y]) := by
  induction t using escapeInduction with
  | nil => exact iff_of_true ⟨hEnd, rfl⟩ (List.isChain_singleton y)
  | escaped d t hd ih =>
    refine iff_of_false ?_ (not_literal_escaped hd (t ++ [y]))
    rintro ⟨-, hSame⟩
    exact not_literal_escaped hd t (resolved_eq_self_iff.mp hSame)
  | plain c t hc ih =>
    obtain ⟨hFirst, hRest⟩ := List.forall_mem_cons.mp ht
    by_cases hNext : ∀ d ∈ (t ++ [y]).head?, Keeps c d
    · have hNext' : ∀ d ∈ (t ++ y :: rest).head?, Keeps c d := by simpa [List.head?_append] using hNext
      rw [List.cons_append, List.cons_append, h.plain c _ hFirst hNext', literal_cons_iff, and_iff_right hNext,
        ← ih hRest, resolved_cons hc, List.cons.injEq, and_iff_right rfl]
      exact and_congr_left' (map_append_eq_some_iff [c])
    · obtain ⟨rfl, rfl, hy⟩ := eq_nil_of_not_keeps hc hNext
      refine iff_of_false ?_ (not_literal_escaped hy [])
      rw [List.cons_append, List.nil_append, h.escaped y rest hy]
      simp [Option.map_eq_some_iff]

theorem append_eq_of_map {r : Option (Text × Text)} {rest closing : Text} (front : Text)
    (ih : ∀ {t : Text}, r = some (t, after) → rest = t ++ closing)
    (h : (r.map fun (t, after) => (front ++ t, after)) = some (raw, after)) : front ++ rest = raw ++ closing := by
  obtain ⟨⟨t, after'⟩, rfl, hResult⟩ := Option.map_eq_some_iff.mp h
  cases hResult
  rw [ih rfl, List.append_assoc]

/-- Two texts that end at the same character are equal if they hold it equally often. -/
theorem append_cons_inj_of_count {t' u' : Text} (h : t ++ c :: u = t' ++ c :: u') (hCount : t'.count c = t.count c) :
    t' = t ∧ u' = u := by
  rcases List.append_eq_append_iff.mp h with ⟨more, rfl, hMore⟩ | ⟨more, rfl, hMore⟩
  all_goals
    cases more with
    | nil => exact ⟨by simp, by simpa [eq_comm] using hMore⟩
    | cons d more =>
      obtain ⟨rfl, -⟩ := List.cons.inj hMore
      simp at hCount

/-- The same for a text that is longer, up to a character that it would hold once more. -/
theorem eq_of_count {t' u' : Text} (h : t ++ c :: u = t' ++ u') (hLength : t.length ≤ t'.length)
    (hCount : t'.count c = t.count c) : t' = t := by
  rcases List.append_eq_append_iff.mp h with ⟨more, rfl, hMore⟩ | ⟨more, rfl, -⟩
  · cases more with
    | nil => rw [List.append_nil]
    | cons d more =>
      obtain ⟨rfl, -⟩ := List.cons.inj hMore
      simp at hCount
  · obtain rfl : more = [] := by
      rw [← List.length_eq_zero_iff]
      rw [List.length_append] at hLength
      omega
    rw [List.append_nil]

/-! ## Destinations -/

theorem scans_angleDestination? : Scans angleDestination? (· ∉ ['>', '<', '\n']) where
  escaped d rest hd := by rw [angleDestination?, if_pos hd]
  plain c rest hc h := by
    simp only [List.mem_cons, List.not_mem_nil, or_false, not_or] at hc
    by_cases hSlash : c = '\\'
    · subst hSlash
      cases rest with
      | nil => rfl
      | cons d rest => rw [angleDestination?, if_neg (by simp [h d rfl rfl])]
    · rw [angleDestination?]
      · exact hc.1
      · exact hc.2.1
      · exact hc.2.2
      · rintro d rest hc -
        exact hSlash hc

theorem eq_of_angleDestination? (h : angleDestination? t = some (raw, after)) : t = raw ++ '>' :: after := by
  fun_induction angleDestination? t generalizing raw with
  | case1 | case3 | case4 => cases h
  | case2 =>
    cases h
    rfl
  | case5 d rest _ ih => exact append_eq_of_map ['\\', d] ih h
  | case6 d rest _ ih => exact append_eq_of_map ['\\'] ih h
  | case7 c rest _ _ _ _ ih => exact append_eq_of_map [c] ih h

theorem not_mem_of_angleDestination? (h : angleDestination? t = some (raw, after)) (hRaw : Literal raw) :
    '<' ∉ raw ∧ '>' ∉ raw := by
  fun_induction angleDestination? t generalizing raw with
  | case1 | case3 | case4 => cases h
  | case2 =>
    cases h
    exact ⟨nofun, nofun⟩
  | case5 d rest hd ih =>
    obtain ⟨⟨t, after'⟩, hRead, hResult⟩ := Option.map_eq_some_iff.mp h
    cases hResult
    exact absurd hRaw (not_literal_escaped hd t)
  | case6 d rest _ ih =>
    obtain ⟨⟨t, after'⟩, hRead, hResult⟩ := Option.map_eq_some_iff.mp h
    cases hResult
    simpa using ih hRead (literal_cons_iff.mp hRaw).2
  | case7 c rest hClose hOpen _ _ ih =>
    obtain ⟨⟨t, after'⟩, hRead, hResult⟩ := Option.map_eq_some_iff.mp h
    cases hResult
    have hRest := ih hRead (literal_cons_iff.mp hRaw).2
    simp [hRest, Ne.symm hClose, Ne.symm hOpen]

theorem scans_plainDestination? : Scans (plainDestination? 0) (fun c => 0x20 < c.toNat ∧ c ∉ ['(', ')']) where
  escaped d rest hd := by
    rw [plainDestination?.eq_def]
    simp [hd]
  plain c rest hc h := by
    obtain ⟨hSpace, hParen⟩ := hc
    simp only [List.mem_cons, List.not_mem_nil, or_false, not_or] at hParen
    rw [plainDestination?.eq_def]
    dsimp only
    rw [if_neg (Nat.not_le.mpr hSpace), if_neg hParen.1, if_neg hParen.2]
    split
    · rename_i hSlash
      cases rest with
      | nil => rfl
      | cons d rest => exact if_neg (by simp [h d rfl hSlash])
    · rfl

theorem eq_of_plainDestination? {depth : Nat} (h : plainDestination? depth t = some (raw, after)) :
    t = raw ++ after := by
  fun_induction plainDestination? depth t generalizing raw with
  | case1 | case3 | case6 | case10 =>
    cases h
    rfl
  | case2 | case4 | case11 => cases h
  | case5 _ _ _ ih => exact append_eq_of_map ['('] ih h
  | case7 _ _ _ _ ih => exact append_eq_of_map [')'] ih h
  | case8 _ d _ _ _ _ _ ih => exact append_eq_of_map ['\\', d] ih h
  | case9 _ _ _ _ _ _ _ ih => exact append_eq_of_map ['\\'] ih h
  | case12 _ c _ _ _ _ _ ih => exact append_eq_of_map [c] ih h

theorem destination?_of_head? (h : u.head? ≠ some '<') : destination? u = plainDestination? 0 u := by
  unfold destination?
  split
  · exact absurd rfl h
  · rfl

theorem plainDestination?_stop (h : c = ' ' ∨ c = ')') (rest : Text) :
    plainDestination? 0 (c :: rest) = some ([], c :: rest) := by
  rw [plainDestination?.eq_def]
  rcases h with rfl | rfl <;> simp

/-! ## Titles -/

theorem scans_titleBody? : Scans (titleBody? '"') (· ≠ '"') where
  escaped d rest hd := by
    rw [titleBody?.eq_def]
    simp [hd]
  plain c rest hc h := by
    rw [titleBody?.eq_def]
    dsimp only
    rw [if_neg hc, if_neg (by simp)]
    split
    · rename_i hSlash
      cases rest with
      | nil => rfl
      | cons d rest => exact if_neg (by simp [h d rfl hSlash])
    · rfl

theorem eq_of_titleBody? {close : Char} (h : titleBody? close t = some (raw, after)) : t = raw ++ close :: after := by
  fun_induction titleBody? close t generalizing raw with
  | case1 | case3 | case6 => cases h
  | case2 =>
    cases h
    rfl
  | case4 d _ _ _ _ ih => exact append_eq_of_map ['\\', d] ih h
  | case5 _ _ _ _ _ ih => exact append_eq_of_map ['\\'] ih h
  | case7 c _ _ _ _ ih => exact append_eq_of_map [c] ih h

theorem titleBody?_close (rest : Text) : titleBody? '"' ('"' :: rest) = some ([], rest) := by
  rw [titleBody?.eq_def]
  exact if_pos rfl

/-! ## The tail of a link -/

/-- The rest of a link tail after its destination: the title, if there is one, and the closing parenthesis. -/
def titleTail? (t : Text) : Option (Text × Text) :=
  let separated := skipSeparator t
  match if separated.length = t.length then none else title? separated with
  | some (title, after) => (Text.afterPart? [')'] (skipSeparator after)).map fun rest => (unescape title, rest)
  | none => (Text.afterPart? [')'] separated).map fun rest => ([], rest)

theorem inlineTail?_eq_some_iff {destination title : Text} :
    inlineTail? ('(' :: t) = some ((destination, title), rest) ↔
      ∃ raw after, destination? (skipSeparator t) = some (raw, after) ∧ unescape raw = destination ∧
        titleTail? after = some (title, rest) := by
  have hOpen : Text.afterPart? ['('] ('(' :: t) = some t := Text.afterPart?_eq_some_iff.mpr rfl
  cases hDestination : destination? (skipSeparator t) with
  | none => simp [inlineTail?, hOpen, hDestination]
  | some read =>
    obtain ⟨raw, after⟩ := read
    cases hTitle : if (skipSeparator after).length = after.length then none else title? (skipSeparator after) with
    | none | some _ =>
      simpa [inlineTail?, titleTail?, hOpen, hDestination, hTitle, Option.map_eq_some_iff, Option.bind_eq_some_iff]
        using and_left_comm

theorem skipSeparator_of_head? (h : ∀ c ∈ t.head?, c ∉ [' ', '\t', '\n']) : skipSeparator t = t := by
  have hSkip : skipBlanks t = t := by
    refine Text.dropWhile_of_head fun c hc => ?_
    have hOther := h c hc
    simp only [List.mem_cons, List.not_mem_nil, or_false, not_or] at hOther
    simp [CharClass.isBlank, hOther]
  rw [skipSeparator, hSkip]
  split
  · exact absurd (by decide) (h '\n' rfl)
  · rfl

theorem mem_of_mem_skipSeparator (h : c ∈ skipSeparator t) : c ∈ t := by
  have hBlanks {u : Text} (hMem : c ∈ skipBlanks u) : c ∈ u := (List.dropWhile_suffix _).subset hMem
  unfold skipSeparator at h
  split at h
  · rename_i rest hLine
    exact hBlanks (hLine ▸ List.mem_cons_of_mem _ (hBlanks h))
  · exact hBlanks h

theorem mem_of_destination? (h : destination? t = some (raw, after)) (hMem : c ∈ raw) : c ∈ t := by
  unfold destination? at h
  split at h
  · rw [eq_of_angleDestination? h]
    exact List.mem_cons_of_mem _ (List.mem_append_left _ hMem)
  · rw [eq_of_plainDestination? h]
    exact List.mem_append_left _ hMem

theorem titleTail?_paren (rest : Text) : titleTail? (')' :: rest) = some ([], rest) := by
  have hSkip : skipSeparator (')' :: rest) = ')' :: rest := skipSeparator_of_head? (by simp)
  simp [titleTail?, hSkip, Text.afterPart?]

theorem titleTail?_title (t : Text) : titleTail? (' ' :: '"' :: t) =
    (titleBody? '"' t).bind fun (title, after) =>
      (Text.afterPart? [')'] (skipSeparator after)).map fun rest => (unescape title, rest) := by
  have hSkip : skipSeparator (' ' :: '"' :: t) = '"' :: t := rfl
  have hTitle : title? ('"' :: t) = titleBody? '"' t := rfl
  cases hRead : titleBody? '"' t <;> simp [titleTail?, hSkip, hTitle, hRead, Text.afterPart?]

end MarkdownLists.Markdown
