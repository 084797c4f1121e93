import MarkdownLists.Text.Region

/-! # Splitting and joining lines

Cutting a text into lines and joining them again are inverse to each other. Texts that are joined by line
feeds are cut into the lines of each of them, with an empty line for every line feed beyond the first.
-/

namespace MarkdownLists
set_option autoImplicit false

namespace Text

variable {α β : Type}

theorem intercalate_nil_left (xs : List (List α)) : [].intercalate xs = xs.flatten := by
  induction xs with
  | nil => rfl
  | cons x rest ih =>
    cases rest with
    | nil => simp
    | cons y rest => rw [List.intercalate_cons_cons, ih, List.append_nil, ← List.flatten_cons]

/-- What respects concatenation can be applied to the parts of a joined list. -/
theorem apply_intercalate {φ : List α → List β} (hNil : φ [] = [])
    (hAppend : ∀ xs ys, φ (xs ++ ys) = φ xs ++ φ ys) (separator : List α) (xs : List (List α)) :
    φ (separator.intercalate xs) = (φ separator).intercalate (xs.map φ) := by
  induction xs with
  | nil => exact hNil
  | cons x rest ih =>
    cases rest with
    | nil => simp
    | cons y rest =>
      rw [List.intercalate_cons_cons, hAppend, hAppend, ih]
      simp only [List.map_cons, List.intercalate_cons_cons]

theorem mem_of_mem_intercalate {a : α} {separator : List α} {xs : List (List α)}
    (h : a ∈ separator.intercalate xs) : a ∈ separator ∨ ∃ x ∈ xs, a ∈ x := by
  induction xs with
  | nil => simp at h
  | cons x rest ih =>
    cases rest with
    | nil => exact .inr ⟨x, List.mem_cons_self, by simpa using h⟩
    | cons y rest =>
      rw [List.intercalate_cons_cons, List.append_assoc, List.mem_append, List.mem_append] at h
      rcases h with hx | hSeparator | hRest
      · exact .inr ⟨x, List.mem_cons_self, hx⟩
      · exact .inl hSeparator
      · exact (ih hRest).imp_right fun ⟨z, hz, ha⟩ => ⟨z, List.mem_cons_of_mem _ hz, ha⟩

theorem head?_intercalate {separator x : List α} (h : x ≠ []) (xs : List (List α)) :
    (separator.intercalate (x :: xs)).head? = x.head? := by
  cases xs with
  | nil => rw [List.intercalate_singleton]
  | cons y rest =>
    obtain ⟨a, x, rfl⟩ := List.exists_cons_of_ne_nil h
    rw [List.intercalate_cons_cons, List.append_assoc, List.cons_append, List.head?_cons, List.head?_cons]

theorem intercalate_singleton_cons (a : α) (x : List α) {xs : List (List α)} (h : xs ≠ []) :
    [a].intercalate (x :: xs) = x ++ a :: [a].intercalate xs := by
  obtain ⟨y, rest, rfl⟩ := List.exists_cons_of_ne_nil h
  rw [List.intercalate_cons_cons, List.append_assoc, List.singleton_append]

theorem takeWhile_append_of_head {p : α → Bool} {part rest : List α} (hPart : ∀ a ∈ part, p a = true)
    (hRest : ∀ a ∈ rest.head?, p a = false) : (part ++ rest).takeWhile p = part := by
  rw [List.takeWhile_append_of_pos hPart]
  cases rest with
  | nil => exact List.append_nil part
  | cons a rest => rw [List.takeWhile_cons, hRest a rfl, if_neg Bool.false_ne_true, List.append_nil]

theorem dropWhile_append_of_head {p : α → Bool} {part rest : List α} (hPart : ∀ a ∈ part, p a = true)
    (hRest : ∀ a ∈ rest.head?, p a = false) : (part ++ rest).dropWhile p = rest := by
  rw [List.dropWhile_append_of_pos hPart]
  cases rest with
  | nil => rfl
  | cons a rest => rw [List.dropWhile_cons, hRest a rfl, if_neg Bool.false_ne_true]

theorem dropWhile_of_head {p : α → Bool} {xs : List α} (h : ∀ a ∈ xs.head?, p a = false) : xs.dropWhile p = xs :=
  dropWhile_append_of_head (List.forall_mem_nil _) h

theorem takeWhile_replicate_append [DecidableEq α] {a : α} {rest : List α} (h : rest.head? ≠ some a) (n : Nat) :
    (List.replicate n a ++ rest).takeWhile (· = a) = List.replicate n a :=
  takeWhile_append_of_head (fun _ hb => decide_eq_true (List.eq_of_mem_replicate hb))
    fun _ hb => decide_eq_false fun hSame => h (hSame ▸ hb)

theorem dropWhile_replicate_append [DecidableEq α] {a : α} {rest : List α} (h : rest.head? ≠ some a) (n : Nat) :
    (List.replicate n a ++ rest).dropWhile (· = a) = rest :=
  dropWhile_append_of_head (fun _ hb => decide_eq_true (List.eq_of_mem_replicate hb))
    fun _ hb => decide_eq_false fun hSame => h (hSame ▸ hb)

theorem trimEnd_of_getLast? {p : Char → Bool} {t : Text} (h : ∀ c ∈ t.getLast?, p c = false) : trimEnd p t = t := by
  have hDrop : t.reverse.dropWhile p = t.reverse := dropWhile_of_head (by simpa [List.head?_reverse] using h)
  rw [trimEnd, hDrop, List.reverse_reverse]

theorem trimEnd_concat {p : Char → Bool} {c : Char} (h : p c = true) (t : Text) :
    trimEnd p (t ++ [c]) = trimEnd p t := by
  simp [trimEnd, h]

theorem trim_of_ends {p : Char → Bool} {t : Text} (hHead : ∀ c ∈ t.head?, p c = false)
    (hLast : ∀ c ∈ t.getLast?, p c = false) : trim p t = t := by
  rw [trim, dropWhile_of_head hHead, trimEnd_of_getLast? hLast]

theorem not_mem_of_holds {p : α → Bool} {a : α} {xs : List α} (ha : p a = true) (hNone : ∀ b ∈ xs, p b = false) :
    a ∉ xs := by
  intro hMem
  rw [hNone a hMem] at ha
  cases ha

theorem splitLines_eq_splitOn (t : Text) : t.splitLines = t.splitOn '\n' := by
  induction t with
  | nil => rfl
  | cons c rest ih =>
    rw [splitLines, ih, List.splitOn_cons_eq_if_modifyHead]
    by_cases h : c = '\n'
    · simp [h]
    · obtain ⟨line, lines, hLines⟩ := List.exists_cons_of_ne_nil (List.splitOn_ne_nil '\n' rest)
      simp [h, hLines]

@[simp] theorem splitLines_nil : splitLines [] = [[]] := rfl

theorem splitLines_append_newline (t u : Text) :
    splitLines (t ++ '\n' :: u) = t.splitLines ++ u.splitLines := by
  simp only [splitLines_eq_splitOn, List.splitOn_append_cons_self]

@[simp] theorem joinLines_splitLines (t : Text) : joinLines t.splitLines = t := by
  rw [splitLines_eq_splitOn, joinLines, List.intercalate_splitOn]

theorem not_mem_of_mem_splitLines {t line : Text} (h : line ∈ t.splitLines) : '\n' ∉ line := by
  induction t generalizing line with
  | nil => simp_all
  | cons c rest ih =>
    rw [splitLines] at h
    obtain ⟨first, lines, hLines⟩ := List.exists_cons_of_ne_nil (splitLines_ne_nil rest)
    rw [hLines] at h ih
    split at h
    · rcases List.mem_cons.mp h with rfl | h
      · simp
      · exact ih h
    · rename_i hc
      rcases List.mem_cons.mp h with rfl | h
      · simpa [Ne.symm hc] using ih List.mem_cons_self
      · exact ih (List.mem_cons_of_mem _ h)

theorem splitLines_of_not_mem {t : Text} (h : '\n' ∉ t) : t.splitLines = [t] := by
  rw [splitLines_eq_splitOn, List.splitOn_eq_singleton h]

theorem splitLines_eq_singleton_nil_iff {t : Text} : t.splitLines = [[]] ↔ t = [] := by
  constructor
  · intro h
    rw [← joinLines_splitLines t, h]
    rfl
  · rintro rfl
    rfl

theorem splitLines_append {part t line : Text} {rest : List Text} (h : '\n' ∉ part)
    (hLines : t.splitLines = line :: rest) : splitLines (part ++ t) = (part ++ line) :: rest := by
  induction part with
  | nil => exact hLines
  | cons c part ih =>
    obtain ⟨hc, hPart⟩ := not_or.mp (mt List.mem_cons.mpr h)
    rw [List.cons_append, splitLines, if_neg (Ne.symm hc), ih hPart]
    rfl

/-- Line feeds between texts leave the lines of the texts as they are. Each one but the first puts an
empty line between them. -/
theorem splitLines_intercalate (n : Nat) {ts : List Text} (h : ts ≠ []) :
    splitLines ((List.replicate (n + 1) '\n').intercalate ts) =
      (List.replicate n []).intercalate (ts.map splitLines) := by
  have hSeparator (t u : Text) : splitLines (t ++ List.replicate (n + 1) '\n' ++ u) =
      t.splitLines ++ List.replicate n [] ++ u.splitLines := by
    rw [List.append_assoc, List.replicate_succ, List.cons_append, splitLines_append_newline,
      List.append_assoc]
    congr 1
    induction n with
    | zero => rfl
    | succ n ih => simp [List.replicate_succ, splitLines, ih]
  induction ts with
  | nil => exact absurd rfl h
  | cons t rest ih =>
    cases rest with
    | nil => simp
    | cons u rest =>
      rw [List.intercalate_cons_cons, hSeparator, ih (by simp)]
      simp only [List.map_cons, List.intercalate_cons_cons]

theorem splitLines_joinLines {ts : List Text} (h : ts ≠ []) :
    splitLines (joinLines ts) = ts.flatMap splitLines := by
  calc splitLines (joinLines ts)
      = [].intercalate (ts.map splitLines) := splitLines_intercalate 0 h
    _ = ts.flatMap splitLines := by rw [intercalate_nil_left, List.flatMap_def]

theorem splitLines_joinLines_of_not_mem {lines : List Text} (h : lines ≠ [])
    (hLines : ∀ line ∈ lines, '\n' ∉ line) : splitLines (joinLines lines) = lines := by
  rw [splitLines_eq_splitOn, joinLines, List.splitOn_intercalate _ hLines h]

end Text

theorem Line.isBlank_eq_isEmpty (l : Line) : l.isBlank = l.text.isEmpty := by
  rw [Bool.eq_iff_iff, isBlank_iff, List.isEmpty_iff]

namespace Region

theorem map_text_ofText (t : Text) : (ofText t).lines.map Line.text = t.splitLines := by
  simp [Function.comp_def]

@[simp] theorem text_ofText (t : Text) : (ofText t).text = t := by
  simp [text, Function.comp_def]

/-- The lines of the written text, in which the lines of a region that hold line feeds count as several. -/
theorem splitLines_text {r : Region} (h : r.lines ≠ []) :
    r.text.splitLines = r.lines.flatMap fun l => l.text.splitLines := by
  rw [text, Text.splitLines_joinLines (by simpa using h), List.flatMap_map]

theorem splitLines_text_of_not_mem {r : Region} (h : r.lines ≠ []) (hLines : ∀ l ∈ r.lines, '\n' ∉ l.text) :
    r.text.splitLines = r.lines.map Line.text := by
  apply Text.splitLines_joinLines_of_not_mem (mt List.map_eq_nil_iff.mp h)
  exact List.forall_mem_map.mpr hLines

end Region

end MarkdownLists
