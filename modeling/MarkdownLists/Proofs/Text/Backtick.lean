import MarkdownLists.Proofs.Text.Lines
import MarkdownLists.Writer.Fence

/-! # Runs of backticks

A run ends at the first other character, whatever follows there. While a text is read, one counter is the number of
backticks at the end of what has been read, and the other the greatest number of them that stand in a row anywhere
in it. No part of a text, such as one of its lines, has a longer run than the text.
-/

namespace MarkdownLists
set_option autoImplicit false

namespace Text

theorem replicate_suffix_concat_iff {α : Type} {a b : α} {n : Nat} {xs : List α} :
    List.replicate (n + 1) a <:+ xs ++ [b] ↔ b = a ∧ List.replicate n a <:+ xs := by
  rw [List.replicate_succ', ← List.reverse_prefix, List.reverse_append, List.reverse_append, List.reverse_singleton,
    List.reverse_singleton, List.singleton_append, List.singleton_append, List.cons_prefix_cons, List.reverse_prefix,
    eq_comm]

end Text

namespace BacktickCount

variable {n : BacktickCount} {t : Text}

/-- The counters tell how many backticks in a row the text ends in, and how many it holds. -/
structure Counts (n : BacktickCount) (t : Text) : Prop where
  current : ∀ k, List.replicate k backtick <:+ t ↔ k ≤ n.current
  longest : ∀ k, List.replicate k backtick <:+: t ↔ k ≤ n.longest

theorem counts_start : start.Counts [] where
  current k := by rw [List.suffix_nil, List.replicate_eq_nil_iff]; exact Nat.le_zero.symm
  longest k := by rw [List.infix_nil, List.replicate_eq_nil_iff]; exact Nat.le_zero.symm

theorem Counts.read (h : n.Counts t) (c : Char) : (n.read c).Counts (t ++ [c]) := by
  have hCurrent (k : Nat) : List.replicate k backtick <:+ t ++ [c] ↔ k ≤ (n.read c).current := by
    cases k with
    | zero => exact iff_of_true List.nil_suffix (Nat.zero_le _)
    | succ k =>
      rw [Text.replicate_suffix_concat_iff, h.current, BacktickCount.read]
      by_cases hc : c = backtick
      · rw [if_pos hc, and_iff_right hc, Nat.add_le_add_iff_right]
      · rw [if_neg hc]
        exact iff_of_false (fun hBoth => hc hBoth.1) (Nat.not_succ_le_zero k)
  refine ⟨hCurrent, ?_⟩
  -- What stands in a row in the longer text either ends with it or was there before.
  intro k
  rw [List.infix_concat_iff, hCurrent, h.longest, BacktickCount.read]
  split <;> dsimp only <;> omega

theorem Counts.foldl {before : Text} (h : n.Counts before) (t : Text) :
    (t.foldl BacktickCount.read n).Counts (before ++ t) := by
  induction t generalizing n before with
  | nil => rwa [List.append_nil]
  | cons c t ih =>
    have hNext := ih (h.read c)
    rwa [List.append_assoc, List.singleton_append] at hNext

end BacktickCount

namespace Text

variable {c : Char} {part t u : Text}

theorem backtickRun_eq (t : Text) : backtickRun t = (t.takeWhile (· = backtick)).length := by
  induction t with
  | nil => rfl
  | cons c t ih =>
    rw [backtickRun, List.takeWhile_cons, ih]
    by_cases h : c = backtick <;> simp [h]

theorem backtickRun_replicate_append (n : Nat) (h : t.head? ≠ some backtick) :
    backtickRun (List.replicate n backtick ++ t) = n := by
  rw [backtickRun_eq, takeWhile_replicate_append h, List.length_replicate]

theorem backtickRun_append (h : t ≠ []) (hLast : t.getLast? ≠ some backtick) (u : Text) :
    backtickRun (t ++ u) = backtickRun t := by
  induction t with
  | nil => exact absurd rfl h
  | cons c t ih =>
    rw [List.cons_append, backtickRun, backtickRun]
    cases t with
    | nil =>
      have hc : c ≠ backtick := fun hc => hLast (congrArg some hc)
      rw [if_neg hc, if_neg hc]
    | cons d t =>
      rw [List.getLast?_cons_cons] at hLast
      rw [ih (List.cons_ne_nil d t) hLast]

theorem prefix_replicate_backtickRun (t : Text) : List.replicate (backtickRun t) backtick <+: t := by
  induction t with
  | nil => exact List.nil_prefix
  | cons c t ih =>
    rw [backtickRun]
    split
    · rename_i hc
      rw [List.replicate_succ, List.cons_prefix_cons]
      exact ⟨hc.symm, ih⟩
    · exact List.nil_prefix

theorem replicate_infix_iff (t : Text) (k : Nat) :
    List.replicate k backtick <:+: t ↔ k ≤ t.longestBacktickRun := by
  have hCounts := BacktickCount.counts_start.foldl t
  exact hCounts.longest k

theorem longestBacktickRun_le_of_infix (h : part <:+: t) : longestBacktickRun part ≤ longestBacktickRun t := by
  have hPart := (replicate_infix_iff part (longestBacktickRun part)).mpr (Nat.le_refl _)
  exact (replicate_infix_iff t _).mp (hPart.trans h)

theorem backtickRun_le_longest (t : Text) : t.backtickRun ≤ t.longestBacktickRun :=
  (replicate_infix_iff t _).mp (prefix_replicate_backtickRun t).isInfix

theorem longestBacktickRun_cons_of_ne (h : c ≠ backtick) (t : Text) :
    longestBacktickRun (c :: t) = longestBacktickRun t := by
  rw [longestBacktickRun, List.foldl_cons, BacktickCount.read, if_neg h]
  rfl

theorem longestBacktickRun_append_singleton (h : c ≠ backtick) (t : Text) :
    longestBacktickRun (t ++ [c]) = longestBacktickRun t := by
  rw [longestBacktickRun, List.foldl_append, List.foldl_cons, List.foldl_nil, BacktickCount.read, if_neg h]
  rfl

theorem infix_intercalate {α : Type} {separator x : List α} {xs : List (List α)} (h : x ∈ xs) :
    x <:+: separator.intercalate xs := by
  induction xs with
  | nil => cases h
  | cons y rest ih =>
    cases rest with
    | nil =>
      obtain rfl := List.mem_singleton.mp h
      simp
    | cons z rest =>
      rw [List.intercalate_cons_cons, List.append_assoc]
      rcases List.mem_cons.mp h with rfl | h
      · exact (List.prefix_append x _).isInfix
      · exact (ih h).trans ((List.suffix_append _ _).trans (List.suffix_append _ _)).isInfix

theorem infix_of_mem_splitLines {line : Text} (h : line ∈ t.splitLines) : line <:+: t := by
  rw [← joinLines_splitLines t]
  exact infix_intercalate h

end Text

theorem Writer.newline_not_mem_fence (least : Nat) (content : Text) : '\n' ∉ fence least content := by
  intro hMem
  exact absurd (List.eq_of_mem_replicate hMem) (by decide)

end MarkdownLists
