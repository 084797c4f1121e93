import MarkdownLists.Markdown.Reference
import MarkdownLists.Proofs.Writer.Escape
import Mathlib.Data.List.Chain

/-! # Resolving backslash escapes

A reader takes away the backslashes that escape the characters after them, and nothing else. So a text is read as it
stands just if none of its backslashes is before ASCII punctuation.
-/

namespace MarkdownLists.Markdown
set_option autoImplicit false

open Writer

/-- What a text says once its backslash escapes are resolved. -/
def resolved (t : Text) : Text := (readEscaped t).map Met.char

def Keeps (c d : Char) : Prop := c = '\\' → CharClass.isAsciiPunctuation d = false

instance (c d : Char) : Decidable (Keeps c d) := inferInstanceAs (Decidable (_ → _))

/-- No backslash of the text escapes the character after it. -/
def Literal (t : Text) : Prop := t.IsChain Keeps

instance (t : Text) : Decidable (Literal t) := inferInstanceAs (Decidable (t.IsChain Keeps))

variable {c d : Char} {t u : Text}

@[simp] theorem resolved_nil : resolved [] = [] := rfl

theorem resolved_escaped (h : CharClass.isAsciiPunctuation d = true) (t : Text) :
    resolved ('\\' :: d :: t) = d :: resolved t := by
  rw [resolved, readEscaped_escaped h]
  rfl

theorem resolved_cons (h : ∀ d ∈ t.head?, Keeps c d) : resolved (c :: t) = c :: resolved t := by
  by_cases hc : c = '\\'
  · subst hc
    cases t with
    | nil => rfl
    | cons d t =>
      rw [resolved, readEscaped, if_neg (by simp [h d rfl rfl])]
      rfl
  · rw [resolved, readEscaped_plain hc]
    rfl

theorem keeps_of_ne (h : c ≠ '\\') (d : Char) : Keeps c d := fun hc => absurd hc h

/-- Induction along the escapes of a text: it begins with an escaped character or with one that stands for itself. -/
@[elab_as_elim]
theorem escapeInduction {motive : Text → Prop} (nil : motive [])
    (escaped : ∀ d t, CharClass.isAsciiPunctuation d = true → motive t → motive ('\\' :: d :: t))
    (plain : ∀ c t, (∀ d ∈ t.head?, Keeps c d) → motive t → motive (c :: t)) (t : Text) : motive t := by
  fun_induction readEscaped t with
  | case1 d rest h ih => exact escaped d rest h ih
  | case2 d rest h ih =>
    refine plain '\\' (d :: rest) ?_ ih
    rintro e ⟨⟩ -
    exact Bool.not_eq_true _ ▸ h
  | case3 c rest h ih =>
    refine plain c rest ?_ ih
    intro d hd hc
    obtain ⟨tail, rfl⟩ := List.head?_eq_some_iff.mp hd
    exact (h d tail hc rfl).elim
  | case4 => exact nil

theorem unescape_eq_resolved (h : '&' ∉ t) : unescape t = resolved t := by
  induction t using escapeInduction with
  | nil => rfl
  | escaped d t hd ih =>
    simp only [List.mem_cons, not_or] at h
    rw [resolved_escaped hd, ← ih h.2.2]
    simp [unescape, unescape.go, hd]
  | plain c t hc ih =>
    simp only [List.mem_cons, not_or] at h
    rw [resolved_cons hc, ← ih h.2]
    cases t with
    | nil => simp [unescape, unescape.go, Ne.symm h.1]
    | cons d t =>
      have hd := hc d rfl
      by_cases hSlash : c = '\\'
      · simp [unescape, unescape.go, hSlash, hd hSlash]
      · simp [unescape, unescape.go, hSlash, Ne.symm h.1]

theorem length_resolved_le (t : Text) : (resolved t).length ≤ t.length := by
  induction t using escapeInduction with
  | nil => exact Nat.le_refl 0
  | escaped d t hd ih =>
    rw [resolved_escaped hd]
    exact Nat.le_succ_of_le (Nat.succ_le_succ ih)
  | plain c t hc ih =>
    rw [resolved_cons hc]
    exact Nat.succ_le_succ ih

theorem count_resolved (h : c ≠ '\\') (t : Text) : (resolved t).count c = t.count c := by
  induction t using escapeInduction with
  | nil => rfl
  | escaped d t hd ih =>
    rw [resolved_escaped hd, List.count_cons_of_ne (Ne.symm h), List.count_cons, List.count_cons, ih]
  | plain d t hd ih => rw [resolved_cons hd, List.count_cons, List.count_cons, ih]

theorem resolved_append (h : t.getLast? ≠ some '\\') (u : Text) : resolved (t ++ u) = resolved t ++ resolved u := by
  induction t using escapeInduction with
  | nil => rfl
  | escaped d t hd ih =>
    have hLast : t.getLast? ≠ some '\\' := by
      intro hLast
      simp [List.getLast?_cons, hLast] at h
    simp only [List.cons_append, resolved_escaped hd, ih hLast]
  | plain c t hc ih =>
    have hLast : t.getLast? ≠ some '\\' := by
      intro hLast
      simp [List.getLast?_cons, hLast] at h
    have hKeeps : ∀ d ∈ (t ++ u).head?, Keeps c d := by
      cases t with
      | nil => exact fun d _ => keeps_of_ne (by simpa using h) d
      | cons e t => exact hc
    rw [List.cons_append, resolved_cons hKeeps, resolved_cons hc, ih hLast, List.cons_append]

theorem resolved_append_of_spells {escapes : Char → Prop}
    (hEscapes : ∀ c, escapes c → CharClass.isAsciiPunctuation c = true) (h : Spells escapes u t) (after : Text) :
    resolved (u ++ after) = t ++ resolved after := by
  induction h with
  | nil => rfl
  | escaped hc hRest ih => simp only [List.cons_append, resolved_escaped (hEscapes _ hc), ih]
  | plain hc hRest ih =>
    rw [List.cons_append, resolved_cons fun d _ => keeps_of_ne (ne_backslash_of_needsEscape hc) d, ih, List.cons_append]

theorem literal_cons_iff : Literal (c :: t) ↔ (∀ d ∈ t.head?, Keeps c d) ∧ Literal t := List.isChain_cons

theorem literal_of_not_mem (h : '\\' ∉ t) : Literal t := by
  induction t with
  | nil => exact List.isChain_nil
  | cons c t ih =>
    obtain ⟨hc, ht⟩ := not_or.mp (mt List.mem_cons.mpr h)
    exact literal_cons_iff.mpr ⟨fun d _ => keeps_of_ne (Ne.symm hc) d, ih ht⟩

theorem not_literal_escaped (h : CharClass.isAsciiPunctuation d = true) (t : Text) :
    ¬ Literal ('\\' :: d :: t) := by
  intro hLiteral
  rw [(literal_cons_iff.mp hLiteral).1 d rfl rfl] at h
  cases h

theorem resolved_eq_self_iff : resolved t = t ↔ Literal t := by
  induction t using escapeInduction with
  | nil => exact iff_of_true rfl List.isChain_nil
  | escaped d t hd ih =>
    refine iff_of_false ?_ (not_literal_escaped hd t)
    intro hSame
    have hLength := congrArg List.length hSame
    rw [resolved_escaped hd] at hLength
    have hShorter := length_resolved_le t
    simp only [List.length_cons] at hLength
    omega
  | plain c t hc ih => rw [resolved_cons hc, List.cons.injEq, and_iff_right rfl, ih, literal_cons_iff, and_iff_right hc]

end MarkdownLists.Markdown
