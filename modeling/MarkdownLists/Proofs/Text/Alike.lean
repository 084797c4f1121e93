import MarkdownLists.Proofs.Text.Lines
import Mathlib.Data.List.Forall2

/-! # Texts that are alike line by line

Two texts are alike under a relation on lines if they have equally many lines and these are related one by one.
A relation that tells empty lines from others and allows for anything to be put in front of a line is kept
by all that is done with regions.
-/

namespace MarkdownLists
set_option autoImplicit false

namespace Text

variable {α β : Type}

theorem forall₂_intercalate {R : α → β → Prop} {separator : List α} {separator' : List β}
    (hSeparator : List.Forall₂ R separator separator') {xs : List (List α)} {ys : List (List β)}
    (h : List.Forall₂ (List.Forall₂ R) xs ys) :
    List.Forall₂ R (separator.intercalate xs) (separator'.intercalate ys) := by
  induction h with
  | nil => exact .nil
  | cons hFirst hRest ih =>
    cases hRest with
    | nil => simpa using hFirst
    | cons hSecond hRest =>
      rw [List.intercalate_cons_cons, List.intercalate_cons_cons]
      exact List.rel_append (List.rel_append hFirst hSeparator) ih

theorem forall₂_zipWith {γ δ ε : Type} {R : β → γ → Prop} {S : δ → ε → Prop} {f : α → β → δ}
    {g : α → γ → ε} {as bs : List α} {xs : List β} {ys : List γ}
    (h : List.Forall₂ (fun a b => ∀ x y, R x y → S (f a x) (g b y)) as bs) (hArgs : List.Forall₂ R xs ys) :
    List.Forall₂ S (List.zipWith f as xs) (List.zipWith g bs ys) := by
  induction h generalizing xs ys with
  | nil => exact .nil
  | cons hFirst _ ih =>
    cases hArgs with
    | nil => exact .nil
    | cons hArg hArgs => exact .cons (hFirst _ _ hArg) (ih hArgs)

def Alike (L : Text → Text → Prop) (t u : Text) : Prop := List.Forall₂ L t.splitLines u.splitLines

end Text

/-- A relation on lines that all operations on regions keep. -/
structure Likeness (L : Text → Text → Prop) : Prop where
  refl : ∀ line, L line line
  isEmpty_eq : ∀ {line line'}, L line line' → line.isEmpty = line'.isEmpty
  append : ∀ (part : Text) {line line'}, L line line' → L (part ++ line) (part ++ line')

namespace Region

def Alike (L : Text → Text → Prop) (r s : Region) : Prop :=
  List.Forall₂ (fun l m : Line => Text.Alike L l.text m.text) r.lines s.lines

namespace Alike

variable {L : Text → Text → Prop} {r r' s s' : Region}

theorem append (h : Region.Alike L r r') (hRest : Region.Alike L s s') :
    Region.Alike L (r ++ s) (r' ++ s') := List.rel_append h hRest

theorem isEmpty_eq (h : Region.Alike L r s) : r.isEmpty = s.isEmpty := by
  unfold Region.isEmpty
  rw [Bool.eq_iff_iff, List.isEmpty_iff, List.isEmpty_iff, ← List.length_eq_zero_iff, h.length_eq,
    List.length_eq_zero_iff]

theorem ofText {t u : Text} (h : Text.Alike L t u) : Region.Alike L (.ofText t) (.ofText u) := by
  rw [Region.Alike, Region.lines_ofText, Region.lines_ofText, List.forall₂_map_left_iff,
    List.forall₂_map_right_iff]
  simp only [Line.text_ofText]
  obtain ⟨hLength, hLines⟩ := List.forall₂_iff_zip.mp h
  refine List.forall₂_iff_zip.mpr ⟨hLength, ?_⟩
  intro line line' hMem
  obtain ⟨hLine, hLine'⟩ := List.of_mem_zip hMem
  rw [Text.Alike, Text.splitLines_of_not_mem (Text.not_mem_of_mem_splitLines hLine),
    Text.splitLines_of_not_mem (Text.not_mem_of_mem_splitLines hLine')]
  exact .cons (hLines hMem) .nil

end Alike

end Region

namespace Likeness

variable {L : Text → Text → Prop} (hL : Likeness L)
include hL

theorem text_refl (t : Text) : Text.Alike L t t := List.forall₂_same.mpr fun line _ => hL.refl line

theorem text_isEmpty_eq {t u : Text} (h : Text.Alike L t u) : t.isEmpty = u.isEmpty := by
  obtain ⟨line, rest, hT⟩ := List.exists_cons_of_ne_nil (Text.splitLines_ne_nil t)
  obtain ⟨line', rest', hU⟩ := List.exists_cons_of_ne_nil (Text.splitLines_ne_nil u)
  rw [Text.Alike, hT, hU] at h
  cases h with
  | cons hLine hRest =>
    have hLineEmpty : line = [] ↔ line' = [] := by
      rw [← List.isEmpty_iff, hL.isEmpty_eq hLine, List.isEmpty_iff]
    have hRestEmpty : rest = [] ↔ rest' = [] := by
      rw [← List.length_eq_zero_iff, hRest.length_eq, List.length_eq_zero_iff]
    rw [Bool.eq_iff_iff, List.isEmpty_iff, List.isEmpty_iff, ← Text.splitLines_eq_singleton_nil_iff,
      ← Text.splitLines_eq_singleton_nil_iff, hT, hU, List.cons.injEq, List.cons.injEq]
    exact and_congr hLineEmpty hRestEmpty

theorem text_append {part t u : Text} (hPart : '\n' ∉ part) (h : Text.Alike L t u) :
    Text.Alike L (part ++ t) (part ++ u) := by
  obtain ⟨line, rest, hT⟩ := List.exists_cons_of_ne_nil (Text.splitLines_ne_nil t)
  obtain ⟨line', rest', hU⟩ := List.exists_cons_of_ne_nil (Text.splitLines_ne_nil u)
  rw [Text.Alike, hT, hU] at h
  rw [Text.Alike, Text.splitLines_append hPart hT, Text.splitLines_append hPart hU]
  cases h with
  | cons hLine hRest => exact .cons (hL.append part hLine) hRest

theorem region_refl (r : Region) : Region.Alike L r r :=
  List.forall₂_same.mpr fun l _ => hL.text_refl l.text

-- A line of a region may itself hold line feeds, so the lines of the text are collected from the lines of
-- the region one by one.
theorem text_region {r s : Region} (h : Region.Alike L r s) : Text.Alike L r.text s.text := by
  by_cases hEmpty : r.lines = []
  · have hEmpty' : s.lines = [] := by
      rw [← List.length_eq_zero_iff, ← h.length_eq, hEmpty]
      rfl
    rw [Region.text, Region.text, hEmpty, hEmpty']
    exact hL.text_refl _
  · have hNonempty : s.lines ≠ [] := by
      rw [← List.length_pos_iff, ← h.length_eq, List.length_pos_iff]
      exact hEmpty
    rw [Text.Alike, Region.splitLines_text hEmpty, Region.splitLines_text hNonempty]
    exact List.rel_flatMap h fun _ _ hLine => hLine

theorem region_prefixEach {first blank : Text} (hFirst : '\n' ∉ first) (hBlank : '\n' ∉ blank)
    {r s : Region} (h : Region.Alike L r s) :
    Region.Alike L (r.prefixEach first blank) (s.prefixEach first blank) := by
  refine List.rel_map ?_ h
  intro l m hLine
  have hIsBlank : l.isBlank = m.isBlank := by
    rw [Line.isBlank_eq_isEmpty, Line.isBlank_eq_isEmpty, hL.text_isEmpty_eq hLine]
  unfold Region.prefixLine
  rw [hIsBlank, Line.text_prepend, Line.text_prepend]
  apply hL.text_append _ hLine
  split
  · exact hBlank
  · exact hFirst

end Likeness

end MarkdownLists
