import Mathlib.Data.List.Forall2
import Mathlib.Logic.Function.Basic
import MarkdownLists.Proofs.Listing.Items

/-! # Edits

Lines are made of pieces and regions of lines, but whatever can be asked of them is answered by the texts of the lines.
A sequence of edits can therefore be carried out on plain texts and lists of texts instead: there a blank line is the
empty text, and no piece is left of what has been put together.
-/

namespace MarkdownLists
set_option autoImplicit false

/-- Lines and regions to work on, by number. -/
structure Desk (L R : Type) where
  lines : Nat → L
  regions : Nat → R

namespace Desk

variable {L R : Type}

def putLine (d : Desk L R) (i : Nat) (line : L) : Desk L R := { d with lines := Function.update d.lines i line }

def putRegion (d : Desk L R) (i : Nat) (region : R) : Desk L R :=
  { d with regions := Function.update d.regions i region }

def texts (d : Desk Line Region) : Desk Text (List Text) where
  lines i := (d.lines i).text
  regions i := (d.regions i).lines.map Line.text

theorem texts_putLine (d : Desk Line Region) (i : Nat) (l : Line) :
    (d.putLine i l).texts = d.texts.putLine i l.text :=
  congrArg (Desk.mk · _) (Function.comp_update Line.text d.lines i l)

theorem texts_putRegion (d : Desk Line Region) (i : Nat) (r : Region) :
    (d.putRegion i r).texts = d.texts.putRegion i (r.lines.map Line.text) :=
  congrArg (Desk.mk _) (Function.comp_update (fun r : Region => r.lines.map Line.text) d.regions i r)

end Desk

/-- A call that makes or changes the line or the region of the first number. -/
inductive Edit
  | newLine (i : Nat)
  | lineOf (i : Nat) (t : Text)
  | push (i : Nat) (t : Text)
  | prepend (i : Nat) (t : Text)
  | newRegion (i : Nat)
  | regionOf (i : Nat) (t : Text)
  | pushLine (i line : Nat)
  | append (i other : Nat)
  | prefixEach (i : Nat) (first blank : Text)
  | indentEach (i n : Nat)
  | markFirst (i : Nat) (marker : Text) (width : Nat)
  deriving DecidableEq, Repr

namespace Edit

def apply (d : Desk Line Region) : Edit → Desk Line Region
  | newLine i => d.putLine i .empty
  | lineOf i t => d.putLine i (.ofText t)
  | push i t => d.putLine i ((d.lines i).push t)
  | prepend i t => d.putLine i ((d.lines i).prepend t)
  | newRegion i => d.putRegion i .empty
  | regionOf i t => d.putRegion i (.ofText t)
  | pushLine i line => d.putRegion i ((d.regions i).pushLine (d.lines line))
  | append i other => d.putRegion i (d.regions i ++ d.regions other)
  | prefixEach i first blank => d.putRegion i ((d.regions i).prefixEach first blank)
  | indentEach i n => d.putRegion i ((d.regions i).indentEach n)
  | markFirst i marker width => d.putRegion i ((d.regions i).markFirst marker width)

def prefixedLine (first blank line : Text) : Text := (if line.isEmpty then blank else first) ++ line

/-- The edit of plain texts, where a region is the list of the texts of its lines. -/
def applyPlain (d : Desk Text (List Text)) : Edit → Desk Text (List Text)
  | newLine i => d.putLine i []
  | lineOf i t => d.putLine i t
  | push i t => d.putLine i (d.lines i ++ t)
  | prepend i t => d.putLine i (t ++ d.lines i)
  | newRegion i => d.putRegion i []
  | regionOf i t => d.putRegion i (t.splitOn '\n')
  | pushLine i line => d.putRegion i (d.regions i ++ [d.lines line])
  | append i other => d.putRegion i (d.regions i ++ d.regions other)
  | prefixEach i first blank => d.putRegion i ((d.regions i).map (prefixedLine first blank))
  | indentEach i n => d.putRegion i ((d.regions i).map (Listing.indentedLine n))
  | markFirst i marker width => d.putRegion i (Listing.itemLines width marker (d.regions i))

theorem text_prefixLine (first blank : Text) (l : Line) :
    (Region.prefixLine first blank l).text = prefixedLine first blank l.text := by
  rw [Region.prefixLine, Line.text_prepend, Line.isBlank_eq_isEmpty, prefixedLine]

theorem map_text_prefixEach (r : Region) (first blank : Text) :
    (r.prefixEach first blank).lines.map Line.text = (r.lines.map Line.text).map (prefixedLine first blank) := by
  simp [text_prefixLine]

theorem indentedLine_zero (line : Text) : Listing.indentedLine 0 line = line := by
  cases line <;> rfl

theorem map_text_indentEach (r : Region) (n : Nat) :
    (r.indentEach n).lines.map Line.text = (r.lines.map Line.text).map (Listing.indentedLine n) := by
  unfold Region.indentEach
  split
  · rename_i hZero
    rw [hZero, funext indentedLine_zero, List.map_id']
  · simp [Listing.text_indentLine]

theorem texts_apply (e : Edit) (d : Desk Line Region) : (e.apply d).texts = e.applyPlain d.texts := by
  cases e with
  | newLine i => exact d.texts_putLine i .empty
  | lineOf i t => rw [apply, Desk.texts_putLine, Line.text_ofText, applyPlain]
  | push i t => rw [apply, Desk.texts_putLine, Line.text_push]; rfl
  | prepend i t => exact d.texts_putLine i _
  | newRegion i => exact d.texts_putRegion i .empty
  | regionOf i t =>
    rw [apply, Desk.texts_putRegion, Region.map_text_ofText, Text.splitLines_eq_splitOn, applyPlain]
  | pushLine i line => rw [apply, Desk.texts_putRegion, Region.lines_pushLine, List.map_append]; rfl
  | append i other => rw [apply, Desk.texts_putRegion, Region.lines_append, List.map_append]; rfl
  | prefixEach i first blank => rw [apply, Desk.texts_putRegion, map_text_prefixEach]; rfl
  | indentEach i n => rw [apply, Desk.texts_putRegion, map_text_indentEach]; rfl
  | markFirst i marker width => rw [apply, Desk.texts_putRegion, Listing.map_text_markFirst]; rfl

theorem texts_foldl (edits : List Edit) (d : Desk Line Region) :
    (edits.foldl apply d).texts = edits.foldl applyPlain d.texts := by
  induction edits generalizing d with
  | nil => rfl
  | cons e rest ih => rw [List.foldl_cons, List.foldl_cons, ih, texts_apply]

end Edit

/-! ## What can be asked -/

structure Line.Shows (l : Line) (t : Text) : Prop where
  text : l.text = t
  isBlank : l.isBlank = t.isEmpty

structure Region.Shows (r : Region) (ts : List Text) : Prop where
  lines : List.Forall₂ Line.Shows r.lines ts
  text : r.text = ['\n'].intercalate ts
  isEmpty : r.isEmpty = ts.isEmpty

/-- Every question about a line or a region has the answer that the plain texts give. -/
structure Desk.Shows (d : Desk Line Region) (plain : Desk Text (List Text)) : Prop where
  lines : ∀ i, (d.lines i).Shows (plain.lines i)
  regions : ∀ i, (d.regions i).Shows (plain.regions i)

theorem Line.shows_text (l : Line) : l.Shows l.text := ⟨rfl, l.isBlank_eq_isEmpty⟩

theorem Region.shows_texts (r : Region) : r.Shows (r.lines.map Line.text) where
  lines := List.forall₂_map_right_iff.mpr (List.forall₂_same.mpr fun l _ => l.shows_text)
  text := rfl
  isEmpty := List.isEmpty_map.symm

theorem Desk.shows_texts (d : Desk Line Region) : d.Shows d.texts :=
  ⟨fun i => (d.lines i).shows_text, fun i => (d.regions i).shows_texts⟩

theorem Region.shows_ofText_text {r : Region} (h : r.lines ≠ []) (hLines : ∀ l ∈ r.lines, '\n' ∉ l.text) :
    (ofText r.text).Shows (r.lines.map Line.text) := by
  rw [← splitLines_text_of_not_mem h hLines, ← map_text_ofText]
  exact shows_texts _

namespace Edit

/-- Edits give what they give on plain texts. A text is what is written of a line or a region made from it, and a region
is made again from what is written of it, unless it has no lines or line feeds in them. -/
theorem shows_foldl_apply (edits : List Edit) (d : Desk Line Region) :
    (edits.foldl apply d).Shows (edits.foldl applyPlain d.texts) ∧
      (∀ t, (Line.ofText t).text = t ∧ (Region.ofText t).text = t) ∧
      ∀ r : Region, r.lines ≠ [] → (∀ l ∈ r.lines, '\n' ∉ l.text) →
        (Region.ofText r.text).Shows (r.lines.map Line.text) := by
  refine ⟨?_, fun t => ⟨Line.text_ofText t, Region.text_ofText t⟩, fun r => Region.shows_ofText_text⟩
  rw [← texts_foldl]
  exact Desk.shows_texts _

example : (([.prepend 0 [], .pushLine 1 0, .markFirst 1 ['-'] 2, .pushLine 1 0, .indentEach 1 4] : List Edit).foldl apply
    ⟨fun _ => .empty, fun _ => .empty⟩).texts.regions 1 = [[' ', ' ', ' ', ' ', '-'], []] := by decide

end Edit

end MarkdownLists
