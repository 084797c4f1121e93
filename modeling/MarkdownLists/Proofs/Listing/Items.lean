import MarkdownLists.Proofs.Listing.Layout
import MarkdownLists.Proofs.Text.Lines

/-! # Lines of items and lists

The layout writes an item as a text and later cuts it into lines again. Line by line, the first line of the
body follows the marker, every other line that is not empty is indented, and an empty line stays empty.
The lines of a list are those of its items, with an empty line between two of them if the list is loose.
-/

namespace MarkdownLists
set_option autoImplicit false

namespace Listing

def markedLine (marker line : Text) : Text := if line.isEmpty then marker else marker ++ ' ' :: line

def indentedLine (width : Nat) (line : Text) : Text :=
  if line.isEmpty then [] else Text.spaces width ++ line

/-- The lines of an item, given those of its body. -/
def itemLines (width : Nat) (marker : Text) : List Text → List Text
  | [] => [marker]
  | first :: rest => markedLine marker first :: rest.map (indentedLine width)

def gapLines (items : List (List Block)) : List Text := if isTight items then [] else [[]]

theorem text_markLine (marker : Text) (l : Line) :
    (Region.markLine marker l).text = markedLine marker l.text := by
  unfold Region.markLine markedLine
  rw [Line.isBlank_eq_isEmpty]
  split <;> simp

theorem text_indentLine (width : Nat) (l : Line) :
    (Region.indentLine width l).text = indentedLine width l.text := by
  unfold Region.indentLine indentedLine
  rw [Line.isBlank_eq_isEmpty]
  split
  · rename_i h
    exact List.isEmpty_iff.mp h
  · simp

theorem map_text_markFirst (r : Region) (marker : Text) (width : Nat) :
    (r.markFirst marker width).lines.map Line.text = itemLines width marker (r.lines.map Line.text) := by
  unfold Region.markFirst
  cases r.lines with
  | nil => simp [itemLines]
  | cons first rest => simp [itemLines, text_markLine, text_indentLine]

theorem isEmpty_markedLine {marker : Text} (h : marker ≠ []) (line : Text) :
    (markedLine marker line).isEmpty = false := by
  unfold markedLine
  split <;> simp [h]

theorem isEmpty_indentedLine (width : Nat) (line : Text) :
    (indentedLine width line).isEmpty = line.isEmpty := by
  unfold indentedLine
  cases line <;> simp

theorem newline_not_mem_markedLine {marker line : Text} (hMarker : '\n' ∉ marker)
    (hLine : '\n' ∉ line) : '\n' ∉ markedLine marker line := by
  unfold markedLine
  split <;> simp [hMarker, hLine]

theorem newline_not_mem_indentedLine {line : Text} (width : Nat) (hLine : '\n' ∉ line) :
    '\n' ∉ indentedLine width line := by
  unfold indentedLine
  split <;> simp [hLine, Text.spaces, List.mem_replicate]

theorem splitLines_itemText {marker : Text} (hMarker : '\n' ∉ marker) (width : Nat) (body : Text) :
    (itemText width marker body).splitLines = itemLines width marker body.splitLines := by
  obtain ⟨first, rest, hBody⟩ := List.exists_cons_of_ne_nil (Text.splitLines_ne_nil body)
  have hLines : ∀ line ∈ first :: rest, '\n' ∉ line := by
    rw [← hBody]
    exact fun _ => Text.not_mem_of_mem_splitLines
  have hItem : ∀ line ∈ itemLines width marker (first :: rest), '\n' ∉ line := by
    intro line hLine
    rcases List.mem_cons.mp hLine with rfl | hLine
    · exact newline_not_mem_markedLine hMarker (hLines first List.mem_cons_self)
    · obtain ⟨line, hMem, rfl⟩ := List.mem_map.mp hLine
      exact newline_not_mem_indentedLine width (hLines line (List.mem_cons_of_mem _ hMem))
  have hTexts : ((Region.ofText body).markFirst marker width).lines.map Line.text =
      itemLines width marker (first :: rest) := by
    rw [map_text_markFirst, Region.map_text_ofText, hBody]
  rw [itemText, Region.text, hTexts, hBody]
  exact Text.splitLines_joinLines_of_not_mem (by simp [itemLines]) hItem

theorem splitLines_separated (items : List (List Block)) {ts : List Text} (h : ts ≠ []) :
    Text.splitLines ((separator items).intercalate ts) =
      (gapLines items).intercalate (ts.map Text.splitLines) := by
  unfold separator gapLines
  split
  · exact Text.splitLines_intercalate 0 h
  · exact Text.splitLines_intercalate 1 h

end Listing

namespace Placement

theorem splitLines_text (p : Placement) (o : Options) {bodies : List Text}
    (hLength : bodies.length = p.items.length) (hItems : p.items ≠ []) :
    (p.text o bodies).splitLines =
      (Listing.gapLines p.items).intercalate ((p.itemTexts o bodies).map Text.splitLines) := by
  have hTexts : p.itemTexts o bodies ≠ [] := by
    have hPositive := List.length_pos_iff.mpr hItems
    apply List.ne_nil_of_length_pos
    rw [itemTexts, List.length_zipWith, length_itemMarkers, hLength]
    omega
  exact Listing.splitLines_separated p.items hTexts

end Placement

end MarkdownLists
