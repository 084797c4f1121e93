import MarkdownLists.Proofs.Listing.Boundaries
import MarkdownLists.Proofs.Text.Alike

/-! # Lines on which items begin

Each item of a list begins on a line of its own, except that the first item of a list at the very front of an item
begins on the line of that item. The line of an item is its marker with the first line of its body, behind the
spaces that the lists around it take.
-/

namespace MarkdownLists
set_option autoImplicit false

open Listing

/-- An item as it stands in its list: its marker, whether the list is tight, and its blocks. -/
structure ItemStart where
  marker : Text
  tight : Bool
  children : List Block

namespace ItemStart

variable (o : Options)

def bodyLine (s : ItemStart) : Text := (Block.regionAll o [] s.tight s.children).text.firstLine

def BeginsOn (s : ItemStart) (line : Text) : Prop :=
  ∃ n, line = Text.spaces n ++ markedLine s.marker (s.bodyLine o)

end ItemStart

namespace Block

variable (o : Options)

mutual
/-- For each line of a block, the outermost item that begins on it. Within a quote every line begins with the mark of
the quote. -/
def starts (before : List Block) : Block → List (Option ItemStart)
  | .list kind items =>
    if items.isEmpty then [none]
    else ((gapLines items).map fun _ => none).intercalate
      (List.zipWith (fun marker x => some ⟨marker, isTight items, x.1⟩ :: List.tail x.2)
        ((Placement.mk before kind items).itemMarkers o) (items.zip (startsItems (isTight items) items)))
  | b => ((b.region o before).lines.flatMap fun l => l.text.splitLines).map fun _ => none

def startsAll (before : List Block) (tight : Bool) : List Block → List (Option ItemStart)
  | [] => []
  | b :: rest =>
    (Writer.gap before tight).lines.map (fun _ => none) ++ b.starts before ++ startsAll (b :: before) tight rest

def startsItems (tight : Bool) : List (List Block) → List (List (Option ItemStart))
  | [] => []
  | children :: rest => startsAll [] tight children :: startsItems tight rest
end

theorem startsItems_eq_map (tight : Bool) (items : List (List Block)) :
    startsItems o tight items = items.map (startsAll o [] tight) := by
  induction items with
  | nil => rfl
  | cons children rest ih => rw [startsItems, ih]; rfl

end Block

/-- The line is that of the item, if an item begins on it. -/
def Begins (o : Options) (line : Text) (start : Option ItemStart) : Prop :=
  ∀ s ∈ start, s.BeginsOn o line ∧ ∃ head : Head, head.ShownBy s.marker

theorem forall₂_begins_none (o : Options) (lines : List Text) :
    List.Forall₂ (Begins o) lines (lines.map fun _ => none) := by
  rw [List.forall₂_map_right_iff, List.forall₂_same]
  exact fun _ _ => nofun

theorem Begins.indented {o : Options} {line : Text} {start : Option ItemStart} (h : Begins o line start)
    (width : Nat) : Begins o (indentedLine width line) start := by
  intro s hs
  obtain ⟨⟨n, rfl⟩, head, hShown⟩ := h s hs
  refine ⟨⟨width + n, ?_⟩, head, hShown⟩
  obtain ⟨c, rest, hMarker, -⟩ := hShown.cons
  have hLine : (Text.spaces n ++ markedLine s.marker (s.bodyLine o)).isEmpty = false := by
    have hMarked := isEmpty_markedLine (hMarker ▸ List.cons_ne_nil c rest) (s.bodyLine o)
    simpa using fun _ => hMarked
  unfold indentedLine
  rw [hLine, if_neg Bool.false_ne_true, ← List.append_assoc]
  congr 1
  exact (List.replicate_add _ _ _).symm

/-- The first line of an item is behind its marker, and the other lines move to the right. -/
theorem forall₂_begins_item {o : Options} {marker : Text} {head : Head} (hShown : head.ShownBy marker)
    (width : Nat) (tight : Bool) {children : List Block} {starts : List (Option ItemStart)}
    (h : List.Forall₂ (Begins o) (Block.regionAll o [] tight children).text.splitLines.tail starts) :
    List.Forall₂ (Begins o)
      (itemText width marker (Block.regionAll o [] tight children).text).splitLines
      (some ⟨marker, tight, children⟩ :: starts) := by
  obtain ⟨first, rest, hBody⟩ := List.exists_cons_of_ne_nil
    (Text.splitLines_ne_nil (Block.regionAll o [] tight children).text)
  rw [splitLines_itemText hShown.newline_not_mem, hBody, itemLines]
  rw [hBody, List.tail_cons] at h
  refine .cons ?_ ?_
  · rintro s ⟨⟩
    refine ⟨⟨0, ?_⟩, head, hShown⟩
    rw [ItemStart.bodyLine, Text.firstLine, hBody]
    rfl
  · rw [List.forall₂_map_left_iff]
    exact h.imp fun _ _ hBegins => hBegins.indented width

theorem forall₂_tail {α β : Type} {R : α → β → Prop} {xs : List α} {ys : List β} (h : List.Forall₂ R xs ys) :
    List.Forall₂ R xs.tail ys.tail := by
  cases h with
  | nil => exact .nil
  | cons _ hRest => exact hRest

namespace Block

variable (o : Options)

theorem forall₂_begins_tail (r : Region) {starts : List (Option ItemStart)}
    (h : List.Forall₂ (Begins o) (r.lines.flatMap fun l => l.text.splitLines) starts) :
    List.Forall₂ (Begins o) r.text.splitLines.tail starts.tail := by
  by_cases hLines : r.lines = []
  · rw [hLines, List.flatMap_nil] at h
    cases h
    rw [Region.text, hLines]
    exact .nil
  · rw [Region.splitLines_text hLines]
    exact forall₂_tail h

theorem forall₂_begins_gap (before : List Block) (tight : Bool) :
    List.Forall₂ (Begins o) ((Writer.gap before tight).lines.flatMap fun l => l.text.splitLines)
      ((Writer.gap before tight).lines.map fun _ => none) := by
  unfold Writer.gap
  split
  · exact .nil
  · exact forall₂_begins_none o [[]]

theorem flatMap_splitLines_ofText (t : Text) :
    ((Region.ofText t).lines.flatMap fun l => l.text.splitLines) = t.splitLines := by
  have hLines : (Region.ofText t).lines ≠ [] := by simp [Text.splitLines_ne_nil]
  rw [← Region.splitLines_text hLines, Region.text_ofText]

theorem forall₂_begins_text (p : Placement)
    (h : ∀ children ∈ p.items, List.Forall₂ (Begins o)
      (regionAll o [] (isTight p.items) children).text.splitLines.tail
      (startsAll o [] (isTight p.items) children).tail) (hItems : p.items ≠ []) :
    List.Forall₂ (Begins o) (p.text o (bodies o (isTight p.items) p.items)).splitLines
      (((gapLines p.items).map fun _ => none).intercalate
        (List.zipWith (fun marker x => some ⟨marker, isTight p.items, x.1⟩ :: List.tail x.2)
          (p.itemMarkers o) (p.items.zip (startsItems o (isTight p.items) p.items)))) := by
  rw [p.splitLines_text o (by simp [bodies_eq_map]) hItems]
  refine Text.forall₂_intercalate (forall₂_begins_none o _) ?_
  rw [Placement.itemTexts, List.map_zipWith, bodies_eq_map, startsItems_eq_map, ← List.map_prod_left_eq_zip]
  refine Text.forall₂_zipWith (R := fun body x => body = (regionAll o [] (isTight p.items) x.1).text ∧
    List.Forall₂ (Begins o) body.splitLines.tail (List.tail x.2)) ?_ ?_
  · rw [List.forall₂_same]
    rintro marker hMarker _ ⟨children, starts⟩ ⟨rfl, hStarts⟩
    obtain ⟨head, hShown⟩ := Placement.exists_shownBy hMarker
    exact forall₂_begins_item hShown _ _ hStarts
  · rw [List.forall₂_map_left_iff, List.forall₂_map_right_iff, List.forall₂_same]
    exact fun children hChildren => ⟨rfl, h children hChildren⟩

-- The first line of a body is left to the item around it, which is why the bodies are followed without their first
-- lines.
mutual
theorem forall₂_begins_region (before : List Block) (b : Block) :
    List.Forall₂ (Begins o) ((b.region o before).lines.flatMap fun l => l.text.splitLines)
      (b.starts o before) := by
  cases b with
  | list kind items =>
    have hBodies := forall₂_begins_bodies (isTight items) items
    rw [starts, region, flatMap_splitLines_ofText]
    split
    · rename_i hItems
      rw [List.isEmpty_iff.mp hItems, bodies, Placement.text, Placement.itemTexts, List.zipWith_nil_right]
      exact forall₂_begins_none o [[]]
    · rename_i hItems
      exact forall₂_begins_text o ⟨before, kind, items⟩ hBodies (mt List.isEmpty_iff.mpr hItems)
  | _ => exact forall₂_begins_none o _

theorem forall₂_begins_regionAll (before : List Block) (tight : Bool) (blocks : List Block) :
    List.Forall₂ (Begins o) ((regionAll o before tight blocks).lines.flatMap fun l => l.text.splitLines)
      (startsAll o before tight blocks) := by
  cases blocks with
  | nil => exact .nil
  | cons b rest =>
    have hGap := forall₂_begins_gap o before tight
    have hFirst := forall₂_begins_region before b
    have hRest := forall₂_begins_regionAll (b :: before) tight rest
    rw [regionAll, Region.lines_append, Region.lines_append, List.flatMap_append, List.flatMap_append, startsAll]
    exact List.rel_append (List.rel_append hGap hFirst) hRest

theorem forall₂_begins_bodies (tight : Bool) (items : List (List Block)) :
    ∀ children ∈ items, List.Forall₂ (Begins o) (regionAll o [] tight children).text.splitLines.tail
      (startsAll o [] tight children).tail := by
  cases items with
  | nil => exact nofun
  | cons children rest =>
    have hFirst := forall₂_begins_tail o _ (forall₂_begins_regionAll [] tight children)
    exact List.forall_mem_cons.mpr ⟨hFirst, forall₂_begins_bodies tight rest⟩
end

end Block

end MarkdownLists
