import MarkdownLists.Proofs.Listing.Heads
import MarkdownLists.Proofs.Listing.Items
import MarkdownLists.Proofs.Listing.Nest
import Mathlib.Data.List.ReduceOption

/-! # Columns of nested lists

The context counts columns, while the text is built by indenting finished texts once for each list around them.
Both agree. Every line of a text in a tree of lists stands behind as many characters as the text saw columns,
and all that is not a line of a text is made of spaces and markers.
-/

namespace MarkdownLists
set_option autoImplicit false

namespace Listing

/-- A text that consists of spaces and of some markers. -/
inductive MadeOf (markers : List Text) : Text → Prop
  | nil : MadeOf markers []
  | space {t : Text} : MadeOf markers t → MadeOf markers (' ' :: t)
  | marker {m t : Text} : m ∈ markers → MadeOf markers t → MadeOf markers (m ++ t)

namespace MadeOf

theorem mono {ms ns : List Text} (hSubset : ms ⊆ ns) {t : Text} (h : MadeOf ms t) : MadeOf ns t := by
  induction h with
  | nil => exact .nil
  | space _ ih => exact .space ih
  | marker hm _ ih => exact .marker (hSubset hm) ih

theorem spaces {ms : List Text} {t : Text} (h : MadeOf ms t) (n : Nat) :
    MadeOf ms (Text.spaces n ++ t) := by
  induction n with
  | zero => exact h
  | succ n ih => exact .space ih

end MadeOf

/-- A line of a text in the tree. Empty lines do not count. -/
structure Entry where
  leaf : Leaf
  isFirst : Bool
  line : Text
  line_ne_nil : line ≠ []

def Entry.under (marker : Text) (e : Entry) : Entry := { e with leaf := e.leaf.under marker }

namespace Leaf

def entryOf (l : Leaf) (isFirst : Bool) (line : Text) : Option Entry :=
  if h : line = [] then none else some ⟨l, isFirst, line, h⟩

def lineEntries (l : Leaf) : List (Option Entry) :=
  match l.value.splitLines with
  | [] => []
  | first :: rest => l.entryOf true first :: rest.map (l.entryOf false)

def entries (l : Leaf) : List Entry := l.lineEntries.reduceOption

theorem entryOf_under (marker : Text) (l : Leaf) (isFirst : Bool) (line : Text) :
    (l.under marker).entryOf isFirst line = (l.entryOf isFirst line).map (Entry.under marker) := by
  unfold entryOf
  split <;> rfl

theorem lineEntries_under (marker : Text) (l : Leaf) :
    (l.under marker).lineEntries = l.lineEntries.map (Option.map (Entry.under marker)) := by
  unfold lineEntries
  rw [show (l.under marker).value = l.value from rfl]
  cases l.value.splitLines with
  | nil => rfl
  | cons first rest => simp [entryOf_under]

theorem entries_under (marker : Text) (l : Leaf) :
    (l.under marker).entries = l.entries.map (Entry.under marker) := by
  rw [entries, lineEntries_under, entries, List.reduceOption_map]

end Leaf

/-- A line of the output. It ends with a line of a text, or holds none. -/
structure Row where
  margin : Text
  entry : Option Entry

namespace Row

def line (r : Row) : Text :=
  r.margin ++ match r.entry with
    | some e => e.line
    | none => []

/-- Whether a line of a text stands behind as many characters as the text saw columns. Before its first line
these are spaces and the markers around the text, before the others spaces. A line without any text is
made of spaces and of `markers`. -/
def Fits (markers : List Text) (r : Row) : Prop :=
  match r.entry with
  | none => MadeOf markers r.margin
  | some e => r.margin.length = e.leaf.indent ∧
      if e.isFirst then MadeOf e.leaf.enclosing r.margin else r.margin = Text.spaces e.leaf.indent

def marked (marker : Text) (r : Row) : Row :=
  if r.line.isEmpty then ⟨marker, none⟩
  else ⟨marker ++ ' ' :: r.margin, r.entry.map (Entry.under marker)⟩

def indented (marker : Text) (r : Row) : Row :=
  if r.line.isEmpty then ⟨[], none⟩
  else ⟨Text.spaces (marker.length + 1) ++ r.margin, r.entry.map (Entry.under marker)⟩

theorem line_entryOf (l : Leaf) (isFirst : Bool) (text : Text) :
    (Row.mk [] (l.entryOf isFirst text)).line = text := by
  unfold Leaf.entryOf line
  split
  · exact (‹text = []›).symm
  · rfl

theorem fits_entryOf (value : Text) (isFirst : Bool) (text : Text) :
    (Row.mk [] ((Leaf.mk [] value).entryOf isFirst text)).Fits [] := by
  unfold Leaf.entryOf
  split
  · exact MadeOf.nil
  · refine ⟨rfl, ?_⟩
    cases isFirst with
    | true => exact MadeOf.nil
    | false => rfl

theorem line_marked (marker : Text) (r : Row) : (r.marked marker).line = markedLine marker r.line := by
  obtain ⟨margin, entry⟩ := r
  unfold marked markedLine
  split
  · exact List.append_nil marker
  · cases entry <;> simp [line, Entry.under]

theorem line_indented (marker : Text) (r : Row) :
    (r.indented marker).line = indentedLine (marker.length + 1) r.line := by
  obtain ⟨margin, entry⟩ := r
  unfold indented indentedLine
  split
  · rfl
  · cases entry <;> simp [line, Entry.under]

theorem entry_eq_none {r : Row} (h : r.line.isEmpty = true) : r.entry = none := by
  obtain ⟨margin, entry⟩ := r
  cases entry with
  | none => rfl
  | some e => exact absurd (List.append_eq_nil_iff.mp (List.isEmpty_iff.mp h)).2 e.line_ne_nil

@[simp] theorem entry_marked (marker : Text) (r : Row) :
    (r.marked marker).entry = r.entry.map (Entry.under marker) := by
  unfold marked
  split
  · rename_i h
    rw [entry_eq_none h]
    rfl
  · rfl

@[simp] theorem entry_indented (marker : Text) (r : Row) :
    (r.indented marker).entry = r.entry.map (Entry.under marker) := by
  unfold indented
  split
  · rename_i h
    rw [entry_eq_none h]
    rfl
  · rfl

variable {marker : Text} {ms ns : List Text} {r : Row}

theorem Fits.marked (h : r.Fits ms) (hMarker : marker ∈ ns) (hSubset : ms ⊆ ns)
    (hFirst : ∀ e ∈ r.entry, e.isFirst = true) : (r.marked marker).Fits ns := by
  obtain ⟨margin, entry⟩ := r
  unfold Row.marked
  split
  · have hBare := MadeOf.marker hMarker .nil
    rwa [List.append_nil] at hBare
  · cases entry with
    | none => exact .marker hMarker (.space (MadeOf.mono hSubset h))
    | some e =>
      have hIsFirst := hFirst e rfl
      obtain ⟨hLength, hMargin⟩ := h
      rw [if_pos hIsFirst] at hMargin
      refine ⟨?_, ?_⟩
      · simp only [List.length_append, List.length_cons, Entry.under, Leaf.indent_under] at hLength ⊢
        omega
      · change if e.isFirst = true then _ else _
        rw [if_pos hIsFirst]
        exact .marker List.mem_cons_self (.space (hMargin.mono (List.subset_cons_self _ _)))

theorem Fits.indented (h : r.Fits ms) (hSubset : ms ⊆ ns) (marker : Text) :
    (r.indented marker).Fits ns := by
  obtain ⟨margin, entry⟩ := r
  unfold Row.indented
  split
  · exact .nil
  · cases entry with
    | none => exact (MadeOf.mono hSubset h).spaces _
    | some e =>
      obtain ⟨hLength, hMargin⟩ := h
      refine ⟨?_, ?_⟩
      · simp only [List.length_append, Text.length_spaces, Entry.under, Leaf.indent_under] at hLength ⊢
        omega
      · change if e.isFirst = true then _ else _
        split at hMargin
        · rw [if_pos ‹_›]
          exact (hMargin.mono (List.subset_cons_self _ _)).spaces _
        · rw [if_neg ‹_›, show margin = _ from hMargin]
          exact (List.replicate_add _ _ _).symm

end Row

def itemRows (marker : Text) : List Row → List Row
  | [] => [⟨marker, none⟩]
  | first :: rest => first.marked marker :: rest.map (Row.indented marker)

theorem filterMap_entry_itemRows (marker : Text) {rows : List Row} (h : rows ≠ []) :
    (itemRows marker rows).filterMap Row.entry =
      (rows.filterMap Row.entry).map (Entry.under marker) := by
  obtain ⟨first, rest, rfl⟩ := List.exists_cons_of_ne_nil h
  have hEntry : (itemRows marker (first :: rest)).map Row.entry =
      (first :: rest).map (Option.map (Entry.under marker) ∘ Row.entry) := by
    simp [itemRows]
  calc (itemRows marker (first :: rest)).filterMap Row.entry
      = ((itemRows marker (first :: rest)).map Row.entry).filterMap id := by
        rw [List.filterMap_map, Function.id_comp]
    _ = ((first :: rest).filterMap Row.entry).map (Entry.under marker) := by
        rw [hEntry, List.filterMap_map, List.map_filterMap]
        rfl

def gapRows (items : List (List Block)) : List Row := (gapLines items).map fun line => ⟨line, none⟩

/-- How a text with the given leaves is laid out in lines. -/
structure LaidOut (markers : List Text) (t : Text) (leaves : List Leaf) (rows : List Row) : Prop where
  lines : t.splitLines = rows.map Row.line
  entries : rows.filterMap Row.entry = leaves.flatMap Leaf.entries
  fits : ∀ r ∈ rows, r.Fits markers
  first : ∀ r ∈ rows.head?, ∀ e ∈ r.entry, e.isFirst = true

namespace LaidOut

theorem ne_nil {markers : List Text} {t : Text} {leaves : List Leaf} {rows : List Row}
    (h : LaidOut markers t leaves rows) : rows ≠ [] := by
  rintro rfl
  exact Text.splitLines_ne_nil t h.lines

theorem text (value : Text) :
    LaidOut [] value [⟨[], value⟩] ((Leaf.mk [] value).lineEntries.map (Row.mk [])) := by
  obtain ⟨first, rest, hLines⟩ := List.exists_cons_of_ne_nil (Text.splitLines_ne_nil value)
  have hEntries : (Leaf.mk [] value).lineEntries =
      (Leaf.mk [] value).entryOf true first :: rest.map ((Leaf.mk [] value).entryOf false) := by
    rw [Leaf.lineEntries, hLines]
  refine ⟨?_, ?_, ?_, ?_⟩
  · rw [hLines, hEntries]
    simp [Row.line_entryOf, Function.comp_def]
  · rw [List.filterMap_map, List.flatMap_singleton, Leaf.entries, List.reduceOption]
    rfl
  · rw [hEntries]
    intro r hr
    rcases List.mem_cons.mp hr with rfl | hr
    · exact Row.fits_entryOf value true first
    · rw [List.map_map] at hr
      obtain ⟨line, -, rfl⟩ := List.mem_map.mp hr
      exact Row.fits_entryOf value false line
  · rw [hEntries]
    rintro r ⟨⟩ e he
    unfold Leaf.entryOf at he
    split at he
    · cases he
    · cases he
      rfl

theorem item {ms ns : List Text} {t marker : Text} {leaves : List Leaf} {rows : List Row}
    (h : LaidOut ms t leaves rows) (hNewline : '\n' ∉ marker) (hMarker : marker ∈ ns)
    (hSubset : ms ⊆ ns) :
    LaidOut ns (itemText (marker.length + 1) marker t) (leaves.map (Leaf.under marker))
      (itemRows marker rows) := by
  obtain ⟨first, rest, rfl⟩ := List.exists_cons_of_ne_nil h.ne_nil
  refine ⟨?_, ?_, ?_, ?_⟩
  · rw [splitLines_itemText hNewline, h.lines]
    simp [itemRows, itemLines, Row.line_marked, Row.line_indented]
  · rw [filterMap_entry_itemRows marker (List.cons_ne_nil first rest), h.entries, List.map_flatMap,
      List.flatMap_map]
    simp only [Leaf.entries_under]
  · intro r hr
    rcases List.mem_cons.mp hr with rfl | hr
    · exact (h.fits first List.mem_cons_self).marked hMarker hSubset (h.first first rfl)
    · obtain ⟨r, hMem, rfl⟩ := List.mem_map.mp hr
      exact (h.fits r (List.mem_cons_of_mem _ hMem)).indented hSubset marker
  · rintro r ⟨⟩ e he
    rw [Row.entry_marked] at he
    obtain ⟨e, hEntry, rfl⟩ := Option.map_eq_some_iff.mp he
    exact h.first first rfl e hEntry

theorem empty : LaidOut [] [] [] [⟨[], none⟩] := by
  refine ⟨rfl, rfl, ?_, ?_⟩
  · intro r hr
    rw [List.mem_singleton.mp hr]
    exact MadeOf.nil
  · rintro r ⟨⟩ e ⟨⟩

/-- Texts with gaps between them are laid out one after the other. -/
theorem separated {ι : Type} {ms : List Text} {t : ι → Text} {leaves : ι → List Leaf}
    {rows : ι → List Row} {xs : List ι} (hXs : xs ≠ [])
    (h : ∀ x ∈ xs, LaidOut ms (t x) (leaves x) (rows x)) (items : List (List Block)) :
    LaidOut ms ((separator items).intercalate (xs.map t)) (xs.flatMap leaves)
      ((gapRows items).intercalate (xs.map rows)) := by
  obtain ⟨x, rest, rfl⟩ := List.exists_cons_of_ne_nil hXs
  refine ⟨?_, ?_, ?_, ?_⟩
  · have hGap : (gapRows items).map Row.line = gapLines items := by
      simp [gapRows, Row.line, Function.comp_def]
    rw [splitLines_separated items (by simp), Text.apply_intercalate List.map_nil
      (fun _ _ => List.map_append), hGap, List.map_map, List.map_map]
    congr 1
    exact List.map_congr_left fun y hy => (h y hy).lines
  · have hGap : (gapRows items).filterMap Row.entry = [] := by
      unfold gapRows
      rw [List.filterMap_map]
      exact List.filterMap_eq_nil_iff.mpr fun _ _ => rfl
    rw [Text.apply_intercalate List.filterMap_nil (fun _ _ => List.filterMap_append), hGap,
      Text.intercalate_nil_left, List.map_map, ← List.flatMap_def, List.flatMap_assoc]
    exact List.flatMap_congr fun y hy => (h y hy).entries
  · intro r hr
    rcases Text.mem_of_mem_intercalate hr with hr | ⟨_, hMem, hr⟩
    · obtain ⟨line, hLine, rfl⟩ := List.mem_map.mp hr
      unfold gapLines at hLine
      split at hLine
      · cases hLine
      · rw [List.mem_singleton.mp hLine]
        exact MadeOf.nil
    · obtain ⟨y, hy, rfl⟩ := List.mem_map.mp hMem
      exact (h y hy).fits r hr
  · have hFirst := h x List.mem_cons_self
    rw [List.map_cons, Text.head?_intercalate hFirst.ne_nil]
    exact hFirst.first

end LaidOut

namespace Nest

mutual
def rows (o : Options) : Nest → List Row
  | .text value => (Leaf.mk [] value).lineEntries.map (Row.mk [])
  | .list before kind items =>
    if items.isEmpty then [⟨[], none⟩]
    else (gapRows (items.map Prod.fst)).intercalate
      (List.zipWith itemRows ((placement before kind items).itemMarkers o) (rowsAll o items))

def rowsAll (o : Options) : List (List Block × Nest) → List (List Row)
  | [] => []
  | (_, n) :: rest => n.rows o :: rowsAll o rest
end

mutual
def markers (o : Options) : Nest → List Text
  | .text _ => []
  | .list before kind items => (placement before kind items).itemMarkers o ++ markersAll o items

def markersAll (o : Options) : List (List Block × Nest) → List Text
  | [] => []
  | (_, n) :: rest => n.markers o ++ markersAll o rest
end

theorem rowsAll_eq_map (o : Options) (items : List (List Block × Nest)) :
    rowsAll o items = items.map fun x => x.2.rows o := by
  induction items with
  | nil => rfl
  | cons x rest ih => rw [rowsAll, ih]; rfl

theorem markersAll_eq_flatMap (o : Options) (items : List (List Block × Nest)) :
    markersAll o items = items.flatMap fun x => x.2.markers o := by
  induction items with
  | nil => rfl
  | cons x rest ih => rw [markersAll, ih]; rfl

variable {before : List Block} {kind : ListKind} {items : List (List Block × Nest)}

theorem marked_ne_nil {o : Options} (h : items ≠ []) : marked o before kind items ≠ [] := by
  intro hNil
  have hItems : (marked o before kind items).map Prod.snd = items := map_snd_marked o
  rw [hNil] at hItems
  exact h hItems.symm

theorem zipWith_itemMarkers {α β : Type} (o : Options) (f : Text → α → β)
    (g : List Block × Nest → α) :
    List.zipWith f ((placement before kind items).itemMarkers o) (items.map g) =
      (marked o before kind items).map fun x => f x.1 (g x.2) := by
  rw [marked, List.map_zip_eq_zipWith, List.zipWith_map_right]
  rfl

theorem laidOut_item {o : Options} {x : Text × List Block × Nest} (hx : x ∈ marked o before kind items)
    (h : LaidOut (x.2.2.markers o) (x.2.2.rendered o) (x.2.2.leaves o) (x.2.2.rows o)) :
    LaidOut ((Nest.list before kind items).markers o)
      (itemText ((placement before kind items).width o) x.1 (x.2.2.rendered o))
      ((x.2.2.leaves o).map (Leaf.under x.1)) (itemRows x.1 (x.2.2.rows o)) := by
  obtain ⟨hMarker, hItem⟩ := List.of_mem_zip hx
  have hSubset : x.2.2.markers o ⊆ (Nest.list before kind items).markers o := by
    intro marker hMem
    rw [markers, markersAll_eq_flatMap]
    exact List.mem_append_right _ (List.mem_flatMap.mpr ⟨x.2, hItem, hMem⟩)
  rw [← width_of_mem_marked hx]
  exact h.item (Placement.newline_not_mem_of_mem_itemMarkers hMarker) (List.mem_append_left _ hMarker) hSubset

theorem laidOut (o : Options) (n : Nest) :
    LaidOut (n.markers o) (n.rendered o) (n.leaves o) (n.rows o) := by
  induction n using Nest.induction with
  | text value => exact .text value
  | list before kind items ih =>
    rcases eq_or_ne items [] with rfl | hItems
    · have hMarkers : (placement before kind []).itemMarkers o = [] := by
        rw [← List.length_eq_zero_iff, Placement.length_itemMarkers]
        rfl
      rw [rendered, leaves, markers, rows, Placement.text, Placement.itemTexts, hMarkers]
      exact .empty
    · have hMarked : marked o before kind items ≠ [] := marked_ne_nil hItems
      have hItem := fun x (hx : x ∈ marked o before kind items) =>
        laidOut_item hx (ih x.2 (List.of_mem_zip hx).2)
      rw [leaves_list, rows, if_neg (by simpa using hItems), rendered, renderedAll_eq_map,
        rowsAll_eq_map, Placement.text, Placement.itemTexts, zipWith_itemMarkers,
        zipWith_itemMarkers]
      exact LaidOut.separated hMarked hItem (items.map Prod.fst)

variable {ε : Type}

/-- A tree of lists that is rendered from the left margin asks for its texts in order. Every line of them is
in the output, in order and in the column that its text saw, and the rest is made of spaces and markers. -/
theorem columns_action (o : Options) (depth : Nat) (log : List Seen) (n : Nest) :
    ∃ (out : Text) (rows : List Row),
      (n.action : Render Seen ε Text) ⟨⟨o, 0, depth⟩, log⟩ =
        (.ok out, ⟨⟨o, 0, depth⟩, log ++ (n.leaves o).map fun l => ⟨l.indent, l.value⟩⟩) ∧
      out.splitLines = rows.map Row.line ∧
      rows.filterMap Row.entry = (n.leaves o).flatMap Leaf.entries ∧
      ∀ r ∈ rows, r.Fits (n.markers o) := by
  have hLaidOut := n.laidOut o
  refine ⟨n.rendered o, n.rows o, ?_, hLaidOut.lines, hLaidOut.entries, hLaidOut.fits⟩
  have hSeen : Leaf.seenFrom 0 = fun l => ⟨l.indent, l.value⟩ := by
    funext l
    rw [Leaf.seenFrom, Nat.zero_add]
  rw [runs_action n]
  dsimp only
  rw [hSeen]

example : Nest.rendered { number := true } (.list [] .bullet [([], .text "a\nb".toList),
    ([], .list [] (.ordered (some 9)) [([], .text "\nc".toList), ([], .text [])])]) =
      "- a\n  b\n- 09.\n      c\n  10.".toList := by decide

end Nest

end Listing

end MarkdownLists
