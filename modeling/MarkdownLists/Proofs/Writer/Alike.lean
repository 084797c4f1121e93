import MarkdownLists.Proofs.Listing.Heads
import MarkdownLists.Proofs.Listing.Items
import MarkdownLists.Proofs.Text.Alike
import MarkdownLists.Proofs.Writer.Blocks

/-! # Writing one document under two options

The options show in the markers and in the columns that they take, and nowhere else. Under any two options a
document is written in the same lines as far as these are empty or not. If both number alike, the texts even
agree character by character, up to the choice of bullets and of suffixes.
-/

namespace MarkdownLists
set_option autoImplicit false

open Listing

/-- A relation on lines that the markers and the indentation of a list keep as well, when the lines on one side
are written under `o` and those on the other under `o'`. -/
structure Likeness.Between (L : Text → Text → Prop) (o o' : Options) : Prop extends Likeness L where
  marked : ∀ p : Placement, List.Forall₂
    (fun m m' => ∀ line line', L line line' → L (markedLine m line) (markedLine m' line'))
    (p.itemMarkers o) (p.itemMarkers o')
  indented : ∀ (p : Placement) {line line'}, L line line' →
    L (indentedLine (p.width o) line) (indentedLine (p.width o') line')

namespace Likeness.Between

variable {L : Text → Text → Prop} {o o' : Options} (hL : Likeness.Between L o o')
include hL

theorem itemText_alike (p : Placement) {m m' t t' : Text} (hNewline : '\n' ∉ m) (hNewline' : '\n' ∉ m')
    (hMarked : ∀ line line', L line line' → L (markedLine m line) (markedLine m' line'))
    (h : Text.Alike L t t') :
    Text.Alike L (itemText (p.width o) m t) (itemText (p.width o') m' t') := by
  rw [Text.Alike, splitLines_itemText hNewline, splitLines_itemText hNewline']
  obtain ⟨line, rest, hT⟩ := List.exists_cons_of_ne_nil (Text.splitLines_ne_nil t)
  obtain ⟨line', rest', hT'⟩ := List.exists_cons_of_ne_nil (Text.splitLines_ne_nil t')
  rw [Text.Alike, hT, hT'] at h
  rw [hT, hT']
  cases h with
  | cons hLine hRest =>
    exact .cons (hMarked line line' hLine) (List.rel_map (fun _ _ h => hL.indented p h) hRest)

theorem itemTexts_alike (p : Placement) {bodies bodies' : List Text}
    (h : List.Forall₂ (Text.Alike L) bodies bodies') :
    List.Forall₂ (Text.Alike L) (p.itemTexts o bodies) (p.itemTexts o' bodies') := by
  refine Text.forall₂_zipWith ?_ h
  obtain ⟨hLength, hMarked⟩ := List.forall₂_iff_zip.mp (hL.marked p)
  refine List.forall₂_iff_zip.mpr ⟨hLength, ?_⟩
  intro m m' hMem t t' hText
  obtain ⟨hMarker, hMarker'⟩ := List.of_mem_zip hMem
  exact hL.itemText_alike p (Placement.newline_not_mem_of_mem_itemMarkers hMarker)
    (Placement.newline_not_mem_of_mem_itemMarkers hMarker') (hMarked hMem) hText

theorem text_alike (p : Placement) {bodies bodies' : List Text}
    (hLength : bodies.length = p.items.length) (h : List.Forall₂ (Text.Alike L) bodies bodies') :
    Text.Alike L (p.text o bodies) (p.text o' bodies') := by
  have hTexts := hL.itemTexts_alike p h
  by_cases hItems : p.items = []
  · have hBodies : bodies = [] := by
      rw [← List.length_eq_zero_iff, hLength, hItems]
      rfl
    have hBodies' : bodies' = [] := by
      rw [← List.length_eq_zero_iff, ← h.length_eq, hBodies]
      rfl
    rw [Placement.text, Placement.text, Placement.itemTexts, Placement.itemTexts, hBodies, hBodies',
      List.zipWith_nil_right, List.zipWith_nil_right]
    exact hL.text_refl _
  · have hLength' : bodies'.length = p.items.length := by rw [← h.length_eq, hLength]
    rw [Text.Alike, p.splitLines_text o hLength hItems, p.splitLines_text o' hLength' hItems]
    apply Text.forall₂_intercalate
    · exact List.forall₂_same.mpr fun line _ => hL.refl line
    · rw [List.forall₂_map_left_iff, List.forall₂_map_right_iff]
      exact hTexts

theorem quoteRegion_alike {r r' : Region} (h : Region.Alike L r r') :
    Region.Alike L (Writer.quoteRegion r) (Writer.quoteRegion r') := by
  unfold Writer.quoteRegion
  rw [h.isEmpty_eq]
  apply hL.region_prefixEach (by decide) (by decide)
  split
  · exact h.append (hL.region_refl ⟨[Line.empty]⟩)
  · exact h

mutual
theorem region_alike (before : List Block) (b : Block) :
    Region.Alike L (b.region o before) (b.region o' before) := by
  cases b with
  | quote children => exact hL.quoteRegion_alike (regionAll_alike [] false children)
  | list kind items =>
    have hBodies := bodies_alike (isTight items) items
    exact .ofText (hL.text_alike ⟨before, kind, items⟩ (by simp [Block.bodies_eq_map]) hBodies)
  | _ => exact hL.region_refl _

theorem regionAll_alike (before : List Block) (tight : Bool) (blocks : List Block) :
    Region.Alike L (Block.regionAll o before tight blocks) (Block.regionAll o' before tight blocks) := by
  cases blocks with
  | nil => exact hL.region_refl _
  | cons b rest =>
    have hGap := hL.region_refl (Writer.gap before tight)
    exact (hGap.append (region_alike before b)).append (regionAll_alike (b :: before) tight rest)

theorem bodies_alike (tight : Bool) (items : List (List Block)) :
    List.Forall₂ (Text.Alike L) (Block.bodies o tight items) (Block.bodies o' tight items) := by
  cases items with
  | nil => exact .nil
  | cons children rest =>
    exact .cons (hL.text_region (regionAll_alike [] tight children)) (bodies_alike tight rest)
end

end Likeness.Between

/-! ## Empty lines -/

theorem Likeness.between_isEmpty (o o' : Options) :
    Likeness.Between (fun line line' => line.isEmpty = line'.isEmpty) o o' where
  refl _ := rfl
  isEmpty_eq h := h
  append part line line' h := by
    cases part with
    | nil => exact h
    | cons c part => rfl
  marked p := by
    have hLength : (p.itemMarkers o).length = (p.itemMarkers o').length := by
      rw [p.length_itemMarkers, p.length_itemMarkers]
    rw [List.forall₂_iff_zip]
    refine ⟨hLength, ?_⟩
    intro m m' hMem line line' _
    obtain ⟨hMarker, hMarker'⟩ := List.of_mem_zip hMem
    rw [isEmpty_markedLine (Placement.ne_nil_of_mem_itemMarkers hMarker),
      isEmpty_markedLine (Placement.ne_nil_of_mem_itemMarkers hMarker')]
  indented p line line' h := by rw [isEmpty_indentedLine, isEmpty_indentedLine, h]

/-! ## Exchanged characters -/

/-- Equal characters, two bullets, or two suffixes. -/
def Exchangeable (c d : Char) : Prop :=
  c = d ∨ c ∈ ['-', '*', '+'] ∧ d ∈ ['-', '*', '+'] ∨ c ∈ ['.', ')'] ∧ d ∈ ['.', ')']

theorem Exchangeable.refl (c : Char) : Exchangeable c c := .inl rfl

theorem forall₂_exchangeable_refl (t : Text) : List.Forall₂ Exchangeable t t :=
  List.forall₂_same.mpr fun c _ => .refl c

theorem Bullet.exchangeable (b c : Bullet) : List.Forall₂ Exchangeable b.text c.text := by
  have hMem (b : Bullet) : b.char ∈ ['-', '*', '+'] := by cases b <;> decide
  exact .cons (.inr (.inl ⟨hMem b, hMem c⟩)) .nil

theorem OrderedMarker.exchangeable (m n : OrderedMarker) : List.Forall₂ Exchangeable m.text n.text := by
  have hMem (m : OrderedMarker) : m.char ∈ ['.', ')'] := by cases m <;> decide
  exact .cons (.inr (.inr ⟨hMem m, hMem n⟩)) .nil

theorem Numbering.exchangeable_markers (start count : Nat) (suffix suffix' : OrderedMarker)
    (number : Bool) : List.Forall₂ (List.Forall₂ Exchangeable) (markers start count suffix number)
      (markers start count suffix' number) := by
  unfold markers
  rw [List.forall₂_map_left_iff, List.forall₂_map_right_iff, List.forall₂_same]
  intro n _
  exact List.rel_append (forall₂_exchangeable_refl _) (suffix.exchangeable suffix')

namespace Placement

variable {o o' : Options}

theorem exchangeable_itemMarkers (h : o.number = o'.number) (p : Placement) :
    List.Forall₂ (List.Forall₂ Exchangeable) (p.itemMarkers o) (p.itemMarkers o') := by
  obtain ⟨before, kind, items⟩ := p
  cases kind with
  | bullet =>
    change List.Forall₂ _ (List.replicate _ _) (List.replicate _ _)
    induction items.length with
    | zero => exact .nil
    | succ n ih => exact .cons (Bullet.exchangeable _ _) ih
  | ordered start =>
    have hMarkers := Numbering.exchangeable_markers (start.getD 1).toNat items.length
      (suffix ⟨before, .ordered start, items⟩ o) (suffix ⟨before, .ordered start, items⟩ o') o.number
    rw [h] at hMarkers
    simpa only [itemMarkers, markers, Markers.forItems, h] using hMarkers

theorem width_congr (h : o.number = o'.number) (p : Placement) : p.width o = p.width o' := by
  have hHead {ms ms' : List Text} (hMarkers : List.Forall₂ (List.Forall₂ Exchangeable) ms ms') :
      (ms.headD []).length = (ms'.headD []).length := by
    cases hMarkers with
    | nil => rfl
    | cons hFirst _ => exact hFirst.length_eq
  obtain ⟨before, kind, items⟩ := p
  cases kind with
  | bullet => rfl
  | ordered start =>
    exact congrArg (· + 1) (hHead (exchangeable_itemMarkers h ⟨before, .ordered start, items⟩))

end Placement

theorem Likeness.between_exchangeable {o o' : Options} (h : o.number = o'.number) :
    Likeness.Between (List.Forall₂ Exchangeable) o o' where
  refl := forall₂_exchangeable_refl
  isEmpty_eq h := by cases h <;> rfl
  append part line line' h := List.rel_append (forall₂_exchangeable_refl part) h
  marked p := by
    refine (p.exchangeable_itemMarkers h).imp ?_
    intro m m' hMarker line line' hLine
    unfold markedLine
    cases hLine with
    | nil => exact hMarker
    | cons hFirst hRest => exact List.rel_append hMarker (.cons (.refl ' ') (.cons hFirst hRest))
  indented p line line' hLine := by
    rw [p.width_congr h]
    unfold indentedLine
    cases hLine with
    | nil => exact .nil
    | cons hFirst hRest => exact List.rel_append (forall₂_exchangeable_refl _) (.cons hFirst hRest)

theorem exchangeable_of_alike {t t' : Text} (h : Text.Alike (List.Forall₂ Exchangeable) t t') :
    List.Forall₂ Exchangeable t t' := by
  have hJoined := Text.forall₂_intercalate (forall₂_exchangeable_refl ['\n']) h
  change List.Forall₂ _ (Text.joinLines t.splitLines) (Text.joinLines t'.splitLines) at hJoined
  rwa [Text.joinLines_splitLines, Text.joinLines_splitLines] at hJoined

/-! ## Documents -/

namespace Block

theorem written_alike {L : Text → Text → Prop} {o o' : Options} (hL : Likeness.Between L o o')
    (blocks : List Block) : Text.Alike L (written o blocks) (written o' blocks) := by
  unfold written
  split
  · exact hL.text_refl []
  · have hText := hL.text_region (hL.regionAll_alike [] false blocks)
    rw [Text.Alike, Text.splitLines_append_newline, Text.splitLines_append_newline]
    exact List.rel_append hText (hL.text_refl [])

variable {ω ε : Type}

/-- Written in any two contexts, a document has equally many lines and the same of them are empty. If the
options in both number alike, the two texts differ only where one bullet or suffix stands for another. -/
theorem document_alike (blocks : List Block) (w w' : World ω) : ∃ t t' : Text,
    (document blocks : Render ω ε Text) w = (.ok t, w) ∧
    (document blocks : Render ω ε Text) w' = (.ok t', w') ∧
    t.splitLines.map List.isEmpty = t'.splitLines.map List.isEmpty ∧
    (w.context.options.number = w'.context.options.number → List.Forall₂ Exchangeable t t') := by
  refine ⟨written w.context.options blocks, written w'.context.options blocks, ?_, ?_, ?_, ?_⟩
  · simpa using runs_document blocks w
  · simpa using runs_document blocks w'
  · have hEmpty := written_alike (Likeness.between_isEmpty w.context.options w'.context.options) blocks
    rw [← List.forall₂_eq_eq_eq, List.forall₂_map_left_iff, List.forall₂_map_right_iff]
    exact hEmpty
  · intro hNumber
    exact exchangeable_of_alike (written_alike (Likeness.between_exchangeable hNumber) blocks)

end Block

end MarkdownLists
