import MarkdownLists.Proofs.Listing.Heads
import MarkdownLists.Proofs.Listing.Items
import MarkdownLists.Proofs.Writer.Blocks
import Mathlib.Data.List.SplitBy

/-! # List boundaries

In the text of neighbouring lists, only the first lines of their items begin at the left margin. Read off these
lines, runs of items with the same marker are the lists again, with their lengths, families and starts.
-/

namespace MarkdownLists
set_option autoImplicit false

open Listing

/-- Whether something stands at the very beginning of the line. -/
def Text.isFlush : Text → Bool
  | [] => false
  | c :: _ => c ≠ ' '

namespace Text

def firstLine (t : Text) : Text := t.splitLines.headD []

theorem firstLine_mem (t : Text) : t.firstLine ∈ t.splitLines := by
  obtain ⟨first, rest, hLines⟩ := List.exists_cons_of_ne_nil (splitLines_ne_nil t)
  rw [firstLine, hLines]
  exact List.mem_cons_self

theorem newline_not_mem_firstLine (t : Text) : '\n' ∉ t.firstLine := not_mem_of_mem_splitLines t.firstLine_mem

end Text

/-! ## Flush lines -/

theorem isFlush_indentedLine {width : Nat} (h : 0 < width) (line : Text) :
    (indentedLine width line).isFlush = false := by
  obtain ⟨n, rfl⟩ := Nat.exists_eq_succ_of_ne_zero (Nat.pos_iff_ne_zero.mp h)
  unfold indentedLine
  split
  · rfl
  · simp [Text.spaces, List.replicate_succ, Text.isFlush]

theorem isFlush_markedLine {marker : Text} {head : Head} (h : head.ShownBy marker) (line : Text) :
    (markedLine marker line).isFlush = true := by
  obtain ⟨c, rest, rfl, hc⟩ := h.cons
  unfold markedLine
  split <;> simpa [Text.isFlush] using hc

theorem flush_itemText {marker : Text} {head : Head} (h : head.ShownBy marker) {width : Nat}
    (hWidth : 0 < width) (body : Text) :
    (itemText width marker body).splitLines.filter Text.isFlush =
      [(itemText width marker body).firstLine] := by
  obtain ⟨first, rest, hBody⟩ := List.exists_cons_of_ne_nil (Text.splitLines_ne_nil body)
  have hRest : (rest.map (indentedLine width)).filter Text.isFlush = [] := by
    rw [List.filter_eq_nil_iff]
    intro line hLine
    obtain ⟨line, -, rfl⟩ := List.mem_map.mp hLine
    simp [isFlush_indentedLine hWidth]
  rw [Text.firstLine, splitLines_itemText h.newline_not_mem, hBody, itemLines,
    List.filter_cons_of_pos (isFlush_markedLine h first), hRest, List.headD_cons]

theorem read?_firstLine_itemText {marker : Text} {head : Head} (h : head.ShownBy marker)
    (width : Nat) (body : Text) :
    Head.read? (itemText width marker body).firstLine = some head := by
  obtain ⟨first, rest, hBody⟩ := List.exists_cons_of_ne_nil (Text.splitLines_ne_nil body)
  rw [Text.firstLine, splitLines_itemText h.newline_not_mem, hBody, itemLines, List.headD_cons]
  unfold markedLine
  split
  · have hRead : Head.read? (marker ++ []) = some head := h.read? rfl
    rwa [List.append_nil] at hRead
  · exact h.read? rfl

def Region.flushLines (r : Region) : List Text :=
  r.lines.flatMap fun l => l.text.splitLines.filter Text.isFlush

namespace Region

theorem flushLines_eq (r : Region) : r.text.splitLines.filter Text.isFlush = r.flushLines := by
  cases hLines : r.lines with
  | nil => simp [text, flushLines, hLines, Text.joinLines, Text.isFlush]
  | cons l rest =>
    rw [splitLines_text (by simp [hLines]), List.filter_flatMap]
    rfl

theorem flushLines_append (r s : Region) : (r ++ s).flushLines = r.flushLines ++ s.flushLines := by
  simp [flushLines]

theorem flushLines_ofText (t : Text) :
    (ofText t).flushLines = t.splitLines.filter Text.isFlush := by
  rw [← flushLines_eq, text_ofText]

theorem flushLines_gap (before : List Block) (tight : Bool) :
    (Writer.gap before tight).flushLines = [] := by
  unfold Writer.gap
  split <;> rfl

end Region

/-! ## The flush lines of a list -/

namespace Placement

theorem width_pos (p : Placement) (o : Options) : 0 < p.width o := Nat.succ_pos _

theorem flush_itemTexts (p : Placement) (o : Options) (bodies : List Text) :
    (p.itemTexts o bodies).flatMap (fun t => t.splitLines.filter Text.isFlush) =
      (p.itemTexts o bodies).map Text.firstLine := by
  have hTexts : ∀ ms : List Text, (∀ m ∈ ms, ∃ head : Head, head.ShownBy m) → ∀ bodies : List Text,
      (List.zipWith (itemText (p.width o)) ms bodies).flatMap (fun t => t.splitLines.filter Text.isFlush) =
        (List.zipWith (itemText (p.width o)) ms bodies).map Text.firstLine := by
    intro ms hShown
    induction ms with
    | nil => simp
    | cons m ms ih =>
      intro bodies
      cases bodies with
      | nil => rfl
      | cons body bodies =>
        obtain ⟨head, hHead⟩ := hShown m List.mem_cons_self
        rw [List.zipWith_cons_cons, List.flatMap_cons, List.map_cons,
          flush_itemText hHead (p.width_pos o), ih (fun m hm => hShown m (List.mem_cons_of_mem _ hm)),
          List.singleton_append]
  exact hTexts _ (fun _ => exists_shownBy) bodies

theorem read?_itemTexts (p : Placement) (o : Options) {bodies : List Text}
    (hLength : bodies.length = p.items.length) :
    (p.itemTexts o bodies).map (fun t => Head.read? t.firstLine) = (p.heads o).map some := by
  have hTexts {ms : List Text} {heads : List Head} (hShown : List.Forall₂ Head.ShownBy ms heads) :
      ∀ bodies : List Text, bodies.length = ms.length →
        (List.zipWith (itemText (p.width o)) ms bodies).map (fun t => Head.read? t.firstLine) =
          heads.map some := by
    induction hShown with
    | nil => simp
    | cons hHead _ ih =>
      intro bodies hBodies
      cases bodies with
      | nil => cases hBodies
      | cons body bodies =>
        simp only [List.zipWith_cons_cons, List.map_cons]
        rw [read?_firstLine_itemText hHead, ih bodies (Nat.succ.inj hBodies)]
  exact hTexts (p.shownBy_heads o) bodies (by rw [hLength, length_itemMarkers])

/-- Of the text of a list, the first line of each item is flush and nothing else is. -/
theorem flush_text (p : Placement) (o : Options) {bodies : List Text}
    (hLength : bodies.length = p.items.length) (hItems : p.items ≠ []) :
    (p.text o bodies).splitLines.filter Text.isFlush = (p.itemTexts o bodies).map Text.firstLine := by
  have hGap : (gapLines p.items).filter Text.isFlush = [] := by
    unfold gapLines
    split <;> rfl
  rw [p.splitLines_text o hLength hItems,
    Text.apply_intercalate List.filter_nil (fun _ _ => List.filter_append _ _), hGap,
    Text.intercalate_nil_left, List.map_map, ← List.flatMap_def, ← flush_itemTexts]
  rfl

end Placement

/-! ## Neighbouring lists -/

namespace Block

def isFilledList : Block → Bool
  | .list _ items => !items.isEmpty
  | _ => false

def itemTexts (o : Options) (before : List Block) : Block → List Text
  | .list kind items =>
    (Placement.mk before kind items).itemTexts o (bodies o (isTight items) items)
  | _ => []

def itemTextsAll (o : Options) (before : List Block) : List Block → List Text
  | [] => []
  | b :: rest => b.itemTexts o before ++ itemTextsAll o (b :: before) rest

def headGroups (o : Options) (before : List Block) : List Block → List (List Head)
  | [] => []
  | b :: rest =>
    (match b with
      | .list kind items => (Placement.mk before kind items).heads o
      | _ => []) :: headGroups o (b :: before) rest

/-- Whether a group of item heads shows the list: one head for each item, all of the list's family, and
the first of an ordered list with the number that the list starts with. -/
def ShownBy (heads : List Head) : Block → Prop
  | .list kind items =>
    heads.length = items.length ∧
      match kind with
      | .bullet => ∀ h ∈ heads, ∃ b, h = .bullet b
      | .ordered start => (∀ h ∈ heads, ∃ n suffix, h = .ordered n suffix) ∧
          ∃ suffix, heads.head? = some (.ordered (start.getD 1).toNat suffix)
  | _ => False

variable {blocks : List Block}

theorem isFilledList_iff (b : Block) :
    b.isFilledList = true ↔ ∃ kind items, b = .list kind items ∧ items ≠ [] := by
  cases b <;> simp [isFilledList]

theorem flushLines_regionAll (o : Options) (before : List Block) (tight : Bool)
    (h : ∀ b ∈ blocks, b.isFilledList = true) :
    (regionAll o before tight blocks).flushLines =
      (itemTextsAll o before blocks).map Text.firstLine := by
  induction blocks generalizing before with
  | nil => rfl
  | cons b rest ih =>
    obtain ⟨kind, items, rfl, hItems⟩ := (isFilledList_iff b).mp (h b List.mem_cons_self)
    have hRest := ih (.list kind items :: before) fun b hb => h b (List.mem_cons_of_mem _ hb)
    rw [regionAll, Region.flushLines_append, Region.flushLines_append, Region.flushLines_gap,
      List.nil_append, hRest, region, Region.flushLines_ofText, itemTextsAll, List.map_append]
    congr 1
    exact Placement.flush_text _ o (by simp [bodies_eq_map]) hItems

theorem read?_itemTextsAll (o : Options) (before : List Block)
    (h : ∀ b ∈ blocks, b.isFilledList = true) :
    (itemTextsAll o before blocks).map (fun t => Head.read? t.firstLine) =
      (headGroups o before blocks).flatten.map some := by
  induction blocks generalizing before with
  | nil => rfl
  | cons b rest ih =>
    obtain ⟨kind, items, rfl, hItems⟩ := (isFilledList_iff b).mp (h b List.mem_cons_self)
    have hRest := ih (.list kind items :: before) fun b hb => h b (List.mem_cons_of_mem _ hb)
    rw [itemTextsAll, headGroups, List.map_append, hRest, List.flatten_cons, List.map_append]
    congr 1
    exact Placement.read?_itemTexts _ o (by simp [bodies_eq_map])

theorem shownBy_heads (o : Options) (before : List Block) {kind : ListKind}
    {items : List (List Block)} (hItems : items ≠ []) :
    ShownBy ((Placement.mk before kind items).heads o) (.list kind items) := by
  refine ⟨Placement.length_heads _ o, ?_⟩
  cases kind with
  | bullet => exact fun h hMem => ⟨_, List.eq_of_mem_replicate hMem⟩
  | ordered start =>
    refine ⟨fun h hMem => ?_, (Placement.mk before (.ordered start) items).suffix o, ?_⟩
    · obtain ⟨n, -, rfl⟩ := List.mem_map.mp hMem
      exact ⟨n, _, rfl⟩
    · have hStart : (start.getD 1).toNat ≤ Numbering.greatest :=
        Nat.le_sub_one_of_lt (start.getD 1).toNat_lt
      rw [Placement.heads, List.head?_map,
        Numbering.head?_numbers hStart (List.length_pos_iff.mpr hItems)]
      rfl

theorem shownBy_headGroups (o : Options) (before : List Block)
    (h : ∀ b ∈ blocks, b.isFilledList = true) :
    List.Forall₂ ShownBy (headGroups o before blocks) blocks := by
  induction blocks generalizing before with
  | nil => exact .nil
  | cons b rest ih =>
    obtain ⟨kind, items, rfl, hItems⟩ := (isFilledList_iff b).mp (h b List.mem_cons_self)
    exact .cons (shownBy_heads o before hItems) (ih _ fun b hb => h b (List.mem_cons_of_mem _ hb))

/-- Grouping the heads of neighbouring lists by their markers gives the lists back. -/
theorem splitBy_headGroups (o : Options) (before : List Block)
    (h : ∀ b ∈ blocks, b.isFilledList = true) :
    (headGroups o before blocks).flatten.splitBy Head.sameMarker = headGroups o before blocks := by
  induction blocks generalizing before with
  | nil => rfl
  | cons b rest ih =>
    obtain ⟨kind, items, rfl, hItems⟩ := (isFilledList_iff b).mp (h b List.mem_cons_self)
    have hRest := ih (.list kind items :: before) fun b hb => h b (List.mem_cons_of_mem _ hb)
    have hHeads := Placement.heads_ne_nil (p := ⟨before, kind, items⟩) (o := o) hItems
    have hAlike : ((Placement.mk before kind items).heads o).IsChain
        fun x y => Head.sameMarker x y = true :=
      (List.pairwise_of_forall_mem_list fun _ ha _ hb =>
        Placement.sameMarker_of_mem_heads ha hb).isChain
    rw [headGroups, List.flatten_cons, List.splitBy_append, hRest,
      List.splitBy_of_isChain hHeads hAlike, List.singleton_append]
    intro x hx y hy
    cases rest with
    | nil => cases hy
    | cons b' rest =>
      obtain ⟨kind', items', rfl, hItems'⟩ :=
        (isFilledList_iff b').mp (h b' (List.mem_cons_of_mem _ List.mem_cons_self))
      have hHeads' : (Placement.mk (.list kind items :: before) kind' items').heads o ≠ [] :=
        Placement.heads_ne_nil hItems'
      rw [headGroups, List.flatten_cons, List.head?_append_of_ne_nil _ hHeads'] at hy
      exact Placement.sameMarker_next (List.mem_of_getLast? hx) (List.mem_of_head? hy)

end Block

variable {ω ε : Type}

/-- In the text of neighbouring lists with at least one item each, the flush lines are the first lines of the
items. Read as heads and grouped by their markers, they show the lists. -/
theorem Block.boundaries_renderAll (w : World ω) (tight : Bool) {blocks : List Block}
    (h : ∀ b ∈ blocks, b.isFilledList = true) :
    ∃ r : Region, (Block.renderAll [] tight blocks : Render ω ε Region) w = (.ok r, w) ∧
      r.text.splitLines.filter Text.isFlush =
        (itemTextsAll w.context.options [] blocks).map Text.firstLine ∧
      ∃ heads : List Head,
        (r.text.splitLines.filter Text.isFlush).map Head.read? = heads.map some ∧
        List.Forall₂ Block.ShownBy (heads.splitBy Head.sameMarker) blocks := by
  let o := w.context.options
  refine ⟨regionAll o [] tight blocks, ?_, ?_, (headGroups o [] blocks).flatten, ?_, ?_⟩
  · simpa using runs_renderAll [] tight blocks w
  · rw [Region.flushLines_eq, flushLines_regionAll o [] tight h]
  · rw [Region.flushLines_eq, flushLines_regionAll o [] tight h, List.map_map]
    exact read?_itemTextsAll o [] h
  · rw [splitBy_headGroups o [] h]
    exact shownBy_headGroups o [] h

/-- Two bullet lists, of which the first holds a list, and a list of numbers that grow a digit. -/
def threeLists : List Block :=
  [.list .bullet [[.paragraph true [.text ['a']], .list .bullet [[.paragraph true [.text ['b']]]]], []],
    .list .bullet [[.paragraph true [.text ['c']]]],
    .list (.ordered (some 9)) [[.paragraph true [.text ['d']]], [.rule]]]

theorem boundaries_renderAll_threeLists :
    (∀ b ∈ threeLists, b.isFilledList = true) ∧
      ∃ r : Region, (Block.renderAll [] true threeLists : Render Unit Empty Region) ⟨{}, []⟩ =
          (.ok r, ⟨{}, []⟩) ∧
        r.text.splitLines.filter Text.isFlush =
          (Block.itemTextsAll {} [] threeLists).map Text.firstLine ∧
        ∃ heads : List Head,
          (r.text.splitLines.filter Text.isFlush).map Head.read? = heads.map some ∧
          List.Forall₂ Block.ShownBy (heads.splitBy Head.sameMarker) threeLists :=
  have hFilled : ∀ b ∈ threeLists, b.isFilledList = true := by decide
  ⟨hFilled, Block.boundaries_renderAll ⟨{}, []⟩ true hFilled⟩

end MarkdownLists
