import MarkdownLists.Proofs.Listing.Boundaries
import MarkdownLists.Proofs.Writer.Quote
import MarkdownLists.Proofs.Writer.Sequence
import Mathlib.Algebra.BigOperators.Group.List.Basic
import Mathlib.Algebra.GroupWithZero.Nat

/-! # Blank lines

A list has blank lines between its items and between the blocks in an item if it is loose, and neither if it is
tight. All other blank lines of its text come from within the blocks. Where a tight list has two quotes side by
side in an item, nothing keeps them apart.
-/

namespace MarkdownLists
set_option autoImplicit false

open Listing

namespace Text

def emptyLines (t : Text) : Nat := t.splitLines.count []

theorem count_intercalate {α : Type} [BEq α] (a : α) (separator : List α) (xs : List (List α)) :
    (separator.intercalate xs).count a =
      (xs.map (List.count a)).sum + (xs.length - 1) * separator.count a := by
  induction xs with
  | nil => simp
  | cons x rest ih =>
    cases rest with
    | nil => simp
    | cons y rest =>
      rw [List.intercalate_cons_cons, List.count_append, List.count_append, ih]
      simp only [List.map_cons, List.sum_cons, List.length_cons, Nat.add_sub_cancel, Nat.add_mul, Nat.one_mul]
      omega

end Text

/-! ## Blocks in a sequence -/

namespace Block

variable (o : Options)

/-- The regions of siblings, each in its place. -/
def regions (before : List Block) : List Block → List Region
  | [] => []
  | b :: rest => b.region o before :: regions (b :: before) rest

@[simp] theorem length_regions (before blocks : List Block) : (regions o before blocks).length = blocks.length := by
  induction blocks generalizing before with
  | nil => rfl
  | cons b rest ih => rw [regions, List.length_cons, List.length_cons, ih]

theorem getElem?_regions (before blocks : List Block) (i : Nat) :
    (regions o before blocks)[i]? =
      blocks[i]?.map fun b => b.region o ((blocks.take i).reverse ++ before) := by
  induction blocks generalizing before i with
  | nil => rfl
  | cons b rest ih =>
    cases i with
    | zero => rfl
    | succ i =>
      rw [regions, List.getElem?_cons_succ, ih, List.getElem?_cons_succ, List.take_succ_cons, List.reverse_cons,
        List.append_assoc]
      rfl

theorem lines_regionAll_cons (before : List Block) (tight : Bool) (b : Block) (rest : List Block) :
    (regionAll o before tight (b :: rest)).lines = (Writer.gap before tight).lines ++
      (if tight then [] else [Line.empty]).intercalate ((regions o before (b :: rest)).map Region.lines) := by
  induction rest generalizing before b with
  | nil => simp [regionAll, regions, Region.empty]
  | cons c rest ih =>
    have hGap : (Writer.gap (b :: before) tight).lines = if tight then [] else [Line.empty] := by
      cases tight <;> rfl
    rw [regionAll, Region.lines_append, Region.lines_append, ih, hGap]
    simp only [regions, List.map_cons, List.intercalate_cons_cons, List.append_assoc]

theorem splitLines_regionAll (tight : Bool) {blocks : List Block} (hBlocks : blocks ≠ [])
    (h : ∀ r ∈ regions o [] blocks, r.lines ≠ []) :
    (regionAll o [] tight blocks).text.splitLines =
      (if tight then [] else [[]]).intercalate ((regions o [] blocks).map fun r => r.text.splitLines) := by
  obtain ⟨b, rest, rfl⟩ := List.exists_cons_of_ne_nil hBlocks
  have hLines := lines_regionAll_cons o [] tight b rest
  have hNonempty : (regionAll o [] tight (b :: rest)).lines ≠ [] := by
    rw [regionAll, Region.lines_append, Region.lines_append]
    simp [h (b.region o []) List.mem_cons_self]
  have hGap : (if tight then [] else [Line.empty]).flatMap (fun l : Line => l.text.splitLines) =
      if tight then [] else [[]] := by
    cases tight <;> rfl
  have hNoGap : (Writer.gap [] tight).lines = [] := rfl
  rw [Region.splitLines_text hNonempty, hLines, hNoGap, List.nil_append, Text.apply_intercalate List.flatMap_nil
    (fun _ _ => List.flatMap_append), hGap, List.map_map]
  congr 1
  refine List.map_congr_left fun r hr => ?_
  rw [Region.splitLines_text (h r hr)]
  rfl

end Block

/-! ## Empty lines -/

theorem count_map_indentedLine (width : Nat) (lines : List Text) :
    (lines.map (indentedLine width)).count [] = lines.count [] := by
  rw [List.count_eq_countP, List.count_eq_countP, List.countP_map]
  refine List.countP_congr fun line _ => ?_
  rw [Function.comp, beq_iff_eq, beq_iff_eq, ← List.isEmpty_iff, isEmpty_indentedLine, List.isEmpty_iff]

/-- Behind a marker only the first line of a body stops being empty. -/
theorem emptyLines_itemText {marker : Text} (hMarker : marker ≠ []) (hNewline : '\n' ∉ marker) (width : Nat)
    (body : Text) : (itemText width marker body).emptyLines = body.splitLines.tail.count [] := by
  obtain ⟨first, rest, hBody⟩ := List.exists_cons_of_ne_nil (Text.splitLines_ne_nil body)
  have hMarked : markedLine marker first ≠ [] := by
    rw [ne_eq, ← List.isEmpty_iff, isEmpty_markedLine hMarker]
    exact Bool.false_ne_true
  rw [Text.emptyLines, splitLines_itemText hNewline, hBody, itemLines, List.count_cons_of_ne hMarked,
    count_map_indentedLine, List.tail_cons]

namespace Placement

theorem length_itemTexts (p : Placement) (o : Options) {bodies : List Text}
    (hLength : bodies.length = p.items.length) : (p.itemTexts o bodies).length = p.items.length := by
  rw [itemTexts, List.length_zipWith, length_itemMarkers, hLength, Nat.min_self]

theorem emptyLines_itemTexts (p : Placement) (o : Options) {bodies : List Text}
    (hLength : bodies.length = p.items.length) :
    (p.itemTexts o bodies).map Text.emptyLines = bodies.map fun body => body.splitLines.tail.count [] := by
  apply List.ext_getElem
  · rw [List.length_map, List.length_map, p.length_itemTexts o hLength, hLength]
  · intro i hText hBody
    have hIndex : i < (p.itemMarkers o).length := by
      rwa [length_itemMarkers, ← hLength, ← List.length_map]
    have hMarker := List.getElem_mem hIndex
    rw [List.getElem_map, List.getElem_map]
    simp only [itemTexts, List.getElem_zipWith]
    exact emptyLines_itemText (ne_nil_of_mem_itemMarkers hMarker) (newline_not_mem_of_mem_itemMarkers hMarker) _ _

theorem emptyLines_text (p : Placement) (o : Options) {bodies : List Text}
    (hLength : bodies.length = p.items.length) (hItems : p.items ≠ []) :
    (p.text o bodies).emptyLines = (bodies.map fun body => body.splitLines.tail.count []).sum +
      (p.items.length - 1) * (gapLines p.items).count [] := by
  rw [Text.emptyLines, p.splitLines_text o hLength hItems, Text.count_intercalate, List.length_map,
    p.length_itemTexts o hLength, List.map_map, ← p.emptyLines_itemTexts o hLength]
  rfl

end Placement

namespace Block

variable (o : Options)

theorem lines_ne_nil_of_firstLine {r : Region} (h : r.text.firstLine ≠ []) : r.lines ≠ [] := by
  intro hLines
  refine h ?_
  rw [Region.text, hLines]
  rfl

/-- Below its first line, an item has the empty lines of its blocks and one for each gap between them. -/
theorem emptyLines_body (tight : Bool) {children : List Block}
    (h : ∀ r ∈ regions o [] children, r.text.firstLine ≠ []) :
    (regionAll o [] tight children).text.splitLines.tail.count [] =
      ((regions o [] children).map fun r => r.text.emptyLines).sum +
        (children.length - 1) * (if tight then 0 else 1) := by
  cases children with
  | nil =>
    rw [List.length_nil, Nat.zero_sub, Nat.zero_mul]
    rfl
  | cons b rest =>
    have hLines := splitLines_regionAll o tight (List.cons_ne_nil b rest)
      fun r hr => lines_ne_nil_of_firstLine (h r hr)
    have hHead : (regionAll o [] tight (b :: rest)).text.splitLines.head? ≠ some [] := by
      rw [hLines, regions, List.map_cons, Text.head?_intercalate (Text.splitLines_ne_nil _)]
      intro hSome
      refine h (b.region o []) List.mem_cons_self ?_
      rw [Text.firstLine, List.headD_eq_head?_getD, hSome]
      rfl
    have hGap : (if tight then [] else [[]] : List Text).count [] = if tight then 0 else 1 := by
      cases tight <;> rfl
    rw [List.count_tail, if_neg (by simpa using hHead), Nat.sub_zero, hLines, Text.count_intercalate, hGap,
      List.length_map, length_regions, List.map_map]
    rfl

variable {kind : ListKind} {items : List (List Block)}

/-- The empty lines of a list are those of the blocks in its items, and one for each gap between two items or
two blocks if it is loose. -/
theorem emptyLines_region (before : List Block) (hItems : items ≠ [])
    (h : ∀ children ∈ items, ∀ r ∈ regions o [] children, r.text.firstLine ≠ []) :
    ((list kind items).region o before).text.emptyLines =
      (items.map fun children => ((regions o [] children).map fun r => r.text.emptyLines).sum).sum +
        if isTight items then 0
        else (items.length - 1) + (items.map fun children => children.length - 1).sum := by
  have hGap : (gapLines items).count [] = if isTight items then 0 else 1 := by
    unfold gapLines
    split <;> rfl
  have hBodies : (bodies o (isTight items) items).map (fun body => body.splitLines.tail.count []) =
      items.map fun children => ((regions o [] children).map fun r => r.text.emptyLines).sum +
        (children.length - 1) * (if isTight items then 0 else 1) := by
    rw [bodies_eq_map, List.map_map]
    exact List.map_congr_left fun children hChildren => emptyLines_body o (isTight items) (h children hChildren)
  rw [region, Region.text_ofText, Placement.emptyLines_text _ o (by simp [bodies_eq_map]) hItems, hBodies, hGap,
    List.sum_map_add]
  split
  · simp
  · simp
    omega

/-! ## Compact lists -/

mutual
/-- Tight lists with items, down to blocks that are written without empty lines. -/
def IsCompact : Block → Prop
  | .list _ items => items ≠ [] ∧ isTight items = true ∧ IsCompactItems items
  | b => [] ∉ (b.region o []).text.splitLines

def IsCompactAll : List Block → Prop
  | [] => True
  | b :: rest => b.IsCompact ∧ IsCompactAll rest

def IsCompactItems : List (List Block) → Prop
  | [] => True
  | children :: rest => IsCompactAll children ∧ IsCompactItems rest
end

mutual
theorem nil_not_mem_of_isCompact (before : List Block) (b : Block) (h : b.IsCompact o) :
    [] ∉ (b.region o before).text.splitLines := by
  cases b with
  | list kind items =>
    obtain ⟨hItems, hTight, hCompact⟩ := h
    have hRegions := nil_not_mem_of_isCompactItems items hCompact
    have hFirst : ∀ children ∈ items, ∀ r ∈ regions o [] children, r.text.firstLine ≠ [] := by
      intro children hChildren r hr hFirst
      exact hRegions children hChildren r hr (hFirst ▸ Text.firstLine_mem r.text)
    have hNone : ∀ n ∈ items.map fun children =>
        ((regions o [] children).map fun r => r.text.emptyLines).sum, n = 0 := by
      intro n hn
      obtain ⟨children, hChildren, rfl⟩ := List.mem_map.mp hn
      refine List.sum_eq_zero fun m hm => ?_
      obtain ⟨r, hr, rfl⟩ := List.mem_map.mp hm
      exact List.count_eq_zero.mpr (hRegions children hChildren r hr)
    rw [← List.count_eq_zero]
    change (region o before (list kind items)).text.emptyLines = 0
    rw [emptyLines_region o before hItems hFirst, hTight, List.sum_eq_zero hNone]
    rfl
  | _ => exact h

theorem nil_not_mem_of_isCompactAll (before blocks : List Block) (h : IsCompactAll o blocks) :
    ∀ r ∈ regions o before blocks, [] ∉ r.text.splitLines := by
  cases blocks with
  | nil => exact nofun
  | cons b rest =>
    obtain ⟨hFirst, hRest⟩ := h
    exact List.forall_mem_cons.mpr
      ⟨nil_not_mem_of_isCompact before b hFirst, nil_not_mem_of_isCompactAll (b :: before) rest hRest⟩

theorem nil_not_mem_of_isCompactItems (items : List (List Block)) (h : IsCompactItems o items) :
    ∀ children ∈ items, ∀ r ∈ regions o [] children, [] ∉ r.text.splitLines := by
  cases items with
  | nil => exact nofun
  | cons children rest =>
    obtain ⟨hFirst, hRest⟩ := h
    exact List.forall_mem_cons.mpr
      ⟨nil_not_mem_of_isCompactAll [] children hFirst, nil_not_mem_of_isCompactItems rest hRest⟩
end

variable {ω ε : Type}

theorem renderAt_of_getElem?_regions (w : World ω) {blocks : List Block} {i : Nat} {r : Region}
    (h : (regions w.context.options [] blocks)[i]? = some r) :
    (renderAt blocks i : Render ω ε Region) w = (.ok r, w) := by
  rw [getElem?_regions, List.append_nil] at h
  obtain ⟨b, hb, rfl⟩ := Option.map_eq_some_iff.mp h
  rw [renderAt, hb]
  simpa using runs_render (blocks.take i).reverse b w

/-- Where no block in the items of a list begins with an empty line, the empty lines of the list are those of the
blocks, and as many as there are neighbours among the items and among the blocks of an item if some item directly
holds a paragraph that is not hidden. A list that is tight at every depth has none beyond those within its other
blocks. -/
theorem emptyLines_render (w : World ω) (before : List Block) (hItems : items ≠ [])
    (hFirst : ∀ children ∈ items, ∀ r ∈ regions w.context.options [] children, r.text.firstLine ≠ []) :
    (∀ children ∈ items, ∀ i r, (regions w.context.options [] children)[i]? = some r →
      (renderAt children i : Render ω ε Region) w = (.ok r, w)) ∧
    ∃ r : Region, ((list kind items).render before : Render ω ε Region) w = (.ok r, w) ∧
      r.text.emptyLines = (items.map fun children =>
          ((regions w.context.options [] children).map fun r => r.text.emptyLines).sum).sum +
        (if ∃ children ∈ items, ∃ b ∈ children, b.isShownParagraph = true then
          (items.length - 1) + (items.map fun children => children.length - 1).sum
        else 0) ∧
      ((list kind items).IsCompact w.context.options → r.text.emptyLines = 0) := by
  let o := w.context.options
  refine ⟨fun children _ i r => renderAt_of_getElem?_regions w, (list kind items).region o before, ?_, ?_, ?_⟩
  · simpa using runs_render before (list kind items) w
  · rw [emptyLines_region o before hItems hFirst]
    by_cases hTight : isTight items = true
    · have hHidden : ¬ ∃ children ∈ items, ∃ b ∈ children, b.isShownParagraph = true := by
        rw [← isTight_eq_false_iff, hTight]
        decide
      rw [if_pos hTight, if_neg hHidden]
    · have hShown := isTight_eq_false_iff.mp (Bool.not_eq_true _ ▸ hTight)
      rw [if_neg hTight, if_pos hShown]
  · intro hCompact
    exact List.count_eq_zero.mpr (nil_not_mem_of_isCompact o before _ hCompact)

/-- A loose list whose items hold a tight list, nothing, and code with an empty line. -/
def mixedSpacing : List (List Block) :=
  [[.paragraph false [.text ['a']], .list .bullet [[.paragraph true [.text ['b']]], [.rule]]], [],
    [.code (some []) ['c', '\n', '\n', 'd', '\n']]]

theorem emptyLines_render_mixedSpacing :
    mixedSpacing ≠ [] ∧
    (∀ children ∈ mixedSpacing, ∀ r ∈ regions {} [] children, r.text.firstLine ≠ []) ∧
    ∃ r : Region,
      ((list .bullet mixedSpacing).render [] : Render Unit Empty Region) ⟨{}, []⟩ = (.ok r, ⟨{}, []⟩) ∧
      r.text.emptyLines = 4 := by
  have hItems : mixedSpacing ≠ [] := List.cons_ne_nil _ _
  have hFirst : ∀ children ∈ mixedSpacing, ∀ r ∈ regions {} [] children, r.text.firstLine ≠ [] := by decide
  obtain ⟨-, r, hRender, hCount, -⟩ :=
    @emptyLines_render .bullet mixedSpacing Unit Empty ⟨{}, []⟩ [] hItems hFirst
  exact ⟨hItems, hFirst, r, hRender, hCount.trans (by decide)⟩

/-! ## Neighbouring quotes -/

theorem lines_quoteRegion_ne_nil (r : Region) : (Writer.quoteRegion r).lines ≠ [] := by
  obtain ⟨lines⟩ := r
  cases lines <;> exact List.cons_ne_nil _ _

/-- Where the lines of two neighbours stand among those of their siblings, and what is between them. -/
theorem exists_lines_regionAll_pair (tight : Bool) (front : List Block) (b c : Block) (back : List Block) :
    ∃ before after, (regionAll o [] tight (front ++ [b])).lines = before ++ (b.region o front.reverse).lines ∧
      (regionAll o [] tight (front ++ b :: c :: back)).lines =
        before ++ (b.region o front.reverse).lines ++ (if tight then [] else [Line.empty]) ++
          (c.region o (b :: front.reverse)).lines ++ after := by
  have hGap : (Writer.gap (b :: front.reverse) tight).lines = if tight then [] else [Line.empty] := by
    cases tight <;> rfl
  refine ⟨(regionAll o [] tight front).lines ++ (Writer.gap front.reverse tight).lines,
    (regionAll o (c :: b :: front.reverse) tight back).lines, ?_, ?_⟩
  · simp [lines_regionAll_append, regionAll, Region.empty]
  · rw [lines_regionAll_append, List.append_nil, regionAll, regionAll]
    simp only [Region.lines_append, hGap, List.append_assoc]

/-- Between two neighbouring quotes in an item there is a line without a quote mark exactly if some item of the list
directly holds a paragraph that is not hidden. -/
theorem quotes_apart_iff (w : World ω) {i : Nat} {front back a b : List Block}
    (hItem : items[i]? = some (front ++ quote a :: quote b :: back)) :
    let o := w.context.options
    let tight := isTight items
    let first := (quote a).region o front.reverse
    let second := (quote b).region o (quote a :: front.reverse)
    ∃ (body : Render ω ε Text) (r : Region) (before between after : List Line),
      (renderItems tight items)[i]? = some body ∧ body w = (.ok r.text, w) ∧
      (regionAll o [] tight (front ++ [quote a])).lines = before ++ first.lines ∧
      r.lines = before ++ first.lines ++ between ++ second.lines ++ after ∧
      first.lines ≠ [] ∧ second.lines ≠ [] ∧
      (∀ l ∈ first.lines ++ second.lines, l.text.head? = some '>') ∧
      ((∃ l ∈ between, l.text.head? ≠ some '>') ↔
        ∃ children ∈ items, ∃ p ∈ children, p.isShownParagraph = true) := by
  intro o tight first second
  obtain ⟨before, after, hFirst, hLines⟩ :=
    exists_lines_regionAll_pair o tight front (quote a) (quote b) back
  have hBody := runs_renderBody (ω := ω) (ε := ε) tight items _ (List.mem_of_getElem? hItem)
  refine ⟨renderBody tight (front ++ quote a :: quote b :: back), _, before, _, after, ?_, ?_, hFirst, hLines,
    lines_quoteRegion_ne_nil _, lines_quoteRegion_ne_nil _, ?_, ?_⟩
  · rw [renderItems_eq_map, List.getElem?_map, hItem]
    rfl
  · simpa using hBody w
  · intro l hl
    rcases List.mem_append.mp hl with hl | hl <;> exact Writer.head?_quoteRegion hl
  · rw [← isTight_eq_false_iff]
    change _ ↔ tight = false
    cases tight <;> simp

/-- An item with a quote, a paragraph that is not hidden, and two more quotes. -/
def quotedItem : List Block :=
  [.quote [.paragraph false [.text ['a']]], .paragraph false [.text ['b']]] ++
    .quote [] :: .quote [.list .bullet [[]]] :: []

theorem quotes_apart_iff_quotedItem :
    [[], quotedItem][1]? = some quotedItem ∧
    ∃ (body : Render Unit Empty Text) (r : Region) (before between after : List Line),
      (renderItems false [[], quotedItem])[1]? = some body ∧ body ⟨{}, []⟩ = (.ok r.text, ⟨{}, []⟩) ∧
      r.lines = before ++ ((quote []).region {} (quotedItem.take 2).reverse).lines ++ between ++
        ((quote [.list .bullet [[]]]).region {} (quotedItem.take 3).reverse).lines ++ after ∧
      ∃ l ∈ between, l.text.head? ≠ some '>' := by
  have hItem : [[], quotedItem][1]? = some quotedItem := rfl
  obtain ⟨body, r, before, between, after, hBody, hRun, -, hLines, -, -, -, hApart⟩ :=
    quotes_apart_iff (ω := Unit) (ε := Empty) ⟨{}, []⟩ hItem
  exact ⟨hItem, body, r, before, between, after, hBody, hRun, hLines, hApart.mpr (by decide)⟩

/-- In a list without a paragraph of its own, two quotes are written as one. -/
theorem not_quotes_apart : ¬ ∀ (o : Options) (items : List (List Block)), ∀ children ∈ items,
    ∀ front a b back, children = front ++ quote a :: quote b :: back → ∀ before between after,
      (regionAll o [] (isTight items) (front ++ [quote a])).lines =
        before ++ ((quote a).region o front.reverse).lines →
      (regionAll o [] (isTight items) children).lines =
        before ++ ((quote a).region o front.reverse).lines ++ between ++
          ((quote b).region o (quote a :: front.reverse)).lines ++ after →
      ∃ l ∈ between, l.text.head? ≠ some '>' := by
  intro h
  obtain ⟨l, hl, -⟩ := h {} [[.quote [.paragraph false [.text ['a']]], .quote [.paragraph false [.text ['b']]]]] _
    List.mem_cons_self [] _ _ [] rfl [] [] [] (by decide) (by decide)
  cases hl

end Block

end MarkdownLists
