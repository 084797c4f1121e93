import MarkdownLists.Proofs.Listing.Layout
import MarkdownLists.Writer.Blocks

/-! # What the writing of blocks gives

Writing blocks never fails. The regions depend on the blocks and the options alone: neither the
indentation nor the depth at which they are written shows in them, and both are left as they were.
-/

namespace MarkdownLists
set_option autoImplicit false

namespace Writer

def gap (before : List Block) (tight : Bool) : Region :=
  if before.isEmpty || tight then .empty else ⟨[Line.empty]⟩

end Writer

mutual
/-- The region of a block that stands after the siblings `before`, the nearest first. -/
def Block.region (o : Options) (before : List Block) : Block → Region
  | .paragraph _ content => Inline.region content
  | .heading level content => Writer.headingRegion level content
  | .code info content => Writer.codeRegion info content
  | .html content => Writer.htmlRegion content
  | .quote children => Writer.quoteRegion (Block.regionAll o [] false children)
  | .list kind items =>
    .ofText ((Placement.mk before kind items).text o (Block.bodies o (Listing.isTight items) items))
  | .rule => Writer.ruleRegion

def Block.regionAll (o : Options) (before : List Block) (tight : Bool) : List Block → Region
  | [] => .empty
  | b :: rest =>
    Writer.gap before tight ++ b.region o before ++ Block.regionAll o (b :: before) tight rest

def Block.bodies (o : Options) (tight : Bool) : List (List Block) → List Text
  | [] => []
  | children :: rest => (Block.regionAll o [] tight children).text :: Block.bodies o tight rest
end

variable {ω ε : Type}

def Block.renderBody (tight : Bool) (children : List Block) : Render ω ε Text := do
  return (← Block.renderAll [] tight children).text

theorem Block.renderItems_eq_map (tight : Bool) (items : List (List Block)) :
    (Block.renderItems tight items : List (Render ω ε Text)) = items.map (Block.renderBody tight) := by
  induction items with
  | nil => rfl
  | cons children rest ih => rw [Block.renderItems, ih]; rfl

theorem Block.bodies_eq_map (o : Options) (tight : Bool) (items : List (List Block)) :
    Block.bodies o tight items = items.map fun children => (Block.regionAll o [] tight children).text := by
  induction items with
  | nil => rfl
  | cons children rest ih => rw [Block.bodies, ih]; rfl

mutual
theorem Block.runs_render (before : List Block) (b : Block) :
    (b.render before : Render ω ε Region).Runs (fun c => b.region c.options before) fun _ => [] := by
  cases b with
  | paragraph hidden content => exact .pure _
  | heading level content => exact .pure _
  | code info content => exact .pure _
  | html content => exact .pure _
  | quote children => exact (Block.runs_renderAll [] false children).map Writer.quoteRegion
  | list kind items =>
    have hBodies := Block.runs_renderBody (Listing.isTight items) items
    have hList := (Placement.mk before kind items).runs_render hBodies rfl
    have hLogged : items.flatMap (fun _ => ([] : List ω)) = [] := by simp
    simpa [Block.render, Block.region, Block.renderItems_eq_map, Block.bodies_eq_map, Placement.inner,
      Context.enter, hLogged] using hList.map Region.ofText
  | rule => exact .pure _

theorem Block.runs_renderAll (before : List Block) (tight : Bool) (blocks : List Block) :
    (Block.renderAll before tight blocks : Render ω ε Region).Runs
      (fun c => Block.regionAll c.options before tight blocks) fun _ => [] := by
  cases blocks with
  | nil => exact .pure _
  | cons b rest =>
    have hFirst := Block.runs_render before b
    have hRest := Block.runs_renderAll (b :: before) tight rest
    exact hFirst.bind fun region => hRest.map (Writer.gap before tight ++ region ++ ·)

theorem Block.runs_renderBody (tight : Bool) (items : List (List Block)) :
    ∀ children ∈ items, (Block.renderBody tight children : Render ω ε Text).Runs
      (fun c => (Block.regionAll c.options [] tight children).text) fun _ => [] := by
  cases items with
  | nil => simp
  | cons children rest =>
    have hFirst := (Block.runs_renderAll [] tight children).map Region.text
    have hRest := Block.runs_renderBody tight rest
    exact List.forall_mem_cons.mpr ⟨hFirst, hRest⟩
end

def Block.regionAt (o : Options) (siblings : List Block) (index : Nat) : Region :=
  match siblings[index]? with
  | some b => b.region o (siblings.take index).reverse
  | none => .empty

theorem Block.runs_renderAt (siblings : List Block) (index : Nat) :
    (renderAt siblings index : Render ω ε Region).Runs (fun c => regionAt c.options siblings index)
      fun _ => [] := by
  unfold renderAt regionAt
  cases siblings[index]? with
  | some b => exact runs_render _ b
  | none => exact .pure _

def Block.written (o : Options) (blocks : List Block) : Text :=
  if blocks.isEmpty then [] else (regionAll o [] false blocks).text ++ ['\n']

theorem Block.runs_document (blocks : List Block) :
    (document blocks : Render ω ε Text).Runs (fun c => written c.options blocks) fun _ => [] := by
  unfold document written
  split
  · exact .pure []
  · exact (runs_renderAll [] false blocks).map fun r => r.text ++ ['\n']

/-! ## Totality -/

/-- What a list could panic at while it is rendered with these markers, and does not. -/
structure Placement.Safe (ω ε : Type) (p : Placement) (o : Options) (markers : Listing.Markers) :
    Prop where
  /-- Numbers are asked for in an ordered list only. -/
  chosen : p.markers? o = some markers
  fits : markers.fits p.items.length = true
  /-- There is a marker at the position of each item. -/
  marker : ∀ i < p.items.length, ∃ m, (markers.forItems p.items.length)[i]? = some m
  /-- The bodies of the items succeed in the scope of the list, and it can be left after them. -/
  scope : ∀ w : World ω, ∃ texts after,
    (Listing.itemTexts (markers.first.length + 1) ((markers.forItems p.items.length).zip
        (Block.renderItems (Listing.isTight p.items) p.items)) : Render ω ε (List Text))
      { w with context := w.context.enter (markers.first.length + 1) } = (.ok texts, after) ∧
    after.context.leave? (markers.first.length + 1) = some w.context

theorem Placement.safe_markers (p : Placement) (o : Options) : p.Safe ω ε o (p.markers o) where
  chosen := p.markers?_eq o
  fits := p.fits_markers o
  marker i hi := by
    have hLength : i < (p.itemMarkers o).length := by rwa [length_itemMarkers]
    exact ⟨_, List.getElem?_eq_getElem hLength⟩
  scope w := by
    have hBodies := Block.runs_renderBody (ω := ω) (ε := ε) (Listing.isTight p.items) p.items
    have hTexts := Listing.runs_itemTexts (p.width o) hBodies (p.length_itemMarkers o)
    rw [Block.renderItems_eq_map]
    refine ⟨_, _, hTexts _, ?_⟩
    exact w.context.leave?_enter _

/-- Siblings can be written in every context, and leave it as it was. Their region depends on the options alone.
No list that is met on the way panics, wherever it stands. -/
theorem Block.renderAll_total (o : Options) (tight : Bool) (blocks : List Block) :
    (∃ r : Region, ∀ w : World ω, w.context.options = o →
      (renderAll [] tight blocks : Render ω ε Region) w = (.ok r, w)) ∧
    ∀ p : Placement, ∃ markers, p.Safe ω ε o markers := by
  refine ⟨⟨regionAll o [] tight blocks, ?_⟩, ?_⟩
  · rintro w rfl
    simpa using runs_renderAll [] tight blocks w
  · intro p
    exact ⟨p.markers o, p.safe_markers o⟩

end MarkdownLists
