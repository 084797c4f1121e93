import MarkdownLists.Proofs.Document.Canonical
import MarkdownLists.Proofs.Listing.Run
import MarkdownLists.Proofs.Writer.Blocks

/-! # Changing the contents of a document

Of the inlines in a paragraph or a heading only their region shows in what is written. So the inlines can be
replaced throughout a document by others that have the same region.
-/

namespace MarkdownLists
set_option autoImplicit false

mutual
/-- Changes the inlines of every paragraph and heading. -/
def Block.mapContent (f : List Inline → List Inline) : Block → Block
  | .paragraph hidden content => .paragraph hidden (f content)
  | .heading level content => .heading level (f content)
  | .quote children => .quote (Block.mapContentAll f children)
  | .list kind items => .list kind (Block.mapContentItems f items)
  | b => b

def Block.mapContentAll (f : List Inline → List Inline) : List Block → List Block
  | [] => []
  | b :: rest => b.mapContent f :: Block.mapContentAll f rest

def Block.mapContentItems (f : List Inline → List Inline) : List (List Block) → List (List Block)
  | [] => []
  | children :: rest => Block.mapContentAll f children :: Block.mapContentItems f rest
end

variable (f : List Inline → List Inline)

namespace Block

theorem mapContentAll_eq_map (blocks : List Block) : mapContentAll f blocks = blocks.map (mapContent f) := by
  induction blocks with
  | nil => rfl
  | cons b rest ih => rw [mapContentAll, ih, List.map_cons]

theorem mapContentItems_eq_map (items : List (List Block)) :
    mapContentItems f items = items.map (mapContentAll f) := by
  induction items with
  | nil => rfl
  | cons children rest ih => rw [mapContentItems, ih, List.map_cons]

theorem isShownParagraph_mapContent (b : Block) : (b.mapContent f).isShownParagraph = b.isShownParagraph := by
  cases b <;> simp [mapContent, isShownParagraph]

mutual
theorem canonical_eq_mapContent (b : Block) : b.canonical = b.mapContent Inline.canonicalAll := by
  cases b with
  | quote children => exact congrArg quote (canonicalAll_eq_mapContentAll children)
  | list kind items => exact congrArg (list kind) (canonicalItems_eq_mapContentItems items)
  | _ => rfl

theorem canonicalAll_eq_mapContentAll (blocks : List Block) :
    canonicalAll blocks = mapContentAll Inline.canonicalAll blocks := by
  cases blocks with
  | nil => rfl
  | cons b rest => rw [canonicalAll, mapContentAll, canonical_eq_mapContent b, canonicalAll_eq_mapContentAll rest]

theorem canonicalItems_eq_mapContentItems (items : List (List Block)) :
    canonicalItems items = mapContentItems Inline.canonicalAll items := by
  cases items with
  | nil => rfl
  | cons children rest =>
    rw [canonicalItems, mapContentItems, canonicalAll_eq_mapContentAll children,
      canonicalItems_eq_mapContentItems rest]
end

end Block

theorem Listing.isTight_mapContentItems (items : List (List Block)) :
    isTight (Block.mapContentItems f items) = isTight items := by
  simp [isTight, Block.mapContentItems_eq_map, Block.mapContentAll_eq_map, Function.comp_def,
    Block.isShownParagraph_mapContent]

namespace Placement

def mapContent (p : Placement) : Placement :=
  ⟨Block.mapContentAll f p.before, p.kind, Block.mapContentItems f p.items⟩

theorem runPosition_mapContent (p : Placement) : (p.mapContent f).runPosition = p.runPosition := by
  have hLike : Block.isListLike p.kind ∘ Block.mapContent f = Block.isListLike p.kind := by
    funext b
    cases b <;> simp [Block.mapContent, Block.isListLike]
  simp [runPosition, mapContent, Block.mapContentAll_eq_map, List.takeWhile_map, hLike]

theorem text_mapContent (p : Placement) (o : Options) (bodies : List Text) :
    (p.mapContent f).text o bodies = p.text o bodies := by
  have hLength : (p.mapContent f).items.length = p.items.length := by
    simp [mapContent, Block.mapContentItems_eq_map]
  have hSeparator : Listing.separator (p.mapContent f).items = Listing.separator p.items := by
    simp only [Listing.separator, mapContent, Listing.isTight_mapContentItems]
  exact text_congr (p.runPosition_mapContent f) rfl hLength hSeparator o bodies

end Placement

/-- The change does not show in the regions of inlines. -/
def Inline.KeepsRegion : Prop := ∀ content, Inline.region (f content) = Inline.region content

namespace Block

theorem gap_mapContentAll (before : List Block) (tight : Bool) :
    Writer.gap (mapContentAll f before) tight = Writer.gap before tight := by
  simp [Writer.gap, mapContentAll_eq_map]

variable {f} (o : Options)

mutual
theorem region_mapContent (hf : Inline.KeepsRegion f) (before : List Block) (b : Block) :
    (b.mapContent f).region o (mapContentAll f before) = b.region o before := by
  cases b with
  | paragraph hidden content => exact hf content
  | heading level content => rw [mapContent, region, region, Writer.headingRegion, hf, Writer.headingRegion]
  | quote children =>
    have hChildren := regionAll_mapContentAll hf [] false children
    rw [mapContent, region, region, ← hChildren]
    rfl
  | list kind items =>
    rw [mapContent, region, region, Listing.isTight_mapContentItems,
      bodies_mapContentItems hf (Listing.isTight items) items]
    exact congrArg Region.ofText (Placement.text_mapContent f ⟨before, kind, items⟩ o _)
  | _ => rfl

theorem regionAll_mapContentAll (hf : Inline.KeepsRegion f) (before : List Block) (tight : Bool)
    (blocks : List Block) :
    regionAll o (mapContentAll f before) tight (mapContentAll f blocks) = regionAll o before tight blocks := by
  cases blocks with
  | nil => rfl
  | cons b rest =>
    have hRest := regionAll_mapContentAll hf (b :: before) tight rest
    rw [mapContentAll, regionAll, regionAll, gap_mapContentAll, region_mapContent hf before b, ← hRest]
    rfl

theorem bodies_mapContentItems (hf : Inline.KeepsRegion f) (tight : Bool) (items : List (List Block)) :
    bodies o tight (mapContentItems f items) = bodies o tight items := by
  cases items with
  | nil => rfl
  | cons children rest =>
    have hChildren := regionAll_mapContentAll hf [] tight children
    rw [mapContentItems, bodies, bodies, bodies_mapContentItems hf tight rest, ← hChildren]
    rfl
end

end Block

end MarkdownLists
