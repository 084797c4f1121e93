import MarkdownLists.Listing.Layout
import MarkdownLists.Listing.Numbering

/-! # Placement of a list among its siblings

Lists of one family that directly follow each other form a run. Along a run the primary marker and the
secondary one alternate, so that neighbours stay separate lists when the output is read again.
-/

namespace MarkdownLists
set_option autoImplicit false

/-- A list with the blocks before it, the nearest first. -/
structure Placement where
  before : List Block
  kind : ListKind
  items : List (List Block)

namespace Placement

def at? (siblings : List Block) (index : Nat) : Option Placement :=
  match siblings[index]? with
  | some (.list kind items) => some ⟨(siblings.take index).reverse, kind, items⟩
  | _ => none

def previousSibling? (p : Placement) : Option Block := p.before.head?

/-- The list directly before, if that sibling is a list. -/
def previous? (p : Placement) : Option Placement :=
  match p.before with
  | .list kind items :: rest => some ⟨rest, kind, items⟩
  | _ => none

/-- The position in the run, counted from 1. -/
def runPosition (p : Placement) : Nat := (p.before.takeWhile (Block.isListLike p.kind)).length + 1

def resolve {α : Type} (p : Placement) (primary secondary : α) : α :=
  if p.runPosition % 2 = 1 then primary else secondary

def bullet (p : Placement) (o : Options) : Bullet := p.resolve o.bullet o.bullet.alternate

def suffix (p : Placement) (o : Options) : OrderedMarker :=
  p.resolve o.orderedMarker o.orderedMarker.alternate

def markers? (p : Placement) (o : Options) : Option Listing.Markers :=
  match p.kind with
  | .bullet => some (.repeated (p.bullet o).text)
  | .ordered _ =>
    (Numbering.markersFor? p.kind p.items.length (p.suffix o) o.number).map .perItem

variable {ω ε : Type}

def render (p : Placement) (bodies : List (Render ω ε Text)) : Render ω ε Text := do
  let c ← Render.context
  match p.markers? c.options with
  | some markers => Listing.layout (Listing.separator p.items) markers bodies
  | none => Render.panic .orderedMarkersForBullets

end Placement

end MarkdownLists
