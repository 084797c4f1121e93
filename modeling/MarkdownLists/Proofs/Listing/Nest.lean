import MarkdownLists.Proofs.Listing.Heads
import Mathlib.Algebra.GroupWithZero.Nat
import Mathlib.Data.List.Basic

/-! # Lists in lists

A tree of list renders, in which the body of an item is a text or a further list. Each text notes the
indentation that it sees: the columns that the markers around it take, each with the space after it.
-/

namespace MarkdownLists
set_option autoImplicit false

namespace Listing

inductive Nest
  | text (value : Text)
  | list (before : List Block) (kind : ListKind) (items : List (List Block × Nest))

/-- What a text in the tree sees and gives. -/
structure Seen where
  indent : Nat
  value : Text
  deriving DecidableEq, Repr

/-- A text in the tree, with the markers of the items around it from the outside in. -/
structure Leaf where
  enclosing : List Text
  value : Text
  deriving DecidableEq, Repr

namespace Leaf

def indent (l : Leaf) : Nat := (l.enclosing.map fun m => m.length + 1).sum

def seenFrom (indent : Nat) (l : Leaf) : Seen := ⟨indent + l.indent, l.value⟩

def under (marker : Text) (l : Leaf) : Leaf := { l with enclosing := marker :: l.enclosing }

@[simp] theorem indent_under (marker : Text) (l : Leaf) :
    (l.under marker).indent = marker.length + 1 + l.indent := rfl

end Leaf

namespace Nest

variable {ε : Type}

mutual
theorem induction {motive : Nest → Prop} (text : ∀ value, motive (.text value))
    (list : ∀ before kind items, (∀ x ∈ items, motive x.2) → motive (.list before kind items)) :
    ∀ n, motive n
  | .text value => text value
  | .list before kind items => list before kind items (inductionAll text list items)

theorem inductionAll {motive : Nest → Prop} (text : ∀ value, motive (.text value))
    (list : ∀ before kind items, (∀ x ∈ items, motive x.2) → motive (.list before kind items)) :
    ∀ items : List (List Block × Nest), ∀ x ∈ items, motive x.2
  | [] => by simp
  | (_, n) :: rest =>
    List.forall_mem_cons.mpr ⟨induction text list n, inductionAll text list rest⟩
end

/-- The list, of which only the items' own blocks matter to its tightness. -/
def placement (before : List Block) (kind : ListKind) (items : List (List Block × Nest)) : Placement :=
  ⟨before, kind, items.map Prod.fst⟩

mutual
def action : Nest → Render Seen ε Text
  | .text value => do
    let c ← Render.context
    Render.emit ⟨c.indent, value⟩
    return value
  | .list before kind items => (placement before kind items).render (actions items)

def actions : List (List Block × Nest) → List (Render Seen ε Text)
  | [] => []
  | (_, n) :: rest => n.action :: actions rest
end

mutual
def rendered (o : Options) : Nest → Text
  | .text value => value
  | .list before kind items => (placement before kind items).text o (renderedAll o items)

def renderedAll (o : Options) : List (List Block × Nest) → List Text
  | [] => []
  | (_, n) :: rest => n.rendered o :: renderedAll o rest
end

mutual
def leaves (o : Options) : Nest → List Leaf
  | .text value => [⟨[], value⟩]
  | .list before kind items =>
    (((placement before kind items).itemMarkers o).zip (leavesAll o items)).flatMap fun x =>
      x.2.map (Leaf.under x.1)

def leavesAll (o : Options) : List (List Block × Nest) → List (List Leaf)
  | [] => []
  | (_, n) :: rest => n.leaves o :: leavesAll o rest
end

theorem actions_eq_map (items : List (List Block × Nest)) :
    (actions items : List (Render Seen ε Text)) = items.map fun x => x.2.action := by
  induction items with
  | nil => rfl
  | cons x rest ih => rw [actions, ih]; rfl

theorem renderedAll_eq_map (o : Options) (items : List (List Block × Nest)) :
    renderedAll o items = items.map fun x => x.2.rendered o := by
  induction items with
  | nil => rfl
  | cons x rest ih => rw [renderedAll, ih]; rfl

theorem leavesAll_eq_map (o : Options) (items : List (List Block × Nest)) :
    leavesAll o items = items.map fun x => x.2.leaves o := by
  induction items with
  | nil => rfl
  | cons x rest ih => rw [leavesAll, ih]; rfl

def marked (o : Options) (before : List Block) (kind : ListKind) (items : List (List Block × Nest)) :
    List (Text × List Block × Nest) :=
  ((placement before kind items).itemMarkers o).zip items

variable {before : List Block} {kind : ListKind} {items : List (List Block × Nest)}

theorem map_snd_marked (o : Options) : (marked o before kind items).map Prod.snd = items := by
  apply List.map_snd_zip
  simp [placement]

theorem leaves_list (o : Options) :
    (Nest.list before kind items).leaves o =
      (marked o before kind items).flatMap fun x => (x.2.2.leaves o).map (Leaf.under x.1) := by
  rw [leaves, leavesAll_eq_map, List.zip_map_right, List.flatMap_map]
  rfl

theorem width_of_mem_marked {o : Options} {x : Text × List Block × Nest}
    (h : x ∈ marked o before kind items) :
    x.1.length + 1 = (placement before kind items).width o :=
  Placement.length_of_mem_itemMarkers (List.of_mem_zip h).1

theorem seenFrom_under {o : Options} {x : Text × List Block × Nest}
    (h : x ∈ marked o before kind items) (indent : Nat) (l : Leaf) :
    (l.under x.1).seenFrom indent = l.seenFrom (indent + (placement before kind items).width o) := by
  rw [← width_of_mem_marked h]
  simp [Leaf.seenFrom, Leaf.under, Leaf.indent, Nat.add_assoc]

theorem seen_list (o : Options) (indent : Nat) :
    ((Nest.list before kind items).leaves o).map (Leaf.seenFrom indent) =
      items.flatMap fun x => (x.2.leaves o).map
        (Leaf.seenFrom (indent + (placement before kind items).width o)) := by
  calc ((Nest.list before kind items).leaves o).map (Leaf.seenFrom indent)
      = (marked o before kind items).flatMap fun x => (x.2.2.leaves o).map
          (Leaf.seenFrom (indent + (placement before kind items).width o)) := by
        rw [leaves_list, List.map_flatMap]
        refine List.flatMap_congr fun x hx => ?_
        rw [List.map_map]
        exact List.map_congr_left fun l _ => seenFrom_under hx indent l
    _ = ((marked o before kind items).map Prod.snd).flatMap fun x => (x.2.leaves o).map
          (Leaf.seenFrom (indent + (placement before kind items).width o)) := by
        rw [List.flatMap_map]
    _ = _ := by rw [map_snd_marked]

/-- Every text in the tree is asked for once, in order, and sees the columns of the markers around it. -/
theorem runs_action (n : Nest) : (n.action : Render Seen ε Text).Runs (fun c => n.rendered c.options)
    fun c => (n.leaves c.options).map (Leaf.seenFrom c.indent) := by
  induction n using Nest.induction with
  | text value =>
    exact Render.Runs.context.bind fun c => (Render.Runs.emit _).bind fun _ => .pure value
  | list before kind items ih =>
    have hList := (placement before kind items).runs_render ih (by simp [placement])
    intro w
    rw [action, actions_eq_map, hList w]
    dsimp only
    rw [seen_list, rendered, renderedAll_eq_map]
    rfl

end Nest

end Listing

end MarkdownLists
