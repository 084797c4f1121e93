import MarkdownLists.Document

/-! # Canonical documents

A text may be cut into pieces in many ways, and a link may be spelled in many ways. In the canonical form of a
document neighbouring texts are one, and of the kind of a link only remains whether its address is the link.
-/

namespace MarkdownLists
set_option autoImplicit false

/-- One kind for the links that are spelled by their address, and one for the others. -/
def LinkKind.canonical (k : LinkKind) : LinkKind := if k.isBare then autolink else inline

def Target.respell (f : LinkKind → LinkKind) (t : Target) : Target := { t with kind := f t.kind }

def Span.respell (f : LinkKind → LinkKind) : Span → Span
  | link t => link (t.respell f)
  | image t => image (t.respell f)
  | s => s

/-- Puts an inline before others and joins it with the first of them if both are texts. -/
def Inline.consJoined : Inline → List Inline → List Inline
  | .text t, .text u :: rest => .text (t ++ u) :: rest
  | i, rest => i :: rest

mutual
def Inline.canonical : Inline → Inline
  | .span s children => .span (s.respell LinkKind.canonical) (Inline.canonicalAll children)
  | i => i

def Inline.canonicalAll : List Inline → List Inline
  | [] => []
  | i :: rest => Inline.consJoined i.canonical (Inline.canonicalAll rest)
end

mutual
def Block.canonical : Block → Block
  | .paragraph hidden content => .paragraph hidden (Inline.canonicalAll content)
  | .heading level content => .heading level (Inline.canonicalAll content)
  | .quote children => .quote (Block.canonicalAll children)
  | .list kind items => .list kind (Block.canonicalItems items)
  | b => b

def Block.canonicalAll : List Block → List Block
  | [] => []
  | b :: rest => b.canonical :: Block.canonicalAll rest

def Block.canonicalItems : List (List Block) → List (List Block)
  | [] => []
  | children :: rest => Block.canonicalAll children :: Block.canonicalItems rest
end

@[simp] theorem LinkKind.isBare_canonical (k : LinkKind) : k.canonical.isBare = k.isBare := by
  cases k <;> rfl

@[simp] theorem LinkKind.canonical_canonical (k : LinkKind) : k.canonical.canonical = k.canonical := by
  cases k <;> rfl

@[simp] theorem Span.respell_canonical (s : Span) :
    (s.respell LinkKind.canonical).respell LinkKind.canonical = s.respell LinkKind.canonical := by
  cases s <;> simp [respell, Target.respell]

namespace Inline

theorem consJoined_text_text (t u : Text) (xs : List Inline) :
    consJoined (.text t) (consJoined (.text u) xs) = consJoined (.text (t ++ u)) xs := by
  cases xs with
  | nil => rfl
  | cons i rest => cases i <;> simp [consJoined]

theorem foldr_consJoined (i : Inline) (xs ys : List Inline) :
    (consJoined i xs).foldr consJoined ys = consJoined i (xs.foldr consJoined ys) := by
  cases i with
  | text t =>
    cases xs with
    | nil => rfl
    | cons j rest =>
      cases j with
      | text u => exact (consJoined_text_text t u _).symm
      | _ => rfl
  | _ => rfl

theorem canonicalAll_append (xs ys : List Inline) :
    canonicalAll (xs ++ ys) = (canonicalAll xs).foldr consJoined (canonicalAll ys) := by
  induction xs with
  | nil => rfl
  | cons i rest ih => rw [List.cons_append, canonicalAll, ih, canonicalAll, foldr_consJoined]

theorem canonicalAll_consJoined (i : Inline) (xs : List Inline) :
    canonicalAll (consJoined i xs) = consJoined i.canonical (canonicalAll xs) := by
  cases i with
  | text t =>
    cases xs with
    | nil => rfl
    | cons j rest =>
      cases j with
      | text u => exact (consJoined_text_text t u _).symm
      | _ => rfl
  | _ => rfl

mutual
@[simp] theorem canonical_canonical (i : Inline) : i.canonical.canonical = i.canonical := by
  cases i with
  | span s children => simp [canonical, canonicalAll_canonicalAll children]
  | _ => rfl

@[simp] theorem canonicalAll_canonicalAll (xs : List Inline) :
    canonicalAll (canonicalAll xs) = canonicalAll xs := by
  cases xs with
  | nil => rfl
  | cons i rest =>
    rw [canonicalAll, canonicalAll_consJoined, canonical_canonical i, canonicalAll_canonicalAll rest]
end

/-- The canonical form of joined sequences depends on their canonical forms only. -/
theorem canonicalAll_append_canonicalAll (xs ys : List Inline) :
    canonicalAll (canonicalAll xs ++ canonicalAll ys) = canonicalAll (xs ++ ys) := by
  simp only [canonicalAll_append, canonicalAll_canonicalAll]

end Inline

namespace Block

theorem canonicalAll_eq_map (blocks : List Block) : canonicalAll blocks = blocks.map canonical := by
  induction blocks with
  | nil => rfl
  | cons b rest ih => rw [canonicalAll, ih, List.map_cons]

theorem canonicalItems_eq_map (items : List (List Block)) :
    canonicalItems items = items.map canonicalAll := by
  induction items with
  | nil => rfl
  | cons children rest ih => rw [canonicalItems, ih, List.map_cons]

mutual
@[simp] theorem canonical_canonical (b : Block) : b.canonical.canonical = b.canonical := by
  cases b with
  | quote children => simp [canonical, canonicalAll_canonicalAll children]
  | list kind items => simp [canonical, canonicalItems_canonicalItems items]
  | _ => simp [canonical]

@[simp] theorem canonicalAll_canonicalAll (blocks : List Block) :
    canonicalAll (canonicalAll blocks) = canonicalAll blocks := by
  cases blocks with
  | nil => rfl
  | cons b rest =>
    simp [canonicalAll, canonical_canonical b, canonicalAll_canonicalAll rest]

@[simp] theorem canonicalItems_canonicalItems (items : List (List Block)) :
    canonicalItems (canonicalItems items) = canonicalItems items := by
  cases items with
  | nil => rfl
  | cons children rest =>
    simp [canonicalItems, canonicalAll_canonicalAll children, canonicalItems_canonicalItems rest]
end

end Block

end MarkdownLists
