import MarkdownLists.Document

/-! # Block structure of a source

The first reading of a document finds its blocks and leaves the inlines as text. Every node knows the lines
that it reaches over: a list is loose when a line is missing between two of its items, or between two
blocks directly inside an item.
-/

namespace MarkdownLists.Markdown
set_option autoImplicit false

/-- The first and the last line of a block. -/
structure Extent where
  first : Nat
  last : Nat
  deriving DecidableEq, Repr

/-- Two markers belong to one list when they end in the same character. -/
structure ListMarker where
  delimiter : Char
  kind : ListKind
  deriving DecidableEq, Repr

inductive Leaf
  | paragraph (t : Text)
  | heading (level : Fin 6) (t : Text)
  /-- A heading that is a paragraph with an underline. -/
  | underlined (level : Fin 6) (t : Text)
  | code (info : Option Text) (t : Text)
  | html (t : Text)
  | rule
  deriving DecidableEq, Repr

inductive Node
  | leaf (extent : Extent) (leaf : Leaf)
  | quote (extent : Extent) (children : List Node)
  | list (extent : Extent) (marker : ListMarker) (items : List Node)
  | item (extent : Extent) (children : List Node)
  deriving Repr

namespace Node

def extent : Node → Extent
  | leaf e _ => e
  | quote e _ => e
  | list e _ _ => e
  | item e _ => e

def children : Node → List Node
  | leaf _ _ => []
  | quote _ cs => cs
  | list _ _ cs => cs
  | item _ cs => cs

/-- Whether a line is missing between two neighbours. -/
def hasGap : List Node → Bool
  | [] => false
  | [_] => false
  | a :: b :: rest => a.extent.last + 1 < b.extent.first || hasGap (b :: rest)

def isTight (items : List Node) : Bool :=
  !hasGap items && items.all fun item => !hasGap item.children

end Node

end MarkdownLists.Markdown
