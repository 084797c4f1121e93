import MarkdownLists.Document

/-! # Tightness

A list is tight unless one of its items directly holds a paragraph that is not hidden. Lists inside its
items have a tightness of their own.
-/

namespace MarkdownLists.Listing
set_option autoImplicit false

def isTight (items : List (List Block)) : Bool :=
  items.all fun children => children.all fun b => !b.isShownParagraph

def separator (items : List (List Block)) : Text :=
  if isTight items then ['\n'] else ['\n', '\n']

theorem isTight_eq_false_iff {items : List (List Block)} :
    isTight items = false ↔ ∃ children ∈ items, ∃ b ∈ children, b.isShownParagraph = true := by
  simp [isTight]

end MarkdownLists.Listing
