import MarkdownLists.Text.Line

/-! # Documents

A document is a sequence of blocks. A paragraph is hidden when it stands in an item without a paragraph
of its own around it, as the text of a tight list does; the looseness of a list is read off these
marks alone.
-/

namespace MarkdownLists
set_option autoImplicit false

/-- How a link was spelled. -/
inductive LinkKind
  | inline
  | reference
  | referenceUnknown
  | collapsed
  | collapsedUnknown
  | shortcut
  | shortcutUnknown
  | autolink
  | email
  /-- With a pothole, the text that is shown stands beside the name of the page. -/
  | wikilink (hasPothole : Bool)
  deriving DecidableEq, Repr

/-- Links of these kinds are spelled by their address between angle brackets. -/
def LinkKind.isBare : LinkKind → Bool
  | autolink | email => true
  | _ => false

structure Target where
  kind : LinkKind
  destination : Text
  title : Text
  deriving DecidableEq, Repr

/-- What a stretch of inlines can be wrapped in. -/
inductive Span
  | emphasis
  | strong
  | strikethrough
  | link (target : Target)
  | image (target : Target)
  deriving DecidableEq, Repr

inductive Inline
  | text (value : Text)
  | code (value : Text)
  | html (value : Text)
  | softBreak
  | hardBreak
  | span (s : Span) (children : List Inline)
  | task (done : Bool)
  deriving Repr

inductive ListKind
  | bullet
  | ordered (start : Option UInt64)
  deriving DecidableEq, Repr

namespace ListKind

/-- Start numbers do not matter, only bullets against numbers. -/
def sameFamily : ListKind → ListKind → Bool
  | bullet, bullet => true
  | ordered _, ordered _ => true
  | _, _ => false

@[simp] theorem sameFamily_self (k : ListKind) : k.sameFamily k = true := by cases k <;> rfl

theorem sameFamily_comm (k l : ListKind) : k.sameFamily l = l.sameFamily k := by
  cases k <;> cases l <;> rfl

theorem sameFamily_trans {k l m : ListKind} (h : k.sameFamily l = true) :
    k.sameFamily m = l.sameFamily m := by
  cases k <;> cases l <;> cases m <;> first | rfl | cases h

end ListKind

inductive Block
  | paragraph (hidden : Bool) (content : List Inline)
  /-- Level `0` is the topmost of six. -/
  | heading (level : Fin 6) (content : List Inline)
  | quote (children : List Block)
  /-- A fenced block has an info string, an indented one has none. -/
  | code (info : Option Text) (content : Text)
  | html (content : Text)
  | list (kind : ListKind) (items : List (List Block))
  | rule
  deriving Repr

namespace Block

def isListLike (kind : ListKind) : Block → Bool
  | list k _ => k.sameFamily kind
  | _ => false

def isShownParagraph : Block → Bool
  | paragraph hidden _ => !hidden
  | _ => false

end Block

end MarkdownLists
