import MarkdownLists.Document

/-! # Event streams

A document can be told as a stream of events: tags that open, a stop that closes the innermost open tag,
and atoms between them. A stop does not say which tag it closes. The natural stream of a tree, in which a
hidden paragraph has no tags, is `Block.events`.
-/

namespace MarkdownLists
set_option autoImplicit false

inductive Tag
  | paragraph
  | heading (level : Fin 6)
  | quote
  | code (info : Option Text)
  | html
  | list (start : Option UInt64)
  | item
  | span (s : Span)
  | superscript
  | subscript
  | footnote (label : Text)
  | definitionList
  | definitionTitle
  | definitionBody
  | table
  | tableHead
  | tableRow
  | tableCell
  | metadata
  deriving DecidableEq, Repr

inductive Event
  | start (tag : Tag)
  | stop
  | text (value : Text)
  | code (value : Text)
  | html (value : Text)
  | inlineHtml (value : Text)
  | inlineMath (value : Text)
  | displayMath (value : Text)
  | footnoteReference (label : Text)
  | softBreak
  | hardBreak
  | rule
  | task (done : Bool)
  deriving DecidableEq, Repr

def ListKind.tag : ListKind → Tag
  | bullet => .list none
  | ordered start => .list (some (start.getD 1))

mutual
def Inline.events : Inline → List Event
  | .text t => [.text t]
  | .code t => [.code t]
  | .html t => [.inlineHtml t]
  | .softBreak => [.softBreak]
  | .hardBreak => [.hardBreak]
  | .span s children => .start (.span s) :: (Inline.eventsAll children ++ [.stop])
  | .task done => [.task done]

def Inline.eventsAll : List Inline → List Event
  | [] => []
  | i :: rest => i.events ++ Inline.eventsAll rest
end

mutual
def Block.events : Block → List Event
  | .paragraph true content => Inline.eventsAll content
  | .paragraph false content => .start .paragraph :: (Inline.eventsAll content ++ [.stop])
  | .heading level content => .start (.heading level) :: (Inline.eventsAll content ++ [.stop])
  | .quote children => .start .quote :: (Block.eventsAll children ++ [.stop])
  | .code info content => [.start (.code info), .text content, .stop]
  | .html content => [.start .html, .html content, .stop]
  | .list kind items => .start kind.tag :: (Block.eventsItems items ++ [.stop])
  | .rule => [.rule]

def Block.eventsAll : List Block → List Event
  | [] => []
  | b :: rest => b.events ++ Block.eventsAll rest

def Block.eventsItems : List (List Block) → List Event
  | [] => []
  | item :: rest => .start .item :: (Block.eventsAll item ++ .stop :: Block.eventsItems rest)
end

theorem Inline.eventsAll_append (xs ys : List Inline) :
    Inline.eventsAll (xs ++ ys) = Inline.eventsAll xs ++ Inline.eventsAll ys := by
  induction xs with
  | nil => simp [Inline.eventsAll]
  | cons x xs ih => simp [Inline.eventsAll, ih]

theorem Block.eventsAll_append (xs ys : List Block) :
    Block.eventsAll (xs ++ ys) = Block.eventsAll xs ++ Block.eventsAll ys := by
  induction xs with
  | nil => simp [Block.eventsAll]
  | cons x xs ih => simp [Block.eventsAll, ih]

end MarkdownLists
