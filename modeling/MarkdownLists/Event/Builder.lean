import MarkdownLists.Event

/-! # Building a tree from events

Every open tag collects content of one sort: inlines, blocks, items or raw text. What does not fit is
adapted or dropped: an inline among blocks goes into a hidden paragraph, a paragraph among inlines gives
its inlines, and raw content keeps text only. The stream need not be balanced: a stop without an open tag
does nothing, and tags still open at the end are folded into the tags around them.
-/

namespace MarkdownLists
set_option autoImplicit false

inductive Content
  | inlines (xs : List Inline)
  | blocks (xs : List Block)
  | items (xs : List (List Block))
  | raw (t : Text)

/-- What an open tag collects, before anything has come. -/
def Tag.content : Tag → Content
  | paragraph | heading _ | span _ | superscript | subscript | tableCell => .inlines []
  | code _ | html | metadata => .raw []
  | list _ => .items []
  | _ => .blocks []

namespace Content

def toInlines : Content → List Inline
  | inlines xs => xs
  | _ => []

def toBlocks : Content → List Block
  | blocks xs => xs
  | _ => []

def toItems : Content → List (List Block)
  | items xs => xs
  | _ => []

def toRaw : Content → Text
  | raw t => t
  | _ => []

/-- Adds an inline to a sequence of blocks: the hidden paragraph at its end takes it, or a new one. -/
def extendHidden (i : Inline) : List Block → List Block
  | [] => [.paragraph true [i]]
  | [.paragraph true content] => [.paragraph true (content ++ [i])]
  | [b] => [b, .paragraph true [i]]
  | b :: c :: rest => b :: extendHidden i (c :: rest)

def pushInline (i : Inline) : Content → Content
  | inlines xs => inlines (xs ++ [i])
  | blocks xs => blocks (extendHidden i xs)
  | items xs => items xs
  | raw t => match i with
    | .text s => raw (t ++ s)
    | _ => raw t

def pushHtml (s : Text) : Content → Content
  | raw t => raw (t ++ s)
  | c => c.pushInline (.html s)

def pushBlock (b : Block) : Content → Content
  | blocks xs => blocks (xs ++ [b])
  | inlines xs => match b with
    | .paragraph _ content => inlines (xs ++ content)
    | _ => inlines xs
  | c => c

def pushItem (children : List Block) : Content → Content
  | items xs => items (xs ++ [children])
  | c => c

end Content

/-- What a closed tag hands to the tag around it. -/
inductive Part
  | block (b : Block)
  | item (children : List Block)
  | inline (i : Inline)
  | splice (blocks : List Block) (inlines : List Inline)

namespace Part

def close : Tag → Content → Part
  | .paragraph, c => block (.paragraph false c.toInlines)
  | .heading level, c => block (.heading level c.toInlines)
  | .quote, c => block (.quote c.toBlocks)
  | .code info, c => block (.code info c.toRaw)
  | .html, c => block (.html c.toRaw)
  | .list (some start), c => block (.list (.ordered (some start)) c.toItems)
  | .list none, c => block (.list .bullet c.toItems)
  | .item, c => item c.toBlocks
  | .span s, c => inline (.span s c.toInlines)
  | .metadata, _ => splice [] []
  | _, c => splice c.toBlocks c.toInlines

def deliver : Part → Content → Content
  | block b, c => c.pushBlock b
  | item children, c => c.pushItem children
  | inline i, c => c.pushInline i
  | splice bs is, c => is.foldl (fun c i => c.pushInline i) (bs.foldl (fun c b => c.pushBlock b) c)

/-- At the end of the stream a spliced tag hands on its blocks only. -/
def deliverLast : Part → Content → Content
  | splice bs _, c => bs.foldl (fun c b => c.pushBlock b) c
  | p, c => p.deliver c

end Part

structure Builder where
  root : Content
  /-- The open tags with what they have collected, innermost first. -/
  opened : List (Tag × Content)

namespace Builder

def initial : Builder := ⟨.blocks [], []⟩

/-- Changes the innermost content. -/
def modify (f : Content → Content) : Builder → Builder
  | ⟨root, []⟩ => ⟨f root, []⟩
  | ⟨root, (tag, c) :: rest⟩ => ⟨root, (tag, f c) :: rest⟩

def stop : Builder → Builder
  | ⟨root, []⟩ => ⟨root, []⟩
  | ⟨root, (tag, c) :: rest⟩ => (Builder.mk root rest).modify (Part.close tag c).deliver

def step (b : Builder) : Event → Builder
  | .start tag => ⟨b.root, (tag, tag.content) :: b.opened⟩
  | .stop => b.stop
  | .text t => b.modify (·.pushInline (.text t))
  | .code t => b.modify (·.pushInline (.code t))
  | .html t => b.modify (·.pushHtml t)
  | .inlineHtml t => b.modify (·.pushHtml t)
  | .inlineMath t => b.modify (·.pushInline (.text ('$' :: (t ++ ['$']))))
  | .displayMath t => b.modify (·.pushInline (.text ('$' :: '$' :: (t ++ ['$', '$']))))
  | .footnoteReference label => b.modify (·.pushInline (.text ('[' :: '^' :: (label ++ [']']))))
  | .softBreak => b.modify (·.pushInline .softBreak)
  | .hardBreak => b.modify (·.pushInline .hardBreak)
  | .rule => b.modify (·.pushBlock .rule)
  | .task done => b.modify (·.pushInline (.task done))

/-- Hands a part to the innermost open tag, closes that tag, and so on up to the root. -/
def settle (root : Content) : Part → List (Tag × Content) → Content
  | p, [] => p.deliverLast root
  | p, (tag, c) :: rest => settle root (Part.close tag (p.deliverLast c)) rest

def finish : Builder → List Block
  | ⟨root, []⟩ => root.toBlocks
  | ⟨root, (tag, c) :: rest⟩ => (settle root (Part.close tag c) rest).toBlocks

end Builder

/-- The tree that a stream of events describes. -/
def Block.ofEvents (events : List Event) : List Block :=
  (events.foldl Builder.step .initial).finish

end MarkdownLists
