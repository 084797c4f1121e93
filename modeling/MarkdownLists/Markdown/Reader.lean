import MarkdownLists.Event
import MarkdownLists.Markdown.Inlines
import MarkdownLists.Markdown.Spine

/-! # Reading Markdown

A Markdown text is read in two steps: first its block structure, with the link reference definitions, then
the inlines of its paragraphs and headings. The result is told as a stream of events, in which the
paragraphs of tight lists have no tags. An item may begin with a task marker, on the line of its own marker.
-/

namespace MarkdownLists.Markdown
set_option autoImplicit false

mutual
/-- The definitions in a node, in the order of the document. -/
def Node.definitions : Node → List Definition
  | .leaf _ (.paragraph t) => (splitDefinitions t).1
  | .leaf _ (.underlined _ t) => (splitDefinitions t).1
  | .leaf _ _ => []
  | .quote _ children => Node.definitionsAll children
  | .list _ _ items => Node.definitionsAll items
  | .item _ children => Node.definitionsAll children

def Node.definitionsAll : List Node → List Definition
  | [] => []
  | n :: rest => n.definitions ++ Node.definitionsAll rest
end

/-- The task marker at the front of an item's text, and the text after it. -/
def task? : Text → Option (Bool × Text)
  | '[' :: mark :: ']' :: rest =>
    let spaced := match rest with
      | [] => true
      | c :: _ => isLabelSpace c
    if !spaced then none
    else if mark = 'x' || mark = 'X' then some (true, rest.dropWhile isLabelSpace)
    else if CharClass.isBlank mark then some (false, rest.dropWhile isLabelSpace)
    else none
  | _ => none

/-- The inlines of a paragraph; `leads` tells that it follows the marker of an item. -/
def paragraphInlines (definitions : List Definition) (leads : Bool) (t : Text) : List Inline :=
  match if leads then task? t else none with
  | some (done, rest) => .task done :: readInlines definitions rest
  | none => readInlines definitions t

mutual
/-- The block of a node; definitions make none, and items only within their list. `hidden` tells that it
stands in a tight item, and `leads` that it begins on the line of an item's marker. -/
def Node.block? (definitions : List Definition) (hidden leads : Bool) : Node → Option Block
  | .leaf _ (.paragraph t) =>
    let (own, rest) := splitDefinitions t
    if rest.isEmpty then none
    else some (.paragraph hidden (paragraphInlines definitions (leads && own.isEmpty) rest))
  | .leaf _ (.heading level t) => some (.heading level (readInlines definitions t))
  | .leaf _ (.underlined level t) =>
    some (.heading level (readInlines definitions (splitDefinitions t).2))
  | .leaf _ (.code info t) => some (.code info t)
  | .leaf _ (.html t) => some (.html t)
  | .leaf _ .rule => some .rule
  | .quote _ children => some (.quote (Node.blocks definitions false 0 children))
  | .list _ marker items => some (.list marker.kind (Node.items definitions (Node.isTight items) items))
  | .item _ _ => none

/-- The blocks of nodes in a row; `line` is that of the marker before them, or zero. -/
def Node.blocks (definitions : List Definition) (hidden : Bool) (line : Nat) : List Node → List Block
  | [] => []
  | n :: rest =>
    (n.block? definitions hidden (n.extent.first = line)).toList ++
      Node.blocks definitions hidden 0 rest

def Node.items (definitions : List Definition) (tight : Bool) : List Node → List (List Block)
  | [] => []
  | .item extent children :: rest =>
    Node.blocks definitions tight extent.first children :: Node.items definitions tight rest
  | _ :: rest => Node.items definitions tight rest
end

/-- The characters of a source; zero is not one of them. -/
def sourceText (t : Text) : Text := t.map fun c => if c.toNat = 0 then Reference.replacement else c

def readBlocks (t : Text) : List Block :=
  let nodes := Node.ofLines (sourceLines (sourceText t))
  Node.blocks (Node.definitionsAll nodes) false 0 nodes

def readEvents (t : Text) : List Event := Block.eventsAll (readBlocks t)

end MarkdownLists.Markdown
