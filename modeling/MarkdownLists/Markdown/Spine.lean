import MarkdownLists.Markdown.BlockStart

/-! # The spine of open blocks

A document is read line by line. The spine holds the blocks that are still open: quotes, lists and items
from the innermost to the outermost, and a leaf inside them. A line first continues open blocks, from the
outside in; then it may open new ones, which closes those that it did not continue; what is left of it
goes to a leaf. Text that could only continue a paragraph does so even when the blocks around it are not
continued.
-/

namespace MarkdownLists.Markdown
set_option autoImplicit false

/-- An open leaf with its lines, the last one first. -/
inductive OpenLeaf
  | paragraph (lines : List Text)
  | fenced (f : CodeFence) (lines : List Text)
  | indented (lines : List Text)
  | html (ending : Html.Ending) (lines : List Text)
  deriving Repr

inductive FrameKind
  | quote
  | list (marker : ListMarker)
  | item (offset : Nat)
  deriving Repr

/-- An open container, with its first line and its closed children, the last one first. -/
structure Frame where
  kind : FrameKind
  first : Nat
  children : List Node
  deriving Repr

structure Spine where
  /-- The closed blocks of the document, the last one first. -/
  root : List Node
  frames : List Frame
  /-- The open leaf with its first line. -/
  leaf : Option (Nat × OpenLeaf)
  deriving Repr

namespace OpenLeaf

def linesText (lines : List Text) : Text := lines.reverse.flatMap (· ++ ['\n'])

def paragraphText (lines : List Text) : Text :=
  (Text.joinLines lines.reverse).trimEnd CharClass.isBlank

/-- The node of a leaf that ends with line `last`. Blank lines at the end of indented code are not part
of it. -/
def node (first last : Nat) : OpenLeaf → Node
  | paragraph lines => .leaf ⟨first, last⟩ (.paragraph (paragraphText lines))
  | fenced f lines => .leaf ⟨first, last⟩ (.code (some f.info) (linesText lines))
  | indented lines =>
    let kept := lines.dropWhile (·.all CharClass.isBlank)
    .leaf ⟨first, first + kept.length - 1⟩ (.code none (linesText kept))
  | html _ lines => .leaf ⟨first, last⟩ (.html (linesText lines))

def paragraph? : OpenLeaf → Option Text
  | paragraph lines => some (paragraphText lines)
  | _ => none

end OpenLeaf

namespace Frame

/-- The node of a container that ends with line `last`. Lists and items end with their last child. -/
def node (last : Nat) (f : Frame) : Node :=
  let end' := match f.children with
    | [] => f.first
    | c :: _ => c.extent.last
  match f.kind with
  | .quote => .quote ⟨f.first, last⟩ f.children.reverse
  | .list marker => .list ⟨f.first, end'⟩ marker f.children.reverse
  | .item _ => .item ⟨f.first, end'⟩ f.children.reverse

/-- Consumes what a line needs to continue the container. An item that holds nothing is not continued by a
blank line. -/
def continue? (isEmpty : Bool) (c : Cursor) (f : Frame) : Option Cursor :=
  match f.kind with
  | .quote =>
    if c.indent ≤ 3 && c.skipBlanks.rest.head? = some '>' then
      some ((c.skipBlanks.advance 1).skip 1)
    else none
  | .list _ => some c
  | .item offset =>
    if c.isBlank && isEmpty then none
    else if offset ≤ c.indent then some (c.skip offset)
    else if c.isBlank then some c.skipBlanks
    else none

/-- How many containers, given from the outside in, a line continues, and what is left of it. -/
def matchAll (hasLeaf : Bool) : List Frame → Cursor → Nat × Cursor
  | [], c => (0, c)
  | f :: inner, c =>
    match f.continue? (f.children.isEmpty && inner.isEmpty && !hasLeaf) c with
    | none => (0, c)
    | some rest =>
      let (n, last) := matchAll hasLeaf inner rest
      (n + 1, last)

end Frame

namespace Spine

def empty : Spine := ⟨[], [], none⟩

def addNode (s : Spine) (n : Node) : Spine :=
  match s.frames with
  | [] => { s with root := n :: s.root }
  | f :: rest => { s with frames := { f with children := n :: f.children } :: rest }

def closeLeaf (last : Nat) (s : Spine) : Spine :=
  match s.leaf with
  | none => s
  | some (first, l) => { s with leaf := none }.addNode (l.node first last)

def closeFrames (last : Nat) : Nat → Spine → Spine
  | 0, s => s
  | n + 1, s =>
    match s.frames with
    | [] => s
    | f :: rest => closeFrames last n ({ s with frames := rest }.addNode (f.node last))

/-- Closes a list that is the innermost container, as everything but an item does. -/
def closeList (last : Nat) (s : Spine) : Spine :=
  match s.frames with
  | ⟨.list _, _, _⟩ :: _ => s.closeFrames last 1
  | _ => s

def pushFrame (kind : FrameKind) (line : Nat) (s : Spine) : Spine :=
  { s with frames := ⟨kind, line, []⟩ :: s.frames }

/-- Makes room for a block that begins on `line`. -/
def prepare (line : Nat) (s : Spine) : Spine := (s.closeLeaf (line - 1)).closeList (line - 1)

def openItem (line : Nat) (marker : ListMarker) (offset : Nat) (s : Spine) : Spine :=
  let s := s.closeLeaf (line - 1)
  let listed := match s.frames with
    | ⟨.list m, _, _⟩ :: _ =>
      if m.delimiter = marker.delimiter then s
      else (s.closeList (line - 1)).pushFrame (.list marker) line
    | _ => s.pushFrame (.list marker) line
  listed.pushFrame (.item offset) line

def openLeaf (line : Nat) (l : OpenLeaf) (s : Spine) : Spine :=
  { s.prepare line with leaf := some (line, l) }

def addLeaf (line : Nat) (l : Leaf) (s : Spine) : Spine :=
  (s.prepare line).addNode (.leaf ⟨line, line⟩ l)

def paragraph? (s : Spine) : Option Text := s.leaf.bind fun l => l.2.paragraph?

/-- Adds the rest of a line to the open paragraph. -/
def addParagraphLine (c : Cursor) (s : Spine) : Spine :=
  match s.leaf with
  | some (first, .paragraph lines) =>
    { s with leaf := some (first, .paragraph (c.skipBlanks.rest :: lines)) }
  | _ => s

/-- Puts the rest of a line into a paragraph, unless it is blank. -/
def addText (line : Nat) (c : Cursor) (s : Spine) : Spine :=
  if c.isBlank then s
  else if s.paragraph?.isSome then s.addParagraphLine c
  else s.openLeaf line (.paragraph [c.skipBlanks.rest])

def openHtml (line : Nat) (ending : Html.Ending) (t : Text) (s : Spine) : Spine :=
  let opened := s.openLeaf line (.html ending [t])
  if Html.endsWith t ending then opened.closeLeaf line else opened

def underline (line : Nat) (level : Fin 6) (s : Spine) : Spine :=
  match s.leaf with
  | some (first, .paragraph lines) =>
    { s with leaf := none }.addNode
      (.leaf ⟨first, line⟩ (.underlined level (OpenLeaf.paragraphText lines)))
  | _ => s

/-- Opens the blocks that begin at `c`, and puts what is left into a leaf. `lazy` is the spine before the
line, when the line may still turn out to continue its paragraph. -/
def openBlocks (line : Nat) : Nat → Option Spine → Spine → Cursor → Spine
  | 0, _, s, _ => s
  | fuel + 1, lazily, s, c =>
    match BlockStart.find? s.paragraph? (lazily.isSome || s.paragraph?.isSome) c with
    | some (.quote rest) =>
      openBlocks line fuel none ((s.prepare line).pushFrame .quote line) rest
    | some (.item marker offset rest) =>
      openBlocks line fuel none (s.openItem line marker offset) rest
    | some (.heading level t) => s.addLeaf line (.heading level t)
    | some (.fence f) => s.openLeaf line (.fenced f [])
    | some (.html ending) => s.openHtml line ending c.rest
    | some (.underline level) => s.underline line level
    | some .rule => s.addLeaf line .rule
    | some .indented => s.openLeaf line (.indented [(c.skip 4).rest])
    | none =>
      match lazily with
      | some before => if c.isBlank then s else before.addParagraphLine c
      | none => s.addText line c

/-- Gives the line to a leaf that takes its lines as they are; `none` if the line ends the leaf or there is
no such leaf. -/
def addVerbatim? (line : Nat) (c : Cursor) (s : Spine) : Option Spine :=
  match s.leaf with
  | some (first, .fenced f lines) =>
    if c.indent ≤ 3 && BlockStart.closesFence f c.skipBlanks.rest then some (s.closeLeaf line)
    else some { s with leaf := some (first, .fenced f ((c.skip f.indent).rest :: lines)) }
  | some (first, .indented lines) =>
    if 4 ≤ c.indent || c.isBlank then
      some { s with leaf := some (first, .indented ((c.skip 4).rest :: lines)) }
    else none
  | some (first, .html ending lines) =>
    if ending = .blank && c.isBlank then none
    else
      let s := { s with leaf := some (first, .html ending (c.rest :: lines)) }
      some (if Html.endsWith c.rest ending then s.closeLeaf line else s)
  | _ => none

def addLine (line : Nat) (t : Text) (s : Spine) : Spine :=
  let (n, c) := Frame.matchAll s.leaf.isSome s.frames.reverse ⟨0, t⟩
  let fuel := t.length + 1
  if n = s.frames.length then
    match s.addVerbatim? line c with
    | some s => s
    | none =>
      if s.paragraph?.isSome && !c.isBlank then openBlocks line fuel none s c
      else openBlocks line fuel none (s.closeLeaf (line - 1)) c
  else
    let closed := (s.closeLeaf (line - 1)).closeFrames (line - 1) (s.frames.length - n)
    openBlocks line fuel (if s.paragraph?.isSome then some s else none) closed c

def addLines (line : Nat) : List Text → Spine → Spine
  | [], s => (s.closeLeaf (line - 1)).closeFrames (line - 1) s.frames.length
  | t :: rest, s => addLines (line + 1) rest (s.addLine line t)

end Spine

def Node.ofLines (lines : List Text) : List Node := (Spine.addLines 1 lines .empty).root.reverse

end MarkdownLists.Markdown
