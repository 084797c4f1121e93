import MarkdownLists.Listing.Placement
import MarkdownLists.Writer.Inlines

/-! # Writing blocks

Each block becomes a region. Siblings are separated by a blank line, except in the items of a tight list.
A list is laid out as text from the texts of its items and then cut into lines again.
-/

namespace MarkdownLists
set_option autoImplicit false

namespace Writer

/-- One line: the lines of a heading's text are joined by spaces, and a last `#` is kept from being read
as the end of the heading. -/
def headingRegion (level : Fin 6) (content : List Inline) : Region :=
  let joined := [' '].intercalate ((Inline.region content).lines.map Line.text)
  let text := if ['\\', '#'].isSuffixOf joined then joined else escapeLast '#' joined
  let marker := Line.ofText (List.replicate (level.val + 1) '#')
  ⟨[if text.isEmpty then marker else (marker.push [' ']).push text]⟩

/-- The lines of a code block; its last line feed ends the last line. -/
def codeLines (content : Text) : Region :=
  let body := if content.getLast? = some '\n' then content.dropLast else content
  if body.isEmpty then .empty else .ofText body

def codeRegion (info : Option Text) (content : Text) : Region :=
  match info with
  | some info =>
    let f := fence 3 content
    ((Region.empty.pushLine (Line.ofText (f ++ info))) ++ codeLines content).pushLine (Line.ofText f)
  | none => (codeLines content).indentEach 4

def htmlRegion (content : Text) : Region := .ofText (content.trimEnd (· = '\n'))

/-- Marks each line of the children as quoted; an empty quote still has one line. -/
def quoteRegion (inner : Region) : Region :=
  (if inner.isEmpty then inner.pushLine .empty else inner).prefixEach ['>', ' '] ['>']

def ruleRegion : Region := .ofText ['_', '_', '_']

end Writer

section
variable {ω ε : Type}

mutual
/-- Writes a block that stands after the siblings `before`, the nearest first. -/
def Block.render (before : List Block) : Block → Render ω ε Region
  | .paragraph _ content => pure (Inline.region content)
  | .heading level content => pure (Writer.headingRegion level content)
  | .code info content => pure (Writer.codeRegion info content)
  | .html content => pure (Writer.htmlRegion content)
  | .quote children => do
    let inner ← Block.renderAll [] false children
    return Writer.quoteRegion inner
  | .list kind items => do
    let text ← (Placement.mk before kind items).render
      (Block.renderItems (Listing.isTight items) items)
    return .ofText text
  | .rule => pure Writer.ruleRegion

/-- Writes siblings that stand after `before`, with a blank line between neighbours unless `tight`. -/
def Block.renderAll (before : List Block) (tight : Bool) : List Block → Render ω ε Region
  | [] => pure .empty
  | b :: rest => do
    let region ← b.render before
    let following ← Block.renderAll (b :: before) tight rest
    let gap := if before.isEmpty || tight then Region.empty else ⟨[Line.empty]⟩
    return gap ++ region ++ following

def Block.renderItems (tight : Bool) : List (List Block) → List (Render ω ε Text)
  | [] => []
  | children :: rest =>
    (do return (← Block.renderAll [] tight children).text) :: Block.renderItems tight rest
end

/-- Writes the block at `index` among its siblings, if there is one. -/
def Block.renderAt (siblings : List Block) (index : Nat) : Render ω ε Region :=
  match siblings[index]? with
  | some b => b.render (siblings.take index).reverse
  | none => pure .empty

def Block.document (blocks : List Block) : Render ω ε Text :=
  if blocks.isEmpty then pure []
  else do return (← Block.renderAll [] false blocks).text ++ ['\n']

end

@[simp] theorem Block.length_renderItems {ω ε : Type} (tight : Bool) (items : List (List Block)) :
    (Block.renderItems (ω := ω) (ε := ε) tight items).length = items.length := by
  induction items with
  | nil => simp [Block.renderItems]
  | cons children rest ih => simp [Block.renderItems, ih]

end MarkdownLists
