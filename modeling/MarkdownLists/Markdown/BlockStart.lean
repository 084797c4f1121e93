import MarkdownLists.Markdown.Cursor
import MarkdownLists.Markdown.Html
import MarkdownLists.Markdown.LinkSyntax
import MarkdownLists.Markdown.Node
import MarkdownLists.Text.Backtick

/-! # Block starts

What the rest of a line can begin, in the order in which the possibilities are tried. Some of them do not
interrupt a paragraph: indented code, a lone tag, an empty item, and a numbered item that does not begin
at 1.
-/

namespace MarkdownLists.Markdown
set_option autoImplicit false

structure CodeFence where
  char : Char
  length : Nat
  indent : Nat
  info : Text
  deriving DecidableEq, Repr

inductive BlockStart
  | quote (rest : Cursor)
  | heading (level : Fin 6) (t : Text)
  | fence (f : CodeFence)
  | html (ending : Html.Ending)
  | underline (level : Fin 6)
  | rule
  /-- The text of the item begins `offset` columns after the content of the block around it. -/
  | item (marker : ListMarker) (offset : Nat) (rest : Cursor)
  | indented
  deriving DecidableEq, Repr

namespace BlockStart

def trimBlanks (t : Text) : Text := t.trim CharClass.isBlank

/-- The text of a heading without the closing sequence of `#`, which stands alone or after a blank. -/
def headingText (t : Text) : Text :=
  let t := trimBlanks t
  let body := t.trimEnd (· = '#')
  match body.getLast? with
  | none => []
  | some last => if CharClass.isBlank last then body.trimEnd CharClass.isBlank else t

def heading? (t : Text) : Option BlockStart :=
  let marks := t.takeWhile (· = '#')
  let rest := t.dropWhile (· = '#')
  let spaced := match rest with
    | [] => true
    | c :: _ => CharClass.isBlank c
  if h : 1 ≤ marks.length ∧ marks.length ≤ 6 then
    if spaced then some (.heading ⟨marks.length - 1, by omega⟩ (headingText rest)) else none
  else none

def fence? (indent : Nat) (t : Text) : Option BlockStart :=
  match t with
  | [] => none
  | c :: _ =>
    let length := (t.takeWhile (· = c)).length
    let info := t.dropWhile (· = c)
    if (c = '~' || (c = backtick && !info.contains backtick)) && 3 ≤ length then
      some (.fence ⟨c, length, indent, unescape (trimBlanks info)⟩)
    else none

def closesFence (f : CodeFence) (t : Text) : Bool :=
  f.length ≤ (t.takeWhile (· = f.char)).length && (t.dropWhile (· = f.char)).all CharClass.isBlank

def underline? (t : Text) : Option BlockStart :=
  let marks := t.trimEnd CharClass.isBlank
  if marks.isEmpty then none
  else if marks.all (· = '=') then some (.underline 0)
  else if marks.all (· = '-') then some (.underline 1)
  else none

def isRule (t : Text) : Bool :=
  let marks := t.filter fun c => !CharClass.isBlank c
  match marks with
  | [] => false
  | c :: _ => (c = '*' || c = '-' || c = '_') && marks.all (· = c) && 3 ≤ marks.length

/-- A list marker and its width. -/
def marker? (t : Text) : Option (ListMarker × Nat) :=
  match t with
  | [] => none
  | c :: _ =>
    if c = '-' || c = '+' || c = '*' then some (⟨c, .bullet⟩, 1)
    else
      let digits := t.takeWhile Char.isDigit
      match t.dropWhile Char.isDigit with
      | d :: _ =>
        if (d = '.' || d = ')') && 1 ≤ digits.length && digits.length ≤ 9 then
          some (⟨d, .ordered (some (Reference.numeral 10 digits).toUInt64)⟩, digits.length + 1)
        else none
      | [] => none

/-- An item that begins at `c`, which is `indent` columns into the block around it. -/
def item? (interrupts : Bool) (indent : Nat) (c : Cursor) : Option BlockStart :=
  match marker? c.rest with
  | none => none
  | some (marker, width) =>
    let after := c.advance width
    let spaces := after.indent
    let allowed := !interrupts ||
      (!after.isBlank && (marker.kind = .bullet || marker.kind = .ordered (some 1)))
    if !allowed || (spaces = 0 && !after.rest.isEmpty) then none
    else if after.isBlank || 5 ≤ spaces then
      some (.item marker (indent + width + 1) (after.skip 1))
    else some (.item marker (indent + width + spaces) (after.skip spaces))

/-- What begins at a cursor. `paragraph` is the text of the paragraph that the line would continue;
`afterParagraph` tells that it could continue one, if only as a lazy line. -/
def find? (paragraph : Option Text) (afterParagraph : Bool) (c : Cursor) : Option BlockStart :=
  if c.isBlank then none
  else if 4 ≤ c.indent then if afterParagraph then none else some .indented
  else
    let indent := c.indent
    let d := c.skipBlanks
    let html := match d.rest with
      | '<' :: rest => (Html.blockEnding? afterParagraph rest).map BlockStart.html
      | _ => none
    let underlined := match paragraph with
      | some t => if (splitDefinitions t).2.isEmpty then none else underline? d.rest
      | none => none
    if d.rest.head? = some '>' then some (.quote ((d.advance 1).skip 1))
    else (heading? d.rest) <|> (fence? indent d.rest) <|> html <|> underlined <|>
      (if isRule d.rest then some .rule else none) <|> item? paragraph.isSome indent d

end BlockStart

end MarkdownLists.Markdown
