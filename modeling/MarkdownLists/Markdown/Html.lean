import MarkdownLists.Text.CharClass
import MarkdownLists.Text.Backtick

/-! # HTML in Markdown

Inline HTML is a tag, a comment, an instruction, a declaration or a character data section; it is passed on
as it stands. An HTML block begins with one of seven openings and ends, depending on the opening, with a
closing text or before a blank line.
-/

namespace MarkdownLists.Markdown
set_option autoImplicit false

namespace Html

def isSpace (c : Char) : Bool := c = ' ' || c = '\t' || c = '\n'

def isNameChar (c : Char) : Bool := c.isAlphanum || c = '-'

def lower (t : Text) : Text := t.map Char.toLower

/-- The text after the first `part` in `t`. -/
def after? (part : Text) : Text → Option Text
  | [] => if part.isEmpty then some [] else none
  | c :: rest =>
    match Text.afterPart? part (c :: rest) with
    | some tail => some tail
    | none => after? part rest

def tagName? : Text → Option (Text × Text)
  | [] => none
  | c :: rest =>
    if c.isAlpha then some (c :: rest.takeWhile isNameChar, rest.dropWhile isNameChar) else none

def isAttributeStart (c : Char) : Bool := c.isAlpha || c = '_' || c = ':'

def isAttributeChar (c : Char) : Bool := c.isAlphanum || c = '_' || c = ':' || c = '.' || c = '-'

def isBareValueChar (c : Char) : Bool :=
  !(c.toNat ≤ 0x20 || c = '"' || c = '\'' || c = '=' || c = '<' || c = '>' || c = backtick)

/-- The text after an attribute value. -/
def afterValue? : Text → Option Text
  | [] => none
  | '"' :: rest => after? ['"'] rest
  | '\'' :: rest => after? ['\''] rest
  | c :: rest => if isBareValueChar c then some (rest.dropWhile isBareValueChar) else none

/-- The text after an attribute name and its value, if it has one. -/
def afterAttribute? : Text → Option Text
  | [] => none
  | c :: rest =>
    if isAttributeStart c then
      let named := rest.dropWhile isAttributeChar
      match named.dropWhile isSpace with
      | '=' :: value => afterValue? (value.dropWhile isSpace)
      | _ => some named
    else none

/-- The text after the attributes and the end of an opening tag. -/
def afterAttributes? : Nat → Text → Option Text
  | 0, _ => none
  | fuel + 1, t =>
    match t.dropWhile isSpace with
    | '>' :: rest => some rest
    | '/' :: '>' :: rest => some rest
    | tail =>
      if tail.length < t.length then
        match afterAttribute? tail with
        | some rest => afterAttributes? fuel rest
        | none => none
      else none

/-- The text after an opening tag, given what follows its `<`. -/
def afterOpeningTag? (t : Text) : Option Text := do
  let (_, rest) ← tagName? t
  afterAttributes? (rest.length + 1) rest

/-- The text after a closing tag, given what follows its `</`. -/
def afterClosingTag? (t : Text) : Option Text := do
  let (_, rest) ← tagName? t
  Text.afterPart? ['>'] (rest.dropWhile isSpace)

/-- The text after a comment, given what follows its `<!--`. -/
def afterComment? (t : Text) : Option Text :=
  match t with
  | '>' :: rest => some rest
  | '-' :: '>' :: rest => some rest
  | _ => after? ['-', '-', '>'] t

def cdata : Text := "[CDATA[".toList

/-- The text after a piece of inline HTML, given what follows its `<`. -/
def afterInline? : Text → Option Text
  | '/' :: rest => afterClosingTag? rest
  | '?' :: rest => after? ['?', '>'] rest
  | '!' :: '-' :: '-' :: rest => afterComment? rest
  | '!' :: rest =>
    match Text.afterPart? cdata rest with
    | some tail => after? [']', ']', '>'] tail
    | none =>
      match rest with
      | c :: tail => if c.isAlpha then after? ['>'] tail else none
      | [] => none
  | t => afterOpeningTag? t

/-- How an HTML block ends: in the line that holds one of some texts, or before a blank line. -/
inductive Ending
  | texts (ts : List Text)
  | blank
  deriving DecidableEq, Repr

def verbatimNames : List Text :=
  ["script".toList, "pre".toList, "textarea".toList, "style".toList]

def blockNames : List Text :=
  ["address", "article", "aside", "base", "basefont", "blockquote", "body", "caption", "center", "col",
    "colgroup", "dd", "details", "dialog", "dir", "div", "dl", "dt", "fieldset", "figcaption", "figure",
    "footer", "form", "frame", "frameset", "h1", "h2", "h3", "h4", "h5", "h6", "head", "header", "hr",
    "html", "iframe", "legend", "li", "link", "main", "menu", "menuitem", "nav", "noframes", "ol",
    "optgroup", "option", "p", "param", "search", "section", "summary", "table", "tbody", "td", "tfoot",
    "th", "thead", "title", "tr", "track", "ul"].map String.toList

def endsName (t : Text) : Bool :=
  match t with
  | [] => true
  | c :: _ => CharClass.isBlank c || c = '>'

def isVerbatimOpening (t : Text) : Bool :=
  match tagName? t with
  | some (name, rest) => verbatimNames.contains (lower name) && endsName rest
  | none => false

def isBlockOpening (t : Text) : Bool :=
  match tagName? (match t with | '/' :: rest => rest | _ => t) with
  | some (name, rest) =>
    blockNames.contains (lower name) && (endsName rest || Text.startsWith ['/', '>'] rest)
  | none => false

/-- A complete tag that stands alone on its line. -/
def isLoneTag (t : Text) : Bool :=
  let tail := match t with
    | '/' :: rest => afterClosingTag? rest
    | _ => afterOpeningTag? t
  match tail with
  | some rest => rest.all CharClass.isBlank
  | none => false

/-- How the HTML block ends that a line opens, given what follows its `<`. A lone tag does not
interrupt a paragraph. -/
def blockEnding? (interrupts : Bool) (t : Text) : Option Ending :=
  if isVerbatimOpening t then
    some (.texts (verbatimNames.map fun name => ['<', '/'] ++ name ++ ['>']))
  else if Text.startsWith ['!', '-', '-'] t then some (.texts [['-', '-', '>']])
  else if Text.startsWith ['?'] t then some (.texts [['?', '>']])
  else if Text.startsWith ('!' :: cdata) t then some (.texts [[']', ']', '>']])
  else if (match t with | '!' :: c :: _ => c.isAlpha | _ => false) then some (.texts [['>']])
  else if isBlockOpening t then some .blank
  else if !interrupts && isLoneTag t then some .blank
  else none

def endsWith (line : Text) : Ending → Bool
  | .texts ts => ts.any fun part => (after? part (lower line)).isSome
  | .blank => false

end Html

end MarkdownLists.Markdown
