import MarkdownLists.Markdown.Delimiter
import MarkdownLists.Markdown.Html
import MarkdownLists.Markdown.LinkSyntax
import MarkdownLists.Text.Backtick

/-! # Reading inlines

The text of a paragraph is read from left to right. Code spans, HTML and autolinks come first; brackets are
kept on a stack until a closing one makes a link of them or leaves them as text; delimiter runs are matched
at the end of each bracketed stretch that became a link, and at the end of the paragraph.
-/

namespace MarkdownLists.Markdown
set_option autoImplicit false

structure Bracket where
  image : Bool
  /-- Whether it may still open a link: a link does not hold another. -/
  active : Bool
  /-- Whether a further bracket was opened inside. -/
  nested : Bool
  /-- The text that follows the bracket. -/
  source : Text
  /-- The pieces before the bracket, the last one first. -/
  outer : List Piece

/-- The pieces read since the innermost open bracket, the last one first, and the open brackets. -/
structure InlineState where
  pieces : List Piece
  brackets : List Bracket

namespace InlineState

def initial : InlineState := ⟨[], []⟩

def push (s : InlineState) (i : Inline) : InlineState := { s with pieces := .done i :: s.pieces }

def pushText (s : InlineState) (t : Text) : InlineState :=
  if t.isEmpty then s else s.push (.text t)

def pushRun (s : InlineState) (r : Run) : InlineState := { s with pieces := .run r :: s.pieces }

def openBracket (s : InlineState) (image : Bool) (source : Text) : InlineState :=
  let outer := match s.brackets with
    | [] => []
    | b :: rest => { b with nested := true } :: rest
  ⟨[], ⟨image, true, false, source, s.pieces⟩ :: outer⟩

def Bracket.opening (b : Bracket) : Inline := .text (if b.image then ['!', '['] else ['['])

/-- Gives the innermost bracket up: it and what it holds are read as part of what comes before. -/
def dropBracket (s : InlineState) : InlineState :=
  match s.brackets with
  | [] => s
  | b :: rest => ⟨s.pieces ++ .done (Bracket.opening b) :: b.outer, rest⟩

/-- Makes the innermost bracket a link or an image. Links around it are no longer possible then. -/
def closeBracket (s : InlineState) (b : Bracket) (rest : List Bracket) (target : Target) : InlineState :=
  let children := resolve s.pieces.reverse
  if b.image then ⟨.done (.span (.image target) children) :: b.outer, rest⟩
  else
    let inactive := rest.map fun c => if c.image then c else { c with active := false }
    ⟨.done (.span (.link target) children) :: b.outer, inactive⟩

def flatten : Nat → InlineState → List Piece
  | 0, s => s.pieces
  | n + 1, s => flatten n s.dropBracket

def finish (s : InlineState) : List Inline := resolve (flatten s.brackets.length s).reverse

end InlineState

/-- The content of a code span after its opening run of `n` backticks, and the text after the closing run.
`atRun` tells that a run of backticks may begin here. -/
def codeContent? (n : Nat) (atRun : Bool) : Text → Option (Text × Text)
  | [] => none
  | c :: rest =>
    if c = backtick then
      if atRun && Text.backtickRun (c :: rest) = n then some ([], (c :: rest).drop n)
      else (codeContent? n false rest).map fun (t, after) => (c :: t, after)
    else (codeContent? n true rest).map fun (t, after) => (c :: t, after)

/-- Line feeds count as spaces; one space is taken off each end, unless there are only spaces. -/
def normalCode (t : Text) : Text :=
  let spaced := t.map fun c => if c = '\n' then ' ' else c
  if spaced.head? = some ' ' && spaced.getLast? = some ' ' && !spaced.all (· = ' ') then
    spaced.tail.dropLast
  else spaced

def isSchemeChar (c : Char) : Bool := c.isAlphanum || c = '+' || c = '.' || c = '-'

/-- An absolute address up to its closing angle bracket. -/
def addressLink? (t : Text) : Option (Text × Text) :=
  let scheme := t.takeWhile isSchemeChar
  match scheme.head?, t.dropWhile isSchemeChar with
  | some first, ':' :: tail =>
    let isPathChar (c : Char) : Bool := !(CharClass.isAsciiControl c || c = ' ' || c = '<' || c = '>')
    if first.isAlpha && 2 ≤ scheme.length && scheme.length ≤ 32 then
      match tail.dropWhile isPathChar with
      | '>' :: after => some (scheme ++ ':' :: tail.takeWhile isPathChar, after)
      | _ => none
    else none
  | _, _ => none

def isMailboxChar (c : Char) : Bool := c.isAlphanum || "\x60.!#$%&'*+/=?^_\x7b|\x7d~-".toList.contains c

def isDomainLabel (t : Text) : Bool :=
  t.length ≤ 63 && t.all (fun c => c.isAlphanum || c = '-') &&
    (match t.head?, t.getLast? with
      | some first, some last => first.isAlphanum && last.isAlphanum
      | _, _ => false)

def splitDots : Text → List Text
  | [] => [[]]
  | c :: rest =>
    if c = '.' then [] :: splitDots rest
    else match splitDots rest with
      | [] => [[c]]
      | label :: labels => (c :: label) :: labels

/-- A mail address up to its closing angle bracket. -/
def mailLink? (t : Text) : Option (Text × Text) :=
  let mailbox := t.takeWhile isMailboxChar
  match t.dropWhile isMailboxChar with
  | '@' :: tail =>
    let isDomainChar (c : Char) : Bool := c.isAlphanum || c = '-' || c = '.'
    let domain := tail.takeWhile isDomainChar
    match tail.dropWhile isDomainChar with
    | '>' :: after =>
      if !mailbox.isEmpty && (splitDots domain).all isDomainLabel then
        some (mailbox ++ '@' :: domain, after)
      else none
    | _ => none
  | _ => none

/-- What a `<` begins, if it begins anything. -/
def angle? (t : Text) : Option (Inline × Text) :=
  match addressLink? t with
  | some (address, after) =>
    some (.span (.link ⟨.autolink, address, []⟩) [.text address], after)
  | none =>
    match mailLink? t with
    | some (address, after) =>
      some (.span (.link ⟨.email, address, []⟩) [.text address], after)
    | none => (Html.afterInline? t).map fun after =>
        (.html ('<' :: t.take (t.length - after.length)), after)

/-- The target of the link that a closing bracket ends, and the text after it. `label` is the text between
the brackets. -/
def target? (definitions : List Definition) (b : Bracket) (label after : Text) :
    Option (Target × Text) :=
  match inlineTail? after with
  | some ((destination, title), rest) => some (⟨.inline, destination, title⟩, rest)
  | none =>
    let found (kind : LinkKind) (label rest : Text) : Option (Target × Text) :=
      (findDefinition? definitions label).map fun d => (⟨kind, d.destination, d.title⟩, rest)
    let own (kind : LinkKind) (rest : Text) : Option (Target × Text) :=
      if b.nested then none else found kind label rest
    match label? after with
    | some (reference, rest) =>
      if reference.isEmpty then own .collapsed rest
      else if reference.all isLabelSpace then own .shortcut after
      else found .reference reference rest
    | none => own .shortcut after

/-- What a closing bracket does, given the text after it. -/
def closing (definitions : List Definition) (s : InlineState) (after : Text) : InlineState × Text :=
  match s.brackets with
  | [] => (s.push (.text [']']), after)
  | b :: rest =>
    let label := b.source.take (b.source.length - after.length - 1)
    match if b.active then target? definitions b label after else none with
    | some (target, tail) => (s.closeBracket b rest target, tail)
    | none => (s.dropBracket.push (.text [']']), after)

def isSpecial (c : Char) : Bool :=
  ['\\', backtick, '*', '_', '~', '[', ']', '!', '<', '&', '\n'].contains c

/-- Plain text; before a line end, blanks are left out and two spaces make the break a hard one. -/
def plainRun (s : InlineState) (t : Text) : InlineState × Text :=
  let run := t.takeWhile fun c => !isSpecial c
  match t.dropWhile fun c => !isSpecial c with
  | '\n' :: rest =>
    let kept := Text.trimEnd CharClass.isBlank run
    let hard := [' ', ' '].isSuffixOf run
    ((s.pushText kept).push (if hard then .hardBreak else .softBreak), rest)
  | rest => (s.pushText run, rest)

/-- Reads one piece at the front of `c :: rest`, which follows the character `before`. -/
def readPiece (definitions : List Definition) (before c : Char) (rest : Text) (s : InlineState) :
    InlineState × Text :=
  if c = '\\' then
    match rest with
    | '\n' :: tail => (s.push .hardBreak, tail)
    | d :: tail =>
      if CharClass.isAsciiPunctuation d then (s.pushText [d], tail) else (s.pushText [c], rest)
    | [] => (s.pushText [c], rest)
  else if c = backtick then
    let n := Text.backtickRun (c :: rest)
    let tail := (c :: rest).drop n
    match codeContent? n true tail with
    | some (code, after) => (s.push (.code (normalCode code)), after)
    | none => (s.pushText (List.replicate n c), tail)
  else if c = '*' || c = '_' || c = '~' then
    let run := (c :: rest).takeWhile (· = c)
    let tail := (c :: rest).dropWhile (· = c)
    if c = '~' && 2 < run.length then (s.pushText run, tail)
    else (s.pushRun (.between c run.length before (tail.headD '\n')), tail)
  else if c = '[' then (s.openBracket false rest, rest)
  else if c = '!' then
    match rest with
    | '[' :: tail => (s.openBracket true tail, tail)
    | _ => (s.pushText [c], rest)
  else if c = ']' then closing definitions s rest
  else if c = '<' then
    match angle? rest with
    | some (i, after) => (s.push i, after)
    | none => (s.pushText [c], rest)
  else if c = '&' then
    match characterReference? rest with
    | some (t, after) => (s.pushText t, after)
    | none => (s.pushText [c], rest)
  else plainRun s (c :: rest)

def readPieces (definitions : List Definition) : Nat → Char → Text → InlineState → InlineState
  | 0, _, _, s => s
  | _ + 1, _, [], s => s
  | fuel + 1, before, c :: rest, s =>
    let (s, after) := readPiece definitions before c rest s
    let consumed := (c :: rest).take (rest.length + 1 - after.length)
    readPieces definitions fuel (consumed.getLast?.getD before) after s

def readInlines (definitions : List Definition) (t : Text) : List Inline :=
  (readPieces definitions t.length '\n' t .initial).finish

end MarkdownLists.Markdown
