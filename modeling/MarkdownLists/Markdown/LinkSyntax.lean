import MarkdownLists.Text.CaseFolding
import MarkdownLists.Markdown.Reference

/-! # Destinations, titles and labels

The parts of links and of link reference definitions. Each reader gives what it has read and the text after
it. Labels that differ only in case and in the amount of white space are the same.
-/

namespace MarkdownLists.Markdown
set_option autoImplicit false

/-- A destination between angle brackets, after the first one. -/
def angleDestination? : Text → Option (Text × Text)
  | [] => none
  | '>' :: rest => some ([], rest)
  | '<' :: _ => none
  | '\n' :: _ => none
  | '\\' :: d :: rest =>
    if CharClass.isAsciiPunctuation d then
      (angleDestination? rest).map fun (t, after) => ('\\' :: d :: t, after)
    else (angleDestination? (d :: rest)).map fun (t, after) => ('\\' :: t, after)
  | c :: rest => (angleDestination? rest).map fun (t, after) => (c :: t, after)

/-- A destination without brackets: it ends at a space, a control character, or a closing parenthesis that
it has not opened. `depth` parentheses are open. -/
def plainDestination? (depth : Nat) : Text → Option (Text × Text)
  | [] => if depth = 0 then some ([], []) else none
  | c :: rest =>
    if c.toNat ≤ 0x20 then if depth = 0 then some ([], c :: rest) else none
    else if c = '(' then (plainDestination? (depth + 1) rest).map fun (t, after) => (c :: t, after)
    else if c = ')' then
      match depth with
      | 0 => some ([], c :: rest)
      | n + 1 => (plainDestination? n rest).map fun (t, after) => (c :: t, after)
    else if c = '\\' then
      match rest with
      | d :: tail =>
        if CharClass.isAsciiPunctuation d then
          (plainDestination? depth tail).map fun (t, after) => (c :: d :: t, after)
        else (plainDestination? depth (d :: tail)).map fun (t, after) => (c :: t, after)
      | [] => if depth = 0 then some ([c], []) else none
    else (plainDestination? depth rest).map fun (t, after) => (c :: t, after)

/-- A destination, with its escapes still in place. -/
def destination? : Text → Option (Text × Text)
  | '<' :: rest => angleDestination? rest
  | t => plainDestination? 0 t

/-- The rest of a title that ends with `close`; in parentheses another opening one is not allowed. -/
def titleBody? (close : Char) : Text → Option (Text × Text)
  | [] => none
  | c :: rest =>
    if c = close then some ([], rest)
    else if c = '(' && close = ')' then none
    else if c = '\\' then
      match rest with
      | d :: tail =>
        if CharClass.isAsciiPunctuation d then
          (titleBody? close tail).map fun (t, after) => (c :: d :: t, after)
        else (titleBody? close (d :: tail)).map fun (t, after) => (c :: t, after)
      | [] => none
    else (titleBody? close rest).map fun (t, after) => (c :: t, after)

def title? : Text → Option (Text × Text)
  | '"' :: rest => titleBody? '"' rest
  | '\'' :: rest => titleBody? '\'' rest
  | '(' :: rest => titleBody? ')' rest
  | _ => none

def skipBlanks (t : Text) : Text := t.dropWhile CharClass.isBlank

/-- Skips blanks and at most one line feed among them. -/
def skipSeparator (t : Text) : Text :=
  match skipBlanks t with
  | '\n' :: rest => skipBlanks rest
  | rest => rest

/-- The rest of a label after its opening bracket, of at most `room` more characters. -/
def labelBody? : Nat → Text → Option (Text × Text)
  | _, [] => none
  | room, c :: rest =>
    if c = ']' then some ([], rest)
    else match room with
      | 0 => none
      | room + 1 =>
        if c = '[' then none
        else if c = '\\' then
          match room, rest with
          | room + 1, d :: tail =>
            if CharClass.isAsciiPunctuation d then
              (labelBody? room tail).map fun (t, after) => (c :: d :: t, after)
            else (labelBody? (room + 1) (d :: tail)).map fun (t, after) => (c :: t, after)
          | _, _ => none
        else (labelBody? room rest).map fun (t, after) => (c :: t, after)

/-- A label in brackets. It may be blank. -/
def label? : Text → Option (Text × Text)
  | '[' :: rest => labelBody? 999 rest
  | _ => none

def isLabelSpace (c : Char) : Bool := c = ' ' || c = '\t' || c = '\n'

/-- Every stretch of white space becomes one space; `pending` tells that one is due before more text. -/
def collapse (pending : Bool) : Text → Text
  | [] => []
  | c :: rest =>
    if isLabelSpace c then collapse true rest
    else if pending then ' ' :: c :: collapse false rest
    else c :: collapse false rest

/-- The form in which labels are compared. -/
def normalLabel (t : Text) : Text := (collapse false (t.dropWhile isLabelSpace)).foldCase

structure Definition where
  label : Text
  destination : Text
  title : Text
  deriving DecidableEq, Repr

/-- What the first definition for a label says. -/
def findDefinition? (definitions : List Definition) (label : Text) : Option Definition :=
  if (normalLabel label).isEmpty then none
  else definitions.find? (·.label = normalLabel label)

/-- The text after the line end, if only blanks come before it. -/
def lineEnd? (t : Text) : Option Text :=
  match skipBlanks t with
  | [] => some []
  | '\n' :: rest => some rest
  | _ => none

/-- A link reference definition at the front of a paragraph. -/
def definition? (t : Text) : Option (Definition × Text) := do
  let (label, t) ← label? t
  let t ← Text.afterPart? [':'] t
  let start := skipSeparator t
  let (destination, t) ← destination? start
  let written := start.head? = some '<' || !destination.isEmpty
  if (normalLabel label).isEmpty || !written then none
  else
    let made (title : Text) : Definition :=
      ⟨normalLabel label, unescape destination, unescape title⟩
    let titled : Option (Text × Text) := do
      let separated := skipSeparator t
      if separated.length = t.length then none
      else
        let (title, after) ← title? separated
        return (title, ← lineEnd? after)
    match titled with
    | some (title, after) => some (made title, after)
    | none => (lineEnd? t).map fun after => (made [], after)

/-- The definitions at the front of a paragraph, and what is left of it. -/
def splitDefinitions (t : Text) : List Definition × Text := go t.length t
where
  go : Nat → Text → List Definition × Text
    | 0, t => ([], t)
    | fuel + 1, t =>
      match definition? t with
      | some (d, rest) =>
        let (ds, last) := go fuel rest
        (d :: ds, last)
      | none => ([], t)

/-- The rest of an inline link, from its opening parenthesis on: destination and title. -/
def inlineTail? (t : Text) : Option ((Text × Text) × Text) := do
  let t ← Text.afterPart? ['('] t
  let (destination, t) ← destination? (skipSeparator t)
  let separated := skipSeparator t
  let plain : Option ((Text × Text) × Text) := do
    return ((unescape destination, []), ← Text.afterPart? [')'] separated)
  match if separated.length = t.length then none else title? separated with
  | some (title, after) =>
    return ((unescape destination, unescape title), ← Text.afterPart? [')'] (skipSeparator after))
  | none => plain

end MarkdownLists.Markdown
