import MarkdownLists.Toml.Scalar

/-! # TOML documents

A document is a sequence of lines, each with a key and a value or with the header of the table that the keys
after it belong to. Values may be nested in arrays and inline tables to a depth of 79, and a key has at
most 79 parts.
-/

namespace MarkdownLists.Toml
set_option autoImplicit false

def depthLimit : Nat := 80

/-- The text after a comment, up to the end of its line. -/
def skipComment (t : Text) : Text :=
  match t with
  | '#' :: rest => rest.dropWhile isTextChar
  | _ => t

/-- The text after the rest of a line, which holds nothing but a comment. -/
def afterLine? (t : Text) : Option Text :=
  match skipComment (skipBlanks t) with
  | [] => some []
  | rest => afterNewline? rest

def skipTrivia : Nat → Text → Text
  | 0, t => t
  | fuel + 1, t =>
    let t := skipBlanks t
    match afterNewline? (skipComment t) with
    | some rest => skipTrivia fuel rest
    | none => t

def isBareKeyChar (c : Char) : Bool := c.isAlphanum || c = '_' || c = '-'

def simpleKey? : Reader Text := fun t =>
  match quoted? t with
  | some found => some found
  | none =>
    let key := t.takeWhile isBareKeyChar
    if key.isEmpty then none else some (key, t.dropWhile isBareKeyChar)

def keyParts? : Nat → Reader (List Text)
  | 0, _ => none
  | fuel + 1, t => do
    let (key, rest) ← simpleKey? (skipBlanks t)
    match skipBlanks rest with
    | '.' :: tail =>
      let (keys, after) ← keyParts? fuel tail
      return (key :: keys, after)
    | after => return ([key], after)

/-- A dotted key: the path to a table, and the key in it. -/
def key? : Reader (List Text × Text) := fun t => do
  let (keys, rest) ← keyParts? (depthLimit - 1) t
  return ((keys.dropLast, keys.getLastD []), rest)

/-- The elements of an array, after its opening bracket. -/
def elements? (value? : Reader Value) : Nat → Reader (List Value)
  | 0, _ => none
  | fuel + 1, t =>
    match skipTrivia t.length t with
    | ']' :: rest => some ([], rest)
    | t => do
      let (v, rest) ← value? t
      match skipTrivia rest.length rest with
      | ',' :: tail =>
        let (vs, after) ← elements? value? fuel tail
        return (v :: vs, after)
      | ']' :: after => return ([v], after)
      | _ => none

def pair? (value? : Reader Value) : Reader ((List Text × Text) × Value) := fun t => do
  let (key, rest) ← key? t
  let rest ← Text.afterPart? ['='] rest
  let (v, after) ← value? (skipBlanks rest)
  return ((key, v), after)

/-- The pairs of an inline table up to its closing brace; there is at least one. -/
def pairs? (value? : Reader Value) : Nat → Entries → Reader Entries
  | 0, _, _ => none
  | fuel + 1, es, t => do
    let (((path, key), v), rest) ← pair? value? t
    let es ← es.insertDotted? key v path
    match skipBlanks rest with
    | ',' :: tail => pairs? value? fuel es tail
    | '\x7d' :: after => return (es, after)
    | _ => none

def inlineTable? (value? : Reader Value) : Reader Value := fun t =>
  match skipBlanks t with
  | '\x7d' :: rest => some (.table .inline [], rest)
  | t => (pairs? value? (t.length + 1) [] t).map fun (es, rest) => (.table .inline es, rest)

/-- A value; arrays and inline tables in it are nested less than `depth` deep. -/
def value? : Nat → Reader Value
  | 0, _ => none
  | depth + 1, t =>
    match t with
    | [] => none
    | c :: rest =>
      if c = '"' || c = '\'' then (string? t).map fun (s, after) => (.string s, after)
      else if c = '[' then
        if depth = 0 then none
        else (elements? (value? depth) (rest.length + 1) rest).map fun (vs, after) => (.array vs, after)
      else if c = '\x7b' then
        if depth = 0 then none else inlineTable? (value? depth) rest
      else boolean? t <|> number? t

/-- The entries of the document so far, and the header that the next keys belong to. -/
structure Reading where
  root : Entries
  header : List Text

namespace Reading

def addPair? (r : Reading) (path : List Text) (key : Text) (v : Value) : Option Reading := do
  return { r with root := ← r.root.within? (Entries.insertDotted? key v path) r.header }

/-- Reads a header, after its first bracket. -/
def header? (r : Reading) (t : Text) : Option (Reading × Text) :=
  match t with
  | '[' :: rest => do
    let ((path, key), after) ← key? rest
    let after ← Text.afterPart? [']', ']'] after
    return (⟨← r.root.declareElement? path key, path ++ [key]⟩, after)
  | _ => do
    let ((path, key), after) ← key? t
    let after ← Text.afterPart? [']'] after
    return (⟨← r.root.declareTable? path key, path ++ [key]⟩, after)

def lines? : Nat → Reading → Text → Option Reading
  | 0, _, _ => none
  | fuel + 1, r, t =>
    match skipBlanks t with
    | [] => some r
    | c :: rest =>
      if c = '#' || c = '\n' || c = '\r' then do lines? fuel r (← afterLine? (c :: rest))
      else if c = '[' then do
        let (r, after) ← r.header? rest
        lines? fuel r (← afterLine? after)
      else do
        let (((path, key), v), after) ← pair? (value? depthLimit) (c :: rest)
        let r ← r.addPair? path key v
        lines? fuel r (← afterLine? after)

end Reading

/-- The entries of a TOML document; a byte order mark at its start is skipped. -/
def document? (t : Text) : Option Entries :=
  let t := match t with
    | '\ufeff' :: rest => rest
    | _ => t
  (Reading.lines? (t.length + 1) ⟨[], []⟩ t).map Reading.root

end MarkdownLists.Toml
