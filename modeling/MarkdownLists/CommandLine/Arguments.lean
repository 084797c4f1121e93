import MarkdownLists.Options

/-! # Command-line arguments

Options and file names mix freely; after `--` everything is a file name. An option takes its value after an
equals sign or from the next argument, which must not look like an option itself. Arguments are read from
left to right, and the first one that cannot be read makes the whole line unusable.
-/

namespace MarkdownLists.CommandLine
set_option autoImplicit false

structure Command where
  files : List Text := []
  bullet : Option Bullet := none
  orderedMarker : Option OrderedMarker := none
  number : Bool := false
  optionsFile : Option Text := none
  check : Bool := false
  deriving DecidableEq, Repr

inductive Request
  | run (c : Command)
  | version
  | help
  deriving DecidableEq, Repr

/-- The options that take a value. -/
inductive Setting
  | bullet
  | orderedMarker
  | optionsFile
  deriving DecidableEq, Repr

inductive Flag
  | number
  | check
  deriving DecidableEq, Repr

inductive Argument
  | setting (s : Setting) (value : Option Text)
  | flag (f : Flag)
  | version
  | help
  | separator
  | file (name : Text)
  | unknown

def Setting.ofName? (name : Text) : Option Setting :=
  if name = "bullet".toList then some .bullet
  else if name = "ordered-marker".toList then some .orderedMarker
  else if name = "config".toList then some .optionsFile
  else none

/-- A long option by its name, and the value that is attached to it. -/
def Argument.ofLong (name : Text) (value : Option Text) : Argument :=
  match Setting.ofName? name with
  | some s => .setting s value
  | none =>
    if value.isSome then .unknown
    else if name = "number".toList then .flag .number
    else if name = "check".toList then .flag .check
    else if name = "version".toList then .version
    else if name = "help".toList then .help
    else .unknown

def Argument.ofText : Text → Argument
  | ['-', '-'] => .separator
  | '-' :: '-' :: rest =>
    match rest.dropWhile (· ≠ '=') with
    | [] => .ofLong rest none
    | _ :: value => .ofLong (rest.takeWhile (· ≠ '=')) (some value)
  | ['-'] => .file ['-']
  | '-' :: c :: _ => if c = 'V' then .version else if c = 'h' then .help else .unknown
  | t => .file t

/-- Whether the argument after an option can be its value. -/
def isValue : Text → Bool
  | ['-'] => true
  | '-' :: _ => false
  | _ => true

namespace Command

/-- Sets an option that is not set yet. -/
def set? (c : Command) (s : Setting) (value : Text) : Option Command :=
  match s with
  | .bullet =>
    if c.bullet.isSome then none
    else (Bullet.ofText? value).map fun b => { c with bullet := some b }
  | .orderedMarker =>
    if c.orderedMarker.isSome then none
    else (OrderedMarker.ofText? value).map fun m => { c with orderedMarker := some m }
  | .optionsFile =>
    if c.optionsFile.isSome || value.isEmpty then none else some { c with optionsFile := some value }

def setFlag? (c : Command) (f : Flag) : Option Command :=
  match f with
  | .number => if c.number then none else some { c with number := true }
  | .check => if c.check then none else some { c with check := true }

def addFile? (c : Command) (name : Text) : Option Command :=
  if name.isEmpty then none else some { c with files := c.files ++ [name] }

def addFiles? (c : Command) (names : List Text) : Option Command :=
  if names.any List.isEmpty then none else some { c with files := c.files ++ names }

def parse? (c : Command) : List Text → Option Request
  | [] => some (.run c)
  | arg :: rest =>
    match Argument.ofText arg with
    | .separator => (c.addFiles? rest).map .run
    | .setting s (some value) =>
      match c.set? s value with
      | some c => parse? c rest
      | none => none
    | .setting s none =>
      match rest with
      | value :: rest =>
        if isValue value then
          match c.set? s value with
          | some c => parse? c rest
          | none => none
        else none
      | [] => none
    | .flag f =>
      match c.setFlag? f with
      | some c => parse? c rest
      | none => none
    | .version => some .version
    | .help => some .help
    | .file name =>
      match c.addFile? name with
      | some c => parse? c rest
      | none => none
    | .unknown => none

/-- The options that the command line asks for, over those of the options file. -/
def override (c : Command) (o : Options) : Options :=
  { bullet := c.bullet.getD o.bullet
    orderedMarker := c.orderedMarker.getD o.orderedMarker
    number := c.number || o.number }

end Command

/-- What a command line asks for; `none` when it cannot be used. -/
def Request.parse? (args : List Text) : Option Request := Command.parse? {} args

end MarkdownLists.CommandLine
