import MarkdownLists.Text.Line

/-! # Files

What a run sees of its environment: standard input, and files that it can read and write by their names. A
store is such an environment in memory, a set of files and directories below one directory.
-/

namespace MarkdownLists.CommandLine
set_option autoImplicit false

/-- The content of a file: text, or bytes that do not encode one. -/
inductive FileContent
  | text (t : Text)
  | binary (bytes : List UInt8)
  deriving DecidableEq, Repr

inductive FileFault
  | missing
  | notDirectory
  | isDirectory
  | notText
  | other (reason : Text)
  deriving DecidableEq, Repr

def FileFault.message : FileFault → Text
  | missing => "No such file or directory (os error 2)".toList
  | notDirectory => "Not a directory (os error 20)".toList
  | isDirectory => "Is a directory (os error 21)".toList
  | notText => "stream did not contain valid UTF-8".toList
  | other reason => reason

def FileContent.text? : FileContent → Except FileFault Text
  | text t => .ok t
  | binary _ => .error .notText

structure Environment (m : Type → Type) where
  input : m FileContent
  read : Text → m (Except FileFault FileContent)
  write : Text → Text → m (Except FileFault Unit)

/-- Files and empty directories by the names on the way to them. -/
structure Store where
  files : List (List Text × FileContent)
  directories : List (List Text)
  deriving Repr

namespace Store

/-- The names between slashes. -/
def components : Text → List Text
  | [] => [[]]
  | c :: rest =>
    if c = '/' then [] :: components rest
    else match components rest with
      | [] => [[c]]
      | name :: names => (c :: name) :: names

def find? (s : Store) (path : List Text) : Option FileContent :=
  (s.files.find? (·.1 = path)).map (·.2)

/-- Whether something lies below the path, or it is a directory of its own. -/
def isDirectory (s : Store) (path : List Text) : Bool :=
  s.directories.any (fun d => path.isPrefixOf d) || s.files.any fun f => path.isPrefixOf f.1

/-- The file that names lead to from a directory. -/
def walk (s : Store) (directory : List Text) : List Text → Except FileFault (List Text)
  | [] => .error .isDirectory
  | name :: rest =>
    if name.isEmpty || name = ['.'] then walk s directory rest
    else if name = ['.', '.'] then
      if directory.isEmpty then .error .missing else walk s directory.dropLast rest
    else
      let path := directory ++ [name]
      if (s.find? path).isSome then if rest.isEmpty then .ok path else .error .notDirectory
      else if s.isDirectory path then walk s path rest
      else .error .missing

/-- The file of a name. Nothing is known outside the directory of the store. -/
def locate (s : Store) (name : Text) : Except FileFault (List Text) :=
  if name.head? = some '/' then
    if name.all (· = '/') then .error .isDirectory else .error .missing
  else s.walk [] (components name)

def read (s : Store) (name : Text) : Except FileFault FileContent := do
  let path ← s.locate name
  match s.find? path with
  | some content => return content
  | none => throw .missing

def put (s : Store) (path : List Text) (content : FileContent) : Store :=
  { s with files := s.files.map fun f => if f.1 = path then (path, content) else f }

/-- The environment of a store, with some standard input. -/
def environment (input : FileContent) : Environment (StateM Store) where
  input := pure input
  read name := do return (← get).read name
  write name t := do
    let s ← get
    match s.locate name with
    | .ok path =>
      set (s.put path (.text t))
      return .ok ()
    | .error fault => return .error fault

end Store

end MarkdownLists.CommandLine
