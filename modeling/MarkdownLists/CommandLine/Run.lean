import MarkdownLists.CommandLine.Arguments
import MarkdownLists.CommandLine.Files
import MarkdownLists.Options.File

/-! # Running a command

Without file names, standard input is formatted to standard output. Files are rewritten in place, those
whose text does not change are left alone. A check writes nothing and tells by its exit status whether
there is something to change. The first failure ends the run. All runs are those whose log is switched off, as it is
by default.
-/

namespace MarkdownLists.CommandLine
set_option autoImplicit false

inductive RunError
  | readingOptions (path : Text) (fault : FileFault)
  | loadingOptions (path : Text) (e : OptionError)
  | reading (path : Text) (fault : FileFault)
  | writing (path : Text) (fault : FileFault)
  | readingInput (fault : FileFault)
  deriving DecidableEq, Repr

def RunError.message : RunError → Text
  | readingOptions path fault => "reading options from ".toList ++ path ++ ": ".toList ++ fault.message
  | loadingOptions path e => "loading options from ".toList ++ path ++ ": ".toList ++ e.message
  | reading path fault => "reading ".toList ++ path ++ ": ".toList ++ fault.message
  | writing path fault => "writing ".toList ++ path ++ ": ".toList ++ fault.message
  | readingInput fault => "reading stdin: ".toList ++ fault.message

/-- What a run shows to the outside, apart from files. -/
structure Outcome where
  exit : Nat
  output : Text := []
  errors : Text := []
  deriving DecidableEq, Repr

namespace Outcome

def success : Outcome := ⟨0, [], []⟩

def failed (e : RunError) : Outcome := ⟨1, [], "Error: ".toList ++ e.message ++ ['\n']⟩

/-- The command line could not be used. -/
def unusable (notice : Text) : Outcome := ⟨2, [], notice⟩

/-- The end of a check that found `n` files to change. -/
def checked (n : Nat) : Outcome :=
  if n = 0 then success
  else ⟨1, [], Nat.toDigits 10 n ++ " file(s) would be reformatted\n".toList⟩

end Outcome

def versionText : Text := "cmark-lists 0.1.0\n".toList

/-- The texts that a run shows but does not word: the help, and what the readers of command lines and of TOML say
of what they refuse. -/
structure Notices where
  help : Text
  misuse : List Text → Text
  refusal : Text → Text
  deriving Inhabited

section
variable {m : Type → Type} [Monad m]

def readText (env : Environment m) (name : Text) : m (Except FileFault Text) := do
  return (← env.read name).bind FileContent.text?

def resolveOptions (env : Environment m) (notices : Notices) (c : Command) :
    m (Except RunError Options) := do
  match c.optionsFile with
  | none => return .ok (c.override {})
  | some path =>
    match ← readText env path with
    | .error fault => return .error (.readingOptions path fault)
    | .ok t =>
      match Options.ofToml notices.refusal t with
      | .error e => return .error (.loadingOptions path e)
      | .ok o => return .ok (c.override o)

def formatInput (env : Environment m) (format : Text → Text) (check : Bool) : m Outcome := do
  match (← env.input).text? with
  | .error fault => return .failed (.readingInput fault)
  | .ok t =>
    if check then return if format t = t then .success else ⟨1, [], []⟩
    else return ⟨0, format t, []⟩

/-- Formats files one after the other; `changed` counts those before that are not as they should be. -/
def formatFiles (env : Environment m) (format : Text → Text) (check : Bool) (changed : Nat) :
    List Text → m Outcome
  | [] => return if check then .checked changed else .success
  | path :: rest => do
    match ← readText env path with
    | .error fault => return .failed (.reading path fault)
    | .ok t =>
      if format t = t then formatFiles env format check changed rest
      else if check then formatFiles env format check (changed + 1) rest
      else
        match ← env.write path (format t) with
        | .error fault => return .failed (.writing path fault)
        | .ok () => formatFiles env format check (changed + 1) rest

def Command.run (env : Environment m) (notices : Notices) (format : Options → Text → Text) (c : Command) :
    m Outcome := do
  match ← resolveOptions env notices c with
  | .error e => return .failed e
  | .ok o =>
    if c.files.isEmpty then formatInput env (format o) c.check
    else formatFiles env (format o) c.check 0 c.files

def run (env : Environment m) (notices : Notices) (format : Options → Text → Text) (args : List Text) :
    m Outcome :=
  match Request.parse? args with
  | none => return .unusable (notices.misuse args)
  | some .version => return ⟨0, versionText, []⟩
  | some .help => return ⟨0, notices.help, []⟩
  | some (.run c) => c.run env notices format

end

end MarkdownLists.CommandLine
