import MarkdownLists.CommandLine.Run
import MarkdownLists.Format

/-! # The program -/

open MarkdownLists MarkdownLists.CommandLine

namespace MarkdownLists.Program

def contentOf (bytes : ByteArray) : FileContent :=
  match String.fromUTF8? bytes with
  | some s => .text s.toList
  | none => .binary bytes.toList

def faultOf : IO.Error → FileFault
  | .noFileOrDirectory .. => .missing
  | .inappropriateType _ code _ => if code = 20 then .notDirectory else .isDirectory
  | e => .other (toString e).toList

/-- The files of the machine and its standard input. -/
def environment : Environment IO where
  input := do return contentOf (← (← IO.getStdin).readBinToEnd)
  read name := do
    try return .ok (contentOf (← IO.FS.readBinFile (String.ofList name)))
    catch e => return .error (faultOf e)
  write name t := do
    try
      IO.FS.writeFile (String.ofList name) (String.ofList t)
      return .ok ()
    catch e => return .error (faultOf e)

def notices : Notices where
  help :=
    ("Usage: cmark-lists [OPTIONS] [FILES]...\n\nOptions:\n  --bullet <BULLET>\n" ++
      "  --ordered-marker <ORDERED_MARKER>\n  --number\n  --config <PATH>\n  --check\n" ++
      "  -h, --help\n  -V, --version\n").toList
  misuse _ := "error: the command line cannot be used\n".toList
  refusal _ := "the text does not give options in TOML".toList

end MarkdownLists.Program

def main (args : List String) : IO UInt32 := do
  let outcome ← run Program.environment Program.notices Options.formatted (args.map String.toList)
  IO.print (String.ofList outcome.output)
  IO.eprint (String.ofList outcome.errors)
  return outcome.exit.toUInt32
