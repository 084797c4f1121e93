import MarkdownLists.Options
import MarkdownLists.Toml.Document

/-! # Options from a TOML text

The options are `number`, and under `plugin.lists` the texts `bullet` and `ordered_marker`. What is missing
keeps its default, and other keys are ignored. Where a table is expected, an array gives its members by
position, and a date and time, which has none of them, leaves the defaults. What is said of a text that gives no
options is left to the caller.
-/

namespace MarkdownLists
set_option autoImplicit false

namespace Toml.Value

/-- The members of a table with these names. -/
def members? (names : List Text) : Value → Option (List (Option Value))
  | .table _ es => some (names.map fun name => Entries.find? es name)
  | .array vs => some ((List.range names.length).map fun i => vs[i]?)
  | .tables all =>
    some ((List.range names.length).map fun i => (all.reverse[i]?).map (.table .header))
  | .dateTime _ => some (names.map fun _ => none)
  | _ => none

def isEmptyContainer : Value → Bool
  | .table _ es => es.isEmpty
  | .array vs => vs.isEmpty
  | _ => false

/-- The word of a choice: a string, or the only key of a table, with nothing under it. -/
def choice? : Value → Option Text
  | .string t => some t
  | .table _ [(key, v)] => if v.isEmptyContainer then some key else none
  | _ => none

def boolean? : Value → Option Bool
  | .boolean b => some b
  | _ => none

end Toml.Value

namespace Options

def orDefault {α : Type} (default : α) (read : Toml.Value → Option α) : Option Toml.Value → Option α
  | none => some default
  | some v => read v

def ofLists? (v : Toml.Value) : Option (Bullet × OrderedMarker) := do
  let members ← v.members? ["bullet".toList, "ordered_marker".toList]
  let bullet ← orDefault .dash (fun v => v.choice?.bind Bullet.ofText?) (members[0]?.join)
  let suffix ← orDefault .period (fun v => v.choice?.bind OrderedMarker.ofText?) (members[1]?.join)
  return (bullet, suffix)

def ofPlugin? (v : Toml.Value) : Option (Bullet × OrderedMarker) := do
  let members ← v.members? ["lists".toList]
  orDefault (.dash, .period) ofLists? (members[0]?.join)

def ofEntries? (es : Toml.Entries) : Option Options := do
  let number ← orDefault false Toml.Value.boolean? (Toml.Entries.find? es "number".toList)
  let (bullet, suffix) ← orDefault (.dash, .period) ofPlugin? (Toml.Entries.find? es "plugin".toList)
  return ⟨bullet, suffix, number⟩

def ofToml (refusal : Text → Text) (t : Text) : Except OptionError Options :=
  match (Toml.document? t).bind ofEntries? with
  | some o => .ok o
  | none => .error (.options (refusal t))

end Options

end MarkdownLists
