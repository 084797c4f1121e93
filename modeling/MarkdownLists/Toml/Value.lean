import MarkdownLists.Text.Line

/-! # TOML values and tables

How a table came to be decides how it may grow: one with a header or written inline is closed, one that a
longer header implies may still get its own header, and one that dotted keys made grows by dotted keys
only.
-/

namespace MarkdownLists.Toml
set_option autoImplicit false

inductive TableKind
  | header
  | implied
  | dotted
  | inline
  deriving DecidableEq, Repr

inductive Value
  | string (t : Text)
  | integer (n : Int)
  | float (written : Text)
  | boolean (b : Bool)
  | dateTime (written : Text)
  | array (elements : List Value)
  | table (kind : TableKind) (entries : List (Text × Value))
  /-- An array of tables with headers, the last one first. -/
  | tables (all : List (List (Text × Value)))
  deriving Repr

abbrev Entries := List (Text × Value)

namespace Entries

def find? (es : Entries) (key : Text) : Option Value := (List.find? (·.1 = key) es).map (·.2)

/-- Replaces what stands under a key, or adds it at the end, as `f` says. -/
def alter? (key : Text) (f : Option Value → Option Value) : Entries → Option Entries
  | [] => (f none).map fun v => [(key, v)]
  | (k, v) :: rest =>
    if k = key then (f (some v)).map fun w => (k, w) :: rest
    else (alter? key f rest).map fun es => (k, v) :: es

/-- Adds a key that is not there yet. -/
def insertNew? (key : Text) (v : Value) (es : Entries) : Option Entries :=
  alter? key (fun old => if old.isSome then none else some v) es

/-- Adds `path.key = v`. The tables on the path are made as needed; the last of them has to be one that
dotted keys made. -/
def insertDotted? (key : Text) (v : Value) : List Text → Entries → Option Entries
  | [], es => es.insertNew? key v
  | k :: rest, es => es.alter? k fun
    | none => (insertDotted? key v rest []).map (.table .dotted)
    | some (.table .dotted inner) => (insertDotted? key v rest inner).map (.table .dotted)
    | some (.table .implied inner) =>
      if rest.isEmpty then none else (insertDotted? key v rest inner).map (.table .implied)
    | some (.tables (last :: before)) =>
      if rest.isEmpty then none
      else (insertDotted? key v rest last).map fun es => .tables (es :: before)
    | some _ => none

/-- Changes the table that a header path leads to; an array of tables stands for its last element. -/
def within? (f : Entries → Option Entries) : List Text → Entries → Option Entries
  | [], es => f es
  | k :: rest, es => es.alter? k fun
    | none => (within? f rest []).map (.table .implied)
    | some (.table .inline _) => none
    | some (.table kind inner) => (within? f rest inner).map (.table kind)
    | some (.tables (last :: before)) => (within? f rest last).map fun es => .tables (es :: before)
    | some _ => none

/-- Opens the table of a header `[path.key]`. -/
def declareTable? (path : List Text) (key : Text) (es : Entries) : Option Entries :=
  es.within? (fun parent => parent.alter? key fun
    | none => some (.table .header [])
    | some (.table .implied inner) => some (.table .header inner)
    | some _ => none) path

/-- Opens a further table of a header `[[path.key]]`. -/
def declareElement? (path : List Text) (key : Text) (es : Entries) : Option Entries :=
  es.within? (fun parent => parent.alter? key fun
    | none => some (.tables [[]])
    | some (.tables all) => some (.tables ([] :: all))
    | some _ => none) path

end Entries

end MarkdownLists.Toml
