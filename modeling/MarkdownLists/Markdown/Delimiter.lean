import MarkdownLists.Document
import MarkdownLists.Text.CharClass

/-! # Delimiter runs

A run of `*`, `_` or `~` may open or close emphasis, depending on what stands before and after it. Runs are
matched from left to right, each closing one with the nearest run that can open it; runs in between
and what stays unmatched are plain text.
-/

namespace MarkdownLists.Markdown
set_option autoImplicit false

structure Run where
  char : Char
  /-- The delimiters that are not used yet. -/
  count : Nat
  /-- The delimiters that the run had at first. -/
  length : Nat
  canOpen : Bool
  canClose : Bool
  deriving DecidableEq, Repr

/-- A piece of a paragraph before its delimiters are matched. -/
inductive Piece
  | done (i : Inline)
  | run (r : Run)

namespace Run

/-- Stars and double tildes may stand inside a word. -/
def insideWords (char : Char) (length : Nat) : Bool :=
  char = '*' || (char = '~' && length = 2)

/-- A run of `length` delimiters between two characters; a line end stands for a missing one. -/
def between (char : Char) (length : Nat) (before after : Char) : Run :=
  let spaceBefore := CharClass.isWhiteSpace before
  let spaceAfter := CharClass.isWhiteSpace after
  let markBefore := CharClass.isPunctuation before
  let markAfter := CharClass.isPunctuation after
  let tildes := char = '~' && length = 2
  let canOpen := !spaceAfter &&
    (tildes || (insideWords char length && !markAfter) || spaceBefore || markBefore)
  let canClose := !spaceBefore &&
    ((insideWords char length && !markBefore) || spaceAfter || markAfter)
  ⟨char, length, length, canOpen, canClose⟩

def isBoth (r : Run) : Bool := r.canOpen && r.canClose

/-- Whether `opener` may be closed by `closer`. Tildes match runs of their own length; for the others,
runs that could both open and close must not add up to a multiple of three. -/
def opensFor (opener closer : Run) : Bool :=
  opener.canOpen && opener.char = closer.char &&
    if closer.char = '~' then opener.length = closer.length
    else (!opener.isBoth && !closer.isBoth) || (opener.length + closer.length) % 3 ≠ 0 ||
      closer.length % 3 = 0

/-- How many delimiters a match uses on each side, and what it makes. -/
def wrap (opener closer : Run) : Nat × Span :=
  if closer.char = '~' then (closer.count, .strikethrough)
  else if 2 ≤ opener.count && 2 ≤ closer.count then (2, .strong)
  else (1, .emphasis)

def plain (r : Run) : Inline := .text (List.replicate r.count r.char)

end Run

namespace Piece

def plain : Piece → Inline
  | done i => i
  | run r => r.plain

end Piece

/-- The nearest run that `closer` can close, with what follows it and what comes before it. Both lists hold
the nearest piece first. -/
def findOpener? (closer : Run) : List Piece → Option (List Piece × Run × List Piece)
  | [] => none
  | .run r :: rest =>
    if r.opensFor closer then some ([], r, rest)
    else (findOpener? closer rest).map fun (inner, found) => (.run r :: inner, found)
  | p :: rest => (findOpener? closer rest).map fun (inner, found) => (p :: inner, found)

/-- Matches `closer` with runs before it as long as delimiters are left. -/
def closeRun : Nat → Run → List Piece → List Piece
  | 0, closer, before => .run closer :: before
  | fuel + 1, closer, before =>
    match findOpener? closer before with
    | none => .run closer :: before
    | some (inner, opener, outer) =>
      let (used, span) := opener.wrap closer
      let wrapped := Piece.done (.span span (inner.reverse.map Piece.plain))
      let rest := if opener.count ≤ used then outer
        else .run { opener with count := opener.count - used } :: outer
      if closer.count ≤ used then wrapped :: rest
      else closeRun fuel { closer with count := closer.count - used } (wrapped :: rest)

def resolveStep (before : List Piece) (p : Piece) : List Piece :=
  match p with
  | .run r => if r.canClose then closeRun r.count r before else .run r :: before
  | .done _ => p :: before

def resolve (pieces : List Piece) : List Inline :=
  (pieces.foldl resolveStep []).reverse.map Piece.plain

end MarkdownLists.Markdown
