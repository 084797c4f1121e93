import MarkdownLists.Text.Line
import MarkdownLists.Text.CharClass

/-! # Source lines and columns

A document is read line by line; a line feed, a carriage return, or both together end a line. A cursor is a
place in a line. It knows its column, since a tab reaches to the next multiple of four, and a tab of
which only a part is consumed leaves spaces behind.
-/

namespace MarkdownLists.Markdown
set_option autoImplicit false

/-- The lines of a document, without their ends. A line end at the very end begins no further line. -/
def sourceLines : Text → List Text
  | [] => []
  | '\r' :: '\n' :: rest => [] :: sourceLines rest
  | c :: rest =>
    if c = '\n' ∨ c = '\r' then [] :: sourceLines rest
    else match sourceLines rest with
      | [] => [[c]]
      | line :: lines => (c :: line) :: lines

structure Cursor where
  column : Nat
  rest : Text
  deriving DecidableEq, Repr

namespace Cursor

/-- The number of columns up to the next tab stop. -/
def tabWidth (column : Nat) : Nat := 4 - column % 4

def isBlank (c : Cursor) : Bool := c.rest.all CharClass.isBlank

def widthOf (column : Nat) : Text → Nat
  | ' ' :: rest => widthOf (column + 1) rest + 1
  | '\t' :: rest => widthOf (column + tabWidth column) rest + tabWidth column
  | _ => 0

/-- The number of columns that the blanks at the cursor take. -/
def indent (c : Cursor) : Nat := widthOf c.column c.rest

/-- Consumes blanks of up to `n` columns. -/
def skipFrom (n column : Nat) : Text → Cursor
  | ' ' :: rest => if n = 0 then ⟨column, ' ' :: rest⟩ else skipFrom (n - 1) (column + 1) rest
  | '\t' :: rest =>
    if n = 0 then ⟨column, '\t' :: rest⟩
    else if tabWidth column ≤ n then
      skipFrom (n - tabWidth column) (column + tabWidth column) rest
    else ⟨column + n, Text.spaces (tabWidth column - n) ++ rest⟩
  | t => ⟨column, t⟩

def skip (n : Nat) (c : Cursor) : Cursor := skipFrom n c.column c.rest

def skipBlanks (c : Cursor) : Cursor := c.skip c.indent

/-- Consumes `n` characters that are not tabs. -/
def advance (n : Nat) (c : Cursor) : Cursor := ⟨c.column + n, c.rest.drop n⟩

end Cursor

end MarkdownLists.Markdown
