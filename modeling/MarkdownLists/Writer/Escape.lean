import MarkdownLists.Text.CharClass
import MarkdownLists.Text.Backtick

/-! # Backslash escapes

The text of a document has its escapes and character references resolved, so it cannot be written as it
stands: a character that would be read as syntax gets a backslash. At the start of a line this also holds
for a character, or a number and its suffix, that would open a block.
-/

namespace MarkdownLists.Writer
set_option autoImplicit false

def inlineSyntax : List Char := ['\\', backtick, '*', '_', '[', ']', '~']

def blockStart : List Char := ['#', '>', '-', '+', '=']

/-- Whether what follows an ampersand would be read as the rest of a character reference. -/
def startsReference (rest : Text) : Bool :=
  let name := rest.takeWhile (· ≠ ';')
  rest.contains ';' && !name.isEmpty && name.all fun c => c.isAlphanum || c = '#'

/-- Whether what follows a `<` would be read as the rest of a tag. -/
def startsTag : Text → Bool
  | [] => false
  | c :: _ => c.isAlpha || c = '/' || c = '!' || c = '?'

def needsEscape (c : Char) (rest : Text) : Bool :=
  if c = '&' then startsReference rest
  else if c = '<' then startsTag rest
  else inlineSyntax.contains c

def escapeInline : Text → Text
  | [] => []
  | c :: rest =>
    if needsEscape c rest then '\\' :: c :: escapeInline rest else c :: escapeInline rest

/-- Escapes text that begins a line. -/
def escapeLineStart (t : Text) : Text :=
  let digits := t.takeWhile Char.isDigit
  match t.dropWhile Char.isDigit with
  | [] => escapeInline t
  | c :: rest =>
    if digits.isEmpty && blockStart.contains c then '\\' :: c :: escapeInline rest
    else if 1 ≤ digits.length && digits.length ≤ 9 && (c = '.' || c = ')') then
      digits ++ '\\' :: c :: escapeInline rest
    else escapeInline t

def escape (lineStart : Bool) (t : Text) : Text :=
  if lineStart then escapeLineStart t else escapeInline t

/-- Puts a backslash before a last character `c`. -/
def escapeLast (c : Char) (t : Text) : Text :=
  match t.getLast? with
  | some d => if d = c then t.dropLast ++ ['\\', c] else t
  | none => t

end MarkdownLists.Writer
