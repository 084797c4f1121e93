import MarkdownLists.Text.Line

/-! # Regions

A region is a sequence of lines that is written as one text. Putting something in front of its lines
never gives a blank line trailing spaces: blank lines are treated apart by every operation here.
-/

namespace MarkdownLists
set_option autoImplicit false

structure Region where
  lines : List Line
  deriving DecidableEq, Repr

namespace Region

def empty : Region := ⟨[]⟩

def ofText (t : Text) : Region := ⟨t.splitLines.map Line.ofText⟩

def pushLine (r : Region) (l : Line) : Region := ⟨r.lines ++ [l]⟩

def append (r s : Region) : Region := ⟨r.lines ++ s.lines⟩

instance : Append Region := ⟨append⟩

def text (r : Region) : Text := Text.joinLines (r.lines.map Line.text)

def isEmpty (r : Region) : Bool := r.lines.isEmpty

def prefixLine (first blank : Text) (l : Line) : Line :=
  l.prepend (if l.isBlank then blank else first)

/-- Puts `first` before each line that is not blank, and `blank` before the others. -/
def prefixEach (r : Region) (first blank : Text) : Region := ⟨r.lines.map (prefixLine first blank)⟩

def indentLine (n : Nat) (l : Line) : Line := if l.isBlank then l else l.prepend (Text.spaces n)

/-- Puts `n` spaces before each line that is not blank. -/
def indentEach (r : Region) (n : Nat) : Region :=
  if n = 0 then r else ⟨r.lines.map (indentLine n)⟩

def markLine (marker : Text) (l : Line) : Line :=
  if l.isBlank then Line.ofText marker else (l.prepend [' ']).prepend marker

/-- Puts a list marker and one space before the first line, and aligns the others with the text
after it. A blank first line gives way to the bare marker. -/
def markFirst (r : Region) (marker : Text) (width : Nat) : Region :=
  match r.lines with
  | [] => ⟨[Line.ofText marker]⟩
  | first :: rest => ⟨markLine marker first :: rest.map (indentLine width)⟩

@[simp] theorem lines_append (r s : Region) : (r ++ s).lines = r.lines ++ s.lines := rfl

@[simp] theorem lines_pushLine (r : Region) (l : Line) : (r.pushLine l).lines = r.lines ++ [l] := rfl

@[simp] theorem lines_ofText (t : Text) : (ofText t).lines = t.splitLines.map Line.ofText := rfl

@[simp] theorem lines_prefixEach (r : Region) (first blank : Text) :
    (r.prefixEach first blank).lines = r.lines.map (prefixLine first blank) := rfl

end Region

end MarkdownLists
