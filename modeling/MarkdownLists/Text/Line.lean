/-! # Lines of text

A text is a list of characters. A line is built from pieces, so that a marker or an indentation can be
put in front of it without copying the rest; what a line says is the concatenation of its pieces.
-/

namespace MarkdownLists
set_option autoImplicit false

abbrev Text := List Char

namespace Text

def spaces (n : Nat) : Text := List.replicate n ' '

@[simp] theorem length_spaces (n : Nat) : (spaces n).length = n := List.length_replicate

@[simp] theorem spaces_zero : spaces 0 = [] := rfl

/-- The stretches between line feeds; there is always at least one. -/
def splitLines : Text → List Text
  | [] => [[]]
  | c :: rest =>
    if c = '\n' then [] :: splitLines rest
    else match splitLines rest with
      | [] => [[c]]
      | line :: lines => (c :: line) :: lines

def joinLines (lines : List Text) : Text := ['\n'].intercalate lines

theorem splitLines_ne_nil (t : Text) : splitLines t ≠ [] := by
  cases t with
  | nil => simp [splitLines]
  | cons c rest =>
    rw [splitLines]
    split
    · simp
    · split <;> simp

def startsWith (part t : Text) : Bool := part.isPrefixOf t

/-- What follows `part` when `t` starts with it. -/
def afterPart? : Text → Text → Option Text
  | [], t => some t
  | _ :: _, [] => none
  | c :: part, d :: t => if c = d then afterPart? part t else none

theorem afterPart?_eq_some_iff {part t rest : Text} :
    afterPart? part t = some rest ↔ t = part ++ rest := by
  induction part generalizing t with
  | nil => simp [afterPart?]
  | cons c part ih =>
    cases t with
    | nil => simp [afterPart?]
    | cons d t =>
      by_cases h : c = d
      · simp [afterPart?, h, ih]
      · simp [afterPart?, h, Ne.symm h]

/-- The text without the characters of `p` at its end. -/
def trimEnd (p : Char → Bool) (t : Text) : Text := (t.reverse.dropWhile p).reverse

/-- The text without the characters of `p` at either end. -/
def trim (p : Char → Bool) (t : Text) : Text := trimEnd p (t.dropWhile p)

end Text

structure Line where
  pieces : List Text
  deriving DecidableEq, Repr

namespace Line

def empty : Line := ⟨[]⟩

def push (l : Line) (t : Text) : Line := if t.isEmpty then l else ⟨l.pieces ++ [t]⟩

def ofText (t : Text) : Line := empty.push t

def prepend (l : Line) (t : Text) : Line := ⟨t :: l.pieces⟩

def text (l : Line) : Text := l.pieces.flatten

/-- A line is blank when no piece of it holds a character. -/
def isBlank (l : Line) : Bool := l.pieces.all List.isEmpty

@[simp] theorem text_empty : empty.text = [] := rfl

@[simp] theorem text_push (l : Line) (t : Text) : (l.push t).text = l.text ++ t := by
  cases t <;> simp [push, text]

@[simp] theorem text_ofText (t : Text) : (ofText t).text = t := by simp [ofText]

@[simp] theorem text_prepend (l : Line) (t : Text) : (l.prepend t).text = t ++ l.text := rfl

theorem isBlank_iff (l : Line) : l.isBlank = true ↔ l.text = [] := by
  simp [isBlank, text, List.isEmpty_iff]

end Line

end MarkdownLists
