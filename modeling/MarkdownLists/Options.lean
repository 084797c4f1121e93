import MarkdownLists.Text.Quoted

/-! # Options

Bullet lists have one of three bullets and ordered lists one of two suffixes. Each has an alternate, for
a list that directly follows another one of its family: the two must not look alike, or they would be
read back as one list.
-/

namespace MarkdownLists
set_option autoImplicit false

inductive OptionError
  | bullet (given : Text)
  | orderedMarker (given : Text)
  /-- The options text is not a TOML document with values of the right kinds, for a reason that its reader gives. -/
  | options (reason : Text)
  deriving DecidableEq, Repr

namespace OptionError

def message : OptionError → Text
  | bullet given =>
    "invalid bullet ".toList ++ given.quoted ++ ": expected one of \"-\", \"*\", \"+\"".toList
  | orderedMarker given =>
    "invalid ordered marker ".toList ++ given.quoted ++ ": expected one of \".\", \")\"".toList
  | options reason => "options error: ".toList ++ reason

end OptionError

inductive Bullet
  | dash
  | star
  | plus
  deriving DecidableEq, Repr

namespace Bullet

def char : Bullet → Char
  | dash => '-'
  | star => '*'
  | plus => '+'

def text (b : Bullet) : Text := [b.char]

def ofText? (t : Text) : Option Bullet := [dash, star, plus].find? (·.text = t)

def parse (t : Text) : Except OptionError Bullet :=
  match ofText? t with
  | some b => .ok b
  | none => .error (.bullet t)

def alternate : Bullet → Bullet
  | dash => star
  | star => dash
  | plus => dash

theorem alternate_ne (b : Bullet) : b.alternate ≠ b := by cases b <;> decide

theorem ofText?_text (b : Bullet) : ofText? b.text = some b := by cases b <;> rfl

end Bullet

inductive OrderedMarker
  | period
  | paren
  deriving DecidableEq, Repr

namespace OrderedMarker

def char : OrderedMarker → Char
  | period => '.'
  | paren => ')'

def text (m : OrderedMarker) : Text := [m.char]

def ofText? (t : Text) : Option OrderedMarker := [period, paren].find? (·.text = t)

def parse (t : Text) : Except OptionError OrderedMarker :=
  match ofText? t with
  | some m => .ok m
  | none => .error (.orderedMarker t)

def alternate : OrderedMarker → OrderedMarker
  | period => paren
  | paren => period

theorem alternate_ne (m : OrderedMarker) : m.alternate ≠ m := by cases m <;> decide

theorem ofText?_text (m : OrderedMarker) : ofText? m.text = some m := by cases m <;> rfl

end OrderedMarker

structure Options where
  bullet : Bullet := .dash
  orderedMarker : OrderedMarker := .period
  /-- Number the items of ordered lists consecutively. -/
  number : Bool := false
  deriving DecidableEq, Repr

instance : Inhabited Options := ⟨{}⟩

end MarkdownLists
