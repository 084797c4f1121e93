import MarkdownLists.Text.Quoted
import MarkdownLists.Markdown.Names

/-! # Character references

A character reference stands for one or two characters: it names them, or gives a code point in decimal or
hexadecimal digits. A code point that is no character, and zero, stand for U+FFFD.
-/

namespace MarkdownLists.Markdown
set_option autoImplicit false

namespace Reference

def isHexDigit (c : Char) : Bool :=
  c.isDigit || ('a' ≤ c && c ≤ 'f') || ('A' ≤ c && c ≤ 'F')

def digitValue (c : Char) : Nat :=
  if c.isDigit then c.toNat - '0'.toNat
  else if 'a' ≤ c && c ≤ 'f' then c.toNat - 'a'.toNat + 10
  else c.toNat - 'A'.toNat + 10

def numeral (base : Nat) (digits : Text) : Nat :=
  digits.foldl (fun n c => n * base + digitValue c) 0

def replacement : Char := '\ufffd'

def character (n : Nat) : Char :=
  if n.isValidChar && n ≠ 0 then Char.ofNat n else replacement

/-- The characters written as hexadecimal code points joined by `+`. -/
def charactersOf (digits : Text) : Text :=
  let (n, done) := digits.foldr (fun c (acc : Text × Text) =>
    if c = '+' then ([], character (numeral 16 acc.1) :: acc.2) else (c :: acc.1, acc.2)) ([], [])
  character (numeral 16 n) :: done

/-- What the entry for `name` says, in entries `name=digits` that are separated by spaces. -/
def entry? (name : Text) (entries : Text) : Option Text :=
  (words entries).findSome? (Text.afterPart? (name ++ ['=']))
where
  words : Text → List Text
    | [] => [[]]
    | c :: rest => if c = ' ' then [] :: words rest else match words rest with
      | [] => [[c]]
      | w :: ws => (c :: w) :: ws

def named? (name : Text) : Option Text :=
  match name with
  | [] => none
  | c :: _ =>
    match names.find? (·.1 = c) with
    | some (_, lines) => (lines.findSome? fun l => entry? name l.toList).map charactersOf
    | none => none

end Reference

/-- Reads what follows an ampersand as the rest of a character reference. -/
def characterReference? : Text → Option (Text × Text)
  | '#' :: rest =>
    match rest with
    | x :: hex =>
      if x = 'x' || x = 'X' then
        let digits := hex.takeWhile Reference.isHexDigit
        match hex.dropWhile Reference.isHexDigit with
        | ';' :: rest =>
          if 1 ≤ digits.length && digits.length ≤ 6 then
            some ([Reference.character (Reference.numeral 16 digits)], rest)
          else none
        | _ => none
      else
        let digits := (x :: hex).takeWhile Char.isDigit
        match (x :: hex).dropWhile Char.isDigit with
        | ';' :: rest =>
          if 1 ≤ digits.length && digits.length ≤ 7 then
            some ([Reference.character (Reference.numeral 10 digits)], rest)
          else none
        | _ => none
    | [] => none
  | rest =>
    match rest.dropWhile Char.isAlphanum with
    | ';' :: after => (Reference.named? (rest.takeWhile Char.isAlphanum)).map fun t => (t, after)
    | _ => none

/-- Resolves backslash escapes and character references. -/
def unescape : Text → Text := go 0
where
  /-- Skips the `n` characters that a reference has taken. -/
  go : Nat → Text → Text
    | _, [] => []
    | n + 1, _ :: rest => go n rest
    | 0, c :: rest =>
      if c = '\\' then
        match rest with
        | d :: _ => if CharClass.isAsciiPunctuation d then d :: go 1 rest else c :: go 0 rest
        | [] => [c]
      else if c = '&' then
        match characterReference? rest with
        | some (t, after) => t ++ go (rest.length - after.length) rest
        | none => c :: go 0 rest
      else c :: go 0 rest

end MarkdownLists.Markdown
