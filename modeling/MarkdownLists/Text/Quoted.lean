import MarkdownLists.Text.Line
import MarkdownLists.Text.CharClass

/-! # Quoted text in messages

A refused word is shown between double quotes. Line ends, tabs, quotes and backslashes have short
escapes, whatever else would not be seen is named by its code point, and so is a combining character
that has nothing before it to attach to.
-/

namespace MarkdownLists.Text
set_option autoImplicit false

/-- Lower-case hexadecimal digits, without leading zeros. -/
def hexadecimal (n : Nat) : Text := Nat.toDigits 16 n

def codePoint (c : Char) : Text := ['\\', 'u', '\x7b'] ++ hexadecimal c.toNat ++ ['\x7d']

def quoteChar (atStart : Bool) (c : Char) : Text :=
  if c = '"' || c = '\\' then ['\\', c]
  else if c = '\n' then ['\\', 'n']
  else if c = '\r' then ['\\', 'r']
  else if c = '\t' then ['\\', 't']
  else if c.toNat = 0 then ['\\', '0']
  else if CharClass.isUnprintable c || (atStart && CharClass.isCombining c) then codePoint c
  else [c]

def quoted (t : Text) : Text :=
  let inner := match t with
    | [] => []
    | c :: rest => quoteChar true c ++ rest.flatMap (quoteChar false)
  '"' :: (inner ++ ['"'])

end MarkdownLists.Text
