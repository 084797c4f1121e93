import MarkdownLists.Text.CharClass
import MarkdownLists.Toml.Value

/-! # TOML scalars

Strings of the four sorts, numbers, dates and times. Every reader gives the value at the front of a text and
the text after it.
-/

namespace MarkdownLists.Toml
set_option autoImplicit false

abbrev Reader (α : Type) := Text → Option (α × Text)

def skipBlanks (t : Text) : Text := t.dropWhile CharClass.isBlank

def afterNewline? : Text → Option Text
  | '\n' :: rest => some rest
  | '\r' :: '\n' :: rest => some rest
  | _ => none

/-- The characters of strings and comments: all but the controls other than the tab. -/
def isTextChar (c : Char) : Bool := c = '\t' || !CharClass.isAsciiControl c

/-! ## Strings -/

def hexValue? (c : Char) : Option Nat :=
  if c.isDigit then some (c.toNat - '0'.toNat)
  else if 'a' ≤ c && c ≤ 'f' then some (c.toNat - 'a'.toNat + 10)
  else if 'A' ≤ c && c ≤ 'F' then some (c.toNat - 'A'.toNat + 10)
  else none

def hexNumber? (digits : Text) : Option Nat :=
  digits.foldl (fun n c => do return (← n) * 16 + (← hexValue? c)) (some 0)

/-- The character that `count` hexadecimal digits name. -/
def codePoint? (count : Nat) : Reader Char := fun t =>
  if t.length < count then none
  else match hexNumber? (t.take count) with
    | some n => if n.isValidChar then some (Char.ofNat n, t.drop count) else none
    | none => none

/-- What an escape stands for, given the text after the backslash. -/
def escape? : Reader Char
  | 'b' :: rest => some ('\x08', rest)
  | 't' :: rest => some ('\t', rest)
  | 'n' :: rest => some ('\n', rest)
  | 'f' :: rest => some ('\x0c', rest)
  | 'r' :: rest => some ('\r', rest)
  | '"' :: rest => some ('"', rest)
  | '\\' :: rest => some ('\\', rest)
  | 'u' :: rest => codePoint? 4 rest
  | 'U' :: rest => codePoint? 8 rest
  | _ => none

def basicBody? : Nat → Reader Text
  | 0, _ => none
  | _ + 1, [] => none
  | fuel + 1, c :: rest =>
    if c = '"' then some ([], rest)
    else if c = '\\' then do
      let (d, rest) ← escape? rest
      let (t, after) ← basicBody? fuel rest
      return (d :: t, after)
    else if isTextChar c then (basicBody? fuel rest).map fun (t, after) => (c :: t, after)
    else none

def literalBody? : Reader Text
  | [] => none
  | c :: rest =>
    if c = '\'' then some ([], rest)
    else if isTextChar c then (literalBody? rest).map fun (t, after) => (c :: t, after)
    else none

/-- The end of a string over several lines, at a run of `n` quotes: up to two of them may belong to the
string. -/
def closingRun? (quote : Char) (n : Nat) (after : Text) : Option (Text × Text) :=
  if 3 ≤ n && n ≤ 5 then some (List.replicate (n - 3) quote, after) else none

/-- Skips white space over line ends. -/
def skipWhite : Text → Text
  | [] => []
  | '\r' :: '\n' :: rest => skipWhite rest
  | c :: rest => if CharClass.isBlank c || c = '\n' then skipWhite rest else c :: rest

/-- The body of a string over several lines; in one with double quotes a backslash escapes, or joins
lines. -/
def linesBody? (quote : Char) : Nat → Reader Text
  | 0, _ => none
  | _ + 1, [] => none
  | fuel + 1, c :: rest =>
    if c = quote then
      let run := (c :: rest).takeWhile (· = quote)
      let after := (c :: rest).dropWhile (· = quote)
      if run.length < 3 then (linesBody? quote fuel after).map fun (t, tail) => (run ++ t, tail)
      else closingRun? quote run.length after
    else if c = '\\' && quote = '"' then
      if (afterNewline? (skipBlanks rest)).isSome then linesBody? quote fuel (skipWhite rest)
      else do
        let (d, rest) ← escape? rest
        let (t, after) ← linesBody? quote fuel rest
        return (d :: t, after)
    else if isTextChar c then (linesBody? quote fuel rest).map fun (t, after) => (c :: t, after)
    else match afterNewline? (c :: rest) with
      | some tail => (linesBody? quote fuel tail).map fun (t, after) => ('\n' :: t, after)
      | none => none

def lines? (quote : Char) : Reader Text := fun t =>
  linesBody? quote (t.length + 1) ((afterNewline? t).getD t)

/-- A string in quotes on one line, as keys may be. -/
def quoted? : Reader Text
  | '"' :: rest => basicBody? (rest.length + 1) rest
  | '\'' :: rest => literalBody? rest
  | _ => none

def string? : Reader Text
  | '"' :: '"' :: '"' :: rest => lines? '"' rest
  | '\'' :: '\'' :: '\'' :: rest => lines? '\'' rest
  | t => quoted? t

/-! ## Numbers -/

/-- Digits after the first one; underscores stand between two digits. -/
def moreDigits? (p : Char → Bool) : Reader Text
  | [] => some ([], [])
  | '_' :: rest =>
    match rest with
    | c :: tail => if p c then (moreDigits? p tail).map fun (t, after) => (c :: t, after) else none
    | [] => none
  | c :: rest =>
    if p c then (moreDigits? p rest).map fun (t, after) => (c :: t, after) else some ([], c :: rest)

def digits? (p : Char → Bool) : Reader Text
  | [] => none
  | c :: rest =>
    if p c then (moreDigits? p rest).map fun (t, after) => (c :: t, after) else none

def splitSign : Text → Bool × Text
  | '-' :: rest => (true, rest)
  | '+' :: rest => (false, rest)
  | t => (false, t)

/-- The digits of a decimal integer; a leading zero stands alone. -/
def decimalDigits? : Reader Text
  | '0' :: rest => some (['0'], rest)
  | t => digits? Char.isDigit t

def numeral (base : Nat) (digits : Text) : Nat :=
  digits.foldl (fun n c => n * base + (hexValue? c).getD 0) 0

def bounded? (n : Int) : Option Value :=
  if Int64.minValue.toInt ≤ n ∧ n ≤ Int64.maxValue.toInt then some (.integer n) else none

def radix? (base : Nat) (p : Char → Bool) : Reader Value := fun t => do
  let (digits, rest) ← digits? p t
  return (← bounded? (numeral base digits), rest)

def integer? : Reader Value
  | '0' :: 'x' :: rest => radix? 16 (fun c => (hexValue? c).isSome) rest
  | '0' :: 'o' :: rest => radix? 8 (fun c => '0' ≤ c && c ≤ '7') rest
  | '0' :: 'b' :: rest => radix? 2 (fun c => c = '0' || c = '1') rest
  | t => do
    let (negative, t) := splitSign t
    let (digits, rest) ← decimalDigits? t
    let n : Int := numeral 10 digits
    return (← bounded? (if negative then -n else n), rest)

def exponent? : Reader Int
  | c :: rest =>
    if c = 'e' || c = 'E' then do
      let (negative, t) := splitSign rest
      let (digits, after) ← digits? Char.isDigit t
      let n : Int := numeral 10 digits
      return (if negative then -n else n, after)
    else none
  | [] => none

/-- Whether `mantissa · 10 ^ exponent` is at or beyond the point where rounding to a double gives
infinity. -/
def overflows (mantissa : Nat) (exponent : Int) : Bool :=
  let bound := Nat.pow 2 1024 - Nat.pow 2 970
  let size : Int := (Nat.toDigits 10 mantissa).length + exponent
  if mantissa = 0 || size < 300 then false
  else if 320 < size then true
  else if 0 ≤ exponent then bound ≤ mantissa * Nat.pow 10 exponent.toNat
  else bound * Nat.pow 10 (-exponent).toNat ≤ mantissa

def float? : Reader Value := fun t => do
  let (negative, unsigned) := splitSign t
  match Text.afterPart? ['i', 'n', 'f'] unsigned <|> Text.afterPart? ['n', 'a', 'n'] unsigned with
  | some rest => return (.float (t.take (t.length - rest.length)), rest)
  | none =>
    let (whole, afterWhole) ← decimalDigits? unsigned
    let (fraction, exponent, rest) ← match afterWhole with
      | '.' :: tail => do
        let (fraction, after) ← digits? Char.isDigit tail
        match exponent? after with
        | some (e, rest) => pure (fraction, e, rest)
        | none => pure (fraction, 0, after)
      | _ => do
        let (e, rest) ← exponent? afterWhole
        pure ([], e, rest)
    if !negative && overflows (numeral 10 (whole ++ fraction)) (exponent - fraction.length) then none
    else return (.float (t.take (t.length - rest.length)), rest)

/-! ## Dates and times -/

def fixedDigits? (count : Nat) : Reader Nat := fun t =>
  let digits := t.take count
  if digits.length = count && digits.all Char.isDigit then some (numeral 10 digits, t.drop count)
  else none

def daysIn (year month : Nat) : Nat :=
  if month = 2 then
    if year % 4 = 0 && (year % 100 ≠ 0 || year % 400 = 0) then 29 else 28
  else if month = 4 || month = 6 || month = 9 || month = 11 then 30
  else 31

def afterDate? (t : Text) : Option Text := do
  let (year, t) ← fixedDigits? 4 t
  let (month, t) ← fixedDigits? 2 (← Text.afterPart? ['-'] t)
  let (day, t) ← fixedDigits? 2 (← Text.afterPart? ['-'] t)
  if 1 ≤ month && month ≤ 12 && 1 ≤ day && day ≤ daysIn year month then return t else none

def afterTime? (t : Text) : Option Text := do
  let (hour, t) ← fixedDigits? 2 t
  let (minute, t) ← fixedDigits? 2 (← Text.afterPart? [':'] t)
  let (second, t) ← fixedDigits? 2 (← Text.afterPart? [':'] t)
  if 23 < hour || 59 < minute || 60 < second then none
  else match t with
    | '.' :: c :: rest => if c.isDigit then return rest.dropWhile Char.isDigit else return t
    | _ => return t

/-- The text after an offset from universal time. -/
def afterOffset? : Text → Option Text
  | c :: rest =>
    if c = 'Z' || c = 'z' then some rest
    else if c = '+' || c = '-' then do
      let (hour, t) ← fixedDigits? 2 rest
      let (minute, t) ← fixedDigits? 2 (← Text.afterPart? [':'] t)
      if hour ≤ 23 && minute ≤ 59 then return t else none
    else none
  | [] => none

def dateTime? : Reader Value := fun t =>
  let after := match afterDate? t with
    | none => afterTime? t
    | some rest =>
      match rest with
      | c :: tail =>
        if c = 'T' || c = 't' || c = ' ' then
          match afterTime? tail with
          | some timed => some ((afterOffset? timed).getD timed)
          | none => some rest
        else some rest
      | [] => some rest
  after.map fun rest => (.dateTime (t.take (t.length - rest.length)), rest)

def number? : Reader Value := fun t => dateTime? t <|> float? t <|> integer? t

def boolean? : Reader Value := fun t =>
  match Text.afterPart? ['t', 'r', 'u', 'e'] t with
  | some rest => some (.boolean true, rest)
  | none => (Text.afterPart? ['f', 'a', 'l', 's', 'e'] t).map fun rest => (.boolean false, rest)

end MarkdownLists.Toml
