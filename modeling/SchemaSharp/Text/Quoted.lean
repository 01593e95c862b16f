import SchemaSharp.Text.Printable

/-!
A text in quotes, as messages show it. Single quotes are used unless the text holds one and no
double quote; a backslash, the quote in use and every character without a visible form are escaped.
-/

namespace SchemaSharp.Text

def hexDigit (n : Nat) : Char :=
  if n < 10 then Char.ofNat (0x30 + n) else Char.ofNat (0x57 + n)

/-- Exactly `width` lower-case hexadecimal digits, the highest first. -/
def hexDigits : Nat → Nat → List Char
  | 0, _ => []
  | width + 1, n => hexDigits width (n / 16) ++ [hexDigit (n % 16)]

theorem hexDigits_length (width n : Nat) : (hexDigits width n).length = width := by
  induction width generalizing n with
  | zero => rfl
  | succ width ih => simp [hexDigits, ih]

/-- The shortest of the three numeric escapes that can hold the code point. -/
def numericEscape (code : Nat) : List Char :=
  if code < 0x100 then '\\' :: 'x' :: hexDigits 2 code
  else if code < 0x10000 then '\\' :: 'u' :: hexDigits 4 code
  else '\\' :: 'U' :: hexDigits 8 code

def quoteMark (text : List Char) : Char :=
  if text.contains '\'' && !text.contains '"' then '"' else '\''

def escapeFor (mark : Char) (shown : Char → Bool) (c : Char) : List Char :=
  if c == '\\' || c == mark then ['\\', c]
  else if c == '\t' then ['\\', 't']
  else if c == '\n' then ['\\', 'n']
  else if c == '\r' then ['\\', 'r']
  else if shown c then [c]
  else numericEscape c.toNat

def quotedWith (shown : Char → Bool) (text : List Char) : List Char :=
  let mark := quoteMark text
  mark :: text.flatMap (escapeFor mark shown) ++ [mark]

def quoted (text : String) : String :=
  String.ofList (quotedWith isPrintable text.toList)

/-- Like `quoted`, but everything beyond ASCII is escaped as well. -/
def quotedAscii (text : String) : String :=
  String.ofList (quotedWith (fun c => c.toNat < 0x80 && isPrintable c) text.toList)

def quotedOption : Option String → String
  | none => "None"
  | some text => quoted text

end SchemaSharp.Text
