import SchemaSharp.Text.Quoted

/-!
A text as a string of JSON, in ASCII alone. Characters beyond the first 2^16 are written as two
units.
-/

namespace SchemaSharp.Text

def unitEscape (unit : Nat) : List Char := '\\' :: 'u' :: hexDigits 4 unit

def jsonEscape (c : Char) : List Char :=
  if c == '"' || c == '\\' then ['\\', c]
  else if c == '\n' then ['\\', 'n']
  else if c == '\r' then ['\\', 'r']
  else if c == '\t' then ['\\', 't']
  else if c == '\x08' then ['\\', 'b']
  else if c == '\x0c' then ['\\', 'f']
  else if 0x20 ≤ c.toNat && c.toNat < 0x7f then [c]
  else if c.toNat < 0x10000 then unitEscape c.toNat
  else
    let offset := c.toNat - 0x10000
    unitEscape (0xd800 + offset / 0x400) ++ unitEscape (0xdc00 + offset % 0x400)

def jsonString (text : String) : String :=
  String.ofList ('"' :: text.toList.flatMap jsonEscape ++ ['"'])

end SchemaSharp.Text
