import SchemaSharp.Text.Quoted
import SchemaSharp.Text.Utf8

/-!
Percent escapes. A path is written with every byte escaped that is not a letter, a digit or one of
`_ . - ~ /`; reading back turns the escapes of each ASCII stretch into bytes and those into text.
-/

namespace SchemaSharp.Location

open Text

def hexValue? (c : Char) : Option Nat :=
  if '0' ≤ c ∧ c ≤ '9' then some (c.toNat - 0x30)
  else if 'a' ≤ c ∧ c ≤ 'f' then some (c.toNat - 0x57)
  else if 'A' ≤ c ∧ c ≤ 'F' then some (c.toNat - 0x37)
  else none

def upperHexDigit (n : Nat) : Char :=
  if n < 10 then Char.ofNat (0x30 + n) else Char.ofNat (0x37 + n)

def isPlainByte (byte : UInt8) : Bool :=
  let c := Char.ofNat byte.toNat
  byte.toNat < 0x80 && (c.isAlphanum || c == '_' || c == '.' || c == '-' || c == '~' || c == '/')

def escapeByte (byte : UInt8) : List Char :=
  if isPlainByte byte then [Char.ofNat byte.toNat]
  else ['%', upperHexDigit (byte.toNat / 16), upperHexDigit (byte.toNat % 16)]

def escape (path : List Char) : List Char :=
  (Utf8.encode path).flatMap escapeByte

/-- The bytes of an ASCII stretch; a percent sign without two digits stands for itself. -/
def unescapeBytes : List Char → List UInt8
  | '%' :: high :: low :: rest =>
      match hexValue? high, hexValue? low with
      | some h, some l => UInt8.ofNat (16 * h + l) :: unescapeBytes rest
      | _, _ => 0x25 :: unescapeBytes (high :: low :: rest)
  | c :: rest => UInt8.ofNat c.toNat :: unescapeBytes rest
  | [] => []

-- The stretch read so far is kept reversed. A character beyond ASCII ends it, so an escape for
-- half a character is never completed across such a character.
def unescapeFrom : List Char → List Char → List Char
  | stretch, [] => Utf8.decodeLossy (unescapeBytes stretch.reverse)
  | stretch, c :: rest =>
      if c.toNat < 0x80 then unescapeFrom (c :: stretch) rest
      else Utf8.decodeLossy (unescapeBytes stretch.reverse) ++ c :: unescapeFrom [] rest

def unescape (text : List Char) : List Char := unescapeFrom [] text

end SchemaSharp.Location
