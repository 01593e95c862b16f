/-!
Reading bytes as UTF-8. An ill-formed sequence is reported once for its longest beginning that
could have become a character, and reading goes on behind it.
-/

namespace SchemaSharp.Text.Utf8

/-- A character under way: how many bytes are missing, its bits so far, and the range the next
byte must lie in. -/
structure Pending where
  missing : Nat
  bits : Nat
  low : Nat
  high : Nat

inductive Opening where
  | scalar (c : Char)
  | pending (state : Pending)
  | stray

-- The narrow ranges after E0, ED, F0 and F4 rule out long forms, surrogates and code points
-- beyond the last one.
def opening (byte : UInt8) : Opening :=
  let b := byte.toNat
  if b < 0x80 then .scalar (Char.ofNat b)
  else if b < 0xc2 then .stray
  else if b < 0xe0 then .pending ⟨1, b - 0xc0, 0x80, 0xbf⟩
  else if b == 0xe0 then .pending ⟨2, 0, 0xa0, 0xbf⟩
  else if b == 0xed then .pending ⟨2, 13, 0x80, 0x9f⟩
  else if b < 0xf0 then .pending ⟨2, b - 0xe0, 0x80, 0xbf⟩
  else if b == 0xf0 then .pending ⟨3, 0, 0x90, 0xbf⟩
  else if b < 0xf4 then .pending ⟨3, b - 0xf0, 0x80, 0xbf⟩
  else if b == 0xf4 then .pending ⟨3, 4, 0x80, 0x8f⟩
  else .stray

/-- The characters of the bytes, `none` standing for an ill-formed sequence. -/
def scan : Option Pending → List UInt8 → List (Option Char)
  | none, [] => []
  | some _, [] => [none]
  | none, byte :: rest =>
      match opening byte with
      | .scalar c => some c :: scan none rest
      | .stray => none :: scan none rest
      | .pending state => scan (some state) rest
  | some state, byte :: rest =>
      let b := byte.toNat
      if state.low ≤ b && b ≤ state.high then
        let bits := state.bits * 64 + (b - 0x80)
        if state.missing ≤ 1 then some (Char.ofNat bits) :: scan none rest
        else scan (some ⟨state.missing - 1, bits, 0x80, 0xbf⟩) rest
      else
        match opening byte with
        | .scalar c => none :: some c :: scan none rest
        | .stray => none :: none :: scan none rest
        | .pending next => none :: scan (some next) rest

/-- Every ill-formed sequence becomes one replacement character. -/
def decodeLossy (bytes : List UInt8) : List Char :=
  (scan none bytes).map (·.getD '\uFFFD')

def encode (text : List Char) : List UInt8 :=
  text.flatMap String.utf8EncodeChar

-- A kernel that evaluates a program on a long literal reaches its bytes much sooner than its
-- characters.
/-- A text is held as its bytes. -/
theorem encode_toList (text : String) : encode text.toList = text.toByteArray.data.toList := by
  rw [← String.utf8Encode_toList, List.utf8Encode, List.data_toByteArray, encode]

end SchemaSharp.Text.Utf8
