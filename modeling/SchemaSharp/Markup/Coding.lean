import SchemaSharp.Markup.Charset
import SchemaSharp.Markup.Lexeme
import SchemaSharp.Text.Utf8

/-!
From bytes to characters. The first bytes tell the width of a character; a declaration at the very
beginning may then name a character set of that width for what follows it.
-/

namespace SchemaSharp.Markup

open Text

inductive Coding where
  | utf8
  | utf16 (bigEndian : Bool)
  | page (upper : String) (lost : List Nat)

def Coding.width : Coding → Nat
  | .utf16 _ => 2
  | _ => 1

-- A lead surrogate waits for its trail.
def scanUnits (bigEndian : Bool) : Option Nat → List UInt8 → List (Option Char)
  | none, [] => []
  | some _, [] => [none]
  | _, [_] => [none]
  | lead, first :: second :: rest =>
      let unit :=
        if bigEndian then 256 * first.toNat + second.toNat else 256 * second.toNat + first.toNat
      let isLead := 0xd800 ≤ unit && unit < 0xdc00
      let isTrail := 0xdc00 ≤ unit && unit < 0xe000
      match lead with
      | some high =>
          if isTrail then
            some (Char.ofNat (0x10000 + 1024 * (high - 0xd800) + (unit - 0xdc00)))
              :: scanUnits bigEndian none rest
          else none :: scanUnits bigEndian none rest
      | none =>
          if isLead then scanUnits bigEndian (some unit) rest
          else if isTrail then none :: scanUnits bigEndian none rest
          else some (Char.ofNat unit) :: scanUnits bigEndian none rest

def pageChar (upper : List Char) (lost : List Nat) (byte : UInt8) : Option Char :=
  let b := byte.toNat
  if b < 0x80 then
    if lost.contains b then none else some (Char.ofNat b)
  else
    match upper[b - 0x80]? with
    | some c => if c == '\ufffd' then none else some c
    | none => none

def Coding.scan : Coding → List UInt8 → List (Option Char)
  | .utf8, bytes => Utf8.scan none bytes
  | .utf16 bigEndian, bytes => scanUnits bigEndian none bytes
  | .page upper lost, bytes => bytes.map (pageChar upper.toList lost)

/-- The characters up to the first that is ill-formed or may not occur; a null marks its place. -/
def legalPart : List (Option Char) → List Char
  | [] => []
  | none :: _ => ['\x00']
  | some c :: rest => if isLegal c then c :: legalPart rest else ['\x00']

def Coding.read (coding : Coding) (bytes : List UInt8) : List Char :=
  legalPart (coding.scan bytes)

/-- The coding that the first bytes show, and the bytes behind a mark of byte order. -/
def Coding.detect : List UInt8 → Coding × List UInt8
  | 0xfe :: 0xff :: rest => (.utf16 true, rest)
  | 0xff :: 0xfe :: rest => (.utf16 false, rest)
  | 0xef :: 0xbb :: 0xbf :: rest => (.utf8, rest)
  | 0x00 :: rest => (.utf16 true, 0x00 :: rest)
  | first :: 0x00 :: rest => (.utf16 false, first :: 0x00 :: rest)
  | bytes => (.utf8, bytes)

/-! ## The declaration -/

structure Declaration where
  encoding : Option String
  standalone : Bool

def isDeclarationChar (c : Char) : Bool :=
  c.isAlphanum || c == '.' || c == '-' || c == '_'

/-- One `name="value"` behind blanks; nothing if only blanks are left. -/
def pseudoAttribute : List Char → Option (Option (String × String) × List Char)
  | [] => some (none, [])
  | c :: rest =>
      if !isSpace c then none
      else
        match rest.dropWhile isSpace with
        | [] => some (none, [])
        | body =>
            let name := body.takeWhile fun c => c != '=' && !isSpace c
            match (body.dropWhile fun c => c != '=' && !isSpace c).dropWhile isSpace with
            | '=' :: behind =>
                match behind.dropWhile isSpace with
                | mark :: text =>
                    if mark == '"' || mark == '\'' then
                      match text.dropWhile isDeclarationChar with
                      | last :: after =>
                          if last == mark && !name.isEmpty then
                            let value := text.takeWhile isDeclarationChar
                            some (some (String.ofList name, String.ofList value), after)
                          else none
                      | [] => none
                    else none
                | [] => none
            | _ => none

def standaloneRest (encoding : Option String) (value : String) (rest : List Char) :
    Option Declaration :=
  if !rest.all isSpace then none
  else
    match value with
    | "yes" => some ⟨encoding, true⟩
    | "no" => some ⟨encoding, false⟩
    | _ => none

def beginsWithLetter (text : String) : Bool := text.toList.head?.any Char.isAlpha

/-- Version, then perhaps an encoding, then perhaps whether the document stands alone. -/
def Declaration.ofChars (body : List Char) : Option Declaration := do
  let (first, rest) ← pseudoAttribute body
  let (name, _) ← first
  if name != "version" then none
  let (second, rest) ← pseudoAttribute rest
  match second with
  | none => some ⟨none, false⟩
  | some ("encoding", encoding) =>
      if !beginsWithLetter encoding then none
      let (third, rest) ← pseudoAttribute rest
      match third with
      | none => some ⟨some encoding, false⟩
      | some ("standalone", value) => standaloneRest (some encoding) value rest
      | some _ => none
  | some ("standalone", value) => standaloneRest none value rest
  | some _ => none

/-- The coding behind the declaration: the first one, or the one it names. -/
def Coding.named (coding : Coding) (name : String) : Except Fault Coding :=
  let narrow (chosen : Coding) : Except Fault Coding :=
    if coding.width == 1 then .ok chosen else .error .malformed
  match String.ofList (name.toList.map Char.toLower), coding with
  | "utf-8", _ => narrow .utf8
  | "iso-8859-1", _ => narrow (.page CodePage.latin1 [])
  | "us-ascii", _ => narrow (.page CodePage.asciiOnly [])
  | "utf-16", .utf16 bigEndian => .ok (.utf16 bigEndian)
  | "utf-16be", .utf16 true => .ok coding
  | "utf-16le", .utf16 false => .ok coding
  | "utf-16", _ => .error .malformed
  | "utf-16be", _ => .error .malformed
  | "utf-16le", _ => .error .malformed
  | _, _ =>
      match charset? name with
      | none => .error (.unknownCharset name)
      | some .notText => .error (.notTextCharset name)
      | some .multiByte => .error .multiByteCharset
      | some .clash => .error .malformed
      | some (.page upper lost) => .ok (.page upper lost)

/-- A document's characters without its declaration, and whether it stands alone. -/
def decode (bytes : List UInt8) : Except Fault (Bool × List Char) :=
  let (coding, body) := Coding.detect bytes
  let text := coding.read body
  match dropHead text "<?xml".toList with
  | some (c :: rest) =>
      if !(isSpace c || c == '?') then .ok (false, text)
      else
        match textUntil ['?', '>'] (c :: rest) with
        | none => .error .malformed
        | some (inner, after) =>
            match Declaration.ofChars inner with
            | none => .error .malformed
            | some declaration =>
                match declaration.encoding with
                | none => .ok (declaration.standalone, after)
                | some name =>
                    match coding.named name with
                    | .error fault => .error fault
                    | .ok chosen =>
                        let length := "<?xml".length + inner.length + "?>".length
                        .ok (declaration.standalone, chosen.read (body.drop (coding.width * length)))
  | _ => .ok (false, text)

end SchemaSharp.Markup
