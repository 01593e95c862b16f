import SchemaSharp.Text.Pieces
import SchemaSharp.Text.Quoted

/-!
What a location may name as its host: brackets hold an address of the sixth version or of a future
one, and no character may fold into a delimiter.
-/

namespace SchemaSharp.Location

open Text

inductive HostFault where
  | unbalancedBrackets
  | futureAddress
  | fourthVersionInBrackets
  | notAnAddress (text : String)
  | foldsIntoDelimiter (host : String)
  deriving DecidableEq, Repr

def HostFault.message : HostFault → String
  | .unbalancedBrackets => "Invalid IPv6 URL"
  | .futureAddress => "IPvFuture address is invalid"
  | .fourthVersionInBrackets => "An IPv4 address cannot be in brackets"
  | .notAnAddress text => quoted text ++ " does not appear to be an IPv4 or IPv6 address"
  | .foldsIntoDelimiter host =>
      "netloc '" ++ host ++ "' contains invalid characters under NFKC normalization"

def isHex (c : Char) : Bool :=
  c.isDigit || ('a' ≤ c && c ≤ 'f') || ('A' ≤ c && c ≤ 'F')

def isOctet (text : List Char) : Bool :=
  !text.isEmpty && text.all Char.isDigit && text.length ≤ 3
    && (text.length == 1 || text.head? != some '0')
    && text.foldl (fun total c => 10 * total + (c.toNat - 0x30)) 0 ≤ 255

def isFourthVersion (text : List Char) : Bool :=
  let octets := splitOn '.' text
  octets.length == 4 && octets.all isOctet

def isGroup (text : List Char) : Bool :=
  !text.isEmpty && text.length ≤ 4 && text.all isHex

/-- Groups around at most one gap; a gap at an end also empties the group there. -/
def areGroups (parts : List (List Char)) : Bool :=
  let inner := parts.tail.dropLast
  match (inner.filter List.isEmpty).length with
  | 0 => parts.length == 8 && parts.all isGroup
  | 1 =>
      let high := parts.head?.toList ++ inner.takeWhile fun part => !part.isEmpty
      let low := (inner.dropWhile fun part => !part.isEmpty).tail ++ parts.getLast?.toList
      let trimHigh := if high == [[]] then [] else high
      let trimLow := if low == [[]] then [] else low
      trimHigh.all isGroup && trimLow.all isGroup && trimHigh.length + trimLow.length < 8
  | _ => false

def isSixthVersion (text : List Char) : Bool :=
  let (address, scope) := cutFirst '%' text
  let scopeFits :=
    match scope with
    | none => true
    | some name => !name.isEmpty && !name.contains '%'
  let parts := splitOn ':' address
  let tail := parts.getLast?.getD []
  let groups :=
    if tail.contains '.' then
      if isFourthVersion tail then parts.dropLast ++ [['0'], ['0']] else []
    else parts
  !text.contains '/' && scopeFits && 3 ≤ parts.length && groups.length ≤ 9 && areGroups groups

def isFutureAddress (text : List Char) : Bool :=
  match cutFirst '.' text with
  | (version, some body) =>
      version.head? == some 'v' && !version.tail.isEmpty && version.tail.all isHex && !body.isEmpty
  | _ => false

def checkBracketed (text : List Char) : Except HostFault Unit :=
  if text.head? == some 'v' then
    if isFutureAddress text then .ok () else .error .futureAddress
  else if isFourthVersion text then .error .fourthVersionInBrackets
  else if isSixthVersion text then .ok ()
  else .error (.notAnAddress (String.ofList text))

def checkBrackets (host : List Char) : Except HostFault Unit :=
  match host.contains '[', host.contains ']' with
  | false, false => .ok ()
  | true, true =>
      let inner := ((cutFirst '[' host).2).getD []
      checkBracketed (cutFirst ']' inner).1
  | _, _ => .error .unbalancedBrackets

/-- Characters whose compatibility form holds a slash, a question mark, a hash, an at sign or a
colon. -/
def foldingCodes : List Nat := [
  0x2047, 0x2048, 0x2049, 0x2100, 0x2101, 0x2105, 0x2106, 0x2a74, 0xfe13, 0xfe16, 0xfe55, 0xfe56,
  0xfe5f, 0xfe6b, 0xff03, 0xff0f, 0xff1a, 0xff1f, 0xff20]

def checkFolding (host : List Char) : Except HostFault Unit :=
  if host.any fun c => foldingCodes.contains c.toNat then
    .error (.foldsIntoDelimiter (String.ofList host))
  else .ok ()

end SchemaSharp.Location
