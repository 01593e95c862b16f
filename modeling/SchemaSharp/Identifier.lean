import SchemaSharp.Text.Pieces
import SchemaSharp.Text.Template
import SchemaSharp.Text.Uppercase

/-!
Identifiers made from schema names. A name is cut at its separators and the segments are glued
together; a member that would shadow its class is renamed by a template.
-/

namespace SchemaSharp

open Text

inductive IdentifierFault where
  | emptyName
  | onlySeparators (name : String)
  | noPlaceholder (pattern : String)
  | badPattern (pattern : String) (fault : TemplateFault)
  | patternKeepsName (pattern : String)
  deriving DecidableEq, Repr

def IdentifierFault.message : IdentifierFault → String
  | .emptyName => "Cannot normalize an empty name"
  | .onlySeparators name => "Name '" ++ name ++ "' contains only separators"
  | .noPlaceholder pattern => "Rename pattern '" ++ pattern ++ "' has no \x7b0\x7d placeholder"
  | .badPattern pattern fault =>
      "Rename pattern '" ++ pattern ++ "' is not a valid template: " ++ fault.message
  | .patternKeepsName pattern => "Rename pattern '" ++ pattern ++ "' does not change the name"

namespace Identifier

def isSeparator (c : Char) : Bool := c == '_' || c == '-' || c == '.'

/-- The non-empty runs between separators. -/
def segments (name : List Char) : List (List Char) :=
  (splitAt isSeparator name).filter fun segment => !segment.isEmpty

def capitalise : List Char → List Char
  | [] => []
  | c :: rest => uppercase c ++ rest

def glue (capitals : Bool) (parts : List (List Char)) : List Char :=
  parts.flatMap fun part => if capitals then capitalise part else part

/-- The identifier for a schema name; with `capitals` every segment begins in upper case. -/
def ofName (name : Option String) (capitals : Bool) : Except IdentifierFault String :=
  match name with
  | none => .error .emptyName
  | some text =>
      if text.isEmpty then .error .emptyName
      else
        let parts := segments text.toList
        if parts.isEmpty then .error (.onlySeparators text)
        else .ok (String.ofList (glue capitals parts))

inductive MemberFault where
  | name (fault : IdentifierFault)
  | pattern (fault : TemplateFault)
  deriving DecidableEq, Repr

/-- The identifier of a member, renamed by `pattern` if it equals the identifier of its class. -/
def ofMember (name : Option String) (enclosing pattern : String) (capitals : Bool) :
    Except MemberFault String :=
  match ofName name capitals with
  | .error fault => .error (.name fault)
  | .ok identifier =>
      if identifier == enclosing then
        match fillTemplate pattern identifier with
        | .error fault => .error (.pattern fault)
        | .ok renamed => .ok renamed
      else .ok identifier

/-- Faults that say a pattern is no template. The others escape the check of a pattern. -/
def concernsPattern : TemplateFault → Bool
  | .positionNotNumber => false
  | .attributeMissing => false
  | .memberHasNoPositions => false
  | .memberHasNoLayout => false
  | _ => true

/-- The name a pattern is tried on. -/
def probe : String := "X"

/-- A pattern has to show the placeholder literally and to turn the probe into something else. -/
def checkPattern (pattern : String) : Except MemberFault Unit :=
  if !occurs "\x7b0\x7d".toList pattern.toList then .error (.name (.noPlaceholder pattern))
  else
    match fillTemplate pattern probe with
    | .error fault =>
        if concernsPattern fault then .error (.name (.badPattern pattern fault))
        else .error (.pattern fault)
    | .ok filled =>
        if filled == probe then .error (.name (.patternKeepsName pattern)) else .ok ()

end Identifier

end SchemaSharp
