import SchemaSharp.Identifier
import SchemaSharp.Location.Host
import SchemaSharp.Markup.Fault
import SchemaSharp.Schema.Name
import SchemaSharp.Text.Numeral
import SchemaSharp.Writer

/-!
Everything that can stop a conversion, by its cause, and the wording of each cause.
-/

namespace SchemaSharp

open Schema (QName)

/-- A document is there but is no usable schema, or a name in it leads nowhere. -/
inductive LoadFault where
  | malformed
  | entityDeclared (name : String) (systemId publicId : Option String)
  | wrongRoot (tag : String)
  | undeclaredLabel (label : String)
  | badOccurrence (fault : Text.NumeralFault)
  | alreadyLoaded
  | inputMissing
  | unresolvedType (name : QName)
  | unresolvedElement (name : QName)
  deriving DecidableEq, Repr

def LoadFault.message (location : String) : LoadFault → String
  | .malformed => "Malformed schema " ++ location
  | .entityDeclared name systemId publicId =>
      "Rejected schema " ++ location ++ ": " ++ Markup.refusedEntity name systemId publicId
  | .wrongRoot tag =>
      "Invalid XSD: root of " ++ location ++ " is " ++ Text.quoted tag ++ ", not xs:schema"
  | .undeclaredLabel label => "Undeclared namespace prefix '" ++ label ++ "' in " ++ location
  | .badOccurrence fault => "Invalid occurrence bound in " ++ location ++ ": " ++ fault.message
  | .alreadyLoaded => "Duplicate schema location " ++ location
  | .inputMissing => "Input schema not found or unreachable: " ++ location
  | .unresolvedType name => "Unresolved type reference " ++ name.text ++ " in " ++ location
  | .unresolvedElement name => "Unresolved element reference " ++ name.text ++ " in " ++ location

/-- There is nothing to read behind a location. -/
inductive FetchFault where
  | noSuchFile (path : String)
  | isDirectory (path : String)
  | status (code : Nat)
  | unreachable
  deriving DecidableEq, Repr

def FetchFault.message (location : String) : FetchFault → String
  | .noSuchFile path =>
      "Cannot read " ++ path ++ ": [Errno 2] No such file or directory: " ++ Text.quoted path
  | .isDirectory path => "Cannot read " ++ path ++ ": [Errno 21] Is a directory: " ++ Text.quoted path
  | .status code => "GET " ++ location ++ " returned " ++ toString code
  | .unreachable => "GET " ++ location ++ " failed: unreachable"

/-- What no class can be made of. -/
inductive Construct where
  | remoteLoading
  | redefinition
  | elementWithoutComplexContent
  | elementOfBuiltin (name : String)
  | elementOfSimpleType
  | simpleTypeDeclaration (name : Option String)
  | attributes
  | mixedContent
  | simpleContent
  | restriction
  | extensionOfBuiltin (name : String)
  | extensionOfSimpleType (name : String)
  | particle (tag : String)
  deriving DecidableEq, Repr

/-- An absent name is shown as the word for absence. -/
def shownName (name : Option String) : String := name.getD "None"

def Construct.text : Construct → String
  | .remoteLoading => "Remote schema loading"
  | .redefinition => "xs:redefine with redefinitions"
  | .elementWithoutComplexContent => "Top-level element without complex content"
  | .elementOfBuiltin name => "Top-level element of built-in type " ++ name
  | .elementOfSimpleType => "Top-level element with simple content"
  | .simpleTypeDeclaration name => "Simple type declaration '" ++ shownName name ++ "'"
  | .attributes => "Attribute declarations"
  | .mixedContent => "Mixed content"
  | .simpleContent => "xs:simpleContent"
  | .restriction => "xs:complexContent restriction"
  | .extensionOfBuiltin name => "Extension of built-in type " ++ name
  | .extensionOfSimpleType name => "Extension of simple type " ++ name
  | .particle tag => "xs:" ++ tag ++ " particle"

inductive CharsetFault where
  | unknown (name : String)
  | notText (name : String)
  | multiByte
  deriving DecidableEq, Repr

def CharsetFault.message : CharsetFault → String
  | .unknown name => "unknown encoding: " ++ name
  | .notText name =>
      "'" ++ name ++ "' is not a text encoding; use codecs.decode() to handle arbitrary codecs"
  | .multiByte => "multi-byte encodings are not supported"

inductive SettingsFault where
  | noInputs
  | noNamespace
  | pattern (fault : IdentifierFault)
  deriving DecidableEq, Repr

def SettingsFault.message : SettingsFault → String
  | .noInputs => "At least one input location is required"
  | .noNamespace => "Target namespace cannot be empty"
  | .pattern fault => fault.message

inductive Failure where
  | load (fault : LoadFault) (location : String)
  | fetch (fault : FetchFault) (location : String)
  | unsupported (construct : Construct) (place : Option String)
  | identifier (fault : IdentifierFault)
  | pattern (fault : Text.TemplateFault)
  | settings (fault : SettingsFault)
  | writer (fault : WriterFault)
  | host (fault : Location.HostFault)
  | charset (fault : CharsetFault)
  | noArtifact
  | alreadyStarted
  | outOfPatience
  deriving DecidableEq, Repr

namespace Failure

def message : Failure → String
  | .load fault location => fault.message location
  | .fetch fault location => fault.message location
  | .unsupported construct place =>
      construct.text ++ " is not supported"
        ++ match Schema.given? place with
          | some text => " (" ++ text ++ ")"
          | none => ""
  | .identifier fault => fault.message
  | .pattern fault => fault.message
  | .settings fault => fault.message
  | .writer fault => fault.message
  | .host fault => fault.message
  | .charset fault => fault.message
  | .noArtifact => "No artifact is open"
  | .alreadyStarted => "XsdConverter instances are single-use"
  | .outOfPatience => "too many references to follow"

/-- Failures of the schemas and the run, which a command reports and survives. The others escape. -/
def isReported : Failure → Bool
  | .load _ _ => true
  | .fetch _ _ => true
  | .unsupported _ _ => true
  | .identifier _ => true
  | .writer _ => true
  | _ => false

def ofMember : Identifier.MemberFault → Failure
  | .name fault => .identifier fault
  | .pattern fault => .pattern fault

def ofMarkup (location : String) : Markup.Fault → Failure
  | .malformed => .load .malformed location
  | .entityDeclared name systemId publicId =>
      .load (.entityDeclared name systemId publicId) location
  | .unknownCharset name => .charset (.unknown name)
  | .notTextCharset name => .charset (.notText name)
  | .multiByteCharset => .charset .multiByte

end Failure

/-- A computation in one vocabulary of faults as one in the common vocabulary. -/
def orFail {ε α : Type} (wrap : ε → Failure) : Except ε α → Except Failure α
  | .ok value => .ok value
  | .error fault => .error (wrap fault)

end SchemaSharp
