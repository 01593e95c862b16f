/-!
Qualified names of schema components, and the types every schema has.
-/

namespace SchemaSharp.Schema

def schemaUri : String := "http://www.w3.org/2001/XMLSchema"

/-- The text, if it is there and not empty. -/
def given? (text : Option String) : Option String := text.filter fun given => !given.isEmpty

structure QName where
  uri : Option String
  name : String
  deriving DecidableEq, Repr

def QName.isBuiltin (name : QName) : Bool := name.uri == some schemaUri

/-- The address in braces before the local name, unless it is absent or empty. -/
def QName.text (name : QName) : String :=
  match name.uri with
  | none => name.name
  | some uri => if uri.isEmpty then name.name else "\x7b" ++ uri ++ "\x7d" ++ name.name

/-- Built-in types and the class-library types that hold their values. -/
def builtinTypes : List (String × String) := [
  ("anyType", "Object"),
  ("anySimpleType", "String"),
  ("string", "String"),
  ("normalizedString", "String"),
  ("token", "String"),
  ("language", "String"),
  ("Name", "String"),
  ("NCName", "String"),
  ("NMTOKEN", "String"),
  ("NMTOKENS", "String[]"),
  ("ID", "String"),
  ("IDREF", "String"),
  ("IDREFS", "String[]"),
  ("ENTITY", "String"),
  ("ENTITIES", "String[]"),
  ("anyURI", "Uri"),
  ("QName", "XmlQualifiedName"),
  ("NOTATION", "XmlQualifiedName"),
  ("boolean", "Boolean"),
  ("decimal", "Decimal"),
  ("integer", "Decimal"),
  ("nonPositiveInteger", "Decimal"),
  ("negativeInteger", "Decimal"),
  ("nonNegativeInteger", "Decimal"),
  ("positiveInteger", "Decimal"),
  ("long", "Int64"),
  ("int", "Int32"),
  ("short", "Int16"),
  ("byte", "SByte"),
  ("unsignedLong", "UInt64"),
  ("unsignedInt", "UInt32"),
  ("unsignedShort", "UInt16"),
  ("unsignedByte", "Byte"),
  ("float", "Single"),
  ("double", "Double"),
  ("duration", "TimeSpan"),
  ("dateTime", "DateTime"),
  ("date", "DateTime"),
  ("time", "DateTime"),
  ("gYear", "DateTime"),
  ("gYearMonth", "DateTime"),
  ("gMonth", "DateTime"),
  ("gMonthDay", "DateTime"),
  ("gDay", "DateTime"),
  ("base64Binary", "Byte[]"),
  ("hexBinary", "Byte[]")]

def textType : String := "String"

def objectType : String := "Object"

/-- A built-in type without a type of its own is held as text. -/
def valueType (builtin : String) : String := (builtinTypes.lookup builtin).getD textType

end SchemaSharp.Schema
