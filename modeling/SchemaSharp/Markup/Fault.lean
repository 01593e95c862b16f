import SchemaSharp.Text.Quoted

/-!
Why a document cannot be read as markup.
-/

namespace SchemaSharp.Markup

/-- A document that declares entities is refused whatever follows the first declaration. -/
inductive Fault where
  | malformed
  | entityDeclared (name : String) (systemId publicId : Option String)
  | unknownCharset (name : String)
  | notTextCharset (name : String)
  | multiByteCharset
  deriving DecidableEq, Repr

/-- The refusal of an entity. The name is shown as it is, the identifiers in quotes. -/
def refusedEntity (name : String) (systemId publicId : Option String) : String :=
  "EntitiesForbidden(name='" ++ name ++ "', system_id=" ++ Text.quotedOption systemId
    ++ ", public_id=" ++ Text.quotedOption publicId ++ ")"

end SchemaSharp.Markup
