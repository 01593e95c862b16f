import SchemaSharp.Conversion.State

/-!
The type that a member gets. A type of the schema is named by its identifier, a built-in one by the
type that holds its values; using a type of another document schedules that document.
-/

namespace SchemaSharp.Conversion

open Schema (QName Home TypeDecl ElementDecl SimpleType Variety)

/-- The name of a type. One of the schema's own types has yet to be made an identifier. -/
inductive TypeName where
  | own (name : Option String)
  | known (name : String)
  deriving DecidableEq, Repr

/-! ## Resolving references -/

/-- What a name means in a document: a name without a namespace that nothing is found under may
mean the document's own effective namespace. -/
def withFallback {α : Type} (store : Store) (find : QName → Option α) (name : QName)
    (location : String) : Option α :=
  match find name, name.uri with
  | some found, _ => some found
  | none, none => find ⟨store.spaceOf location, name.name⟩
  | none, some _ => none

def typeMeant? (store : Store) (name : QName) (location : String) : Option TypeDecl :=
  withFallback store store.lookupType? name location

def elementMeant? (store : Store) (name : QName) (location : String) : Option ElementDecl :=
  withFallback store store.lookupElement? name location

def resolveType (name : QName) (home : Home) : Work TypeDecl := do
  match typeMeant? (← Task.current).store name home.location with
  | some decl => return decl
  | none => throw (.load (.unresolvedType name) home.location)

def resolveElement (name : QName) (home : Home) : Work ElementDecl := do
  match elementMeant? (← Task.current).store name home.location with
  | some decl => return decl
  | none => throw (.load (.unresolvedElement name) home.location)

/-! ## Naming types -/

def identifier (job : Job) (name : Option String) : Work String :=
  Task.outcome (orFail .identifier (Identifier.ofName name job.settings.cleanNames))

/-- How a type's name is written. -/
def spelled (job : Job) : TypeName → Work String
  | .own name => identifier job name
  | .known name => return name

def namedType (name : QName) (home : Home) : Work TypeName :=
  if name.isBuiltin then return .known (Schema.valueType name.name)
  else do
    let decl ← resolveType name home
    scheduleOwner decl.home decl.name
    return .own decl.name

/-- A list becomes an array of what it lists. -/
def ofVariety (job : Job) (variety : Variety) (name : TypeName) : Work TypeName :=
  match variety with
  | .list => do return .known ((← spelled job name) ++ "[]")
  | _ => return name

/-- The type that a simple type without a name stands for. -/
def simpleTypeName (job : Job) : SimpleType → Work TypeName
  | ⟨_, variety, base, inlineBase, _, home⟩ =>
      if variety = .union then return .known Schema.textType
      else
        match inlineBase, base with
        | some inner, _ => do ofVariety job variety (← simpleTypeName job inner)
        | none, some name => do ofVariety job variety (← namedType name home)
        | none, none => ofVariety job variety (.known Schema.textType)

def memberType (job : Job) (element : ElementDecl) : Work TypeName :=
  match element.inlineType, element.typeRef with
  | some (.complex _), _ => return .own element.name
  | some (.simple decl), _ => simpleTypeName job decl
  | none, none => return .known Schema.objectType
  | none, some name => namedType name element.home

end SchemaSharp.Conversion
