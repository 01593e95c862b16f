import SchemaSharp.Schema.Name

/-!
Schema documents: their elements and types in order of declaration, and their references to other
documents. What no class can be made of is kept as well, so that it can be reported when it is met.
-/

namespace SchemaSharp.Schema

/-- The reading of a document that a declaration belongs to. Two readings of one location are
told apart by their edition. -/
structure Home where
  location : String
  edition : Nat
  deriving DecidableEq, Repr

/-- What an element is called: its own name or the element it refers to. -/
structure Heading where
  name : Option String
  ref : Option QName
  deriving DecidableEq, Repr


def Heading.display (heading : Heading) : String :=
  match given? heading.name, heading.ref with
  | some name, _ => name
  | none, some ref => ref.text
  | none, none => "<anonymous>"

inductive Variety where
  | restriction
  | list
  | union
  deriving DecidableEq, Repr

inductive Derivation where
  | byExtension
  | byRestriction
  deriving DecidableEq, Repr

inductive Content where
  | simple
  | complex
  deriving DecidableEq, Repr

structure SimpleType where
  name : Option String
  variety : Variety
  base : Option QName
  inlineBase : Option SimpleType
  enumerations : List String
  home : Home

mutual

/-- An element, declared at the top or standing in a content model. Without a greatest number of
occurrences there may be any number. -/
structure ElementDecl where
  name : Option String
  ref : Option QName
  typeRef : Option QName
  inlineType : Option TypeDecl
  minOccurs : Int
  maxOccurs : Option Int
  isAbstract : Bool
  home : Home

inductive Particle where
  | element (decl : ElementDecl)
  | sequence (items : List Particle)
  | unsupported (tag : String)

inductive ContentModel where
  | sequence (items : List Particle)
  | unsupported (tag : String)

/-- `ordinal` is the number of its node, which makes it unlike every other type of the document;
`owner` is the element that an anonymous type is written in. -/
structure ComplexType where
  name : Option String
  isAbstract : Bool
  isMixed : Bool
  base : Option QName
  derivation : Option Derivation
  content : Option Content
  model : Option ContentModel
  attributes : List String
  owner : Option Heading
  ordinal : Nat
  home : Home

inductive TypeDecl where
  | complex (decl : ComplexType)
  | simple (decl : SimpleType)

end

namespace ElementDecl

def heading (decl : ElementDecl) : Heading := ⟨decl.name, decl.ref⟩

def display (decl : ElementDecl) : String := decl.heading.display

def isRepeated (decl : ElementDecl) : Bool :=
  match decl.maxOccurs with
  | none => true
  | some bound => 1 < bound

end ElementDecl

namespace ComplexType

def display (decl : ComplexType) : String :=
  match given? decl.name, decl.owner with
  | some name, _ => name
  | none, some owner => "<anonymous in " ++ owner.display ++ ">"
  | none, none => "<anonymous>"

/-- What tells a type from every other one. -/
structure Identity where
  home : Home
  ordinal : Nat
  deriving DecidableEq, Repr

def identity (decl : ComplexType) : Identity := ⟨decl.home, decl.ordinal⟩

end ComplexType

namespace TypeDecl

def name : TypeDecl → Option String
  | .complex decl => decl.name
  | .simple decl => decl.name

def home : TypeDecl → Home
  | .complex decl => decl.home
  | .simple decl => decl.home

end TypeDecl

mutual

def Particle.flatten : Particle → Except String (List ElementDecl)
  | .element decl => .ok [decl]
  | .sequence items => flattenAll items
  | .unsupported tag => .error tag

/-- The elements of a sequence in order, those of inner sequences in their place. The first
particle that is neither stops everything. -/
def flattenAll : List Particle → Except String (List ElementDecl)
  | [] => .ok []
  | item :: rest =>
      match item.flatten with
      | .error tag => .error tag
      | .ok decls =>
          match flattenAll rest with
          | .error tag => .error tag
          | .ok others => .ok (decls ++ others)

end

/-! ## Documents -/

inductive ReferenceKind where
  | included
  | imported
  | redefined
  deriving DecidableEq, Repr

def ReferenceKind.text : ReferenceKind → String
  | .included => "include"
  | .imported => "import"
  | .redefined => "redefine"

/-- A reference to another document; `resolved` is the location of that document, once it is
known. -/
structure Reference where
  kind : ReferenceKind
  schemaLocation : Option String
  uri : Option String
  resolved : Option String
  deriving DecidableEq, Repr

structure Document where
  home : Home
  targetNamespace : Option String
  elements : List ElementDecl
  types : List TypeDecl
  references : List Reference

def Document.location (document : Document) : String := document.home.location

end SchemaSharp.Schema
