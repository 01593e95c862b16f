import SchemaSharp.Failure
import SchemaSharp.Markup.Element
import SchemaSharp.Schema.Model

/-!
From a markup tree to a schema document. Foreign elements and annotations are passed over at every
level; everything else is read in document order, and the first fault stops the reading.
-/

namespace SchemaSharp.Schema

open Markup (Element)

/-- The local name of a schema element; nothing for a foreign one. -/
def tagOf? (node : Element) : Option String :=
  if node.name.uri == some schemaUri then some node.name.name else none

/-- Schema elements that say something about the schema. -/
def relevantTag? (node : Element) : Option String :=
  (tagOf? node).filter fun tag => tag != "annotation"

/-- A name in an attribute, resolved by the declarations in force on its element. -/
def resolveName (location : String) (node : Element) (value : Option String) :
    Except Failure (Option QName) :=
  match given? value with
  | none => .ok none
  | some text =>
      match Text.cutFirst ':' text.toList with
      | (_, none) => .ok (some ⟨node.scope.lookup "", text⟩)
      | (label, some name) =>
          match node.scope.lookup (String.ofList label) with
          | some uri => .ok (some ⟨some uri, String.ofList name⟩)
          | none => .error (.load (.undeclaredLabel (String.ofList label)) location)

def readBound (location text : String) : Except Failure Int :=
  orFail (fun fault => .load (.badOccurrence fault) location) (Text.readInteger text)

/-- The least and the greatest number of occurrences, both one unless given. -/
def readOccurs (location : String) (node : Element) : Except Failure (Int × Option Int) := do
  let least ←
    match node.attribute? "minOccurs" with
    | none => pure 1
    | some text => readBound location text
  match node.attribute? "maxOccurs" with
  | none => return (least, some 1)
  | some "unbounded" => return (least, none)
  | some text => return (least, some (← readBound location text))

def flag (node : Element) (name : String) : Bool :=
  match node.attribute? name with
  | some "true" => true
  | some "1" => true
  | _ => false

/-- What an attribute declaration is listed as. -/
def attributeLabel (tag : String) (node : Element) : String :=
  ((given? (node.attribute? "name")).or (given? (node.attribute? "ref"))).getD tag

/-! ## Simple types -/

mutual

def readSimpleType (home : Home) : Element → Except Failure SimpleType
  | ⟨name, attributes, scope, ordinal, children⟩ =>
      let node : Element := ⟨name, attributes, scope, ordinal, children⟩
      readSimpleBody home children ⟨node.attribute? "name", .restriction, none, none, [], home⟩

def readSimpleBody (home : Home) : List Element → SimpleType → Except Failure SimpleType
  | [], type => .ok type
  | child :: rest, type => do
      let type ←
        match relevantTag? child with
        | some "restriction" =>
            let base ← resolveName home.location child (child.attribute? "base")
            readFacets home true child { type with variety := .restriction, base := base }
        | some "list" =>
            let base ← resolveName home.location child (child.attribute? "itemType")
            readFacets home false child { type with variety := .list, base := base }
        | some "union" => pure { type with variety := .union }
        | _ => pure type
      readSimpleBody home rest type

def readFacets (home : Home) (enumerated : Bool) : Element → SimpleType → Except Failure SimpleType
  | ⟨_, _, _, _, children⟩, type => readFacetList home enumerated children type

def readFacetList (home : Home) (enumerated : Bool) :
    List Element → SimpleType → Except Failure SimpleType
  | [], type => .ok type
  | child :: rest, type => do
      let type ←
        match relevantTag? child with
        | some "simpleType" => pure { type with inlineBase := some (← readSimpleType home child) }
        | some "enumeration" =>
            let value := (child.attribute? "value").getD ""
            pure (if enumerated then { type with enumerations := type.enumerations ++ [value] } else type)
        | _ => pure type
      readFacetList home enumerated rest type

end

/-! ## Elements and complex types -/

mutual

def readElementDecl (home : Home) : Element → Except Failure ElementDecl
  | ⟨name, attributes, scope, ordinal, children⟩ => do
      let node : Element := ⟨name, attributes, scope, ordinal, children⟩
      let (least, greatest) ← readOccurs home.location node
      let ref ← resolveName home.location node (node.attribute? "ref")
      let typeRef ← resolveName home.location node (node.attribute? "type")
      let inlineType ← readInlineType home ⟨node.attribute? "name", ref⟩ children
      return {
        name := node.attribute? "name"
        ref := ref
        typeRef := typeRef
        inlineType := inlineType
        minOccurs := least
        maxOccurs := greatest
        isAbstract := flag node "abstract"
        home := home }

/-- The first type written inside an element. -/
def readInlineType (home : Home) (heading : Heading) :
    List Element → Except Failure (Option TypeDecl)
  | [] => .ok none
  | child :: rest =>
      match relevantTag? child with
      | some "complexType" => return some (.complex (← readComplexType home (some heading) child))
      | some "simpleType" => return some (.simple (← readSimpleType home child))
      | _ => readInlineType home heading rest

def readComplexType (home : Home) (owner : Option Heading) : Element → Except Failure ComplexType
  | ⟨name, attributes, scope, ordinal, children⟩ =>
      let node : Element := ⟨name, attributes, scope, ordinal, children⟩
      readTypeBody home children {
        name := node.attribute? "name"
        isAbstract := flag node "abstract"
        isMixed := flag node "mixed"
        base := none
        derivation := none
        content := none
        model := none
        attributes := []
        owner := owner
        ordinal := ordinal
        home := home }

def readTypeBody (home : Home) : List Element → ComplexType → Except Failure ComplexType
  | [], type => .ok type
  | child :: rest, type => do
      let type ←
        match relevantTag? child with
        | some "simpleContent" => readContent home .simple child type
        | some "complexContent" => readContent home .complex child type
        | some tag => readItem home tag child type
        | none => pure type
      readTypeBody home rest type

def readContent (home : Home) (content : Content) :
    Element → ComplexType → Except Failure ComplexType
  | ⟨name, attributes, scope, ordinal, children⟩, type =>
      let node : Element := ⟨name, attributes, scope, ordinal, children⟩
      readDerivations home children
        { type with content := some content, isMixed := type.isMixed || flag node "mixed" }

def readDerivations (home : Home) : List Element → ComplexType → Except Failure ComplexType
  | [], type => .ok type
  | child :: rest, type => do
      let type ←
        match relevantTag? child with
        | some "extension" => readDerivation home .byExtension child type
        | some "restriction" => readDerivation home .byRestriction child type
        | _ => pure type
      readDerivations home rest type

def readDerivation (home : Home) (derivation : Derivation) :
    Element → ComplexType → Except Failure ComplexType
  | ⟨name, attributes, scope, ordinal, children⟩, type => do
      let node : Element := ⟨name, attributes, scope, ordinal, children⟩
      let base ← resolveName home.location node (node.attribute? "base")
      readItems home children { type with derivation := some derivation, base := base }

def readItems (home : Home) : List Element → ComplexType → Except Failure ComplexType
  | [], type => .ok type
  | child :: rest, type => do
      let type ←
        match relevantTag? child with
        | some tag => readItem home tag child type
        | none => pure type
      readItems home rest type

/-- One item of a type: its content model, which replaces an earlier one, or an attribute. -/
def readItem (home : Home) (tag : String) : Element → ComplexType → Except Failure ComplexType
  | ⟨name, attributes, scope, ordinal, children⟩, type =>
      let node : Element := ⟨name, attributes, scope, ordinal, children⟩
      let listed (label : String) : Except Failure ComplexType :=
        .ok { type with attributes := type.attributes ++ [label] }
      match tag with
      | "sequence" => do
          let items ← readParticles home children
          return { type with model := some (.sequence items) }
      | "choice" => .ok { type with model := some (.unsupported tag) }
      | "all" => .ok { type with model := some (.unsupported tag) }
      | "group" => .ok { type with model := some (.unsupported tag) }
      | "attribute" => listed (attributeLabel tag node)
      | "attributeGroup" => listed (attributeLabel tag node)
      | "anyAttribute" => listed "anyAttribute"
      | _ => .ok type

def readParticles (home : Home) : List Element → Except Failure (List Particle)
  | [] => .ok []
  | child :: rest =>
      match relevantTag? child with
      | none => readParticles home rest
      | some "element" => do
          let decl ← readElementDecl home child
          return .element decl :: (← readParticles home rest)
      | some "sequence" => do
          let items ← readSequence home child
          return .sequence items :: (← readParticles home rest)
      | some tag => return .unsupported tag :: (← readParticles home rest)

def readSequence (home : Home) : Element → Except Failure (List Particle)
  | ⟨_, _, _, _, children⟩ => readParticles home children

end

/-! ## Documents -/

def referenceKind? (tag : String) : Option ReferenceKind :=
  match tag with
  | "include" => some .included
  | "import" => some .imported
  | "redefine" => some .redefined
  | _ => none

def readReference (location : String) (kind : ReferenceKind) (node : Element) :
    Except Failure Reference :=
  if kind == .redefined && node.children.any fun child => (relevantTag? child).isSome then
    .error (.unsupported .redefinition (some location))
  else .ok ⟨kind, node.attribute? "schemaLocation", node.attribute? "namespace", none⟩

/-- One child of the root, entered into the document. -/
def readDeclaration (home : Home) (node : Element) (document : Document) :
    Except Failure Document :=
  match relevantTag? node with
  | none => return document
  | some "element" => do
      let decl ← readElementDecl home node
      return { document with elements := document.elements ++ [decl] }
  | some "complexType" => do
      let decl ← readComplexType home none node
      return { document with types := document.types ++ [.complex decl] }
  | some "simpleType" => do
      let decl ← readSimpleType home node
      return { document with types := document.types ++ [.simple decl] }
  | some tag =>
      match referenceKind? tag with
      | some kind => do
          let reference ← readReference home.location kind node
          return { document with references := document.references ++ [reference] }
      | none => return document

def readTopLevel (home : Home) : List Element → Document → Except Failure Document
  | [], document => .ok document
  | node :: rest, document => do readTopLevel home rest (← readDeclaration home node document)

/-- A name as a tag shows it: the address in braces before the local name. -/
def tagText (name : Markup.ExpandedName) : String :=
  match name.uri with
  | none => name.name
  | some uri => "\x7b" ++ uri ++ "\x7d" ++ name.name

/-- The document that a tree stands for. -/
def Document.ofTree (home : Home) (root : Element) : Except Failure Document :=
  if tagOf? root == some "schema" then
    readTopLevel home root.children ⟨home, root.attribute? "targetNamespace", [], [], []⟩
  else .error (.load (.wrongRoot (tagText root.name)) home.location)

def Document.ofBytes (home : Home) (content : List UInt8) : Except Failure Document := do
  let root ← orFail (Failure.ofMarkup home.location) (Element.ofBytes content)
  Document.ofTree home root

end SchemaSharp.Schema
