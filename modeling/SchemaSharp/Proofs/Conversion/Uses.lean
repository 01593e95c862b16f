import SchemaSharp.Conversion.Run
import SchemaSharp.Proofs.Schema.Reading
import SchemaSharp.Proofs.Traversal

/-!
What a document uses. The documents that the translation of a document leads to are those of the
base types, of the types and elements that members name, and of the types that top-level elements
name, in that order of writing. They follow from the declarations and the store alone.
-/

namespace SchemaSharp

open Schema (ComplexType ElementDecl TypeDecl SimpleType QName Home Document)

namespace Conversion

open Traversal (generations totalWeight)

/-! ## Nested types -/

/-- The elements that become members of a class; none if they cannot. -/
def membersOf (type : ComplexType) : List ElementDecl := (memberElements type).toOption.getD []

/-- The type written inside an element that stands for itself. -/
def nestedIn (element : ElementDecl) : Option ComplexType :=
  match element.ref, element.inlineType with
  | none, some (.complex type) => some type
  | _, _ => none

def nestedTypes (type : ComplexType) : List ComplexType := (membersOf type).filterMap nestedIn

/-- A type and everything written inside it, generation by generation. -/
def withNested (type : ComplexType) : List ComplexType :=
  generations nestedTypes (typeWeight type) [type]

end Conversion

namespace Store

open Conversion (givenBase? membersOf typeMeant? elementMeant? withNested)

/-! ## Uses -/

/-- The document that a declaration was made in. -/
def ownerOf (store : Store) (home : Home) : List String :=
  (store.owner? home).toList.map Entry.location

/-- A named type is used where it was declared; built-in types have no document. -/
def namedUses (store : Store) (name : QName) (home : Home) : List String :=
  if name.isBuiltin then []
  else
    match typeMeant? store name home.location with
    | none => []
    | some decl => store.ownerOf decl.home

/-- A simple type without a name uses the named type at the bottom of its bases. -/
def simpleUses (store : Store) : SimpleType → List String
  | ⟨_, variety, base, inlineBase, _, home⟩ =>
      if variety = .union then []
      else
        match inlineBase, base with
        | some inner, _ => store.simpleUses inner
        | none, some name => store.namedUses name home
        | none, none => []

/-- What the type of an element leads to; a type with a class of its own is no use of another
document. -/
def contentUses (store : Store) (element : ElementDecl) : List String :=
  match element.inlineType, element.typeRef with
  | some (.complex _), _ => []
  | some (.simple type), _ => store.simpleUses type
  | none, some name => store.namedUses name element.home
  | none, none => []

/-- A member that refers to an element uses the element's document, then what its type uses. -/
def memberUses (store : Store) (element : ElementDecl) : List String :=
  match element.ref with
  | none => store.contentUses element
  | some name =>
      match elementMeant? store name element.home.location with
      | none => []
      | some target => store.ownerOf target.home ++ store.contentUses target

def baseUses (store : Store) (type : ComplexType) : List String :=
  match givenBase? type with
  | none => []
  | some base => store.namedUses base type.home

def classUses (store : Store) (type : ComplexType) : List String :=
  store.baseUses type ++ (membersOf type).flatMap store.memberUses

/-- The uses of a type and of everything written inside it. -/
def typeUses (store : Store) (type : ComplexType) : List String :=
  (withNested type).flatMap store.classUses

def elementUses (store : Store) (element : ElementDecl) : List String :=
  match element.inlineType, element.typeRef with
  | some (.complex type), _ => store.typeUses type
  | some (.simple _), _ => []
  | none, some name => store.namedUses name element.home
  | none, none => []

def declarationUses (store : Store) : TypeDecl → List String
  | .complex type => store.typeUses type
  | .simple _ => []

def documentUses (store : Store) (document : Document) : List String :=
  document.elements.flatMap store.elementUses ++ document.types.flatMap store.declarationUses

/-- The documents that the one stored at a location uses, in the order of its declarations. -/
def uses (store : Store) (location : String) : List String :=
  match store.at? location with
  | none => []
  | some entry => store.documentUses entry.document

end Store

/-! ## Weights and identities -/

namespace Conversion

open Schema (Particle ContentModel modelIdentities itemsIdentities particleIdentities
  inlineIdentities particleIdentities_element identities_eq)
open Traversal (generations totalWeight)

mutual

/-- The weight of a type is the number of types written in it, itself included. -/
theorem typeWeight_eq : (type : ComplexType) → typeWeight type = type.identities.length
  | ⟨_, _, _, _, _, _, model, _, _, _, _⟩ => by
      rw [typeWeight, ComplexType.identities, List.length_cons, modelWeight_eq model]
      exact Nat.add_comm _ _

theorem modelWeight_eq :
    (model : Option ContentModel) → modelWeight model = (modelIdentities model).length
  | none => by rw [modelWeight, modelIdentities, List.length_nil]
  | some (.unsupported _) => by rw [modelWeight, modelIdentities, List.length_nil]
  | some (.sequence items) => by rw [modelWeight, modelIdentities, itemsWeight_eq items]

theorem itemsWeight_eq :
    (items : List Particle) → itemsWeight items = (itemsIdentities items).length
  | [] => by rw [itemsWeight, itemsIdentities, List.length_nil]
  | item :: rest => by
      rw [itemsWeight, itemsIdentities, List.length_append, particleWeight_eq item,
        itemsWeight_eq rest]

theorem particleWeight_eq :
    (item : Particle) → particleWeight item = (particleIdentities item).length
  | .element ⟨_, _, _, inlineType, _, _, _, _⟩ => by
      rw [particleWeight, particleIdentities, inlineWeight_eq inlineType]
  | .sequence items => by rw [particleWeight, particleIdentities, itemsWeight_eq items]
  | .unsupported _ => by rw [particleWeight, particleIdentities, List.length_nil]

theorem inlineWeight_eq :
    (inline : Option TypeDecl) → inlineWeight inline = (inlineIdentities inline).length
  | some (.complex type) => by rw [inlineWeight, inlineIdentities, typeWeight_eq type]
  | some (.simple _) => by rw [inlineWeight, inlineIdentities, List.length_nil]
  | none => by rw [inlineWeight, inlineIdentities, List.length_nil]

end

/-- All identities of some types, those written inside included. -/
def identitiesOf (types : List ComplexType) : List ComplexType.Identity :=
  types.flatMap ComplexType.identities

theorem identitiesOf_nestedIn (element : ElementDecl) :
    (identitiesOf (nestedIn element).toList).Sublist (inlineIdentities element.inlineType) := by
  unfold nestedIn
  split
  · next inline =>
      rw [inline, inlineIdentities]
      simp [identitiesOf]
  · exact List.nil_sublist _

theorem identitiesOf_filterMap (elements : List ElementDecl) :
    identitiesOf (elements.filterMap nestedIn) =
      elements.flatMap fun element => identitiesOf (nestedIn element).toList := by
  induction elements with
  | nil => rfl
  | cons element rest ih =>
      rw [List.flatMap_cons, ← ih]
      cases found : nestedIn element with
      | none => simp [found, identitiesOf]
      | some type => simp [found, identitiesOf]

mutual

theorem flatten_identities : (item : Particle) → (elements : List ElementDecl) →
    item.flatten = .ok elements →
      (identitiesOf (elements.filterMap nestedIn)).Sublist (particleIdentities item)
  | .element decl, elements, flat => by
      rw [Particle.flatten] at flat
      cases flat
      rw [identitiesOf_filterMap, particleIdentities_element]
      simpa using identitiesOf_nestedIn decl
  | .sequence items, elements, flat => by
      rw [Particle.flatten] at flat
      rw [particleIdentities]
      exact flattenAll_identities items elements flat
  | .unsupported tag, elements, flat => by
      rw [Particle.flatten] at flat
      cases flat

theorem flattenAll_identities : (items : List Particle) → (elements : List ElementDecl) →
    Schema.flattenAll items = .ok elements →
      (identitiesOf (elements.filterMap nestedIn)).Sublist (itemsIdentities items)
  | [], elements, flat => by
      rw [Schema.flattenAll] at flat
      cases flat
      exact List.nil_sublist _
  | item :: rest, elements, flat => by
      rw [Schema.flattenAll] at flat
      cases first : item.flatten with
      | error tag =>
          rw [first] at flat
          cases flat
      | ok decls =>
          rw [first] at flat
          cases others : Schema.flattenAll rest with
          | error tag =>
              rw [others] at flat
              cases flat
          | ok later =>
              rw [others] at flat
              cases flat
              rw [List.filterMap_append, identitiesOf, List.flatMap_append, itemsIdentities]
              exact (flatten_identities item decls first).append
                (flattenAll_identities rest later others)

end

/-- The types nested in a type are among those written in it. -/
theorem nestedTypes_identities (type : ComplexType) :
    (identitiesOf (nestedTypes type)).Sublist (modelIdentities type.model) := by
  unfold nestedTypes membersOf memberElements
  cases type.model with
  | none => exact List.nil_sublist _
  | some model =>
      cases model with
      | unsupported tag => exact List.nil_sublist _
      | sequence items =>
          cases flat : Schema.flattenAll items with
          | error tag =>
              simp only [flat]
              exact List.nil_sublist _
          | ok elements =>
              simp only [flat, modelIdentities]
              exact flattenAll_identities items elements flat

theorem totalWeight_eq (types : List ComplexType) :
    totalWeight typeWeight types = (identitiesOf types).length := by
  induction types with
  | nil => rfl
  | cons first rest ih =>
      rw [totalWeight, ih, typeWeight_eq, identitiesOf, identitiesOf, List.flatMap_cons,
        List.length_append]

theorem nestedTypes_lighter (type : ComplexType) :
    totalWeight typeWeight (nestedTypes type) < typeWeight type := by
  have fewer := (nestedTypes_identities type).length_le
  rw [totalWeight_eq, typeWeight_eq, identities_eq, List.length_cons]
  omega

end Conversion

end SchemaSharp
