import SchemaSharp.Proofs.Conversion.Uses
import SchemaSharp.Proofs.Lists

/-!
Outlines of classes: what is written for a type, member by member, as it follows from the type, the
settings and the store. A type has no outline if its translation fails.
-/

namespace SchemaSharp

open Schema (ComplexType ElementDecl TypeDecl SimpleType QName Home Document Variety)

namespace Conversion

open Traversal (inQueueOrder generations)

/-! ## Names of types -/

def spelling? (job : Job) : TypeName → Option String
  | .own name => (Identifier.ofName name job.settings.cleanNames).toOption
  | .known name => some name

def namedTypeName? (store : Store) (name : QName) (home : Home) : Option TypeName :=
  if name.isBuiltin then some (.known (Schema.valueType name.name))
  else (typeMeant? store name home.location).map fun decl => .own decl.name

def varietyName? (job : Job) (variety : Variety) (name : TypeName) : Option TypeName :=
  match variety with
  | .list => (spelling? job name).map fun text => .known (text ++ "[]")
  | _ => some name

def simpleTypeName? (job : Job) (store : Store) : SimpleType → Option TypeName
  | ⟨_, variety, base, inlineBase, _, home⟩ =>
      if variety = .union then some (.known Schema.textType)
      else
        match inlineBase, base with
        | some inner, _ => (simpleTypeName? job store inner).bind (varietyName? job variety)
        | none, some name => (namedTypeName? store name home).bind (varietyName? job variety)
        | none, none => varietyName? job variety (.known Schema.textType)

def elementTypeName? (job : Job) (store : Store) (element : ElementDecl) : Option TypeName :=
  match element.inlineType, element.typeRef with
  | some (.complex _), _ => some (.own element.name)
  | some (.simple type), _ => simpleTypeName? job store type
  | none, none => some (.known Schema.objectType)
  | none, some name => namedTypeName? store name element.home

/-! ## Members -/

/-- What is written for a member, and the type that is to get a class of the member's name. -/
structure MemberOutline where
  type : String
  name : String
  wire : Arguments
  nested : Option ComplexType

namespace MemberOutline

def call (outline : MemberOutline) : Writer.Call :=
  .writeMember outline.type outline.name [(dataMember, outline.wire)]

def waiting (outline : MemberOutline) : List (ComplexType × String) :=
  (outline.nested.map fun type => (type, outline.name)).toList

end MemberOutline

def targetMeant? (store : Store) (element : ElementDecl) : Option ElementDecl :=
  match element.ref with
  | none => some element
  | some name => elementMeant? store name element.home.location

/-- The type of a member, not yet repeated. -/
def memberTypeText? (job : Job) (store : Store) (element target : ElementDecl) (name : String) :
    Option String :=
  match nestedIn element with
  | some _ => some name
  | none => (elementTypeName? job store target).bind (spelling? job)

def repeatedText (element : ElementDecl) (text : String) : String :=
  if element.isRepeated then text ++ "[]" else text

def memberName? (job : Job) (target : ElementDecl) (scope : String) : Option String :=
  (Identifier.ofMember target.name scope job.settings.renamingPattern
    job.settings.cleanNames).toOption

def memberOutline? (job : Job) (store : Store) (scope : String) (element : ElementDecl) :
    Option MemberOutline := do
  let target ← targetMeant? store element
  let name ← memberName? job target scope
  let text ← memberTypeText? job store element target name
  return ⟨repeatedText element text, name, wireName target.name name, nestedIn element⟩

/-! ## Classes -/

structure ClassOutline where
  type : ComplexType
  name : String
  base : Option String
  marker : Arguments
  members : List MemberOutline

namespace ClassOutline

def calls (outline : ClassOutline) : List Writer.Call :=
  .writeMarker dataContract outline.marker ::
    .openType outline.name outline.base outline.type.isAbstract [] ::
      outline.members.map MemberOutline.call ++ [.close]

def waiting (outline : ClassOutline) : List (ComplexType × String) :=
  outline.members.flatMap MemberOutline.waiting

theorem mem_calls_iff {outline : ClassOutline} {call : Writer.Call} :
    call ∈ outline.calls ↔ call = .writeMarker dataContract outline.marker ∨
      call = .openType outline.name outline.base outline.type.isAbstract [] ∨
        (∃ member ∈ outline.members, member.call = call) ∨ call = .close := by
  simp only [calls, List.mem_cons, List.mem_append, List.mem_map, List.not_mem_nil, or_false,
    or_assoc]

/-- A class opens itself only. -/
theorem openType_mem_calls_iff {outline : ClassOutline} {name : String} {base : Option String}
    {isAbstract : Bool} {interfaces : List String} :
    .openType name base isAbstract interfaces ∈ outline.calls ↔ name = outline.name ∧
      base = outline.base ∧ isAbstract = outline.type.isAbstract ∧ interfaces = [] := by
  simp [mem_calls_iff, MemberOutline.call]

theorem writeMember_mem_calls_iff {outline : ClassOutline} {type name : String}
    {markers : List (Marker × Arguments)} :
    .writeMember type name markers ∈ outline.calls ↔ ∃ member ∈ outline.members,
      member.type = type ∧ member.name = name ∧ [(dataMember, member.wire)] = markers := by
  simp [mem_calls_iff, MemberOutline.call]

end ClassOutline

def rawClassName (type : ComplexType) (name : Option String) : Option String :=
  (Schema.given? name).or type.name

def className? (job : Job) (rawName className : Option String) : Option String :=
  match Schema.given? className with
  | some given => some given
  | none => (Identifier.ofName rawName job.settings.cleanNames).toOption

/-- The identifier of the base class, if there is to be one. -/
def baseName? (job : Job) (store : Store) (type : ComplexType) : Option (Option String) :=
  match givenBase? type with
  | none => some none
  | some base =>
      if base.isBuiltin then none
      else
        match typeMeant? store base type.home.location with
        | some (.complex decl) =>
            (Identifier.ofName decl.name job.settings.cleanNames).toOption.map some
        | _ => none

def classOutline? (job : Job) (store : Store) (type : ComplexType)
    (name className : Option String) : Option ClassOutline :=
  if (unsupportedPart? type).isSome then none
  else do
    let identifier ← className? job (rawClassName type name) className
    let base ← baseName? job store type
    let members ← (memberElements type).toOption
    let outlines ← members.mapM (memberOutline? job store identifier)
    return ⟨type, identifier, base,
      contract name.isSome (rawClassName type name) identifier
        (store.spaceOf type.home.location), outlines⟩

/-- The classes of waiting types, in the order in which they leave the queue. -/
def waitingOutlines? (job : Job) (store : Store) :
    Nat → List (ComplexType × String) → Option (List ClassOutline)
  | 0, _ => some []
  | _ + 1, [] => some []
  | budget + 1, (type, name) :: rest => do
      let first ← classOutline? job store type (type.owner.bind (·.name)) (some name)
      let others ← waitingOutlines? job store budget (rest ++ first.waiting)
      return first :: others

/-- The class of a type and then those of all that is written inside it. -/
def typeOutlines? (job : Job) (store : Store) (type : ComplexType) (name : Option String) :
    Option (List ClassOutline) := do
  let first ← classOutline? job store type name none
  let others ← waitingOutlines? job store (waitingWeight first.waiting) first.waiting
  return first :: others

theorem waitingOutlines?_cons {job : Job} {store : Store} {budget : Nat} {type : ComplexType}
    {name : String} {rest : List (ComplexType × String)} {outlines : List ClassOutline} :
    waitingOutlines? job store (budget + 1) ((type, name) :: rest) = some outlines ↔
      ∃ first others,
        classOutline? job store type (type.owner.bind (·.name)) (some name) = some first ∧
          waitingOutlines? job store budget (rest ++ first.waiting) = some others ∧
            outlines = first :: others := by
  rw [waitingOutlines?]
  constructor
  · intro computed
    obtain ⟨first, made, computed⟩ := Option.bind_eq_some_iff.mp computed
    obtain ⟨others, all, computed⟩ := Option.bind_eq_some_iff.mp computed
    exact ⟨first, others, made, all, (Option.some.inj computed).symm⟩
  · rintro ⟨first, others, made, all, rfl⟩
    simp [made, all]

theorem typeOutlines?_eq_some {job : Job} {store : Store} {type : ComplexType}
    {name : Option String} {outlines : List ClassOutline} :
    typeOutlines? job store type name = some outlines ↔
      ∃ first others, classOutline? job store type name none = some first ∧
        waitingOutlines? job store (waitingWeight first.waiting) first.waiting = some others ∧
          outlines = first :: others := by
  rw [typeOutlines?]
  constructor
  · intro computed
    obtain ⟨first, made, computed⟩ := Option.bind_eq_some_iff.mp computed
    obtain ⟨others, all, computed⟩ := Option.bind_eq_some_iff.mp computed
    exact ⟨first, others, made, all, (Option.some.inj computed).symm⟩
  · rintro ⟨first, others, made, all, rfl⟩
    simp [made, all]

/-! ## Documents -/

/-- A top-level element that names a complex type leaves the class to that type. -/
def elementOutlines? (job : Job) (store : Store) (element : ElementDecl) :
    Option (List ClassOutline) :=
  match element.inlineType, element.typeRef with
  | some (.complex type), _ => typeOutlines? job store type element.name
  | none, some name =>
      if name.isBuiltin then none
      else
        match typeMeant? store name element.home.location with
        | some (.complex _) => some []
        | _ => none
  | _, _ => none

def declarationOutlines? (job : Job) (store : Store) : TypeDecl → Option (List ClassOutline)
  | .complex type => typeOutlines? job store type none
  | .simple _ => none

def documentOutlines? (job : Job) (store : Store) (document : Document) :
    Option (List ClassOutline) := do
  let elements ← document.elements.mapM (elementOutlines? job store)
  let types ← document.types.mapM (declarationOutlines? job store)
  return elements.flatten ++ types.flatten

end Conversion

end SchemaSharp
