import SchemaSharp.Proofs.Conversion.Support
import SchemaSharp.Proofs.Schema.Owners

/-!
Where classes and members take their names from. The class of a declaration is called after it, and
the class of a type that is written inside a member after that member, whose element the type knows
as its owner; a member is called after the element that it stands for.
-/

namespace SchemaSharp

open Schema (ComplexType ElementDecl Document)

/-! ## Types of a document -/

namespace Schema

variable {home : Home} {document : Document} {type outer : ComplexType} {element : ElementDecl}

theorem Document.Written.readAsType (written : document.Written home)
    (writes : document.Writes type) : ∃ owner node, readComplexType home owner node = .ok type := by
  induction writes with
  | top declared =>
      obtain ⟨node, read⟩ := written.types _ declared
      exact ⟨none, node, read⟩
  | inElement declared inline =>
      obtain ⟨node, read⟩ := written.elements _ declared
      obtain ⟨child, read⟩ := readElementDecl_inline read inline
      exact ⟨_, child, read⟩
  | nested _ leaf _ inline ih =>
      obtain ⟨owner, node, read⟩ := ih
      obtain ⟨child, read⟩ := exists_node_of_leaf read leaf
      obtain ⟨inner, read⟩ := readElementDecl_inline read inline
      exact ⟨_, inner, read⟩

/-- A type inside an element knows the element, at any depth. -/
theorem Document.Written.owner (written : document.Written home) (writes : document.Writes outer)
    (leaf : .element element ∈ outer.leaves) (inline : element.inlineType = some (.complex type)) :
    type.owner = some element.heading := by
  obtain ⟨owner, node, read⟩ := written.readAsType writes
  obtain ⟨child, read⟩ := exists_node_of_leaf read leaf
  obtain ⟨inner, read⟩ := readElementDecl_inline read inline
  exact readComplexType_owner read

end Schema

namespace Conversion

/-- How a class of the document comes about: for a type at the top, for the type inside a top-level
element, or for a type that a member of another class left waiting. -/
inductive Origin (job : Job) (store : Store) (document : Document) : ClassOutline → Prop where
  | type {type : ComplexType} {outline : ClassOutline}
      (declared : .complex type ∈ document.types)
      (made : classOutline? job store type none none = some outline) :
      Origin job store document outline
  | element {element : ElementDecl} {type : ComplexType} {outline : ClassOutline}
      (declared : element ∈ document.elements)
      (inline : element.inlineType = some (.complex type))
      (made : classOutline? job store type element.name none = some outline) :
      Origin job store document outline
  | nested {outer outline : ClassOutline} {member : MemberOutline} {type : ComplexType}
      (above : Origin job store document outer) (inside : member ∈ outer.members)
      (left : member.nested = some type)
      (made : classOutline? job store type (type.owner.bind (·.name)) (some member.name) =
        some outline) :
      Origin job store document outline

variable {job : Job} {store : Store} {document : Document} {outlines : List ClassOutline}
  {outline : ClassOutline} {type : ComplexType} {name className : Option String}

/-! ## Origins of all classes -/

theorem mem_waiting_iff {className : String} :
    (type, className) ∈ outline.waiting ↔
      ∃ member ∈ outline.members, member.nested = some type ∧ member.name = className := by
  simp [ClassOutline.waiting, MemberOutline.waiting]

theorem waitingOutlines?_origin {budget : Nat} {waiting : List (ComplexType × String)}
    (made : waitingOutlines? job store budget waiting = some outlines)
    (left : ∀ pair ∈ waiting, ∃ outer, Origin job store document outer ∧ pair ∈ outer.waiting) :
    ∀ outline ∈ outlines, Origin job store document outline := by
  induction budget generalizing waiting outlines with
  | zero =>
      cases made
      simp
  | succ budget ih =>
      cases waiting with
      | nil =>
          cases made
          simp
      | cons first rest =>
          obtain ⟨type, className⟩ := first
          obtain ⟨head, tail, one, others, rfl⟩ := waitingOutlines?_cons.mp made
          obtain ⟨here, later⟩ := List.forall_mem_cons.mp left
          obtain ⟨outer, above, waits⟩ := here
          obtain ⟨member, inside, nested, rfl⟩ := mem_waiting_iff.mp waits
          have origin : Origin job store document head := .nested above inside nested one
          refine List.forall_mem_cons.mpr ⟨origin, ih others fun pair listed => ?_⟩
          rcases List.mem_append.mp listed with earlier | new
          · exact later pair earlier
          · exact ⟨head, origin, new⟩

theorem typeOutlines?_origin (made : typeOutlines? job store type name = some outlines)
    (first : ∀ outline, classOutline? job store type name none = some outline →
      Origin job store document outline) :
    ∀ outline ∈ outlines, Origin job store document outline := by
  obtain ⟨head, others, one, all, rfl⟩ := typeOutlines?_eq_some.mp made
  have origin := first head one
  exact List.forall_mem_cons.mpr
    ⟨origin, waitingOutlines?_origin all fun pair waits => ⟨head, origin, waits⟩⟩

theorem elementOutlines?_origin {element : ElementDecl} (declared : element ∈ document.elements)
    (made : elementOutlines? job store element = some outlines) :
    ∀ outline ∈ outlines, Origin job store document outline := by
  unfold elementOutlines? at made
  split at made
  · next type inline => exact typeOutlines?_origin made fun _ => .element declared inline
  · split at made
    · cases made
    · split at made
      · cases made
        simp
      · cases made
  · cases made

/-- Every class of a document has its origin in the document. -/
theorem documentOutlines?_origin (made : documentOutlines? job store document = some outlines) :
    ∀ outline ∈ outlines, Origin job store document outline := by
  unfold documentOutlines? at made
  obtain ⟨elements, inElements, made⟩ := Option.bind_eq_some_iff.mp made
  obtain ⟨types, inTypes, made⟩ := Option.bind_eq_some_iff.mp made
  cases made
  intro outline listed
  rcases List.mem_append.mp listed with first | second
  · obtain ⟨group, member, inside⟩ := List.mem_flatten.mp first
    obtain ⟨element, declared, computed⟩ := mem_of_mapM inElements member
    exact elementOutlines?_origin declared computed outline inside
  · obtain ⟨group, member, inside⟩ := List.mem_flatten.mp second
    obtain ⟨decl, declared, computed⟩ := mem_of_mapM inTypes member
    obtain ⟨type, rfl, whole⟩ := declarationOutlines?_complex computed
    exact typeOutlines?_origin whole (fun _ => .type declared) outline inside

/-- The classes of a document are all that have their origin in it. -/
theorem documentOutlines?_mem_iff
    (made : documentOutlines? job store document = some outlines) :
    outline ∈ outlines ↔ Origin job store document outline := by
  refine ⟨documentOutlines?_origin made outline, fun origin => ?_⟩
  have covered := documentOutlines?_covered made
  induction origin with
  | type declared one =>
      obtain ⟨type, same, found, listed, computed⟩ := covered.types _ declared
      cases same
      rwa [Option.some.inj (one.symm.trans computed)]
  | element declared inline one =>
      obtain ⟨found, listed, computed⟩ := covered.elements _ declared _ inline
      rwa [Option.some.inj (one.symm.trans computed)]
  | @nested outer outline member type above inside left one ih =>
      have waits : (type, member.name) ∈ outer.waiting :=
        mem_waiting_iff.mpr ⟨member, inside, left, rfl⟩
      obtain ⟨found, listed, computed⟩ := covered.waiting outer ih _ waits
      rwa [Option.some.inj (one.symm.trans computed)]

/-! ## Members -/

/-- The element that a member stands for, and what the member takes from it. -/
theorem leaf_of_member (made : classOutline? job store type name className = some outline)
    {member : MemberOutline} (inside : member ∈ outline.members) :
    ∃ element target, .element element ∈ type.leaves ∧ targetMeant? store element = some target ∧
      memberName? job target outline.name = some member.name ∧
        member.wire = wireName target.name member.name ∧ member.nested = nestedIn element := by
  obtain ⟨_, _, _, all⟩ := classOutline?_eq_some made
  obtain ⟨element, listed, computed⟩ := mem_of_mapM all inside
  have leaf := ((classOutline?_supported made).2.mem_iff element).mpr listed
  unfold memberOutline? at computed
  obtain ⟨target, meant, computed⟩ := Option.bind_eq_some_iff.mp computed
  obtain ⟨called, named, computed⟩ := Option.bind_eq_some_iff.mp computed
  obtain ⟨text, _, computed⟩ := Option.bind_eq_some_iff.mp computed
  cases computed
  exact ⟨element, target, leaf, meant, named, rfl, rfl⟩

theorem member_of_leaf (made : classOutline? job store type name className = some outline)
    {element : ElementDecl} (leaf : .element element ∈ type.leaves) :
    ∃ member ∈ outline.members, ∃ target, targetMeant? store element = some target ∧
      memberName? job target outline.name = some member.name := by
  obtain ⟨_, _, _, all⟩ := classOutline?_eq_some made
  have listed := ((classOutline?_supported made).2.mem_iff element).mp leaf
  obtain ⟨member, inside, computed⟩ := exists_of_mapM all listed
  obtain ⟨target, _, meant, named, _⟩ := memberOutline?_eq_some computed
  exact ⟨member, inside, target, meant, named⟩

theorem classOutline?_marker (made : classOutline? job store type name className = some outline) :
    outline.marker = contract name.isSome (rawClassName type name) outline.name
      (store.spaceOf type.home.location) := by
  unfold classOutline? at made
  split at made
  · cases made
  · obtain ⟨identifier, _, made⟩ := Option.bind_eq_some_iff.mp made
    obtain ⟨base, _, made⟩ := Option.bind_eq_some_iff.mp made
    obtain ⟨elements, _, made⟩ := Option.bind_eq_some_iff.mp made
    obtain ⟨members, _, made⟩ := Option.bind_eq_some_iff.mp made
    cases made
    rfl

/-! ## Origins and types -/

theorem Origin.made (origin : Origin job store document outline) :
    ∃ name className, classOutline? job store outline.type name className = some outline := by
  cases origin with
  | type _ made => exact ⟨_, _, (classOutline?_eq_some made).1 ▸ made⟩
  | element _ _ made => exact ⟨_, _, (classOutline?_eq_some made).1 ▸ made⟩
  | nested _ _ _ made => exact ⟨_, _, (classOutline?_eq_some made).1 ▸ made⟩

theorem Origin.writes (origin : Origin job store document outline) :
    document.Writes outline.type := by
  induction origin with
  | type declared made => exact (classOutline?_eq_some made).1 ▸ .top declared
  | element declared inline made =>
      exact (classOutline?_eq_some made).1 ▸ .inElement declared inline
  | nested above inside left made ih =>
      obtain ⟨name, className, one⟩ := above.made
      obtain ⟨element, _, leaf, _, _, _, nested⟩ := leaf_of_member one inside
      obtain ⟨standing, inline⟩ := nestedIn_eq_some_iff.mp (nested.symm.trans left)
      exact (classOutline?_eq_some made).1 ▸ .nested ih leaf standing inline

end Conversion

end SchemaSharp
