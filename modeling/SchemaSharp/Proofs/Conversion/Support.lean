import SchemaSharp.Proofs.Conversion.Coverage
import SchemaSharp.Proofs.Conversion.Runs
import SchemaSharp.Proofs.Schema.Particles

/-!
What is translated is supported. A class has an outline only if nothing stands in its type that no
class can express; as every type of a document has its class, also those written inside others, a
run that returns took out only documents that are supported throughout.
-/

namespace SchemaSharp

open Schema (ComplexType ElementDecl TypeDecl QName Document)

/-! ## Documents within the subset -/

namespace Schema

/-- The complex types of a document: those at the top, those written in a top-level element, and
those written in an element that stands for itself in the content of another one. -/
inductive Document.Writes (document : Document) : ComplexType → Prop where
  | top {type : ComplexType} (declared : .complex type ∈ document.types) : document.Writes type
  | inElement {element : ElementDecl} {type : ComplexType} (declared : element ∈ document.elements)
      (inline : element.inlineType = some (.complex type)) : document.Writes type
  | nested {outer type : ComplexType} {element : ElementDecl} (written : document.Writes outer)
      (leaf : .element element ∈ outer.leaves) (standing : element.ref = none)
      (inline : element.inlineType = some (.complex type)) : document.Writes type

end Schema

namespace Conversion

open SchemaSharp.Task (Returns)

/-- The name, used at this location, means a complex type of some document. -/
def MeansComplex (store : Store) (name : QName) (location : String) : Prop :=
  name.isBuiltin = false ∧ ∃ decl, typeMeant? store name location = some (.complex decl)

/-- A class can express the type. -/
structure Supported (store : Store) (type : ComplexType) : Prop where
  attributes : type.attributes = []
  unmixed : type.isMixed = false
  content : type.content ≠ some .simple
  derivation : type.derivation ≠ some .byRestriction
  particles : ∀ tag, .unsupported tag ∉ type.leaves
  base : ∀ base, type.base = some base →
    base = ⟨some Schema.schemaUri, "anyType"⟩ ∨ MeansComplex store base type.home.location

/-- All declarations of the document lead to classes, and all its types are supported. -/
structure SupportedDocument (store : Store) (document : Document) : Prop where
  declarations : ∀ decl ∈ document.types, ∃ type, decl = .complex type
  elements : ∀ element ∈ document.elements,
    (∃ type, element.inlineType = some (.complex type)) ∨
      element.inlineType = none ∧ ∃ name, element.typeRef = some name ∧
        MeansComplex store name element.home.location
  types : ∀ type, document.Writes type → Supported store type

variable {job : Job} {store : Store} {document : Document}

/-! ## Types with an outline -/

theorem memberElements_leaves (type : ComplexType) :
    Schema.Flattens type.leaves (memberElements type) := by
  unfold ComplexType.leaves memberElements
  cases type.model with
  | none => rfl
  | some model =>
      cases model with
      | unsupported tag => exact ⟨[], [], rfl⟩
      | sequence items => exact Schema.flattenAll_leaves items

theorem unsupportedPart?_eq_none {type : ComplexType} (supported : unsupportedPart? type = none) :
    type.attributes = [] ∧ type.isMixed = false ∧ type.content ≠ some .simple ∧
      type.derivation ≠ some .byRestriction := by
  unfold unsupportedPart? at supported
  split at supported
  · cases supported
  · next bare =>
      split at supported
      · cases supported
      · next unmixed =>
          split at supported
          · cases supported
          · next content =>
              split at supported
              · cases supported
              · next derivation =>
                  refine ⟨by simpa using bare, by simpa using unmixed, ?_, ?_⟩
                  · simpa using content
                  · simpa using derivation

theorem baseName?_base {type : ComplexType} {found : Option String}
    (named : baseName? job store type = some found) :
    ∀ base, type.base = some base →
      base = ⟨some Schema.schemaUri, "anyType"⟩ ∨
        MeansComplex store base type.home.location := by
  intro base derived
  unfold baseName? givenBase? at named
  rw [derived] at named
  -- `anyType` is passed over as if there was no base, any other base has to lead to a class
  by_cases any : (base.isBuiltin && base.name == "anyType") = true
  · left
    obtain ⟨builtin, called⟩ := Bool.and_eq_true_iff.mp any
    obtain ⟨uri, name⟩ := base
    simp only [QName.isBuiltin, beq_iff_eq] at builtin called
    rw [builtin, called]
  · right
    rw [Option.filter_some, if_pos (by rw [(Bool.not_eq_true _).mp any]; rfl)] at named
    dsimp only at named
    split at named
    · cases named
    · next own =>
        split at named
        · next decl meant => exact ⟨by simpa using own, decl, meant⟩
        · cases named

/-- Only a supported type has an outline, and its members are its leaves. -/
theorem classOutline?_supported {type : ComplexType} {name className : Option String}
    {outline : ClassOutline} (made : classOutline? job store type name className = some outline) :
    Supported store type ∧ Schema.Flattens type.leaves (.ok (membersOf type)) := by
  obtain ⟨_, _, derived, _⟩ := classOutline?_eq_some made
  unfold classOutline? at made
  split at made
  · cases made
  · next supported =>
      obtain ⟨bare, unmixed, content, derivation⟩ :=
        unsupportedPart?_eq_none (Option.not_isSome_iff_eq_none.mp supported)
      obtain ⟨_, _, made⟩ := Option.bind_eq_some_iff.mp made
      obtain ⟨_, _, made⟩ := Option.bind_eq_some_iff.mp made
      obtain ⟨elements, flat, _⟩ := Option.bind_eq_some_iff.mp made
      have leaves := memberElements_leaves type
      have all : membersOf type = elements := by rw [membersOf, flat]; rfl
      rw [ok_of_toOption flat] at leaves
      rw [all]
      exact ⟨⟨bare, unmixed, content, derivation, leaves.supported, baseName?_base derived⟩, leaves⟩

/-! ## Documents with an outline -/

/-- Every type of a document has its class. -/
theorem DocumentCovered.outlined {outlines : List ClassOutline}
    (covered : DocumentCovered job store document outlines) {type : ComplexType}
    (written : document.Writes type) :
    ∃ name className, ∃ outline ∈ outlines,
      classOutline? job store type name className = some outline := by
  induction written with
  | top declared =>
      obtain ⟨_, same, outline, member, made⟩ := covered.types _ declared
      cases same
      exact ⟨none, none, outline, member, made⟩
  | inElement declared inline =>
      obtain ⟨outline, member, made⟩ := covered.elements _ declared _ inline
      exact ⟨_, none, outline, member, made⟩
  | @nested outer type element _ leaf standing inline ih =>
      obtain ⟨name, className, outline, member, made⟩ := ih
      -- the element is a member of the outer class, which leaves the type waiting
      have listed := ((classOutline?_supported made).2.mem_iff element).mp leaf
      have nested : type ∈ nestedTypes outer :=
        List.mem_filterMap.mpr ⟨element, listed, nestedIn_eq_some_iff.mpr ⟨standing, inline⟩⟩
      rw [← (classOutline?_waiting made).2] at nested
      obtain ⟨⟨_, memberName⟩, waiting, rfl⟩ := List.mem_map.mp nested
      obtain ⟨inner, found, computed⟩ := covered.waiting outline member _ waiting
      exact ⟨_, _, inner, found, computed⟩

theorem elementOutlines?_shape {element : ElementDecl} {outlines : List ClassOutline}
    (made : elementOutlines? job store element = some outlines) :
    (∃ type, element.inlineType = some (.complex type)) ∨
      element.inlineType = none ∧ ∃ name, element.typeRef = some name ∧
        MeansComplex store name element.home.location := by
  unfold elementOutlines? at made
  split at made
  · next type inline => exact .inl ⟨type, inline⟩
  · next name inline ref =>
      right
      refine ⟨inline, name, ref, ?_⟩
      split at made
      · cases made
      · next own =>
          split at made
          · next decl meant => exact ⟨by simpa using own, decl, meant⟩
          · cases made
  · cases made

theorem documentOutlines?_supported {outlines : List ClassOutline}
    (made : documentOutlines? job store document = some outlines) :
    SupportedDocument store document := by
  have covered := documentOutlines?_covered made
  refine ⟨fun decl member => ?_, fun element member => ?_, fun type written => ?_⟩
  · obtain ⟨type, same, _⟩ := covered.types decl member
    exact ⟨type, same⟩
  · unfold documentOutlines? at made
    obtain ⟨groups, inElements, _⟩ := Option.bind_eq_some_iff.mp made
    obtain ⟨group, _, computed⟩ := exists_of_mapM inElements member
    exact elementOutlines?_shape computed
  · obtain ⟨name, className, outline, _, computed⟩ := covered.outlined written
    exact (classOutline?_supported computed).1

/-! ## Runs -/

/-- Nothing unsupported is translated: when a run returns, every document that was taken out is
supported throughout, and so is the type of every class that was written. -/
theorem run_supported (job : Job) {begun after : Conversion} {paths : List String}
    (started : start job = .ok begun) (returned : Returns (run job) begun paths after) :
    (∀ location ∈ after.dequeued, ∃ entry, after.store.at? location = some entry ∧
      SupportedDocument after.store entry.document) ∧
    ∃ outlines : List ClassOutline, after.record = outlines.flatMap ClassOutline.calls ∧
      ∀ outline ∈ outlines, Supported after.store outline.type := by
  obtain ⟨seeds, groups, completed⟩ := run_returns started returned
  have each : ∀ location ∈ after.dequeued, ∃ outlines ∈ groups,
      storedOutlines? job after.store location = some outlines :=
    fun location taken => exists_of_mapM completed.outlined taken
  refine ⟨fun location taken => ?_, groups.flatten, completed.record, fun outline member => ?_⟩
  · obtain ⟨outlines, _, made⟩ := each location taken
    obtain ⟨entry, found, made⟩ := Option.bind_eq_some_iff.mp made
    exact ⟨entry, found, documentOutlines?_supported made⟩
  · obtain ⟨outlines, listed, inside⟩ := List.mem_flatten.mp member
    obtain ⟨location, _, made⟩ := mem_of_mapM completed.outlined listed
    obtain ⟨entry, _, made⟩ := Option.bind_eq_some_iff.mp made
    obtain ⟨_, _, computed⟩ := (documentOutlines?_covered made).made outline inside
    exact (classOutline?_supported computed).1

theorem pair_run_supported :
    ∃ begun after, start pair = .ok begun ∧
      Returns (run pair) begun ["a.cs", "b.cs"] after ∧
        after.dequeued = ["file:///a", "file:///b"] ∧
          ∃ first second, after.store.at? "file:///a" = some first ∧
            after.store.at? "file:///b" = some second ∧
              SupportedDocument after.store first.document ∧
                SupportedDocument after.store second.document := by
  obtain ⟨begun, started, returned, dequeued⟩ := pair_returns
  obtain ⟨all, _⟩ := run_supported pair started returned
  rw [dequeued] at all
  obtain ⟨first, found, supported⟩ := all "file:///a" (by simp)
  obtain ⟨second, foundToo, supportedToo⟩ := all "file:///b" (by simp)
  exact ⟨begun, _, started, returned, dequeued, first, second, found, foundToo, supported,
    supportedToo⟩

end Conversion

end SchemaSharp
