import SchemaSharp.Proofs.Conversion.Origins
import SchemaSharp.Proofs.Conversion.ReferenceClosure

/-!
The order of the classes. Documents follow one another as they leave the queue, and in each one the
declarations at its top as they are written there: first the elements with a type of their own and
then the types. The class of a declaration comes before those of all types inside it, which follow
level by level, each for a member that left it waiting. Such a class is called as its member is, but
for one exception: a member that is renamed to nothing leaves the class to its schema name.
-/

namespace SchemaSharp

open Schema (ComplexType ElementDecl TypeDecl Document Particle)

namespace Schema

/-- The complex type inside an element at the top of a document, with the element's name. -/
def ElementDecl.topType? (element : ElementDecl) : Option (ComplexType × Option String) :=
  match element.inlineType with
  | some (.complex type) => some (type, element.name)
  | _ => none

def TypeDecl.topType? : TypeDecl → Option (ComplexType × Option String)
  | .complex type => some (type, none)
  | .simple _ => none

/-- The types that a document declares at its top, in the order of their classes. -/
def Document.topTypes (document : Document) : List (ComplexType × Option String) :=
  document.elements.filterMap ElementDecl.topType? ++ document.types.filterMap TypeDecl.topType?

end Schema

namespace Conversion

open Text (fillTemplate)
open SchemaSharp.Task (Returns)
open Relation (ReflTransGen)

variable {job : Job} {store : Store} {begun before after conversion : Conversion}
  {paths : List String} {type : ComplexType} {name : Option String}
  {outlines classes : List ClassOutline}

/-! ## Members -/

/-- The property of an element. For a type inside the element it has its own name as type. -/
structure StandsFor (job : Job) (store : Store) (scope : String) (element : ElementDecl)
    (member : MemberOutline) : Prop where
  made : memberOutline? job store scope element = some member
  nested : member.nested = nestedIn element
  typed : ∀ type, member.nested = some type → member.type = repeatedText element member.name

/-- One property for each element particle of the type, in flattened order. -/
def HasProperties (job : Job) (store : Store) (outline : ClassOutline) : Prop :=
  ∃ elements, outline.type.leaves = elements.map Particle.element ∧
    List.Forall₂ (StandsFor job store outline.name) elements outline.members

theorem memberOutline?_standsFor {scope : String} {element : ElementDecl} {member : MemberOutline}
    (made : memberOutline? job store scope element = some member) :
    StandsFor job store scope element member := by
  obtain ⟨target, text, _, _, typed, repeated, nested⟩ := memberOutline?_eq_some made
  refine ⟨made, nested, fun type inside => ?_⟩
  rw [nested] at inside
  rw [memberTypeText?, inside] at typed
  rw [repeated, Option.some.inj typed]

theorem classOutline?_hasProperties {className : Option String} {outline : ClassOutline}
    (made : classOutline? job store type name className = some outline) :
    HasProperties job store outline := by
  obtain ⟨same, _, _, all⟩ := classOutline?_eq_some made
  refine ⟨membersOf type, same ▸ (classOutline?_supported made).2, ?_⟩
  exact (forall₂_of_mapM all).imp fun _ _ computed => memberOutline?_standsFor computed

/-! ## Nested types -/

/-- The class for a type that a member left waiting under its own name. -/
structure ClassOf (job : Job) (left : ComplexType × String) (outline : ClassOutline) : Prop where
  type : outline.type = left.1
  name : className? job (rawClassName left.1 (left.1.owner.bind (·.name))) (some left.2) =
    some outline.name

theorem classOutline?_classOf {left : ComplexType × String} {outline : ClassOutline}
    (made : classOutline? job store left.1 (left.1.owner.bind (·.name)) (some left.2) =
      some outline) : ClassOf job left outline := by
  obtain ⟨type, name, _, _⟩ := classOutline?_eq_some made
  exact ⟨type, name⟩

/-- The class takes the name of its member exactly if that is a name. -/
theorem ClassOf.name_eq_iff {left : ComplexType × String} {outline : ClassOutline}
    (classOf : ClassOf job left outline) : outline.name = left.2 ↔ left.2 ≠ "" := by
  have called := classOf.name
  unfold className? at called
  by_cases empty : left.2 = ""
  · have none : Schema.given? (some left.2) = none := by simp [Schema.given?, empty]
    rw [none] at called
    have named := Identifier.ofName_ne_empty (ok_of_toOption called)
    simp [empty, named]
  · have given : Schema.given? (some left.2) = some left.2 := by simp [Schema.given?, empty]
    rw [given] at called
    simp [empty, (Option.some.inj called).symm]

/-! ## Declarations -/

/-- The classes for a type at the top of a document: its own, then those of the types inside it,
level by level, each for a member of one of the classes. -/
structure Family (job : Job) (store : Store) (top : ComplexType × Option String)
    (classes : List ClassOutline) : Prop where
  types : classes.map ClassOutline.type = withNested top.1
  first : classes.head?.map ClassOutline.name = className? job (rawClassName top.1 top.2) none
  others : List.Forall₂ (ClassOf job) (classes.flatMap ClassOutline.waiting) classes.tail
  properties : ∀ outline ∈ classes, HasProperties job store outline

theorem typeOutlines?_family (made : typeOutlines? job store type name = some classes) :
    Family job store (type, name) classes := by
  have types := typeOutlines?_types made
  have covered := (typeOutlines?_covered made).1
  obtain ⟨first, others, one, all, rfl⟩ := typeOutlines?_eq_some.mp made
  constructor
  case types => exact types
  case first => exact (classOutline?_eq_some one).2.1.symm
  case others =>
    rw [List.flatMap_cons]
    have inTurn := waitingOutlines?_inTurn all (Nat.le_refl _)
    exact inTurn.imp fun _ _ computed => classOutline?_classOf computed
  case properties =>
    intro outline listed
    obtain ⟨_, _, computed⟩ := covered.made outline listed
    exact classOutline?_hasProperties computed

/-- Declarations that have their classes, if they are types or have one, and none otherwise. -/
theorem families_of_mapM {α : Type} {compute : α → Option (List ClassOutline)}
    {top? : α → Option (ComplexType × Option String)} {items : List α}
    (each : ∀ item classes, compute item = some classes →
      match top? item with
      | some top => Family job store top classes
      | none => classes = [])
    {groups : List (List ClassOutline)} (computed : items.mapM compute = some groups) :
    ∃ families, families.flatten = groups.flatten ∧
      List.Forall₂ (Family job store) (items.filterMap top?) families := by
  have related := forall₂_of_mapM computed
  clear computed
  induction related with
  | nil => exact ⟨[], rfl, .nil⟩
  | @cons item classes _ _ here _ ih =>
      obtain ⟨families, same, all⟩ := ih
      have own := each item classes here
      cases found : top? item with
      | none =>
          rw [found] at own
          refine ⟨families, ?_, ?_⟩
          · rw [same, show classes = [] from own, List.flatten_cons, List.nil_append]
          · rwa [List.filterMap_cons_none found]
      | some top =>
          rw [found] at own
          refine ⟨classes :: families, ?_, ?_⟩
          · rw [List.flatten_cons, List.flatten_cons, same]
          · rw [List.filterMap_cons_some found]
            exact .cons own all

theorem elementOutlines?_family {element : ElementDecl}
    (made : elementOutlines? job store element = some classes) :
    match element.topType? with
    | some top => Family job store top classes
    | none => classes = [] := by
  unfold elementOutlines? at made
  unfold ElementDecl.topType?
  split at made
  · next type inline =>
      rw [inline]
      exact typeOutlines?_family made
  · next name inline _ =>
      rw [inline]
      split at made
      · cases made
      · split at made
        · cases made
          rfl
        · cases made
  · cases made

theorem declarationOutlines?_family {decl : TypeDecl}
    (made : declarationOutlines? job store decl = some classes) :
    match decl.topType? with
    | some top => Family job store top classes
    | none => classes = [] := by
  obtain ⟨type, rfl, whole⟩ := declarationOutlines?_complex made
  exact typeOutlines?_family whole

theorem documentOutlines?_families {document : Document}
    (made : documentOutlines? job store document = some outlines) :
    ∃ families, families.flatten = outlines ∧
      List.Forall₂ (Family job store) document.topTypes families := by
  unfold documentOutlines? at made
  obtain ⟨elements, inElements, made⟩ := Option.bind_eq_some_iff.mp made
  obtain ⟨types, inTypes, made⟩ := Option.bind_eq_some_iff.mp made
  cases made
  obtain ⟨first, firstSame, firstAll⟩ :=
    families_of_mapM (fun _ _ => elementOutlines?_family) inElements
  obtain ⟨second, secondSame, secondAll⟩ :=
    families_of_mapM (fun _ _ => declarationOutlines?_family) inTypes
  refine ⟨first ++ second, ?_, List.rel_append firstAll secondAll⟩
  rw [List.flatten_append, firstSame, secondSame]

/-! ## One class each -/

/-- No step marks a type a second time. -/
theorem Step.translated_nodup (step : Step job before after)
    (distinct : before.translated.Nodup) : after.translated.Nodup := by
  cases step with
  | mark unmarked =>
      refine List.Nodup.append distinct (List.nodup_singleton _) ?_
      exact List.disjoint_singleton.mpr unmarked
  | shelve =>
      unfold Conversion.shelve
      split
      · exact distinct
      · exact distinct
  | _ => exact distinct

theorem translated_nodup_of_steps (steps : ReflTransGen (Step job) before after)
    (distinct : before.translated.Nodup) : after.translated.Nodup := by
  induction steps with
  | refl => exact distinct
  | tail _ step ih => exact step.translated_nodup ih

theorem run_translated_nodup (started : start job = .ok begun)
    (returned : Returns (run job) begun paths after) : after.translated.Nodup := by
  refine translated_nodup_of_steps ((run_follows begun).steps_of_returns returned) ?_
  unfold start at started
  split at started
  · cases started
  · cases started
    exact List.nodup_nil

/-! ## The whole run -/

/-- The classes of a document are those of the declarations at its top. -/
def Documented (job : Job) (store : Store) (location : String)
    (families : List (List ClassOutline)) : Prop :=
  ∃ entry, store.at? location = some entry ∧
    List.Forall₂ (Family job store) entry.document.topTypes families

/-- What a run has written, document by document and declaration by declaration: every declaration
has its classes, each type has one class, and no artifact has any others. -/
structure Emission (job : Job) (conversion : Conversion)
    (groups : List (List (List ClassOutline))) : Prop where
  documents : List.Forall₂ (Documented job conversion.store) conversion.dequeued groups
  artifacts : conversion.closed.map classCalls = artifactCalls job (groups.map List.flatten)
  finished : conversion.desk = []
  once : (groups.flatten.flatten.map fun outline => outline.type.identity).Nodup

/-- Each class of a type inside a member is called as the member is, and so as its type. -/
def NamedByMembers (groups : List (List (List ClassOutline))) : Prop :=
  ∀ classes ∈ groups.flatten, List.Forall₂ (fun left outline => outline.name = left.2)
    (classes.flatMap ClassOutline.waiting) classes.tail

theorem groups_of_mapM {locations : List String} {outlines : List (List ClassOutline)}
    (computed : locations.mapM (storedOutlines? job store) = some outlines) :
    ∃ groups, groups.map List.flatten = outlines ∧
      List.Forall₂ (Documented job store) locations groups := by
  have related := forall₂_of_mapM computed
  clear computed
  induction related with
  | nil => exact ⟨[], rfl, .nil⟩
  | cons here _ ih =>
      obtain ⟨groups, same, all⟩ := ih
      obtain ⟨entry, found, computed⟩ := Option.bind_eq_some_iff.mp here
      obtain ⟨families, made, each⟩ := documentOutlines?_families computed
      refine ⟨families :: groups, ?_, .cons ⟨entry, found, each⟩ all⟩
      rw [List.map_cons, made, same]

theorem Emission.family {groups : List (List (List ClassOutline))}
    (emission : Emission job conversion groups) (listed : classes ∈ groups.flatten) :
    ∃ top, Family job conversion.store top classes := by
  obtain ⟨families, group, inside⟩ := List.mem_flatten.mp listed
  obtain ⟨location, _, entry, _, all⟩ := exists_of_forall₂ emission.documents group
  obtain ⟨top, _, family⟩ := exists_of_forall₂ all inside
  exact ⟨top, family⟩

theorem namedByMembers_iff {lefts : List (ComplexType × String)}
    (related : List.Forall₂ (ClassOf job) lefts classes) :
    List.Forall₂ (fun left outline => outline.name = left.2) lefts classes ↔
      ∀ left ∈ lefts, left.2 ≠ "" := by
  induction related with
  | nil => simp
  | cons here _ ih => simp only [List.forall₂_cons, here.name_eq_iff, ih, List.forall_mem_cons]

/-- A name is only empty if the pattern fills the name of the class around it to nothing. -/
theorem Family.renamed {top : ComplexType × Option String} (family : Family job store top classes)
    {left : ComplexType × String} (waits : left ∈ classes.flatMap ClassOutline.waiting)
    (nameless : left.2 = "") : ∃ outline ∈ classes,
      fillTemplate job.settings.renamingPattern outline.name = .ok "" := by
  obtain ⟨outline, listed, inside⟩ := List.mem_flatMap.mp waits
  obtain ⟨member, belongs, _, called⟩ := mem_waiting_iff.mp inside
  obtain ⟨elements, _, each⟩ := family.properties outline listed
  obtain ⟨element, _, standsFor⟩ := exists_of_forall₂ each belongs
  obtain ⟨target, _, _, named, _⟩ := memberOutline?_eq_some standsFor.made
  rw [called, nameless] at named
  exact ⟨outline, listed, Identifier.renamed_of_ofMember_empty (ok_of_toOption named)⟩

/-- The classes of a run that returns are, in the order of its artifacts, those of the documents in
the order of the queue; those of a document are the classes of the declarations at its top, each
followed by those of the types inside it, level by level. Every type has one class, and the class of
a nested type is called as its member is, exactly if no such member is renamed to nothing. -/
theorem classes_follow_declarations (started : start job = .ok begun)
    (returned : Returns (run job) begun paths after) :
    ∃ groups, Emission job after groups ∧
      (NamedByMembers groups ↔ ∀ classes ∈ groups.flatten,
        ∀ left ∈ classes.flatMap ClassOutline.waiting, left.2 ≠ "") ∧
      ((∀ enclosing, after.Opened enclosing →
        fillTemplate job.settings.renamingPattern enclosing ≠ .ok "") → NamedByMembers groups) := by
  obtain ⟨seeds, outlines, completed⟩ := run_returns started returned
  obtain ⟨groups, rfl, documents⟩ := groups_of_mapM completed.outlined
  have once : (groups.flatten.flatten.map fun outline => outline.type.identity).Nodup := by
    have distinct := run_translated_nodup started returned
    rwa [completed.translated, ← List.flatten_flatten] at distinct
  have emission : Emission job after groups := by
    refine ⟨documents, ?_, completed.desk, once⟩
    have artifacts := completed.artifacts
    rwa [completed.desk, List.append_nil] at artifacts
  have exactly : NamedByMembers groups ↔ ∀ classes ∈ groups.flatten,
      ∀ left ∈ classes.flatMap ClassOutline.waiting, left.2 ≠ "" := by
    refine forall₂_congr fun classes listed => ?_
    obtain ⟨_, family⟩ := emission.family listed
    exact namedByMembers_iff family.others
  refine ⟨groups, emission, exactly, fun named => exactly.mpr ?_⟩
  intro classes listed left waits nameless
  obtain ⟨_, family⟩ := emission.family listed
  obtain ⟨outline, inside, renamed⟩ := family.renamed waits nameless
  refine named outline.name ((completed.opened_iff _).mpr ⟨outline, ?_, rfl⟩) renamed
  rw [← List.flatten_flatten]
  exact List.mem_flatten.mpr ⟨classes, listed, inside⟩

/-! ## Levels -/

/-- A type with two types inside, the first of which has one more inside. -/
def layered : Job :=
  let world : World :=
    { directory := ⟨['/'], []⟩
      files :=
        [(["a".toList], pairText ("<s:complexType name='a'><s:sequence>"
          ++ "<s:element name='x'><s:complexType><s:sequence><s:element name='u'>"
          ++ "<s:complexType/></s:element></s:sequence></s:complexType></s:element>"
          ++ "<s:element name='y'><s:complexType/></s:element></s:sequence></s:complexType>"))]
      web := [] }
  ⟨{ inputs := ["a"] }, world.source false⟩

/-- The name of the class that a call opens. -/
def openedBy? : Writer.Call → Option String
  | .openType name _ _ _ => some name
  | _ => none

set_option maxRecDepth 100000 in
theorem layered_runs :
    ((start layered).toOption.map fun begun =>
      let outcome := (run layered).perform begun
      (outcome.1.toOption, outcome.2.state.closed.map fun artifact =>
        artifact.calls.filterMap openedBy?)) =
        some (some ["a.cs"], [["A", "X", "Y", "U"]]) := by
  simp only [layered, pairText, Text.Utf8.encode_toList]
  decide +kernel

theorem layered_classes_follow :
    ∃ begun after, start layered = .ok begun ∧ Returns (run layered) begun ["a.cs"] after ∧
      (after.closed.map fun artifact => artifact.calls.filterMap openedBy?) =
        [["A", "X", "Y", "U"]] ∧
      ∃ groups, Emission layered after groups ∧ NamedByMembers groups := by
  obtain ⟨begun, made, ran⟩ := Option.map_eq_some_iff.mp layered_runs
  obtain ⟨answered, opened⟩ := Prod.mk.inj ran
  have started := ok_of_toOption made
  have returned := Task.returns_of_perform (ok_of_toOption answered)
  obtain ⟨groups, emission, _, named⟩ := classes_follow_declarations started returned
  refine ⟨begun, _, started, returned, opened, groups, emission, named fun enclosing _ filled => ?_⟩
  exact absurd filled (Identifier.fillTemplate_default_ne_empty enclosing)

/-! ## A class that is not called as its member -/

theorem Emission.wrote {groups : List (List (List ClassOutline))}
    (emission : Emission job conversion groups) (listed : classes ∈ groups.flatten)
    {outline : ClassOutline} (inside : outline ∈ classes) {call : Writer.Call}
    (called : call ∈ outline.calls) : conversion.Wrote call := by
  have written : call ∈ (artifactCalls job (groups.map List.flatten)).flatten := by
    rw [artifactCalls_flatten, ← List.flatten_flatten]
    exact List.mem_flatMap.mpr ⟨outline, List.mem_flatten.mpr ⟨classes, listed, inside⟩, called⟩
  rw [← emission.artifacts] at written
  obtain ⟨calls, among, member⟩ := List.mem_flatten.mp written
  obtain ⟨artifact, closed, rfl⟩ := List.mem_map.mp among
  exact ⟨artifact, List.mem_append_left _ closed, (List.mem_filter.mp member).1⟩

/-- For each type at the top of a document, how many types there are in it. -/
def shapes (conversion : Conversion) : List (Option (List Nat)) :=
  conversion.dequeued.map fun location => (conversion.store.at? location).map fun entry =>
    entry.document.topTypes.map fun top => (withNested top.1).length

set_option maxRecDepth 100000 in
theorem shadowed_shapes :
    ((start shadowed).toOption.map fun begun =>
      let outcome := (run shadowed).perform begun
      shapes outcome.2.state) = some [some [2]] := by
  simp only [shadowed, pairText, Text.Utf8.encode_toList]
  decide +kernel

theorem not_namedByMembers_of_shadowedCalls {groups : List (List (List ClassOutline))}
    (calls : (conversion.closed ++ conversion.desk).map Artifact.calls = [shadowedCalls])
    (shaped : shapes conversion = [some [2]]) (emission : Emission job conversion groups) :
    ¬ NamedByMembers groups := by
  intro named
  -- there is one family of classes, and it has two
  obtain ⟨location, taken, shape⟩ := List.map_eq_singleton_iff.mp shaped
  obtain ⟨entry, found, tops⟩ := Option.map_eq_some_iff.mp shape
  obtain ⟨top, only, size⟩ := List.map_eq_singleton_iff.mp tops
  have documents := emission.documents
  rw [taken] at documents
  obtain ⟨families, group, other, same, all⟩ :=
    exists_of_forall₂ documents.flip (List.mem_singleton_self _)
  obtain rfl := Option.some.inj (found.symm.trans same)
  rw [only] at all
  obtain ⟨classes, inside, family⟩ := exists_of_forall₂ all.flip (List.mem_singleton_self _)
  have two : classes.length = 2 := by rw [← size, ← family.types, List.length_map]
  obtain ⟨first, second, rfl⟩ := List.length_eq_two.mp two
  have listed : [first, second] ∈ groups.flatten := List.mem_flatten.mpr ⟨families, group, inside⟩
  -- the second is called as a member is, but that has no name
  obtain ⟨left, waits, like⟩ := exists_of_forall₂ (named _ listed) (List.mem_singleton_self second)
  obtain ⟨outline, member, awaits⟩ := List.mem_flatMap.mp waits
  obtain ⟨user, belongs, _, called⟩ := mem_waiting_iff.mp awaits
  have property : .writeMember user.type user.name [(dataMember, user.wire)] ∈ shadowedCalls :=
    (wrote_iff_of_shadowedCalls calls _).mp (emission.wrote listed member
      (ClassOutline.writeMember_mem_calls_iff.mpr ⟨user, belongs, rfl, rfl, rfl⟩))
  have nameless : user.name = "" := by
    obtain ⟨_, same, _⟩ : user.type = "" ∧ user.name = "" ∧ user.wire = [("Name", .text "A")] := by
      simpa [shadowedCalls] using property
    exact same
  have opened : conversion.Opened second.name :=
    ⟨_, _, _, emission.wrote listed (by simp)
      (ClassOutline.openType_mem_calls_iff.mpr ⟨rfl, rfl, rfl, rfl⟩)⟩
  have titled := opened_of_shadowedCalls calls opened
  rw [like, ← called, nameless] at titled
  exact absurd titled (by decide)

/-- The member is renamed to nothing, and its type has a class that is called otherwise. -/
theorem shadowed_not_namedByMembers :
    shadowed.settings.check = .ok () ∧ ∃ begun after, start shadowed = .ok begun ∧
      Returns (run shadowed) begun ["a.cs"] after ∧
        ∀ groups, Emission shadowed after groups → ¬ NamedByMembers groups := by
  obtain ⟨begun, made, ran⟩ := Option.map_eq_some_iff.mp shadowed_runs
  obtain ⟨answered, calls⟩ := Prod.mk.inj ran
  have shaped := shadowed_shapes
  rw [made, Option.map_some, Option.some.injEq] at shaped
  have checked : shadowed.settings.check = .ok () := ok_of_toOption (by decide +kernel)
  refine ⟨checked, begun, _, ok_of_toOption made,
    Task.returns_of_perform (ok_of_toOption answered), fun groups emission => ?_⟩
  exact not_namedByMembers_of_shadowedCalls calls shaped emission

end Conversion

end SchemaSharp
