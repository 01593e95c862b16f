import SchemaSharp.Proofs.Conversion.Failures
import SchemaSharp.Proofs.Conversion.Support
import SchemaSharp.Proofs.Schema.Content

/-!
What becomes of the content of a complex type. Of what reading keeps of it, nothing is passed over
by the translation: every element becomes a member, in the order of the document, and anything else
is refused. What is written next to the last model never comes that far.
-/

namespace SchemaSharp.Conversion

open Markup (Element)
open Schema (ComplexType ElementDecl Heading Home Part Represents Whole particleItems contentItems
  lastModel? leavesOf attributeLabels)
open SchemaSharp.Task (Returns FailsFrom)

variable {job : Job} {before after : Conversion}

/-! ## Refusals -/

def IsRefusal (failure : Failure) : Prop :=
  ∃ construct place, failure = .unsupported construct place

theorem refused_of_attributes {type : ComplexType} {name className : Option String}
    (listed : type.attributes ≠ []) (logged : Logged Conversion) :
    ∃ place, ((translateNew job type name className).run logged).1 =
      .error (.unsupported .attributes place) := by
  have part : unsupportedPart? type = some .attributes := by
    simp [unsupportedPart?, listed]
  unfold translateNew
  rw [Task.run_bind, requireSupported, part]
  exact ⟨_, rfl⟩

theorem failsOnly_outcome_of_some {kind : Failure → Prop} {ε α : Type} {wrap : ε → Failure}
    {result : Except ε α} (computed : result.toOption.isSome) :
    Task.FailsOnly kind (Task.outcome (orFail wrap result) : Work α) := by
  cases result with
  | ok value => exact Task.failsOnly_pure value
  | error fault => cases computed

/-- A class that has an identifier gets it. -/
theorem classIdentifier_sure {kind : Failure → Prop} {rawName className : Option String}
    (called : (className? job rawName className).isSome) :
    Task.FailsOnly kind (classIdentifier job rawName className) := by
  unfold classIdentifier
  unfold className? at called
  split
  · exact Task.failsOnly_pure _
  · next absent =>
      rw [absent] at called
      exact failsOnly_outcome_of_some called

/-- A base that is to be found, and has an identifier, is found. -/
theorem baseClass_sure {kind : Failure → Prop} {type : ComplexType} {place : String}
    (derived : (baseName? job before.store type).isSome) :
    FailsFrom kind (baseClass job type place) before := by
  unfold baseClass
  unfold baseName? at derived
  split
  · exact (Task.failsOnly_pure _).from _
  · next base given =>
      rw [given] at derived
      dsimp only at derived
      split
      · next builtin =>
          -- no class has a built-in base
          rw [if_pos builtin] at derived
          cases derived
      · next own =>
          rw [if_neg own] at derived
          split at derived
          · next decl meant =>
              refine Task.failsFrom_bind (resolveType_sure meant) fun found middle resolved => ?_
              obtain ⟨same, rfl⟩ := resolveType_returns resolved
              cases meant.symm.trans same
              refine Task.FailsOnly.from ?_ _
              refine Task.failsOnly_bind (failsOnly_outcome_of_some ?_) fun text => ?_
              · simpa using derived
              · exact Task.failsOnly_bind (scheduleOwner_sure _ _) fun _ => Task.failsOnly_pure _
          · cases derived

/-- How a refusal says which type it is about, and where that is. -/
def placeOf (type : ComplexType) (name : Option String) : String :=
  "type " ++ shownName (rawClassName type name) ++ " in " ++ type.home.location

/-- With members that cannot be had, a type fails as its two refusals do. -/
theorem translateNew_cut {kind : Failure → Prop} {type : ComplexType}
    {name className : Option String} {tag : String}
    (parts : Task.FailsOnly kind (requireSupported type (placeOf type name)))
    (members : Task.FailsOnly kind (requireMembers type (placeOf type name)))
    (cut : memberElements type = .error tag)
    (called : (className? job (rawClassName type name) className).isSome)
    (derived : (baseName? job before.store type).isSome) :
    FailsFrom kind (translateNew job type name className) before := by
  unfold translateNew
  refine Task.failsFrom_bind (parts.from _) fun _ middle required => ?_
  obtain ⟨_, rfl⟩ := requireSupported_returns required
  refine Task.failsFrom_bind ((classIdentifier_sure called).from _) fun _ next identified => ?_
  obtain ⟨_, rfl⟩ := classIdentifier_returns identified
  refine Task.failsFrom_bind (baseClass_sure derived) fun _ last _ => ?_
  refine Task.failsFrom_bind (members.from _) fun _ _ required => ?_
  -- the members are never complete
  cases cut.symm.trans (requireMembers_returns required).1

theorem translateNew_refuses {type : ComplexType} {name className : Option String}
    {tag : String} (cut : memberElements type = .error tag)
    (called : (className? job (rawClassName type name) className).isSome)
    (derived : (baseName? job before.store type).isSome) :
    FailsFrom IsRefusal (translateNew job type name className) before :=
  translateNew_cut (requireSupported_fails fun _ => ⟨_, _, rfl⟩)
    (requireMembers_fails fun _ => ⟨_, _, rfl⟩) cut called derived

/-! ## Contents -/

/-- The leaf is an element, and this is the member written for it. -/
def BecomesMember (job : Job) (store : Store) (home : Home) (scope : String) (leaf : Part)
    (member : MemberOutline) : Prop :=
  leaf.1 = "element" ∧ ∃ decl, Schema.readElementDecl home leaf.2 = .ok decl ∧
    memberOutline? job store scope decl = some member

theorem becomesMembers {store : Store} {home : Home} {scope : String} {leaves : List Part}
    {decls : List ElementDecl} {members : List MemberOutline}
    (represented : List.Forall₂ (Represents home) leaves (decls.map .element))
    (made : decls.mapM (memberOutline? job store scope) = some members) :
    List.Forall₂ (BecomesMember job store home scope) leaves members := by
  induction decls generalizing leaves members with
  | nil =>
      cases represented
      cases made
      exact .nil
  | cons decl rest ih =>
      obtain ⟨head, tail, one, others, rfl⟩ := mapM_cons_eq_some.mp made
      cases represented with
      | cons first later =>
          cases first with
          | element read => exact .cons ⟨rfl, decl, read, one⟩ (ih later others)

theorem elements_of_represented {home : Home} {leaves : List Part} {decls : List ElementDecl}
    (represented : List.Forall₂ (Represents home) leaves (decls.map .element)) :
    ∀ leaf ∈ leaves, leaf.1 = "element" := by
  induction decls generalizing leaves with
  | nil =>
      cases represented
      simp
  | cons decl rest ih =>
      cases represented with
      | cons first later =>
          cases first with
          | element read => simpa using ih later

/-- Translating a type that has no class yet begins with marking it. -/
theorem run_translateComplexType {type : ComplexType} {name className : Option String}
    (unmarked : type.identity ∉ before.translated) (journal : List Notice) :
    (translateComplexType job type name className).run ⟨before, journal⟩ =
      (translateNew job type name className).run ⟨before.markTranslated type, journal⟩ := by
  change (if before.translated.contains type.identity then _ else _ : Work Unit).run _ = _
  rw [if_neg (by simpa using unmarked)]
  rfl

section

variable {home : Home} {owner : Option Heading} {node : Element} {type : ComplexType}
  {name className : Option String}

/-- A type that is translated has no attributes, and nothing but elements was kept of it. -/
theorem translated_members (read : Schema.readComplexType home owner node = .ok type)
    (unmarked : type.identity ∉ before.translated)
    (returned : Returns (translateComplexType job type name className) before () after) :
    attributeLabels node = [] ∧
      (∀ leaf ∈ leavesOf (lastModel? (contentItems node)).toList, leaf.1 = "element") ∧
        ∃ outline : ClassOutline, outline.type = type ∧
          List.Forall₂ (BecomesMember job before.store home outline.name)
            (leavesOf (lastModel? (contentItems node)).toList) outline.members ∧
          after = before.extend
            ⟨before.store.classUses type, [type.identity], outline.waiting, outline.calls⟩ := by
  have listed := Schema.readComplexType_attributes read
  have leaves := Schema.readComplexType_leaves read
  obtain ⟨outline, made, left⟩ := translateComplexType_returns returned unmarked
  obtain ⟨supported, flat⟩ := classOutline?_supported made
  obtain ⟨same, _, _, members⟩ := classOutline?_eq_some made
  have elements : type.leaves = (membersOf type).map .element := flat
  rw [elements] at leaves
  exact ⟨listed ▸ supported.attributes, elements_of_represented leaves, outline, same,
    becomesMembers leaves members, left⟩

/-- With a leaf that is no element there are no members to be had. -/
theorem memberElements_cut (read : Schema.readComplexType home owner node = .ok type)
    {leaf : Part} (member : leaf ∈ leavesOf (lastModel? (contentItems node)).toList)
    (other : leaf.1 ≠ "element") : ∃ tag, memberElements type = .error tag := by
  have leaves := Schema.readComplexType_leaves read
  have flat := memberElements_leaves type
  cases computed : memberElements type with
  | error tag => exact ⟨tag, rfl⟩
  | ok decls =>
      rw [computed] at flat
      have elements : type.leaves = decls.map .element := flat
      rw [elements] at leaves
      exact absurd (elements_of_represented leaves leaf member) other

/-- Of the content of a complex type reading keeps every attribute and the last content model with
all that is written in it; this is everything exactly if the content is whole. Translating the type
writes a member for each element that was kept, in their order, or fails; it refuses attributes
and, unless the class or its base has no identifier, whatever was kept and is no element. -/
theorem content_kept_or_refused (read : Schema.readComplexType home owner node = .ok type) :
    let model := (lastModel? (contentItems node)).toList
    type.attributes = attributeLabels node ∧
    List.Forall₂ (Represents home) model type.particles ∧
    (List.Forall₂ (Represents home) (particleItems node) type.particles ↔ Whole node) ∧
    (Whole node → model = particleItems node) ∧
    ∀ job before journal name className, type.identity ∉ before.translated →
      let outcome := (translateComplexType job type name className).run ⟨before, journal⟩
      (outcome.1 = .ok () →
        attributeLabels node = [] ∧ ∃ outline : ClassOutline, outline.type = type ∧
          List.Forall₂ (BecomesMember job before.store home outline.name) (leavesOf model)
            outline.members ∧
          outcome.2.state = before.extend
            ⟨before.store.classUses type, [type.identity], outline.waiting, outline.calls⟩) ∧
      (attributeLabels node ≠ [] →
        ∃ place, outcome.1 = .error (.unsupported .attributes place)) ∧
      ((∃ leaf ∈ leavesOf model, leaf.1 ≠ "element") →
        (className? job (rawClassName type name) className).isSome →
          (baseName? job before.store type).isSome →
            ∃ construct place, outcome.1 = .error (.unsupported construct place)) := by
  refine ⟨Schema.readComplexType_attributes read, Schema.readComplexType_model read,
    Schema.readComplexType_keeps_iff read, Whole.last, fun job before journal name className
    unmarked => ⟨fun answered => ?_, fun some => ?_, ?_⟩⟩
  · obtain ⟨bare, _, translated⟩ :=
      translated_members read unmarked ⟨journal, _, Prod.ext answered rfl⟩
    exact ⟨bare, translated⟩
  · rw [run_translateComplexType unmarked]
    apply refused_of_attributes
    rwa [Schema.readComplexType_attributes read]
  · rintro ⟨leaf, member, other⟩ called derived
    cases answered :
        ((translateComplexType job type name className).run ⟨before, journal⟩).1 with
    | ok value =>
        obtain ⟨_, elements, _⟩ :=
          translated_members read unmarked ⟨journal, _, Prod.ext answered rfl⟩
        exact absurd (elements leaf member) other
    | error failure =>
        -- up to its members the type can only be refused, and there it is at last
        obtain ⟨tag, cut⟩ := memberElements_cut read member other
        have refuses : FailsFrom IsRefusal (translateNew job type name className)
            (before.markTranslated type) := translateNew_refuses cut called derived
        rw [run_translateComplexType unmarked] at answered
        obtain ⟨construct, place, same⟩ := refuses journal failure answered
        exact ⟨construct, place, by rw [same]⟩

end

/-- A schema element as it stands in a tree. -/
def schemaNode (tag : String) (name : Option String) (ordinal : Nat) (children : List Element) :
    Element :=
  ⟨⟨some Schema.schemaUri, tag⟩, (name.map fun text => ⟨⟨none, "name"⟩, text⟩).toList, [], ordinal,
    children⟩

/-- A sequence with an element and with another sequence, which has an element as well. -/
def nestedNode : Element :=
  schemaNode "complexType" (some "A") 0 [schemaNode "sequence" none 1
    [schemaNode "element" (some "x") 2 [],
      schemaNode "sequence" none 3 [schemaNode "element" (some "y") 4 []]]]

theorem nestedNode_kept :
    ∃ type, Schema.readComplexType ⟨"file:///a", 0⟩ none nestedNode = .ok type ∧
      type.attributes = [] ∧
        List.Forall₂ (Represents ⟨"file:///a", 0⟩) (particleItems nestedNode) type.particles ∧
          (particleItems nestedNode).map Prod.fst = ["sequence"] ∧
            (leavesOf (particleItems nestedNode)).map Prod.fst = ["element", "element"] := by
  have some : (Schema.readComplexType ⟨"file:///a", 0⟩ none nestedNode).toOption.isSome := by
    decide +kernel
  obtain ⟨type, computed⟩ := Option.isSome_iff_exists.mp some
  have read := ok_of_toOption computed
  have whole : Whole nestedNode := ⟨by decide +kernel, by decide +kernel⟩
  obtain ⟨attributes, _, keeps, _⟩ := content_kept_or_refused read
  have bare : attributeLabels nestedNode = [] := by decide +kernel
  exact ⟨type, read, attributes.trans bare, keeps.mpr whole, by decide +kernel,
    by decide +kernel⟩

/-! ## Two models side by side -/

/-- The type has a choice and then a sequence for its content. -/
def overwrittenText : List UInt8 :=
  pairText ("<s:complexType name='A'><s:choice><s:element name='x'/></s:choice>"
    ++ "<s:sequence><s:element name='y'/></s:sequence></s:complexType>")

def overwritten : Job :=
  let world : World :=
    { directory := ⟨['/'], []⟩
      files := [(["a".toList], overwrittenText)]
      web := [] }
  ⟨{ inputs := ["a"] }, world.source false⟩

def overwrittenCalls : List Writer.Call :=
  [.declareReference "System", .openNamespace "Unknown", .writeMarker dataContract [],
    .openType "A" none false [], .writeMember "Object" "Y" [(dataMember, [("Name", .text "y")])],
    .close, .finish]

set_option maxRecDepth 100000 in
theorem overwritten_runs :
    ((start overwritten).toOption.map fun begun =>
      let outcome := (run overwritten).perform begun
      let artifacts := outcome.2.state.closed ++ outcome.2.state.desk
      (outcome.1.toOption, artifacts.map Artifact.calls)) =
        some (some ["a.cs"], [overwrittenCalls]) := by
  simp only [overwritten, overwrittenText, pairText, Text.Utf8.encode_toList]
  decide +kernel

set_option maxRecDepth 100000 in
theorem overwritten_read :
    (Markup.Element.ofBytes overwrittenText).toOption.map (fun root =>
      root.children.map fun node =>
        ((particleItems node).map Prod.fst, (lastModel? (contentItems node)).map Prod.fst,
          (Schema.readComplexType ⟨"file:///a", 0⟩ none node).toOption.isSome)) =
      some [(["choice", "sequence"], some "sequence", true)] := by
  simp only [overwrittenText, pairText, Text.Utf8.encode_toList]
  decide +kernel

/-- The choice is in the content of the type, but nothing in the type stands for it; the run does
not fail, and writes the class without it. -/
theorem choice_dropped :
    ∃ root node type item, Markup.Element.ofBytes overwrittenText = .ok root ∧
      root.children = [node] ∧
        Schema.readComplexType ⟨"file:///a", 0⟩ none node = .ok type ∧
          item ∈ particleItems node ∧ item.1 = "choice" ∧
            (∀ particle ∈ type.particles, ¬ Represents ⟨"file:///a", 0⟩ item particle) ∧
              ∃ begun after, start overwritten = .ok begun ∧
                Returns (run overwritten) begun ["a.cs"] after ∧
                  (after.closed ++ after.desk).map Artifact.calls = [overwrittenCalls] := by
  obtain ⟨begun, made, ran⟩ := Option.map_eq_some_iff.mp overwritten_runs
  obtain ⟨answered, calls⟩ := Prod.mk.inj ran
  obtain ⟨root, parsed, shape⟩ := Option.map_eq_some_iff.mp overwritten_read
  obtain ⟨node, alone, shape⟩ := List.map_eq_singleton_iff.mp shape
  simp only [Prod.mk.injEq] at shape
  obtain ⟨items, last, some⟩ := shape
  obtain ⟨type, computed⟩ := Option.isSome_iff_exists.mp some
  have read := ok_of_toOption computed
  obtain ⟨item, choice, called⟩ : ∃ item ∈ particleItems node, item.1 = "choice" := by
    apply List.mem_map.mp
    rw [items]
    exact List.mem_cons_self
  refine ⟨root, node, type, item, ok_of_toOption parsed, alone, read, choice, called, ?_, begun,
    _, ok_of_toOption made, Task.returns_of_perform (ok_of_toOption answered), calls⟩
  -- the sequence is all that the type has for its content
  intro particle member represents
  obtain ⟨model, found, tagged⟩ := Option.map_eq_some_iff.mp last
  have kept := Schema.readComplexType_model read
  rw [found] at kept
  obtain ⟨only, others, first, rest, all⟩ := List.forall₂_cons_left_iff.mp kept
  rw [all, List.forall₂_nil_left_iff.mp rest] at member
  cases List.mem_singleton.mp member
  have same := first.tag_eq represents
  rw [tagged, called] at same
  exact absurd same (by decide)

end SchemaSharp.Conversion
