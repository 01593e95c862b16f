import Mathlib.Data.ENat.Basic
import SchemaSharp.Proofs.Conversion.Contents

/-!
Members that are arrays. An element occurs as often as its own bound allows, and that in each round
of all sequences around it. Reading keeps the bound of the element and none of the sequences, so a
member is an array exactly if its element can be repeated by itself. This is right as long as the
sequences make no difference.
-/

namespace SchemaSharp

open Markup (Element)
open SchemaSharp.Task (Returns)

namespace Schema

variable {home : Home} {node : Element}

/-! ## Bounds -/

/-- How often a node can occur where it stands: once, if it does not say, and not at all with a
bound below zero. -/
def greatest? (node : Element) : Option ℕ∞ :=
  match node.attribute? "maxOccurs" with
  | none => some 1
  | some "unbounded" => some ⊤
  | some text => (Text.readInteger text).toOption.map fun bound => (bound.toNat : ℕ∞)

/-- A bound as it is read. -/
def countOf (bound : Option Int) : ℕ∞ := bound.elim ⊤ fun bound => (bound.toNat : ℕ∞)

theorem greatest?_of_readOccurs {location : String} {least : Int} {greatest : Option Int}
    (read : readOccurs location node = .ok (least, greatest)) :
    greatest? node = some (countOf greatest) := by
  unfold readOccurs at read
  unfold greatest?
  generalize node.attribute? "maxOccurs" = given at read ⊢
  cases given with
  | none =>
      have once : greatest = some 1 := by
        dsimp only at read
        split at read
        all_goals
          obtain ⟨_, _, read⟩ := ok_of_bind read
          cases read
          rfl
      rw [once]
      rfl
  | some text =>
      by_cases unbounded : text = "unbounded"
      · subst unbounded
        have unlimited : greatest = none := by
          dsimp only at read
          split at read
          all_goals
            obtain ⟨_, _, read⟩ := ok_of_bind read
            cases read
            rfl
        rw [unlimited]
        rfl
      · -- the literal is ruled out, so both sides read the number
        have bounded : ∃ bound, Text.readInteger text = .ok bound ∧ greatest = some bound := by
          split at read
          · contradiction
          · next same => exact absurd (Option.some.inj same) unbounded
          · next other _ same =>
              cases same
              dsimp only at read
              split at read
              all_goals
                obtain ⟨_, _, read⟩ := ok_of_bind read
                obtain ⟨bound, number, read⟩ := ok_of_bind read
                cases read
                exact ⟨bound, ok_of_orFail number, rfl⟩
        obtain ⟨bound, number, limited⟩ := bounded
        split
        · contradiction
        · next same => exact absurd (Option.some.inj same) unbounded
        · next other _ same =>
            cases same
            rw [number, limited]
            rfl

theorem one_lt_countOf {decl : ElementDecl} : 1 < countOf decl.maxOccurs ↔ decl.isRepeated := by
  unfold ElementDecl.isRepeated countOf
  cases decl.maxOccurs with
  | none => simp
  | some bound =>
      have same : (1 : ℕ∞) < (bound.toNat : ℕ∞) ↔ 1 < bound.toNat := by exact_mod_cast Iff.rfl
      simp [same]

theorem greatest?_of_element {decl : ElementDecl} (read : readElementDecl home node = .ok decl) :
    greatest? node = some (countOf decl.maxOccurs) := by
  obtain ⟨name, attributes, scope, ordinal, children⟩ := node
  rw [readElementDecl] at read
  obtain ⟨⟨least, greatest⟩, occurs, read⟩ := ok_of_bind read
  obtain ⟨_, _, read⟩ := ok_of_bind read
  obtain ⟨_, _, read⟩ := ok_of_bind read
  obtain ⟨_, _, read⟩ := ok_of_bind read
  cases read
  exact greatest?_of_readOccurs occurs

/-! ## Leaves in their places -/

/-- A leaf with the sequences around it, from the outermost one inwards. -/
structure Placed where
  leaf : Part
  around : List Element

namespace Placed

/-- How often the leaf can occur in one round of what is around it. -/
def own? (placed : Placed) : Option ℕ∞ := greatest? placed.leaf.2

/-- How often what is around the leaf can occur. -/
def rounds? (placed : Placed) : Option ℕ∞ := (placed.around.mapM greatest?).map List.prod

end Placed

mutual

def placedAt (around : List Element) (tag : String) : Element → List Placed
  | ⟨name, attributes, scope, ordinal, children⟩ =>
      let node : Element := ⟨name, attributes, scope, ordinal, children⟩
      if tag = "sequence" then placedAmong (around ++ [node]) children else [⟨(tag, node), around⟩]

def placedAmong (around : List Element) : List Element → List Placed
  | [] => []
  | node :: rest =>
      match relevantTag? node with
      | none => placedAmong around rest
      | some tag => placedAt around tag node ++ placedAmong around rest

end

mutual

theorem placedAt_leaves (around : List Element) (tag : String) :
    (node : Element) → (placedAt around tag node).map Placed.leaf = leavesAt tag node
  | ⟨name, attributes, scope, ordinal, children⟩ => by
      rw [placedAt, leavesAt]
      split
      · exact placedAmong_leaves _ children
      · rfl

theorem placedAmong_leaves (around : List Element) :
    (nodes : List Element) → (placedAmong around nodes).map Placed.leaf = leavesAmong nodes
  | [] => rfl
  | node :: rest => by
      rw [placedAmong, leavesAmong]
      cases relevantTag? node with
      | none => exact placedAmong_leaves around rest
      | some tag =>
          rw [List.map_append, placedAt_leaves, placedAmong_leaves]

end

/-- The leaves of the content model of a complex type in their places. -/
def placedLeaves (node : Element) : List Placed :=
  (lastModel? (contentItems node)).toList.flatMap fun item => placedAt [] item.1 item.2

theorem placedLeaves_leaves (node : Element) :
    (placedLeaves node).map Placed.leaf = leavesOf (lastModel? (contentItems node)).toList := by
  rw [placedLeaves, leavesOf, List.map_flatMap]
  simp only [placedAt_leaves]

end Schema

namespace Conversion

open Schema (ComplexType ElementDecl Heading Home Placed placedLeaves countOf)

variable {job : Job} {store : Store} {home : Home} {scope text type : String}

/-! ## Arrays -/

/-- The type is an array of what the text says exactly if it is to be one. -/
def ArrayIf (repeats : Prop) (text type : String) : Prop :=
  (repeats → type = text ++ "[]") ∧ (¬ repeats → type = text)

theorem text_ne_array (text : String) : text ++ "[]" ≠ text := by
  intro same
  have longer := congrArg String.length same
  simp at longer

theorem arrayIf_iff {one other : Prop} (array : ArrayIf one text type) :
    ArrayIf other text type ↔ (other ↔ one) := by
  by_cases repeats : one
  · have same := array.1 repeats
    simp [ArrayIf, repeats, same, text_ne_array text]
  · have same := array.2 repeats
    simp [ArrayIf, repeats, same, (text_ne_array text).symm]

theorem arrayIf_repeatedText (element : ElementDecl) (text : String) :
    ArrayIf (1 < countOf element.maxOccurs) text (repeatedText element text) := by
  rw [ArrayIf, Schema.one_lt_countOf, repeatedText]
  constructor
  · intro repeats
    rw [if_pos repeats]
  · intro once
    rw [if_neg once]

/-- Rounds make a difference if one occurrence becomes many, or many become none. -/
theorem repeats_in_rounds_iff (own rounds : ℕ∞) :
    (1 < own * rounds ↔ 1 < own) ↔ ¬ (own = 1 ∧ 1 < rounds ∨ 1 < own ∧ rounds = 0) := by
  rcases lt_trichotomy own 1 with none | rfl | many
  · simp [Order.lt_one_iff.mp none]
  · simp
  · by_cases empty : rounds = 0
    · simp [empty, many]
    · have grows : 1 < own * rounds := by
        have once : 1 ≤ rounds := Order.one_le_iff_ne_zero.mpr empty
        calc 1 < own := many
          _ = own * 1 := (mul_one own).symm
          _ ≤ own * rounds := by gcongr
      simp [grows, many, empty, many.ne']

/-- The member is an array exactly if its element can be repeated by itself. So it is what the
bounds make of it, those of the sequences included, unless they turn one occurrence into many or
many into none. -/
def RepeatsAlone (job : Job) (store : Store) (home : Home) (placed : Placed)
    (member : MemberOutline) : Prop :=
  placed.leaf.1 = "element" ∧ ∃ element target text own,
    Schema.readElementDecl home placed.leaf.2 = .ok element ∧
      targetMeant? store element = some target ∧
        memberTypeText? job store element target member.name = some text ∧
          placed.own? = some own ∧ ArrayIf (1 < own) text member.type ∧
            ∀ rounds, placed.rounds? = some rounds →
              (ArrayIf (1 < own * rounds) text member.type ↔
                ¬ (own = 1 ∧ 1 < rounds ∨ 1 < own ∧ rounds = 0))

theorem BecomesMember.repeatsAlone {placed : Placed} {member : MemberOutline}
    (becomes : BecomesMember job store home scope placed.leaf member) :
    RepeatsAlone job store home placed member := by
  obtain ⟨tagged, element, read, made⟩ := becomes
  obtain ⟨target, text, meant, _, typed, repeated, _⟩ := memberOutline?_eq_some made
  have array := arrayIf_repeatedText element text
  rw [← repeated] at array
  refine ⟨tagged, element, target, text, _, read, meant, typed, Schema.greatest?_of_element read,
    array, fun rounds _ => ?_⟩
  rw [arrayIf_iff array, repeats_in_rounds_iff]

/-- A type that is translated gets a member for every element of its content model, in their order,
which is an array exactly if the element can be repeated by itself. -/
theorem arrays_as_elements_repeat {owner : Option Heading} {node : Element} {type : ComplexType}
    {name className : Option String} {before after : Conversion}
    (read : Schema.readComplexType home owner node = .ok type)
    (unmarked : type.identity ∉ before.translated)
    (returned : Returns (translateComplexType job type name className) before () after) :
    ∃ outline : ClassOutline, outline.type = type ∧
      List.Forall₂ (RepeatsAlone job before.store home) (placedLeaves node) outline.members ∧
        after = before.extend
          ⟨before.store.classUses type, [type.identity], outline.waiting, outline.calls⟩ := by
  obtain ⟨_, _, outline, same, members, left⟩ := translated_members read unmarked returned
  rw [← Schema.placedLeaves_leaves, List.forall₂_map_left_iff] at members
  exact ⟨outline, same, members.imp fun _ _ => BecomesMember.repeatsAlone, left⟩

/-! ## A sequence that makes a difference, and one that makes none -/

/-- All that can be repeated in the type is its sequence. -/
def unboundedText : List UInt8 :=
  pairText ("<s:complexType name='A'><s:sequence maxOccurs='unbounded'><s:element name='x'/>"
    ++ "</s:sequence></s:complexType>")

def unbounded : Job :=
  let world : World :=
    { directory := ⟨['/'], []⟩
      files := [(["a".toList], unboundedText)]
      web := [] }
  ⟨{ inputs := ["a"] }, world.source false⟩

/-- An element that can be repeated, and one in a sequence that occurs once. -/
def repeatedNode : Element :=
  let bounded (bound : String) (node : Element) : Element :=
    { node with attributes := node.attributes ++ [⟨⟨none, "maxOccurs"⟩, bound⟩] }
  schemaNode "complexType" (some "A") 0 [schemaNode "sequence" none 1
    [bounded "unbounded" (schemaNode "element" (some "x") 2 []),
      bounded "1" (schemaNode "sequence" none 3 [schemaNode "element" (some "y") 4 []])]]

set_option maxRecDepth 100000 in
theorem repeatedNode_translated :
    ((start unbounded).toOption.bind fun begun =>
      let opened := ((openArtifact unbounded "c.cs").perform begun).2.state
      (Schema.readComplexType ⟨"file:///c", 0⟩ none repeatedNode).toOption.map fun type =>
        (opened.translated.contains type.identity,
          ((translateComplexType unbounded type none none).perform opened).1.toOption)) =
      some (false, some ()) := by
  decide +kernel

theorem repeatedNode_arrays :
    ∃ type begun, Schema.readComplexType ⟨"file:///c", 0⟩ none repeatedNode = .ok type ∧
      start unbounded = .ok begun ∧
        let opened := ((openArtifact unbounded "c.cs").perform begun).2.state
        let outcome := (translateComplexType unbounded type none none).perform opened
        outcome.1 = .ok () ∧ ∃ outline : ClassOutline, outline.type = type ∧
          List.Forall₂ (RepeatsAlone unbounded opened.store ⟨"file:///c", 0⟩)
            (placedLeaves repeatedNode) outline.members := by
  obtain ⟨begun, made, ran⟩ := Option.bind_eq_some_iff.mp repeatedNode_translated
  obtain ⟨type, computed, ran⟩ := Option.map_eq_some_iff.mp ran
  obtain ⟨unmarked, answered⟩ := Prod.mk.inj ran
  have read := ok_of_toOption computed
  have returned := Task.returns_of_perform (ok_of_toOption answered)
  obtain ⟨outline, same, members, _⟩ :=
    arrays_as_elements_repeat read (by simpa using unmarked) returned
  exact ⟨type, begun, read, ok_of_toOption made, ok_of_toOption answered, outline, same, members⟩

def unboundedCalls : List Writer.Call :=
  [.declareReference "System", .openNamespace "Unknown", .writeMarker dataContract [],
    .openType "A" none false [], .writeMember "Object" "X" [(dataMember, [("Name", .text "x")])],
    .close, .finish]

set_option maxRecDepth 100000 in
theorem unbounded_runs :
    ((start unbounded).toOption.map fun begun =>
      let outcome := (run unbounded).perform begun
      let artifacts := outcome.2.state.closed ++ outcome.2.state.desk
      (outcome.1.toOption, artifacts.map Artifact.calls)) =
        some (some ["a.cs"], [unboundedCalls]) := by
  simp only [unbounded, unboundedText, pairText, Text.Utf8.encode_toList]
  decide +kernel

set_option maxRecDepth 100000 in
theorem unbounded_read :
    (Element.ofBytes unboundedText).toOption.map (fun root => root.children.map fun node =>
      ((Schema.readComplexType ⟨"file:///a", 0⟩ none node).toOption.isSome,
        (placedLeaves node).map fun placed =>
          (placed.leaf.2 :: placed.around).map fun part => part.attribute? "maxOccurs")) =
      some [(true, [[none, some "unbounded"]])] := by
  simp only [unboundedText, pairText, Text.Utf8.encode_toList]
  decide +kernel

/-- The element can occur any number of times, and its member is no array. -/
theorem unbounded_sequence_ignored :
    ∃ root node type placed, Element.ofBytes unboundedText = .ok root ∧ root.children = [node] ∧
      Schema.readComplexType ⟨"file:///a", 0⟩ none node = .ok type ∧ placedLeaves node = [placed] ∧
        placed.own? = some 1 ∧ placed.rounds? = some ⊤ ∧
          ∃ begun after, start unbounded = .ok begun ∧
            Returns (run unbounded) begun ["a.cs"] after ∧
              (after.closed ++ after.desk).map Artifact.calls = [unboundedCalls] := by
  obtain ⟨begun, made, ran⟩ := Option.map_eq_some_iff.mp unbounded_runs
  obtain ⟨answered, calls⟩ := Prod.mk.inj ran
  obtain ⟨root, parsed, shape⟩ := Option.map_eq_some_iff.mp unbounded_read
  obtain ⟨node, alone, shape⟩ := List.map_eq_singleton_iff.mp shape
  obtain ⟨some, leaves⟩ := Prod.mk.inj shape
  obtain ⟨type, computed⟩ := Option.isSome_iff_exists.mp some
  obtain ⟨placed, single, bounds⟩ := List.map_eq_singleton_iff.mp leaves
  obtain ⟨own, sequences⟩ := List.cons.inj bounds
  obtain ⟨around, enclosing, unlimited⟩ := List.map_eq_singleton_iff.mp sequences
  refine ⟨root, node, type, placed, ok_of_toOption parsed, alone, ok_of_toOption computed, single,
    ?_, ?_, begun, _, ok_of_toOption made, Task.returns_of_perform (ok_of_toOption answered), calls⟩
  · simp [Placed.own?, Schema.greatest?, own]
  · simp [Placed.rounds?, enclosing, Schema.greatest?, unlimited]

end Conversion

end SchemaSharp
