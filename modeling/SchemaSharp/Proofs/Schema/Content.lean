import Mathlib.Data.List.Forall2
import SchemaSharp.Proofs.Schema.Particles
import SchemaSharp.Proofs.Schema.Reading

/-!
What reading keeps of the content of a complex type. The items of the content are those written in
the type itself and in its extensions and restrictions. Attributes are all listed; of the particles
only the last sequence, choice, all or group is kept, and that one is kept to its innermost items.
So nothing is lost exactly if there is no other particle.
-/

namespace SchemaSharp.Schema

open Markup (Element)

/-! ## Items -/

/-- A schema element with its tag. -/
abbrev Part := String × Element

/-- The schema elements among the nodes, but for annotations. -/
def parts (nodes : List Element) : List Part :=
  nodes.filterMap fun node => (relevantTag? node).map fun tag => (tag, node)

/-- The items written in the extensions and restrictions among the nodes. -/
def derivedItems (nodes : List Element) : List Part :=
  (parts nodes).flatMap fun part =>
    match part.1 with
    | "extension" => parts part.2.children
    | "restriction" => parts part.2.children
    | _ => []

/-- The items of the content with these nodes, wherever they are written. -/
def itemsAmong (nodes : List Element) : List Part :=
  (parts nodes).flatMap fun part =>
    match part.1 with
    | "simpleContent" => derivedItems part.2.children
    | "complexContent" => derivedItems part.2.children
    | _ => [part]

/-- The items of the content of a complex type. -/
def contentItems (node : Element) : List Part := itemsAmong node.children

/-- The item may be a content model as a whole. -/
def isModel (item : Part) : Bool := ["sequence", "choice", "all", "group"].contains item.1

/-- The particles in the content: models, and elements and wildcards that belong to none. -/
def particleItems (node : Element) : List Part :=
  (contentItems node).filter fun item => isModel item || ["element", "any"].contains item.1

/-- The last of the items that may be the content model. -/
def lastModel? (items : List Part) : Option Part := (items.filter isModel).getLast?

/-- What an item is listed as if it declares attributes. -/
def attributeLabel? (item : Part) : Option String :=
  match item.1 with
  | "attribute" => some (attributeLabel item.1 item.2)
  | "attributeGroup" => some (attributeLabel item.1 item.2)
  | "anyAttribute" => some "anyAttribute"
  | _ => none

/-- The attributes in the content. -/
def attributeLabels (node : Element) : List String :=
  (contentItems node).filterMap attributeLabel?

/-! ## Representation -/

def ContentModel.particle : ContentModel → Particle
  | .sequence items => .sequence items
  | .unsupported tag => .unsupported tag

/-- The content model as a particle, if there is one. -/
def ComplexType.particles (type : ComplexType) : List Particle :=
  (type.model.map ContentModel.particle).toList

/-- The particle stands for the part, with all that is written in it. -/
inductive Represents (home : Home) : Part → Particle → Prop where
  | element {node : Element} {decl : ElementDecl} (read : readElementDecl home node = .ok decl) :
      Represents home ("element", node) (.element decl)
  | sequence {node : Element} {items : List Particle}
      (each : List.Forall₂ (Represents home) (parts node.children) items) :
      Represents home ("sequence", node) (.sequence items)
  | unsupported {tag : String} {node : Element} (other : tag ≠ "element" ∧ tag ≠ "sequence") :
      Represents home (tag, node) (.unsupported tag)

/-- A particle stands for parts of one tag only. -/
theorem Represents.tag_eq {home : Home} {first second : Part} {particle : Particle}
    (one : Represents home first particle) (other : Represents home second particle) :
    first.1 = second.1 := by
  cases one with
  | element _ => cases other; rfl
  | sequence _ => cases other; rfl
  | unsupported _ => cases other; rfl

theorem parts_cons_none {node : Element} {rest : List Element}
    (passed : relevantTag? node = none) : parts (node :: rest) = parts rest := by
  simp [parts, passed]

theorem parts_cons_some {node : Element} {rest : List Element} {tag : String}
    (tagged : relevantTag? node = some tag) : parts (node :: rest) = (tag, node) :: parts rest := by
  simp [parts, tagged]

mutual

/-- In a sequence every part gets its particle. -/
theorem readParticles_represents (home : Home) :
    (nodes : List Element) → (items : List Particle) → readParticles home nodes = .ok items →
      List.Forall₂ (Represents home) (parts nodes) items
  | [], items, read => by
      cases read
      exact .nil
  | node :: rest, items, read => by
      rw [readParticles] at read
      split at read
      · next passed =>
          rw [parts_cons_none passed]
          exact readParticles_represents home rest items read
      · next tagged =>
          obtain ⟨decl, inner, read⟩ := ok_of_bind read
          obtain ⟨others, following, read⟩ := ok_of_bind read
          cases read
          rw [parts_cons_some tagged]
          exact .cons (.element inner) (readParticles_represents home rest others following)
      · next tagged =>
          obtain ⟨inside, inner, read⟩ := ok_of_bind read
          obtain ⟨others, following, read⟩ := ok_of_bind read
          cases read
          rw [parts_cons_some tagged]
          exact .cons (.sequence (readSequence_represents home node inside inner))
            (readParticles_represents home rest others following)
      · next tag element sequence tagged =>
          obtain ⟨others, following, read⟩ := ok_of_bind read
          cases read
          rw [parts_cons_some tagged]
          refine .cons (.unsupported ⟨?_, ?_⟩)
            (readParticles_represents home rest others following)
          · rintro rfl
            exact element rfl
          · rintro rfl
            exact sequence rfl

theorem readSequence_represents (home : Home) :
    (node : Element) → (items : List Particle) → readSequence home node = .ok items →
      List.Forall₂ (Represents home) (parts node.children) items
  | ⟨_, _, _, _, children⟩, items, read => by
      rw [readSequence] at read
      exact readParticles_represents home children items read

end

theorem derivedItems_cons (node : Element) (rest : List Element) :
    derivedItems (node :: rest) = derivedItems [node] ++ derivedItems rest := by
  cases tagged : relevantTag? node with
  | none => simp [derivedItems, parts, tagged]
  | some tag => simp [derivedItems, parts, tagged]

theorem itemsAmong_cons (node : Element) (rest : List Element) :
    itemsAmong (node :: rest) = itemsAmong [node] ++ itemsAmong rest := by
  cases tagged : relevantTag? node with
  | none => simp [itemsAmong, parts, tagged]
  | some tag => simp [itemsAmong, parts, tagged]

/-! ## Reading a type part by part -/

/-- A relation of a type before and after some parts of it are read: parts may follow one another,
and what is written around them leaves the content model, the attributes and the owner. -/
structure Builds (home : Home) (built : List Part → ComplexType → ComplexType → Prop) : Prop where
  nothing : ∀ type : ComplexType, built [] type type
  around : ∀ {items : List Part} {before middle after : ComplexType}, built items middle after →
    middle.model = before.model → middle.attributes = before.attributes →
      middle.owner = before.owner → built items before after
  append : ∀ {first second : List Part} {before middle after : ComplexType},
    built first before middle → built second middle after → built (first ++ second) before after
  item : ∀ {tag : String} {node : Element} {before after : ComplexType},
    readItem home tag node before = .ok after → built [(tag, node)] before after

section Builds

variable {home : Home} {built : List Part → ComplexType → ComplexType → Prop}
  (builds : Builds home built) {before after : ComplexType}

include builds

theorem readItems_builds {nodes : List Element} (read : readItems home nodes before = .ok after) :
    built (parts nodes) before after := by
  induction nodes generalizing before with
  | nil =>
      cases read
      exact builds.nothing _
  | cons node rest ih =>
      rw [readItems] at read
      cases tagged : relevantTag? node with
      | none =>
          rw [tagged] at read
          rw [parts_cons_none tagged]
          exact ih read
      | some tag =>
          rw [tagged] at read
          obtain ⟨middle, first, read⟩ := ok_of_bind read
          rw [parts_cons_some tagged]
          exact builds.append (builds.item first) (ih read)

theorem readDerivation_builds {derivation : Derivation} {node : Element}
    (read : readDerivation home derivation node before = .ok after) :
    built (parts node.children) before after := by
  obtain ⟨name, attributes, scope, ordinal, children⟩ := node
  obtain ⟨base, _, read⟩ := ok_of_bind read
  exact builds.around (readItems_builds builds read) rfl rfl rfl

theorem readDerivations_builds {nodes : List Element}
    (read : readDerivations home nodes before = .ok after) :
    built (derivedItems nodes) before after := by
  induction nodes generalizing before with
  | nil =>
      cases read
      exact builds.nothing _
  | cons node rest ih =>
      rw [readDerivations] at read
      rw [derivedItems_cons]
      split at read
      · next tagged =>
          obtain ⟨middle, first, read⟩ := ok_of_bind read
          refine builds.append ?_ (ih read)
          simpa [derivedItems, parts, tagged] using readDerivation_builds builds first
      · next tagged =>
          obtain ⟨middle, first, read⟩ := ok_of_bind read
          refine builds.append ?_ (ih read)
          simpa [derivedItems, parts, tagged] using readDerivation_builds builds first
      · next extension restriction =>
          -- no other node of a derived content holds items
          have bare : derivedItems [node] = [] := by
            cases tagged : relevantTag? node with
            | none => simp [derivedItems, parts, tagged]
            | some tag =>
                have neither : tag ≠ "extension" ∧ tag ≠ "restriction" :=
                  ⟨fun same => extension (same ▸ tagged), fun same => restriction (same ▸ tagged)⟩
                simp [derivedItems, parts, tagged, neither]
          rw [bare]
          exact ih read

theorem readContent_builds {content : Content} {node : Element}
    (read : readContent home content node before = .ok after) :
    built (derivedItems node.children) before after := by
  obtain ⟨name, attributes, scope, ordinal, children⟩ := node
  rw [readContent] at read
  exact builds.around (readDerivations_builds builds read) rfl rfl rfl

theorem readTypeBody_builds {nodes : List Element}
    (read : readTypeBody home nodes before = .ok after) :
    built (itemsAmong nodes) before after := by
  induction nodes generalizing before with
  | nil =>
      cases read
      exact builds.nothing _
  | cons node rest ih =>
      rw [readTypeBody] at read
      rw [itemsAmong_cons]
      split at read
      · -- simple content
        next tagged =>
          obtain ⟨middle, first, read⟩ := ok_of_bind read
          refine builds.append ?_ (ih read)
          simpa [itemsAmong, parts, tagged] using readContent_builds builds first
      · -- complex content
        next tagged =>
          obtain ⟨middle, first, read⟩ := ok_of_bind read
          refine builds.append ?_ (ih read)
          simpa [itemsAmong, parts, tagged] using readContent_builds builds first
      · -- an item that stands for itself
        next tag simple complex tagged =>
          obtain ⟨middle, first, read⟩ := ok_of_bind read
          refine builds.append ?_ (ih read)
          have own : itemsAmong [node] = [(tag, node)] := by
            simp only [itemsAmong, parts_cons_some tagged, List.flatMap_cons]
            rfl
          rw [own]
          exact builds.item first
      · next passed =>
          refine builds.append ?_ (ih read)
          have bare : itemsAmong [node] = [] := by simp [itemsAmong, parts, passed]
          rw [bare]
          exact builds.nothing _

end Builds

/-! ## Reading items -/

/-- The parts were read one after the other: every attribute is listed, every sequence is read to its
innermost items, and the last content model takes the place of any before it. -/
structure ReadsParts (home : Home) (items : List Part) (before after : ComplexType) : Prop where
  attributes : after.attributes = before.attributes ++ items.filterMap attributeLabel?
  model : match lastModel? items with
    | none => after.model = before.model
    | some item => ∃ model, after.model = some model ∧ Represents home item model.particle
  sequences : ∀ item ∈ items, item.1 = "sequence" → ∃ particle, Represents home item particle

theorem ReadsParts.nil {home : Home} {before after : ComplexType}
    (attributes : after.attributes = before.attributes) (model : after.model = before.model) :
    ReadsParts home [] before after :=
  ⟨by simp [attributes], model, by simp⟩

theorem ReadsParts.append {home : Home} {first second : List Part}
    {before middle after : ComplexType} (left : ReadsParts home first before middle)
    (right : ReadsParts home second middle after) :
    ReadsParts home (first ++ second) before after := by
  refine ⟨?_, ?_, List.forall_mem_append.mpr ⟨left.sequences, right.sequences⟩⟩
  · rw [right.attributes, left.attributes, List.filterMap_append, List.append_assoc]
  · have earlier := left.model
    have later := right.model
    have whole : lastModel? (first ++ second) = (lastModel? second).or (lastModel? first) := by
      rw [lastModel?, List.filter_append, List.getLast?_append]
      rfl
    rw [whole]
    cases last : lastModel? second with
    | some item =>
        rw [last] at later
        exact later
    | none =>
        rw [last] at later
        rw [Option.none_or, later]
        exact earlier

/-- An item that may be the content model takes its place. -/
theorem ReadsParts.replaced {home : Home} {item : Part} {model : ContentModel}
    {before : ComplexType} (kind : isModel item = true) (plain : attributeLabel? item = none)
    (represents : Represents home item model.particle) :
    ReadsParts home [item] before { before with model := some model } := by
  have last : lastModel? [item] = some item := by simp [lastModel?, kind]
  refine ⟨by simp [plain], ?_, by simpa using fun _ => ⟨_, represents⟩⟩
  rw [last]
  exact ⟨model, rfl, represents⟩

/-- Any other item leaves the content model. -/
theorem ReadsParts.kept {home : Home} {item : Part} {before after : ComplexType}
    (kind : isModel item = false) (model : after.model = before.model)
    (attributes : after.attributes = before.attributes ++ (attributeLabel? item).toList) :
    ReadsParts home [item] before after := by
  have last : lastModel? [item] = none := by simp [lastModel?, kind]
  have other : item.1 ≠ "sequence" := by
    intro same
    simp [isModel, same] at kind
  refine ⟨?_, ?_, by simpa using fun same => absurd same other⟩
  · rw [attributes]
    cases found : attributeLabel? item with
    | none => simp [found]
    | some label => simp [found]
  · rw [last]
    exact model

theorem readItem_reads {home : Home} {tag : String} {node : Element} {before after : ComplexType}
    (read : readItem home tag node before = .ok after) :
    ReadsParts home [(tag, node)] before after := by
  obtain ⟨name, attributes, scope, ordinal, children⟩ := node
  unfold readItem at read
  split at read
  · obtain ⟨items, inner, read⟩ := ok_of_bind read
    cases read
    exact .replaced rfl rfl (.sequence (readParticles_represents home children items inner))
  -- a choice, all or group
  iterate 3
    · cases read
      exact .replaced rfl rfl (.unsupported ⟨by decide, by decide⟩)
  -- an attribute, attributeGroup or anyAttribute
  iterate 3
    · cases read
      exact .kept rfl rfl rfl
  -- anything else is passed over, also an element or a wildcard
  · next sequence choice all group _ _ _ =>
      cases read
      refine .kept ?_ rfl (by simp [attributeLabel?])
      simpa [isModel] using ⟨sequence, choice, all, group⟩

theorem readsParts_builds (home : Home) : Builds home (ReadsParts home) where
  nothing _ := .nil rfl rfl
  around inner model attributes _ :=
    ⟨attributes ▸ inner.attributes, model ▸ inner.model, inner.sequences⟩
  append := .append
  item := readItem_reads

/-! ## Complex types -/

/-- The particles of the content are one model at most, and none stands outside of it. -/
def Whole (node : Element) : Prop :=
  (particleItems node).length ≤ 1 ∧ ∀ item ∈ particleItems node, isModel item

theorem lastModel?_eq (node : Element) :
    lastModel? (contentItems node) = ((particleItems node).filter isModel).getLast? := by
  rw [lastModel?, particleItems, List.filter_filter]
  congr 2
  funext item
  cases isModel item <;> rfl

theorem whole_iff (node : Element) :
    Whole node ↔
      (particleItems node).length = (lastModel? (contentItems node)).toList.length := by
  rw [Whole, lastModel?_eq]
  -- the last model is one particle at most, so that only none or one of them can be all
  rcases particleItems node with _ | ⟨item, _ | ⟨other, rest⟩⟩
  · simp
  · cases kind : isModel item <;> simp [kind]
  · have few : (List.filter isModel (item :: other :: rest)).getLast?.toList.length ≤ 1 := by
      cases (List.filter isModel (item :: other :: rest)).getLast? <;> simp
    have many : 2 ≤ (item :: other :: rest).length := by simp
    constructor
    · rintro ⟨short, _⟩
      omega
    · intro same
      omega

/-- Of a whole content the last model is all there is. -/
theorem Whole.last {node : Element} (whole : Whole node) :
    (lastModel? (contentItems node)).toList = particleItems node := by
  obtain ⟨short, models⟩ := whole
  rw [lastModel?_eq, List.filter_eq_self.mpr models]
  match particleItems node, short with
  | [], _ => rfl
  | [item], _ => rfl

theorem readComplexType_attributes {home : Home} {owner : Option Heading} {node : Element}
    {type : ComplexType} (read : readComplexType home owner node = .ok type) :
    type.attributes = attributeLabels node := by
  obtain ⟨name, attributes, scope, ordinal, children⟩ := node
  rw [readComplexType] at read
  exact (readTypeBody_builds (readsParts_builds home) read).attributes

/-- The last model is kept with all that is written in it. -/
theorem readComplexType_model {home : Home} {owner : Option Heading} {node : Element}
    {type : ComplexType} (read : readComplexType home owner node = .ok type) :
    List.Forall₂ (Represents home) (lastModel? (contentItems node)).toList type.particles := by
  obtain ⟨name, attributes, scope, ordinal, children⟩ := node
  rw [readComplexType] at read
  have model := (readTypeBody_builds (readsParts_builds home) read).model
  rw [contentItems, ComplexType.particles]
  cases last : lastModel? (itemsAmong children) with
  | none =>
      rw [last] at model
      rw [model]
      exact .nil
  | some item =>
      rw [last] at model
      obtain ⟨found, same, represents⟩ := model
      rw [same]
      exact .cons represents .nil

/-- Everything in the content is kept exactly if the content is whole. -/
theorem readComplexType_keeps_iff {home : Home} {owner : Option Heading} {node : Element}
    {type : ComplexType} (read : readComplexType home owner node = .ok type) :
    List.Forall₂ (Represents home) (particleItems node) type.particles ↔ Whole node := by
  have kept := readComplexType_model read
  constructor
  · intro all
    rw [whole_iff, all.length_eq, kept.length_eq]
  · intro whole
    rwa [whole.last] at kept

/-! ## Leaves -/

mutual

/-- What a part holds at any depth if it is a sequence; any other part is a leaf itself. -/
def leavesAt (tag : String) : Element → List Part
  | ⟨name, attributes, scope, ordinal, children⟩ =>
      if tag = "sequence" then leavesAmong children
      else [(tag, ⟨name, attributes, scope, ordinal, children⟩)]

def leavesAmong : List Element → List Part
  | [] => []
  | node :: rest =>
      match relevantTag? node with
      | none => leavesAmong rest
      | some tag => leavesAt tag node ++ leavesAmong rest

end

/-- The leaves of some items, in the order of the document. -/
def leavesOf (items : List Part) : List Part :=
  items.flatMap fun item => leavesAt item.1 item.2

mutual

theorem leavesAt_represents (home : Home) (tag : String) :
    (node : Element) → (particle : Particle) → Represents home (tag, node) particle →
      List.Forall₂ (Represents home) (leavesAt tag node) particle.leaves
  | ⟨name, attributes, scope, ordinal, children⟩, particle, represents => by
      cases represents with
      | element read => exact .cons (.element read) .nil
      | sequence each => exact leavesAmong_represents home children _ each
      | unsupported other =>
          rw [leavesAt, if_neg other.2]
          exact .cons (.unsupported other) .nil

theorem leavesAmong_represents (home : Home) :
    (nodes : List Element) → (items : List Particle) →
      List.Forall₂ (Represents home) (parts nodes) items →
        List.Forall₂ (Represents home) (leavesAmong nodes) (leavesAll items)
  | [], items, each => by
      cases each
      exact .nil
  | node :: rest, items, each => by
      rw [leavesAmong]
      cases tagged : relevantTag? node with
      | none =>
          rw [parts_cons_none tagged] at each
          exact leavesAmong_represents home rest items each
      | some tag =>
          rw [parts_cons_some tagged] at each
          cases each with
          | @cons _ particle _ others first later =>
              exact List.rel_append (leavesAt_represents home tag node particle first)
                (leavesAmong_represents home rest others later)

end

theorem leavesOf_represents {home : Home} {items : List Part} {particles : List Particle}
    (each : List.Forall₂ (Represents home) items particles) :
    List.Forall₂ (Represents home) (leavesOf items) (leavesAll particles) := by
  induction each with
  | nil => exact .nil
  | @cons item particle items particles first _ ih =>
      rw [leavesOf, List.flatMap_cons, leavesAll]
      exact List.rel_append (leavesAt_represents home item.1 item.2 particle first) ih

theorem leavesAll_particles (type : ComplexType) : leavesAll type.particles = type.leaves := by
  unfold ComplexType.particles ComplexType.leaves
  cases type.model with
  | none => rfl
  | some model =>
      cases model with
      | sequence items => exact List.append_nil _
      | unsupported tag => rfl

/-- The leaves of the type are those of the last model. -/
theorem readComplexType_leaves {home : Home} {owner : Option Heading} {node : Element}
    {type : ComplexType} (read : readComplexType home owner node = .ok type) :
    List.Forall₂ (Represents home) (leavesOf (lastModel? (contentItems node)).toList)
      type.leaves := by
  rw [← leavesAll_particles]
  exact leavesOf_represents (readComplexType_model read)

end SchemaSharp.Schema
