import SchemaSharp.Proofs.Markup.Numbering
import SchemaSharp.Proofs.Result
import SchemaSharp.Schema.Reader

/-!
What reading makes of a tree. Every declaration belongs to the document it was read for, no
reference is resolved yet, and every complex type, however deep it is written, has a node of its
own: the types of a document are told apart by the numbers of their nodes.
-/

namespace SchemaSharp.Schema

open Markup (Element ordinalsAll)

mutual

/-- The identities of a type and of all complex types written in it. -/
def ComplexType.identities : ComplexType → List ComplexType.Identity
  | ⟨_, _, _, _, _, _, model, _, _, ordinal, home⟩ => ⟨home, ordinal⟩ :: modelIdentities model

def modelIdentities : Option ContentModel → List ComplexType.Identity
  | none => []
  | some (.unsupported _) => []
  | some (.sequence items) => itemsIdentities items

def itemsIdentities : List Particle → List ComplexType.Identity
  | [] => []
  | item :: rest => particleIdentities item ++ itemsIdentities rest

def particleIdentities : Particle → List ComplexType.Identity
  | .element ⟨_, _, _, inlineType, _, _, _, _⟩ => inlineIdentities inlineType
  | .sequence items => itemsIdentities items
  | .unsupported _ => []

def inlineIdentities : Option TypeDecl → List ComplexType.Identity
  | some (.complex type) => type.identities
  | some (.simple _) => []
  | none => []

end

theorem identities_eq (type : ComplexType) :
    type.identities = type.identity :: modelIdentities type.model := by
  cases type
  simp only [ComplexType.identities, ComplexType.identity]

theorem particleIdentities_element (decl : ElementDecl) :
    particleIdentities (.element decl) = inlineIdentities decl.inlineType := by
  cases decl
  simp only [particleIdentities]

/-! ## Simple types -/

mutual

theorem readSimpleType_home (home : Home) :
    (node : Element) → (type : SimpleType) → readSimpleType home node = .ok type →
      type.home = home
  | ⟨_, _, _, _, children⟩, type, read => by
      rw [readSimpleType] at read
      exact readSimpleBody_home home children _ type read

theorem readSimpleBody_home (home : Home) :
    (nodes : List Element) → (before after : SimpleType) →
      readSimpleBody home nodes before = .ok after → after.home = before.home
  | [], before, after, read => by
      cases read
      rfl
  | node :: rest, before, after, read => by
      rw [readSimpleBody] at read
      split at read
      · obtain ⟨base, _, read⟩ := ok_of_bind read
        obtain ⟨middle, child, read⟩ := ok_of_bind read
        have inside := readFacets_home home true node _ middle child
        exact (readSimpleBody_home home rest middle after read).trans inside
      · obtain ⟨base, _, read⟩ := ok_of_bind read
        obtain ⟨middle, child, read⟩ := ok_of_bind read
        have inside := readFacets_home home false node _ middle child
        exact (readSimpleBody_home home rest middle after read).trans inside
      · have same := readSimpleBody_home home rest _ after read
        exact same
      · exact readSimpleBody_home home rest before after read

theorem readFacets_home (home : Home) (enumerated : Bool) :
    (node : Element) → (before after : SimpleType) →
      readFacets home enumerated node before = .ok after → after.home = before.home
  | ⟨_, _, _, _, children⟩, before, after, read => by
      rw [readFacets] at read
      exact readFacetList_home home enumerated children before after read

theorem readFacetList_home (home : Home) (enumerated : Bool) :
    (nodes : List Element) → (before after : SimpleType) →
      readFacetList home enumerated nodes before = .ok after → after.home = before.home
  | [], before, after, read => by
      cases read
      rfl
  | node :: rest, before, after, read => by
      rw [readFacetList] at read
      split at read
      · obtain ⟨inner, _, read⟩ := ok_of_bind read
        have same := readFacetList_home home enumerated rest _ after read
        exact same
      · have same := readFacetList_home home enumerated rest _ after read
        rw [same]
        split <;> rfl
      · exact readFacetList_home home enumerated rest before after read

end

/-! ## Complex types -/

/-- What a type read from the node with this number is called apart by. -/
def numbered (home : Home) (ordinals : List Nat) : List ComplexType.Identity :=
  ordinals.map (ComplexType.Identity.mk home)

@[simp]
theorem numbered_nil (home : Home) : numbered home [] = [] := rfl

@[simp]
theorem numbered_cons (home : Home) (ordinal : Nat) (rest : List Nat) :
    numbered home (ordinal :: rest) = ⟨home, ordinal⟩ :: numbered home rest := rfl

@[simp]
theorem numbered_append (home : Home) (left right : List Nat) :
    numbered home (left ++ right) = numbered home left ++ numbered home right :=
  List.map_append

/-- Of each identity the second list has at least as many as the first. -/
def Covered (types nodes : List ComplexType.Identity) : Prop :=
  ∀ identity, types.count identity ≤ nodes.count identity

/-- The type is the same as before but for what was read from the nodes. -/
def Enlarges (home : Home) (ordinals : List Nat) (before after : ComplexType) : Prop :=
  after.identity = before.identity ∧
    Covered (modelIdentities after.model)
      (modelIdentities before.model ++ numbered home ordinals)

theorem covered_nil (nodes : List ComplexType.Identity) : Covered [] nodes := fun _ => by simp

theorem covered_append {left right first second : List ComplexType.Identity}
    (leftCovered : Covered left first) (rightCovered : Covered right second) :
    Covered (left ++ right) (first ++ second) := by
  intro identity
  simp only [List.count_append]
  exact Nat.add_le_add (leftCovered identity) (rightCovered identity)

theorem covered_later {types first second : List ComplexType.Identity}
    (covered : Covered types second) : Covered types (first ++ second) := by
  intro identity
  have enough := covered identity
  simp only [List.count_append]
  omega

theorem covered_cons {types nodes : List ComplexType.Identity} (node : ComplexType.Identity)
    (covered : Covered types nodes) : Covered types (node :: nodes) :=
  @covered_later types [node] nodes covered

theorem enlarges_skip {home : Home} {ordinals : List Nat} {before after : ComplexType}
    (same : after.identity = before.identity) (model : after.model = before.model) :
    Enlarges home ordinals before after := by
  refine ⟨same, fun identity => ?_⟩
  simp only [model, List.count_append]
  omega

theorem enlarges_trans {home : Home} {first second : List Nat}
    {before middle after : ComplexType} (left : Enlarges home first before middle)
    (right : Enlarges home second middle after) :
    Enlarges home (first ++ second) before after := by
  refine ⟨right.1.trans left.1, fun identity => ?_⟩
  have inner := left.2 identity
  have outer := right.2 identity
  simp only [numbered_append, List.count_append] at inner outer ⊢
  omega

mutual

theorem readElementDecl_covered (home : Home) :
    (node : Element) → (decl : ElementDecl) → readElementDecl home node = .ok decl →
      decl.home = home ∧
        Covered (inlineIdentities decl.inlineType) (numbered home node.ordinals)
  | ⟨_, _, _, _, children⟩, decl, read => by
      rw [readElementDecl] at read
      obtain ⟨⟨least, greatest⟩, _, read⟩ := ok_of_bind read
      obtain ⟨ref, _, read⟩ := ok_of_bind read
      obtain ⟨typeRef, _, read⟩ := ok_of_bind read
      obtain ⟨inlineType, inline, read⟩ := ok_of_bind read
      cases read
      refine ⟨rfl, ?_⟩
      rw [Element.ordinals, numbered_cons]
      exact covered_cons _ (readInlineType_covered home _ children inlineType inline)

theorem readInlineType_covered (home : Home) (heading : Heading) :
    (nodes : List Element) → (type : Option TypeDecl) →
      readInlineType home heading nodes = .ok type →
        Covered (inlineIdentities type) (numbered home (ordinalsAll nodes))
  | [], type, read => by
      cases read
      exact covered_nil _
  | node :: rest, type, read => by
      rw [readInlineType] at read
      rw [ordinalsAll, numbered_append]
      split at read
      · obtain ⟨decl, inner, read⟩ := ok_of_bind read
        cases read
        have covered := (readComplexType_covered home (some heading) node decl inner).2
        intro identity
        have enough := covered identity
        simp only [inlineIdentities, List.count_append]
        omega
      · obtain ⟨decl, _, read⟩ := ok_of_bind read
        cases read
        exact covered_nil _
      · exact covered_later (readInlineType_covered home heading rest type read)

theorem readComplexType_covered (home : Home) (owner : Option Heading) :
    (node : Element) → (type : ComplexType) → readComplexType home owner node = .ok type →
      type.home = home ∧ Covered type.identities (numbered home node.ordinals)
  | ⟨_, _, _, ordinal, children⟩, type, read => by
      rw [readComplexType] at read
      obtain ⟨same, covered⟩ := readTypeBody_enlarges home children _ type read
      have own : type.identity = ⟨home, ordinal⟩ := same
      refine ⟨congrArg ComplexType.Identity.home own, ?_⟩
      rw [identities_eq, own, Element.ordinals, numbered_cons]
      exact @covered_append [_] _ [_] _ (fun _ => Nat.le_refl _) covered

theorem readTypeBody_enlarges (home : Home) :
    (nodes : List Element) → (before after : ComplexType) →
      readTypeBody home nodes before = .ok after →
        Enlarges home (ordinalsAll nodes) before after
  | [], before, after, read => by
      cases read
      exact enlarges_skip rfl rfl
  | node :: rest, before, after, read => by
      rw [readTypeBody] at read
      rw [ordinalsAll]
      split at read
      · obtain ⟨middle, child, read⟩ := ok_of_bind read
        exact enlarges_trans (readContent_enlarges home .simple node before middle child)
          (readTypeBody_enlarges home rest middle after read)
      · obtain ⟨middle, child, read⟩ := ok_of_bind read
        exact enlarges_trans (readContent_enlarges home .complex node before middle child)
          (readTypeBody_enlarges home rest middle after read)
      · obtain ⟨middle, child, read⟩ := ok_of_bind read
        exact enlarges_trans (readItem_enlarges home _ node before middle child)
          (readTypeBody_enlarges home rest middle after read)
      · exact enlarges_trans (enlarges_skip rfl rfl)
          (readTypeBody_enlarges home rest before after read)

theorem readContent_enlarges (home : Home) (content : Content) :
    (node : Element) → (before after : ComplexType) →
      readContent home content node before = .ok after →
        Enlarges home node.ordinals before after
  | ⟨_, _, _, ordinal, children⟩, before, after, read => by
      rw [readContent] at read
      rw [Element.ordinals]
      have inner := readDerivations_enlarges home children _ after read
      exact @enlarges_trans _ [ordinal] _ _ _ _ (enlarges_skip rfl rfl) inner

theorem readDerivations_enlarges (home : Home) :
    (nodes : List Element) → (before after : ComplexType) →
      readDerivations home nodes before = .ok after →
        Enlarges home (ordinalsAll nodes) before after
  | [], before, after, read => by
      cases read
      exact enlarges_skip rfl rfl
  | node :: rest, before, after, read => by
      rw [readDerivations] at read
      rw [ordinalsAll]
      split at read
      · obtain ⟨middle, child, read⟩ := ok_of_bind read
        exact enlarges_trans (readDerivation_enlarges home .byExtension node before middle child)
          (readDerivations_enlarges home rest middle after read)
      · obtain ⟨middle, child, read⟩ := ok_of_bind read
        exact enlarges_trans (readDerivation_enlarges home .byRestriction node before middle child)
          (readDerivations_enlarges home rest middle after read)
      · exact enlarges_trans (enlarges_skip rfl rfl)
          (readDerivations_enlarges home rest before after read)

theorem readDerivation_enlarges (home : Home) (derivation : Derivation) :
    (node : Element) → (before after : ComplexType) →
      readDerivation home derivation node before = .ok after →
        Enlarges home node.ordinals before after
  | ⟨_, _, _, ordinal, children⟩, before, after, read => by
      rw [readDerivation] at read
      obtain ⟨base, _, read⟩ := ok_of_bind read
      rw [Element.ordinals]
      have inner := readItems_enlarges home children _ after read
      exact @enlarges_trans _ [ordinal] _ _ _ _ (enlarges_skip rfl rfl) inner

theorem readItems_enlarges (home : Home) :
    (nodes : List Element) → (before after : ComplexType) →
      readItems home nodes before = .ok after → Enlarges home (ordinalsAll nodes) before after
  | [], before, after, read => by
      cases read
      exact enlarges_skip rfl rfl
  | node :: rest, before, after, read => by
      rw [readItems] at read
      rw [ordinalsAll]
      split at read
      · obtain ⟨middle, child, read⟩ := ok_of_bind read
        exact enlarges_trans (readItem_enlarges home _ node before middle child)
          (readItems_enlarges home rest middle after read)
      · exact enlarges_trans (enlarges_skip rfl rfl)
          (readItems_enlarges home rest before after read)

-- A content model replaces the one before it, so that only the types of the last one count.
theorem readItem_enlarges (home : Home) (tag : String) :
    (node : Element) → (before after : ComplexType) →
      readItem home tag node before = .ok after → Enlarges home node.ordinals before after
  | ⟨_, _, _, ordinal, children⟩, before, after, read => by
      unfold readItem at read
      rw [Element.ordinals]
      split at read
      · obtain ⟨items, inner, read⟩ := ok_of_bind read
        cases read
        have covered := readParticles_covered home children items inner
        exact ⟨rfl, covered_later (covered_cons _ covered)⟩
      iterate 3
        · cases read
          exact ⟨rfl, covered_nil _⟩
      all_goals
        cases read
        exact enlarges_skip rfl rfl

theorem readParticles_covered (home : Home) :
    (nodes : List Element) → (items : List Particle) → readParticles home nodes = .ok items →
      Covered (itemsIdentities items) (numbered home (ordinalsAll nodes))
  | [], items, read => by
      cases read
      exact covered_nil _
  | node :: rest, items, read => by
      rw [readParticles] at read
      rw [ordinalsAll, numbered_append]
      split at read
      · exact covered_later (readParticles_covered home rest items read)
      · obtain ⟨decl, inner, read⟩ := ok_of_bind read
        obtain ⟨others, following, read⟩ := ok_of_bind read
        cases read
        rw [itemsIdentities, particleIdentities_element]
        exact covered_append (readElementDecl_covered home node decl inner).2
          (readParticles_covered home rest others following)
      · obtain ⟨inside, inner, read⟩ := ok_of_bind read
        obtain ⟨others, following, read⟩ := ok_of_bind read
        cases read
        rw [itemsIdentities, particleIdentities]
        exact covered_append (readSequence_covered home node inside inner)
          (readParticles_covered home rest others following)
      · obtain ⟨others, following, read⟩ := ok_of_bind read
        cases read
        rw [itemsIdentities, particleIdentities]
        exact covered_later (readParticles_covered home rest others following)

theorem readSequence_covered (home : Home) :
    (node : Element) → (items : List Particle) → readSequence home node = .ok items →
      Covered (itemsIdentities items) (numbered home node.ordinals)
  | ⟨_, _, _, _, children⟩, items, read => by
      rw [readSequence] at read
      rw [Element.ordinals, numbered_cons]
      exact covered_cons _ (readParticles_covered home children items read)

end

/-! ## Documents -/

/-- The identities of all complex types of a document. -/
def Document.identities (document : Document) : List ComplexType.Identity :=
  (document.elements.flatMap fun decl => inlineIdentities decl.inlineType)
    ++ document.types.flatMap fun decl => inlineIdentities (some decl)

/-- The document is all of one home, its references lead nowhere yet, and its types are from nodes
with these numbers. -/
structure Document.Belongs (home : Home) (ordinals : List Nat) (document : Document) : Prop where
  home_eq : document.home = home
  elements : ∀ decl ∈ document.elements, decl.home = home
  types : ∀ decl ∈ document.types, decl.home = home
  unresolved : ∀ reference ∈ document.references, reference.resolved = none
  covered : Covered document.identities (numbered home ordinals)

theorem readReference_unresolved {location : String} {kind : ReferenceKind} {node : Element}
    {reference : Reference} (read : readReference location kind node = .ok reference) :
    reference.resolved = none := by
  unfold readReference at read
  split at read
  · cases read
  · cases read
    rfl

theorem belongs_later {home : Home} {before : List Nat} {document : Document} (later : List Nat)
    (belongs : document.Belongs home before) : document.Belongs home (before ++ later) := by
  refine { belongs with covered := fun identity => ?_ }
  have enough := belongs.covered identity
  simp only [numbered_append, List.count_append]
  omega

/-- One more declaration of the home, whose types are from further nodes. -/
theorem belongs_element {home : Home} {before later : List Nat} {document : Document}
    {decl : ElementDecl} (belongs : document.Belongs home before) (homed : decl.home = home)
    (covered : Covered (inlineIdentities decl.inlineType) (numbered home later)) :
    Document.Belongs home (before ++ later)
      { document with elements := document.elements ++ [decl] } := by
  refine ⟨belongs.home_eq, ?_, belongs.types, belongs.unresolved, ?_⟩
  · simpa [homed, or_imp, forall_and] using belongs.elements
  · intro identity
    have enough := covered identity
    have others := belongs.covered identity
    simp only [Document.identities, numbered_append, List.flatMap_append, List.count_append,
      List.flatMap_cons, List.flatMap_nil, List.append_nil] at others ⊢
    omega

theorem belongs_type {home : Home} {before later : List Nat} {document : Document}
    {decl : TypeDecl} (belongs : document.Belongs home before) (homed : decl.home = home)
    (covered : Covered (inlineIdentities (some decl)) (numbered home later)) :
    Document.Belongs home (before ++ later)
      { document with types := document.types ++ [decl] } := by
  refine ⟨belongs.home_eq, belongs.elements, ?_, belongs.unresolved, ?_⟩
  · simpa [homed, or_imp, forall_and] using belongs.types
  · intro identity
    have enough := covered identity
    have others := belongs.covered identity
    simp only [Document.identities, numbered_append, List.flatMap_append, List.count_append,
      List.flatMap_cons, List.flatMap_nil, List.append_nil] at others ⊢
    omega

theorem readDeclaration_belongs {home : Home} {ordinals : List Nat} {node : Element}
    {before after : Document} (belongs : before.Belongs home ordinals)
    (read : readDeclaration home node before = .ok after) :
    after.Belongs home (ordinals ++ node.ordinals) := by
  unfold readDeclaration at read
  split at read
  · cases read
    exact belongs_later _ belongs
  · obtain ⟨decl, inner, read⟩ := ok_of_bind read
    cases read
    obtain ⟨homed, covered⟩ := readElementDecl_covered home node decl inner
    exact belongs_element belongs homed covered
  · obtain ⟨decl, inner, read⟩ := ok_of_bind read
    cases read
    obtain ⟨homed, covered⟩ := readComplexType_covered home none node decl inner
    exact belongs_type belongs homed (by rwa [inlineIdentities])
  · obtain ⟨decl, inner, read⟩ := ok_of_bind read
    cases read
    have homed := readSimpleType_home home node decl inner
    exact belongs_type belongs homed (by rw [inlineIdentities]; exact covered_nil _)
  · split at read
    · obtain ⟨reference, inner, read⟩ := ok_of_bind read
      cases read
      have later := belongs_later node.ordinals belongs
      refine ⟨later.home_eq, later.elements, later.types, ?_, later.covered⟩
      simpa [readReference_unresolved inner, or_imp, forall_and] using belongs.unresolved
    · cases read
      exact belongs_later _ belongs

theorem readTopLevel_belongs {home : Home} (nodes : List Element) {ordinals : List Nat}
    {before after : Document} (belongs : before.Belongs home ordinals)
    (read : readTopLevel home nodes before = .ok after) :
    after.Belongs home (ordinals ++ ordinalsAll nodes) := by
  induction nodes generalizing ordinals before with
  | nil =>
      cases read
      exact belongs_later _ belongs
  | cons node rest ih =>
      rw [readTopLevel] at read
      obtain ⟨middle, first, read⟩ := ok_of_bind read
      rw [ordinalsAll, ← List.append_assoc]
      exact ih (readDeclaration_belongs belongs first) read

/-- What every document that was read is like: one home, no reference resolved, and no two types,
however deep inside one another, that could be taken for each other. -/
structure Document.Fresh (home : Home) (document : Document) : Prop where
  home_eq : document.home = home
  elements : ∀ decl ∈ document.elements, decl.home = home
  types : ∀ decl ∈ document.types, decl.home = home
  unresolved : ∀ reference ∈ document.references, reference.resolved = none
  nodup : document.identities.Nodup
  inside : ∀ identity ∈ document.identities, identity.home = home

theorem ofBytes_fresh {home : Home} {content : List UInt8} {document : Document}
    (read : Document.ofBytes home content = .ok document) : document.Fresh home := by
  obtain ⟨root, parsed, read⟩ := ok_of_bind read
  have distinct := Element.ofBytes_nodup (ok_of_orFail parsed)
  rw [Markup.ordinals_eq] at distinct
  unfold Document.ofTree at read
  split at read
  · have empty : Document.Belongs home [] ⟨home, root.attribute? "targetNamespace", [], [], []⟩ :=
      ⟨rfl, by simp, by simp, by simp, covered_nil _⟩
    have belongs := readTopLevel_belongs root.children empty read
    have nodes : (numbered home (ordinalsAll root.children)).Nodup :=
      (List.nodup_cons.mp distinct).2.map fun _ _ same => congrArg ComplexType.Identity.ordinal same
    refine ⟨belongs.home_eq, belongs.elements, belongs.types, belongs.unresolved, ?_, ?_⟩
    · rw [List.nodup_iff_count_le_one] at nodes ⊢
      exact fun identity => Nat.le_trans (belongs.covered identity) (nodes identity)
    · intro identity member
      have counted := Nat.lt_of_lt_of_le (List.count_pos_iff.mpr member) (belongs.covered identity)
      obtain ⟨ordinal, _, same⟩ := List.mem_map.mp (List.count_pos_iff.mp counted)
      exact same ▸ rfl
  · cases read

end SchemaSharp.Schema
