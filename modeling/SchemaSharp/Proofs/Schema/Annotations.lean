import SchemaSharp.Proofs.Markup.Tree
import SchemaSharp.Schema.Reader

/-!
What a document says apart from its schema. Annotations and foreign elements are passed over wherever
they stand, with everything in them, and so are foreign attributes: a tree without them is read as the
same document, or fails in the same way.
-/

namespace SchemaSharp

open Markup (Element Attribute Tree Item elementsOfItems eventsOf)

namespace Schema

variable {home : Home}

/-! ## Numbers left out -/

mutual

/-- The declaration without the numbers of the nodes that its types were read from. -/
def ElementDecl.unnumbered : ElementDecl → ElementDecl
  | ⟨name, ref, typeRef, inlineType, least, greatest, isAbstract, home⟩ =>
      ⟨name, ref, typeRef, unnumberedInline inlineType, least, greatest, isAbstract, home⟩

def unnumberedInline : Option TypeDecl → Option TypeDecl
  | none => none
  | some (.simple type) => some (.simple type)
  | some (.complex type) => some (.complex type.unnumbered)

def ComplexType.unnumbered : ComplexType → ComplexType
  | ⟨name, isAbstract, isMixed, base, derivation, content, model, attributes, owner, _, home⟩ =>
      ⟨name, isAbstract, isMixed, base, derivation, content, unnumberedModel model, attributes, owner,
        0, home⟩

def unnumberedModel : Option ContentModel → Option ContentModel
  | none => none
  | some (.unsupported tag) => some (.unsupported tag)
  | some (.sequence items) => some (.sequence (unnumberedItems items))

def unnumberedItems : List Particle → List Particle
  | [] => []
  | item :: rest => item.unnumbered :: unnumberedItems rest

def Particle.unnumbered : Particle → Particle
  | .element decl => .element decl.unnumbered
  | .sequence items => .sequence (unnumberedItems items)
  | .unsupported tag => .unsupported tag

end

def TypeDecl.unnumbered : TypeDecl → TypeDecl
  | .simple type => .simple type
  | .complex type => .complex type.unnumbered

def Document.unnumbered (document : Document) : Document :=
  { document with
    elements := document.elements.map ElementDecl.unnumbered
    types := document.types.map TypeDecl.unnumbered }

/-! ## Elements without markup that is passed over -/

/-- An attribute of the schema language: one in no namespace or in that of the language itself. -/
def concernsSchema (given : Attribute) : Bool :=
  given.name.uri == none || given.name.uri == some schemaUri

mutual

/-- What the reader looks at in an element: its number and foreign markup are left out. -/
def bare : Element → Element
  | ⟨name, attributes, scope, _, children⟩ =>
      ⟨name, attributes.filter concernsSchema, scope, 0, bareAll children⟩

def bareAll : List Element → List Element
  | [] => []
  | child :: rest =>
      if (relevantTag? child).isSome then bare child :: bareAll rest else bareAll rest

end

theorem bare_eq (node : Element) :
    bare node = ⟨node.name, node.attributes.filter concernsSchema, node.scope, 0,
      bareAll node.children⟩ := by
  cases node
  rw [bare]

theorem bareAll_skip {child : Element} (foreign : relevantTag? child = none)
    (rest : List Element) : bareAll (child :: rest) = bareAll rest := by
  rw [bareAll, foreign]
  rfl

theorem bareAll_keep {child : Element} {tag : String} (relevant : relevantTag? child = some tag)
    (rest : List Element) : bareAll (child :: rest) = bare child :: bareAll rest := by
  rw [bareAll, relevant]
  rfl

@[simp]
theorem tagOf?_bare (node : Element) : tagOf? (bare node) = tagOf? node := by
  rw [bare_eq]
  rfl

@[simp]
theorem relevantTag?_bare (node : Element) : relevantTag? (bare node) = relevantTag? node := by
  rw [relevantTag?, tagOf?_bare, relevantTag?]

/-- The attributes that are asked for by name are in no namespace. -/
@[simp]
theorem attribute?_bare (node : Element) (name : String) :
    (bare node).attribute? name = node.attribute? name := by
  rw [bare_eq, Element.attribute?, Element.attribute?, List.find?_filter]
  congr 2
  funext given
  by_cases named : given.name = ⟨none, name⟩
  · simp [concernsSchema, named]
  · simp [named]

@[simp]
theorem resolveName_bare (location : String) (node : Element) (value : Option String) :
    resolveName location (bare node) value = resolveName location node value := by
  rw [bare_eq]
  rfl

@[simp]
theorem readOccurs_bare (location : String) (node : Element) :
    readOccurs location (bare node) = readOccurs location node := by
  simp only [readOccurs, attribute?_bare]

@[simp]
theorem flag_bare (node : Element) (name : String) : flag (bare node) name = flag node name := by
  simp only [flag, attribute?_bare]

@[simp]
theorem attributeLabel_bare (tag : String) (node : Element) :
    attributeLabel tag (bare node) = attributeLabel tag node := by
  simp only [attributeLabel, attribute?_bare]

/-! ## Simple types -/

mutual

theorem readSimpleType_bare : (node : Element) →
    readSimpleType home (bare node) = readSimpleType home node
  | ⟨name, attributes, scope, ordinal, children⟩ => by
      have named := attribute?_bare ⟨name, attributes, scope, ordinal, children⟩ "name"
      rw [bare] at named ⊢
      rw [readSimpleType, readSimpleType, named]
      exact readSimpleBody_bare children _

theorem readSimpleBody_bare : (nodes : List Element) → (type : SimpleType) →
    readSimpleBody home (bareAll nodes) type = readSimpleBody home nodes type
  | [], type => rfl
  | child :: rest, type => by
      cases relevant : relevantTag? child with
      | none =>
          rw [bareAll_skip relevant, readSimpleBody_bare rest, readSimpleBody, relevant]
          rfl
      | some tag =>
          rw [bareAll_keep relevant, readSimpleBody, readSimpleBody]
          simp only [relevantTag?_bare, attribute?_bare, resolveName_bare, readFacets_bare true child,
            readFacets_bare false child, readSimpleBody_bare rest]

theorem readFacets_bare (enumerated : Bool) : (node : Element) → (type : SimpleType) →
    readFacets home enumerated (bare node) type = readFacets home enumerated node type
  | ⟨_, _, _, _, children⟩, type => by
      rw [bare, readFacets, readFacets]
      exact readFacetList_bare enumerated children type

theorem readFacetList_bare (enumerated : Bool) : (nodes : List Element) → (type : SimpleType) →
    readFacetList home enumerated (bareAll nodes) type = readFacetList home enumerated nodes type
  | [], type => rfl
  | child :: rest, type => by
      cases relevant : relevantTag? child with
      | none =>
          rw [bareAll_skip relevant, readFacetList_bare enumerated rest, readFacetList, relevant]
          rfl
      | some tag =>
          rw [bareAll_keep relevant, readFacetList, readFacetList]
          simp only [relevantTag?_bare, attribute?_bare, readSimpleType_bare child,
            readFacetList_bare enumerated rest]

end

/-! ## Elements and complex types -/

mutual

theorem readElementDecl_bare : (node : Element) →
    readElementDecl home (bare node) = ElementDecl.unnumbered <$> readElementDecl home node
  | ⟨name, attributes, scope, ordinal, children⟩ => by
      have folded := (bare_eq ⟨name, attributes, scope, ordinal, children⟩).symm
      rw [bare, readElementDecl, readElementDecl]
      simp only [folded, readOccurs_bare, resolveName_bare, attribute?_bare, flag_bare,
        readInlineType_bare _ children]
      simp [ElementDecl.unnumbered]

theorem readInlineType_bare (heading : Heading) : (nodes : List Element) →
    readInlineType home heading (bareAll nodes) =
      unnumberedInline <$> readInlineType home heading nodes
  | [] => rfl
  | child :: rest => by
      cases relevant : relevantTag? child with
      | none =>
          rw [bareAll_skip relevant, readInlineType_bare heading rest, readInlineType, relevant]
      | some tag =>
          rw [bareAll_keep relevant, readInlineType, readInlineType]
          simp only [relevantTag?_bare]
          split
          · rw [readComplexType_bare (some heading) child]
            simp [unnumberedInline]
          · rw [readSimpleType_bare child]
            simp [unnumberedInline]
          · exact readInlineType_bare heading rest

theorem readComplexType_bare (owner : Option Heading) : (node : Element) →
    readComplexType home owner (bare node) = ComplexType.unnumbered <$> readComplexType home owner node
  | ⟨name, attributes, scope, ordinal, children⟩ => by
      have folded := (bare_eq ⟨name, attributes, scope, ordinal, children⟩).symm
      rw [bare, readComplexType, readComplexType, ← readTypeBody_bare children]
      simp only [folded, attribute?_bare, flag_bare]
      rfl

theorem readTypeBody_bare : (nodes : List Element) → (type : ComplexType) →
    readTypeBody home (bareAll nodes) type.unnumbered =
      ComplexType.unnumbered <$> readTypeBody home nodes type
  | [], type => rfl
  | child :: rest, type => by
      cases relevant : relevantTag? child with
      | none =>
          rw [bareAll_skip relevant, readTypeBody_bare rest, readTypeBody, relevant]
          rfl
      | some tag =>
          rw [bareAll_keep relevant, readTypeBody, readTypeBody]
          simp only [relevantTag?_bare]
          split
          · simp [readContent_bare .simple child, readTypeBody_bare rest]
          · simp [readContent_bare .complex child, readTypeBody_bare rest]
          · simp [readItem_bare _ child, readTypeBody_bare rest]
          · simp [readTypeBody_bare rest]

theorem readContent_bare (content : Content) : (node : Element) → (type : ComplexType) →
    readContent home content (bare node) type.unnumbered =
      ComplexType.unnumbered <$> readContent home content node type
  | ⟨name, attributes, scope, ordinal, children⟩, type => by
      have folded := (bare_eq ⟨name, attributes, scope, ordinal, children⟩).symm
      rw [bare, readContent, readContent, ← readDerivations_bare children]
      simp only [folded, flag_bare]
      cases type
      rfl

theorem readDerivations_bare : (nodes : List Element) → (type : ComplexType) →
    readDerivations home (bareAll nodes) type.unnumbered =
      ComplexType.unnumbered <$> readDerivations home nodes type
  | [], type => rfl
  | child :: rest, type => by
      cases relevant : relevantTag? child with
      | none =>
          rw [bareAll_skip relevant, readDerivations_bare rest, readDerivations, relevant]
          rfl
      | some tag =>
          rw [bareAll_keep relevant, readDerivations, readDerivations]
          simp only [relevantTag?_bare]
          split
          · simp [readDerivation_bare .byExtension child, readDerivations_bare rest]
          · simp [readDerivation_bare .byRestriction child, readDerivations_bare rest]
          · simp [readDerivations_bare rest]

theorem readDerivation_bare (derivation : Derivation) : (node : Element) → (type : ComplexType) →
    readDerivation home derivation (bare node) type.unnumbered =
      ComplexType.unnumbered <$> readDerivation home derivation node type
  | ⟨name, attributes, scope, ordinal, children⟩, type => by
      have folded := (bare_eq ⟨name, attributes, scope, ordinal, children⟩).symm
      rw [bare, readDerivation, readDerivation]
      simp only [folded, attribute?_bare, resolveName_bare, map_bind, ← readItems_bare children]
      cases type
      rfl

theorem readItems_bare : (nodes : List Element) → (type : ComplexType) →
    readItems home (bareAll nodes) type.unnumbered =
      ComplexType.unnumbered <$> readItems home nodes type
  | [], type => rfl
  | child :: rest, type => by
      cases relevant : relevantTag? child with
      | none =>
          rw [bareAll_skip relevant, readItems_bare rest, readItems, relevant]
          rfl
      | some tag =>
          rw [bareAll_keep relevant, readItems, readItems]
          simp only [relevantTag?_bare]
          split
          · simp [readItem_bare _ child, readItems_bare rest]
          · simp [readItems_bare rest]

theorem readItem_bare (tag : String) : (node : Element) → (type : ComplexType) →
    readItem home tag (bare node) type.unnumbered =
      ComplexType.unnumbered <$> readItem home tag node type
  | ⟨name, attributes, scope, ordinal, children⟩, type => by
      have folded := (bare_eq ⟨name, attributes, scope, ordinal, children⟩).symm
      rw [bare]
      unfold readItem
      simp only [folded, attributeLabel_bare, readParticles_bare children]
      cases type
      split
      · rw [bind_map_left, map_bind]
        rfl
      all_goals rfl

theorem readParticles_bare : (nodes : List Element) →
    readParticles home (bareAll nodes) = unnumberedItems <$> readParticles home nodes
  | [] => rfl
  | child :: rest => by
      cases relevant : relevantTag? child with
      | none =>
          rw [bareAll_skip relevant, readParticles_bare rest, readParticles, relevant]
      | some tag =>
          rw [bareAll_keep relevant, readParticles, readParticles]
          simp only [relevantTag?_bare]
          split
          · exact readParticles_bare rest
          · simp [readElementDecl_bare child, readParticles_bare rest, unnumberedItems,
              Particle.unnumbered]
          · simp [readSequence_bare child, readParticles_bare rest, unnumberedItems,
              Particle.unnumbered]
          · simp [readParticles_bare rest, unnumberedItems, Particle.unnumbered]

theorem readSequence_bare : (node : Element) →
    readSequence home (bare node) = unnumberedItems <$> readSequence home node
  | ⟨_, _, _, _, children⟩ => by
      rw [bare, readSequence, readSequence]
      exact readParticles_bare children

end

/-! ## Documents -/

theorem any_bareAll (nodes : List Element) :
    (bareAll nodes).any (fun child => (relevantTag? child).isSome) =
      nodes.any fun child => (relevantTag? child).isSome := by
  induction nodes with
  | nil => rfl
  | cons child rest ih =>
      cases relevant : relevantTag? child with
      | none => rw [bareAll_skip relevant, ih, List.any_cons, relevant]; rfl
      | some tag => rw [bareAll_keep relevant, List.any_cons, List.any_cons, ih, relevantTag?_bare]

@[simp]
theorem readReference_bare (location : String) (kind : ReferenceKind) (node : Element) :
    readReference location kind (bare node) = readReference location kind node := by
  have inside : (bare node).children = bareAll node.children := by rw [bare_eq]
  simp only [readReference, inside, any_bareAll, attribute?_bare]

theorem readDeclaration_bare (node : Element) (document : Document) :
    readDeclaration home (bare node) document.unnumbered =
      Document.unnumbered <$> readDeclaration home node document := by
  unfold readDeclaration
  simp only [relevantTag?_bare, readElementDecl_bare, readComplexType_bare, readSimpleType_bare,
    readReference_bare]
  split
  · rfl
  · simp [Document.unnumbered]
  · simp [Document.unnumbered, TypeDecl.unnumbered]
  · simp [Document.unnumbered, TypeDecl.unnumbered]
  · split
    · simp [Document.unnumbered]
    · rfl

theorem readTopLevel_bare (nodes : List Element) (document : Document) :
    readTopLevel home (bareAll nodes) document.unnumbered =
      Document.unnumbered <$> readTopLevel home nodes document := by
  induction nodes generalizing document with
  | nil => rfl
  | cons node rest ih =>
      cases relevant : relevantTag? node with
      | none =>
          rw [bareAll_skip relevant, ih, readTopLevel, readDeclaration, relevant]
          rfl
      | some tag =>
          rw [bareAll_keep relevant, readTopLevel, readTopLevel, readDeclaration_bare]
          simp [ih]

theorem ofTree_bare (root : Element) :
    Document.ofTree home (bare root) = Document.unnumbered <$> Document.ofTree home root := by
  unfold Document.ofTree
  have inside : (bare root).children = bareAll root.children := by rw [bare_eq]
  have named : (bare root).name = root.name := by rw [bare_eq]
  simp only [tagOf?_bare, inside, named, attribute?_bare]
  split
  · exact readTopLevel_bare root.children ⟨home, root.attribute? "targetNamespace", [], [], []⟩
  · rfl

/-! ## Trees without markup that is passed over -/

def belongs (tree : Tree) : Bool :=
  tree.name.uri == some schemaUri && tree.name.name != "annotation"

mutual

/-- The tree without text and comments, without annotations and foreign elements below the root, and
without foreign attributes. -/
def stripped : Tree → Tree
  | ⟨declarations, name, attributes, content⟩ =>
      ⟨declarations, name, attributes.filter concernsSchema, strippedItems content⟩

def strippedItems : List Item → List Item
  | [] => []
  | .element tree :: rest =>
      if belongs tree then .element (stripped tree) :: strippedItems rest else strippedItems rest
  | .text _ :: rest => strippedItems rest
  | .comment _ :: rest => strippedItems rest

end

theorem relevantTag?_element (tree : Tree) (scope : Markup.Scope) (count : Nat) :
    (relevantTag? (tree.element scope count)).isSome = belongs tree := by
  obtain ⟨declarations, name, attributes, content⟩ := tree
  rw [relevantTag?, tagOf?, Tree.element, belongs]
  cases name.uri == some schemaUri with
  | false => rfl
  | true => simp [Option.isSome_filter]

theorem belongs_stripped (tree : Tree) : belongs (stripped tree) = belongs tree := by
  cases tree
  rfl

mutual

theorem bare_stripped : (tree : Tree) → (scope : Markup.Scope) → (count other : Nat) →
    bare ((stripped tree).element scope other) = bare (tree.element scope count)
  | ⟨declarations, name, attributes, content⟩, scope, count, other => by
      rw [stripped, Tree.element, Tree.element, bare, bare, bareAll_stripped content _ (count + 1)]
      simp

theorem bareAll_stripped : (content : List Item) → (scope : Markup.Scope) → (count other : Nat) →
    bareAll (elementsOfItems scope other (strippedItems content)) =
      bareAll (elementsOfItems scope count content)
  | [], _, _, _ => rfl
  | .text _ :: rest, scope, count, other => bareAll_stripped rest scope count other
  | .comment _ :: rest, scope, count, other => bareAll_stripped rest scope count other
  | .element tree :: rest, scope, count, other => by
      have others := bareAll_stripped rest scope (count + tree.size)
      have relevant := relevantTag?_element tree scope count
      rw [strippedItems, elementsOfItems, bareAll, relevant]
      cases kept : belongs tree with
      | false => exact others other
      | true =>
          rw [if_pos rfl, if_pos rfl, elementsOfItems, bareAll, relevantTag?_element,
            belongs_stripped, kept, if_pos rfl, bare_stripped tree scope count other, others]

end

/-- A document says the same, or cannot be read for the same reason, without its text, its comments
and its foreign attributes and, at every depth below the root, without its annotations and foreign
elements. Only the numbers of the nodes differ. -/
theorem reading_ignores_annotations (home : Home) (tree : Tree) :
    (∃ whole kept, Element.ofEvents? tree.events = some whole ∧
      Element.ofEvents? (stripped tree).events = some kept ∧
      (Document.ofTree home kept).map Document.unnumbered =
        (Document.ofTree home whole).map Document.unnumbered) ∧
    ∀ bytes others, eventsOf bytes = .ok tree.events → eventsOf others = .ok (stripped tree).events →
      (Document.ofBytes home others).map Document.unnumbered =
        (Document.ofBytes home bytes).map Document.unnumbered := by
  have same : (Document.ofTree home ((stripped tree).element Element.scopeAtRoot 0)).map
      Document.unnumbered =
        (Document.ofTree home (tree.element Element.scopeAtRoot 0)).map Document.unnumbered := by
    have trees := bare_stripped tree Element.scopeAtRoot 0 0
    exact (ofTree_bare _).symm.trans ((congrArg (Document.ofTree home) trees).trans (ofTree_bare _))
  constructor
  · exact ⟨_, _, Element.ofEvents?_events tree, Element.ofEvents?_events (stripped tree), same⟩
  · intro bytes others written writtenToo
    rw [Document.ofBytes, Document.ofBytes, Markup.ofBytes_of_events written,
      Markup.ofBytes_of_events writtenToo]
    exact same

/-- A schema with text, a comment and a foreign attribute, and a redefinition that holds an annotation
and a foreign element only. -/
def annotatedText : List UInt8 :=
  Text.Utf8.encode ("<x:schema xmlns:x='http://www.w3.org/2001/XMLSchema' xmlns:f='u' f:a='1'>"
    ++ "<!--c-->t<x:redefine><x:annotation/><f:b/></x:redefine></x:schema>").toList

def annotatedTree : Tree :=
  let own (name : String) (content : List Item) : Item :=
    .element ⟨[], ⟨some schemaUri, name⟩, [], content⟩
  ⟨[("x", schemaUri), ("f", "u")], ⟨some schemaUri, "schema"⟩, [⟨⟨some "u", "a"⟩, "1"⟩], [
    .comment "c", .text "t",
    own "redefine" [own "annotation" [], .element ⟨[], ⟨some "u", "b"⟩, [], []⟩]]⟩

def plainText : List UInt8 :=
  Text.Utf8.encode ("<x:schema xmlns:x='http://www.w3.org/2001/XMLSchema' xmlns:f='u'>"
    ++ "<x:redefine/></x:schema>").toList

set_option maxRecDepth 100000 in
theorem annotatedText_events : (eventsOf annotatedText).toOption = some annotatedTree.events := by
  simp only [annotatedText, Text.Utf8.encode_toList]
  decide +kernel

set_option maxRecDepth 100000 in
theorem plainText_events : (eventsOf plainText).toOption = some (stripped annotatedTree).events := by
  simp only [plainText, Text.Utf8.encode_toList]
  decide +kernel

/-- A redefinition that held anything else could not be read; this one is a reference. -/
theorem annotatedText_read_without :
    eventsOf annotatedText = .ok annotatedTree.events ∧
      eventsOf plainText = .ok (stripped annotatedTree).events ∧
      (Document.ofBytes ⟨"x", 0⟩ plainText).map Document.unnumbered =
        (Document.ofBytes ⟨"x", 0⟩ annotatedText).map Document.unnumbered ∧
      Document.ofBytes ⟨"x", 0⟩ annotatedText =
        .ok ⟨⟨"x", 0⟩, none, [], [], [⟨.redefined, none, none, none⟩]⟩ := by
  have written := ok_of_toOption annotatedText_events
  have writtenToo := ok_of_toOption plainText_events
  refine ⟨written, writtenToo, (reading_ignores_annotations ⟨"x", 0⟩ annotatedTree).2
    annotatedText plainText written writtenToo, ?_⟩
  rw [Document.ofBytes, Markup.ofBytes_of_events written]
  rfl

end Schema

end SchemaSharp
