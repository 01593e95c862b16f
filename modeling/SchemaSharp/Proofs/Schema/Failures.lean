import SchemaSharp.Proofs.Task
import SchemaSharp.Schema.Reader

/-!
How reading a document fails. The reader stops at the first fault, and what it reports is always
about the document that it reads: it names the location, or the encoding that nobody knows.
-/

namespace SchemaSharp

/-- What reading can find wrong with a document, in contrast to loading it and to looking its names
up. -/
def LoadFault.isReading : LoadFault → Bool
  | .malformed => true
  | .entityDeclared _ _ _ => true
  | .wrongRoot _ => true
  | .undeclaredLabel _ => true
  | .badOccurrence _ => true
  | _ => false

/-- What can be wrong inside of a schema, with the names and numbers in its attributes. -/
def LoadFault.isInside : LoadFault → Bool
  | .undeclaredLabel _ => true
  | .badOccurrence _ => true
  | _ => false

theorem LoadFault.isReading_of_inside {fault : LoadFault} (inside : fault.isInside) :
    fault.isReading := by
  cases fault <;> first | rfl | cases inside

/-- A fault inside of the schema at a location. -/
def Failure.IsInside (location : String) : Failure → Prop
  | .load fault place => fault.isInside ∧ place = location
  | _ => False

/-- A failure that is about the document at a location. -/
def Failure.Concerns (location : String) : Failure → Prop
  | .load fault place => fault.isReading ∧ place = location
  | .unsupported _ place => place = some location
  | .charset _ => True
  | _ => False

namespace Schema

open Markup (Element)

variable {location : String}

theorem resolveName_fails (node : Element) (value : Option String) :
    FailsOnly (·.IsInside location) (resolveName location node value) := by
  unfold resolveName
  split
  · exact failsOnly_ok _
  · split
    · exact failsOnly_ok _
    · split
      · exact failsOnly_ok _
      · exact failsOnly_error ⟨rfl, rfl⟩

theorem readBound_fails (text : String) :
    FailsOnly (·.IsInside location) (readBound location text) :=
  failsOnly_orFail fun _ => ⟨rfl, rfl⟩

theorem readOccurs_fails (node : Element) :
    FailsOnly (·.IsInside location) (readOccurs location node) := by
  unfold readOccurs
  dsimp only
  split
  · refine failsOnly_bind (failsOnly_ok 1) fun least => ?_
    split
    · exact failsOnly_ok _
    · exact failsOnly_ok _
    · exact failsOnly_bind (readBound_fails _) fun _ => failsOnly_ok _
  · refine failsOnly_bind (readBound_fails _) fun least => ?_
    split
    · exact failsOnly_ok _
    · exact failsOnly_ok _
    · exact failsOnly_bind (readBound_fails _) fun _ => failsOnly_ok _

variable {home : Home}

/-! ## Simple types -/

mutual

theorem readSimpleType_fails : (node : Element) →
    FailsOnly (·.IsInside home.location) (readSimpleType home node)
  | ⟨_, _, _, _, children⟩ => by
      unfold readSimpleType
      exact readSimpleBody_fails children _

theorem readSimpleBody_fails : (children : List Element) → (type : SimpleType) →
    FailsOnly (·.IsInside home.location) (readSimpleBody home children type)
  | [], type => by
      unfold readSimpleBody
      exact failsOnly_ok type
  | child :: rest, type => by
      unfold readSimpleBody
      have others := readSimpleBody_fails rest
      split
      · refine failsOnly_bind (resolveName_fails _ _) fun _ => ?_
        exact failsOnly_bind (readFacets_fails true child _) others
      · refine failsOnly_bind (resolveName_fails _ _) fun _ => ?_
        exact failsOnly_bind (readFacets_fails false child _) others
      · exact others _
      · exact others _

theorem readFacets_fails (enumerated : Bool) : (node : Element) → (type : SimpleType) →
    FailsOnly (·.IsInside home.location) (readFacets home enumerated node type)
  | ⟨_, _, _, _, children⟩, type => by
      unfold readFacets
      exact readFacetList_fails enumerated children type

theorem readFacetList_fails (enumerated : Bool) : (children : List Element) →
    (type : SimpleType) →
      FailsOnly (·.IsInside home.location) (readFacetList home enumerated children type)
  | [], type => by
      unfold readFacetList
      exact failsOnly_ok type
  | child :: rest, type => by
      unfold readFacetList
      have others := readFacetList_fails enumerated rest
      split
      · exact failsOnly_bind (readSimpleType_fails child) fun _ => others _
      · exact others _
      · exact others _

end

/-! ## Elements and complex types -/

mutual

theorem readElementDecl_fails : (node : Element) →
    FailsOnly (·.IsInside home.location) (readElementDecl home node)
  | ⟨_, _, _, _, children⟩ => by
      unfold readElementDecl
      refine failsOnly_bind (readOccurs_fails _) fun _ => ?_
      refine failsOnly_bind (resolveName_fails _ _) fun _ => ?_
      refine failsOnly_bind (resolveName_fails _ _) fun _ => ?_
      exact failsOnly_bind (readInlineType_fails _ children) fun _ => failsOnly_ok _

theorem readInlineType_fails (heading : Heading) : (children : List Element) →
    FailsOnly (·.IsInside home.location) (readInlineType home heading children)
  | [] => by
      unfold readInlineType
      exact failsOnly_ok _
  | child :: rest => by
      unfold readInlineType
      split
      · exact failsOnly_bind (readComplexType_fails _ child) fun _ => failsOnly_ok _
      · exact failsOnly_bind (readSimpleType_fails child) fun _ => failsOnly_ok _
      · exact readInlineType_fails heading rest

theorem readComplexType_fails (owner : Option Heading) : (node : Element) →
    FailsOnly (·.IsInside home.location) (readComplexType home owner node)
  | ⟨_, _, _, _, children⟩ => by
      unfold readComplexType
      exact readTypeBody_fails children _

theorem readTypeBody_fails : (children : List Element) → (type : ComplexType) →
    FailsOnly (·.IsInside home.location) (readTypeBody home children type)
  | [], type => by
      unfold readTypeBody
      exact failsOnly_ok type
  | child :: rest, type => by
      unfold readTypeBody
      have others := readTypeBody_fails rest
      split
      · exact failsOnly_bind (readContent_fails _ child type) others
      · exact failsOnly_bind (readContent_fails _ child type) others
      · exact failsOnly_bind (readItem_fails _ child type) others
      · exact others _

theorem readContent_fails (content : Content) : (node : Element) → (type : ComplexType) →
    FailsOnly (·.IsInside home.location) (readContent home content node type)
  | ⟨_, _, _, _, children⟩, type => by
      unfold readContent
      exact readDerivations_fails children _

theorem readDerivations_fails : (children : List Element) → (type : ComplexType) →
    FailsOnly (·.IsInside home.location) (readDerivations home children type)
  | [], type => by
      unfold readDerivations
      exact failsOnly_ok type
  | child :: rest, type => by
      unfold readDerivations
      have others := readDerivations_fails rest
      split
      · exact failsOnly_bind (readDerivation_fails _ child type) others
      · exact failsOnly_bind (readDerivation_fails _ child type) others
      · exact others _

theorem readDerivation_fails (derivation : Derivation) : (node : Element) → (type : ComplexType) →
    FailsOnly (·.IsInside home.location) (readDerivation home derivation node type)
  | ⟨_, _, _, _, children⟩, type => by
      unfold readDerivation
      exact failsOnly_bind (resolveName_fails _ _) fun _ => readItems_fails children _

theorem readItems_fails : (children : List Element) → (type : ComplexType) →
    FailsOnly (·.IsInside home.location) (readItems home children type)
  | [], type => by
      unfold readItems
      exact failsOnly_ok type
  | child :: rest, type => by
      unfold readItems
      have others := readItems_fails rest
      split
      · exact failsOnly_bind (readItem_fails _ child type) others
      · exact others _

theorem readItem_fails (tag : String) : (node : Element) → (type : ComplexType) →
    FailsOnly (·.IsInside home.location) (readItem home tag node type)
  | ⟨_, _, _, _, children⟩, type => by
      unfold readItem
      -- Only a sequence is read any further.
      split
      · exact failsOnly_bind (readParticles_fails children) fun _ => failsOnly_ok _
      all_goals exact failsOnly_ok _

theorem readParticles_fails : (children : List Element) →
    FailsOnly (·.IsInside home.location) (readParticles home children)
  | [] => by
      unfold readParticles
      exact failsOnly_ok _
  | child :: rest => by
      unfold readParticles
      have others := readParticles_fails rest
      split
      · exact others
      · refine failsOnly_bind (readElementDecl_fails child) fun _ => ?_
        exact failsOnly_bind others fun _ => failsOnly_ok _
      · refine failsOnly_bind (readSequence_fails child) fun _ => ?_
        exact failsOnly_bind others fun _ => failsOnly_ok _
      · exact failsOnly_bind others fun _ => failsOnly_ok _

theorem readSequence_fails : (node : Element) →
    FailsOnly (·.IsInside home.location) (readSequence home node)
  | ⟨_, _, _, _, children⟩ => by
      unfold readSequence
      exact readParticles_fails children

end

/-! ## Documents -/

/-- A reference to another document of which it redefines something. -/
def Redefines (node : Element) : Prop :=
  relevantTag? node = some "redefine" ∧ node.children.any fun child => (relevantTag? child).isSome

/-- Reading these nodes may fail for what they hold, or for what they redefine. -/
def OwnFailure (location : String) (nodes : List Element) (failure : Failure) : Prop :=
  failure.IsInside location ∨
    failure = .unsupported .redefinition (some location) ∧ ∃ node ∈ nodes, Redefines node

theorem readReference_fails {kind : ReferenceKind} {tag : String} {node : Element}
    (tagged : relevantTag? node = some tag) (known : referenceKind? tag = some kind) :
    FailsOnly (OwnFailure location [node]) (readReference location kind node) := by
  unfold readReference
  split
  · next redefines =>
      simp only [Bool.and_eq_true, beq_iff_eq] at redefines
      obtain ⟨rfl, inside⟩ := redefines
      have redefine : tag = "redefine" := by
        unfold referenceKind? at known
        split at known <;> simp_all
      rw [redefine] at tagged
      exact failsOnly_error (.inr ⟨rfl, node, List.mem_singleton_self node, tagged, inside⟩)
  · exact failsOnly_ok _

theorem readDeclaration_fails (node : Element) (document : Document) :
    FailsOnly (OwnFailure home.location [node]) (readDeclaration home node document) := by
  have reading {α : Type} {result : Except Failure α}
      (fails : FailsOnly (·.IsInside home.location) result) :
      FailsOnly (OwnFailure home.location [node]) result := fails.of_imp fun _ => .inl
  unfold readDeclaration
  split
  · exact failsOnly_ok _
  · exact failsOnly_bind (reading (readElementDecl_fails node)) fun _ => failsOnly_ok _
  · exact failsOnly_bind (reading (readComplexType_fails none node)) fun _ => failsOnly_ok _
  · exact failsOnly_bind (reading (readSimpleType_fails node)) fun _ => failsOnly_ok _
  · next tagged =>
      split
      · next known =>
          exact failsOnly_bind (readReference_fails tagged known) fun _ => failsOnly_ok _
      · exact failsOnly_ok _

theorem OwnFailure.of_subset {nodes others : List Element} {failure : Failure}
    (own : OwnFailure location nodes failure) (inside : nodes ⊆ others) :
    OwnFailure location others failure :=
  own.imp_right fun ⟨same, node, listed, redefines⟩ => ⟨same, node, inside listed, redefines⟩

theorem readTopLevel_fails (nodes : List Element) (document : Document) :
    FailsOnly (OwnFailure home.location nodes) (readTopLevel home nodes document) := by
  induction nodes generalizing document with
  | nil => exact failsOnly_ok _
  | cons node rest ih =>
      have first : FailsOnly (OwnFailure home.location (node :: rest))
          (readDeclaration home node document) :=
        (readDeclaration_fails node document).of_imp fun _ own => own.of_subset (by simp)
      refine failsOnly_bind first fun middle => ?_
      exact (ih middle).of_imp fun _ own => own.of_subset (List.subset_cons_self node rest)

theorem ofTree_fails {root : Element} (schema : tagOf? root = some "schema") :
    FailsOnly (OwnFailure home.location root.children) (Document.ofTree home root) := by
  unfold Document.ofTree
  rw [if_pos (by simpa using schema)]
  exact readTopLevel_fails _ _

theorem ofTree_wrongRoot {root : Element} (other : tagOf? root ≠ some "schema") :
    Document.ofTree home root =
      .error (.load (.wrongRoot (tagText root.name)) home.location) := by
  unfold Document.ofTree
  rw [if_neg (by simpa using other)]

theorem OwnFailure.concerns {nodes : List Element} {failure : Failure}
    (own : OwnFailure location nodes failure) : failure.Concerns location := by
  rcases own with inside | ⟨rfl, _⟩
  · cases failure with
    | load fault place => exact ⟨LoadFault.isReading_of_inside inside.1, inside.2⟩
    | _ => exact inside.elim
  · exact rfl

theorem ofMarkup_concerns (fault : Markup.Fault) :
    (Failure.ofMarkup location fault).Concerns location := by
  cases fault <;> simp [Failure.ofMarkup, Failure.Concerns, LoadFault.isReading]

/-- Whatever is wrong with a document, the failure is about that document. -/
theorem ofBytes_fails (home : Home) (content : List UInt8) :
    FailsOnly (·.Concerns home.location) (Document.ofBytes home content) := by
  refine failsOnly_bind (failsOnly_orFail ofMarkup_concerns) fun root => ?_
  by_cases schema : tagOf? root = some "schema"
  · exact (ofTree_fails schema).of_imp fun _ own => own.concerns
  · rw [ofTree_wrongRoot schema]
    exact failsOnly_error ⟨rfl, rfl⟩

end Schema

end SchemaSharp
