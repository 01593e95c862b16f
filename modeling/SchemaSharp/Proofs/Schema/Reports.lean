import SchemaSharp.Proofs.Lists
import SchemaSharp.Proofs.Markup.Cut.Bytes
import SchemaSharp.Proofs.Schema.Content
import SchemaSharp.Proofs.Schema.Failures

/-!
What is reported of bytes that should be a schema document. Every fault of the document is reported
with its location, or as a redefinition that is not supported; only an encoding that cannot be read
is reported in words of its own. A document that was cut off is read as the whole one or refused,
and none is read whose root is no schema or that bounds the occurrences of an element by no number.
-/

namespace SchemaSharp.Schema

open Markup (Element)

/-! ## Bounds -/

/-- The bounds on the occurrences of an element are integers if given, but for the upper one that
says there is none. -/
structure ReadableBounds (node : Element) : Prop where
  least : ∀ text, node.attribute? "minOccurs" = some text →
    ∃ bound, Text.readInteger text = .ok bound
  greatest : ∀ text, node.attribute? "maxOccurs" = some text → text ≠ "unbounded" →
    ∃ bound, Text.readInteger text = .ok bound

theorem readOccurs_readable {location : String} {node : Element} {bounds : Int × Option Int}
    (read : readOccurs location node = .ok bounds) : ReadableBounds node := by
  unfold readOccurs at read
  dsimp only at read
  constructor
  · intro text given
    rw [given] at read
    obtain ⟨bound, first, _⟩ := ok_of_bind read
    exact ⟨bound, ok_of_orFail first⟩
  · intro text given bounded
    rw [given] at read
    -- whatever the least number is, the greatest is read after it
    split at read
    all_goals
      obtain ⟨_, _, read⟩ := ok_of_bind read
      split at read
      · next none => cases none
      · next same => exact absurd (Option.some.inj same) bounded
      · next same =>
          cases same
          obtain ⟨bound, second, _⟩ := ok_of_bind read
          exact ⟨bound, ok_of_orFail second⟩

/-- The type that is written inside of an element; of several it is the first. -/
def inlinePart? (node : Element) : Option Part :=
  (parts node.children).find? fun part => part.1 == "complexType" || part.1 == "simpleType"

/-- The element is read where the part is: an element with the type inside of it, a type with the
sequences in its content, and a sequence with its items. -/
inductive Holds : Part → Element → Prop where
  | own (node : Element) : Holds ("element", node) node
  | inline {node type inner : Element} (first : inlinePart? node = some ("complexType", type))
      (inside : Holds ("complexType", type) inner) : Holds ("element", node) inner
  | content {type inner : Element} {item : Part} (listed : item ∈ contentItems type)
      (sequence : item.1 = "sequence") (inside : Holds item inner) :
      Holds ("complexType", type) inner
  | item {node inner : Element} {part : Part} (listed : part ∈ parts node.children)
      (particle : part.1 = "element" ∨ part.1 = "sequence") (inside : Holds part inner) :
      Holds ("sequence", node) inner

/-- The part was read without a fault. -/
structure Understood (home : Home) (part : Part) : Prop where
  type : part.1 = "complexType" → ∃ owner type, readComplexType home owner part.2 = .ok type
  particle : part.1 ≠ "complexType" → ∃ particle, Represents home part particle

theorem readInlineType_first {home : Home} {heading : Heading} {nodes : List Element}
    {type : Element} {decl : Option TypeDecl}
    (read : readInlineType home heading nodes = .ok decl)
    (first : (parts nodes).find? (fun part => part.1 == "complexType" || part.1 == "simpleType") =
      some ("complexType", type)) :
    ∃ owner complex, readComplexType home owner type = .ok complex := by
  induction nodes with
  | nil => cases first
  | cons node rest ih =>
      rw [readInlineType] at read
      split at read
      · next tagged =>
          rw [parts_cons_some tagged] at first
          cases first
          obtain ⟨complex, inner, _⟩ := ok_of_bind read
          exact ⟨_, complex, inner⟩
      · next tagged =>
          rw [parts_cons_some tagged] at first
          simp at first
      · next complex simple =>
          apply ih read
          cases tagged : relevantTag? node with
          | none => rwa [parts_cons_none tagged] at first
          | some tag =>
              rw [parts_cons_some tagged, List.find?_cons_of_neg] at first
              · exact first
              · simp only [Bool.or_eq_true, beq_iff_eq, not_or]
                exact ⟨fun same => complex (same ▸ tagged), fun same => simple (same ▸ tagged)⟩

variable {home : Home}

theorem Represents.element_read {part : Part} {particle : Particle}
    (represents : Represents home part particle) (tagged : part.1 = "element") :
    ∃ decl, readElementDecl home part.2 = .ok decl := by
  cases represents with
  | element read => exact ⟨_, read⟩
  | sequence _ => simp at tagged
  | unsupported other => exact absurd tagged other.1

theorem Represents.sequence_each {part : Part} {particle : Particle}
    (represents : Represents home part particle) (tagged : part.1 = "sequence") :
    ∃ items, List.Forall₂ (Represents home) (parts part.2.children) items := by
  cases represents with
  | element _ => simp at tagged
  | sequence each => exact ⟨_, each⟩
  | unsupported other => exact absurd tagged other.2

theorem Understood.element_read {node : Element} (understood : Understood home ("element", node)) :
    ∃ decl, readElementDecl home node = .ok decl := by
  obtain ⟨particle, represents⟩ := understood.particle (by simp)
  exact represents.element_read rfl

/-- The bounds come first in an element, before its names and its type. -/
theorem Understood.own {node : Element} (understood : Understood home ("element", node)) :
    ReadableBounds node := by
  obtain ⟨decl, read⟩ := understood.element_read
  obtain ⟨name, attributes, scope, ordinal, children⟩ := node
  obtain ⟨bounds, first, _⟩ := ok_of_bind read
  exact readOccurs_readable first

theorem Understood.inline {node type : Element} (understood : Understood home ("element", node))
    (first : inlinePart? node = some ("complexType", type)) :
    Understood home ("complexType", type) := by
  obtain ⟨decl, read⟩ := understood.element_read
  obtain ⟨name, attributes, scope, ordinal, children⟩ := node
  obtain ⟨bounds, _, read⟩ := ok_of_bind read
  obtain ⟨ref, _, read⟩ := ok_of_bind read
  obtain ⟨typeRef, _, read⟩ := ok_of_bind read
  obtain ⟨inlineType, inside, _⟩ := ok_of_bind read
  exact ⟨fun _ => readInlineType_first inside first, fun other => absurd rfl other⟩

theorem Understood.content {type : Element} {item : Part}
    (understood : Understood home ("complexType", type)) (listed : item ∈ contentItems type)
    (sequence : item.1 = "sequence") : Understood home item := by
  obtain ⟨owner, complex, read⟩ := understood.type rfl
  obtain ⟨name, attributes, scope, ordinal, children⟩ := type
  rw [readComplexType] at read
  have parts := readTypeBody_builds (readsParts_builds home) read
  have represents := parts.sequences item listed sequence
  exact ⟨fun same => by simp [sequence] at same, fun _ => represents⟩

theorem Understood.item {node : Element} {part : Part}
    (understood : Understood home ("sequence", node)) (listed : part ∈ parts node.children)
    (kind : part.1 = "element" ∨ part.1 = "sequence") : Understood home part := by
  obtain ⟨sequence, represents⟩ := understood.particle (by simp)
  obtain ⟨items, each⟩ := represents.sequence_each rfl
  obtain ⟨particle, _, represents⟩ := exists_of_forall₂ each.flip listed
  exact ⟨fun same => by simp [same] at kind, fun _ => ⟨particle, represents⟩⟩

/-- Where a part is read, so are the bounds of all elements in it. -/
theorem Understood.bounds {part : Part} {node : Element}
    (understood : Understood home part) (holds : Holds part node) : ReadableBounds node := by
  induction holds with
  | own node => exact understood.own
  | inline first _ ih => exact ih (understood.inline first)
  | content listed sequence _ ih => exact ih (understood.content listed sequence)
  | item listed particle _ ih => exact ih (understood.item listed particle)

/-! ## Documents -/

/-- The element is read in the document, wherever it stands. -/
def HoldsElement (root node : Element) : Prop :=
  ∃ part ∈ parts root.children,
    (part.1 = "element" ∨ part.1 = "complexType") ∧ Holds part node

theorem mem_parts {nodes : List Element} {part : Part} :
    part ∈ parts nodes ↔ part.2 ∈ nodes ∧ relevantTag? part.2 = some part.1 := by
  obtain ⟨tag, node⟩ := part
  simp [parts]

theorem readDeclaration_understood {node : Element} {before after : Document}
    {tag : String} (read : readDeclaration home node before = .ok after)
    (tagged : relevantTag? node = some tag) (kind : tag = "element" ∨ tag = "complexType") :
    Understood home (tag, node) := by
  unfold readDeclaration at read
  rw [tagged] at read
  rcases kind with rfl | rfl
  · obtain ⟨decl, inner, _⟩ := ok_of_bind read
    exact ⟨fun same => by simp at same, fun _ => ⟨_, .element inner⟩⟩
  · obtain ⟨type, inner, _⟩ := ok_of_bind read
    exact ⟨fun _ => ⟨_, type, inner⟩, fun other => absurd rfl other⟩

theorem readTopLevel_understood {nodes : List Element} {before after : Document}
    (read : readTopLevel home nodes before = .ok after) {part : Part} (listed : part ∈ parts nodes)
    (kind : part.1 = "element" ∨ part.1 = "complexType") : Understood home part := by
  obtain ⟨member, tagged⟩ := mem_parts.mp listed
  induction nodes generalizing before with
  | nil => cases member
  | cons node rest ih =>
      obtain ⟨middle, first, read⟩ := ok_of_bind read
      rcases List.mem_cons.mp member with rfl | later
      · exact readDeclaration_understood first tagged kind
      · exact ih read (mem_parts.mpr ⟨later, tagged⟩) later

/-! ## Reports -/

/-- What is wrong with the encoding that a document names. -/
def charsetFault? (content : List UInt8) : Option CharsetFault :=
  (Markup.declaredEncoding? content).bind Markup.encodingFault?

/-- The failures that reading a document may end in: a fault of the document, with its location, or
that it redefines something. -/
def OwnError (location : String) (content : List UInt8) (failure : Failure) : Prop :=
  (∃ fault, fault.isReading ∧ failure = .load fault location) ∨
    failure = .unsupported .redefinition (some location) ∧
      ∃ root, Element.ofBytes content = .ok root ∧ ∃ node ∈ root.children, Redefines node

variable {content : List UInt8} {root : Element}

theorem OwnFailure.ownError {failure : Failure} (parsed : Element.ofBytes content = .ok root)
    (own : OwnFailure home.location root.children failure) :
    OwnError home.location content failure := by
  rcases own with inside | ⟨rfl, redefines⟩
  · cases failure with
    | load fault place =>
        obtain ⟨inside, rfl⟩ := inside
        exact .inl ⟨fault, LoadFault.isReading_of_inside inside, rfl⟩
    | _ => exact inside.elim
  · exact .inr ⟨rfl, root, parsed, redefines⟩

theorem OwnError.ne_charset {location : String} {fault : CharsetFault} :
    ¬ OwnError location content (.charset fault) := by
  rintro (⟨_, _, same⟩ | ⟨same, _⟩) <;> cases same

theorem ofMarkup_eq_load (location : String) {fault : Markup.Fault} (markup : fault.isMarkup) :
    ∃ loading, loading.isReading ∧ Failure.ofMarkup location fault = .load loading location := by
  cases fault with
  | malformed => exact ⟨.malformed, rfl, rfl⟩
  | entityDeclared name systemId publicId =>
      exact ⟨.entityDeclared name systemId publicId, rfl, rfl⟩
  | _ => cases markup

theorem ofMarkup_ofCharset {location : String} (fault : CharsetFault) :
    Failure.ofMarkup location (.ofCharset fault) = .charset fault := by
  cases fault <;> rfl

theorem ofBytes_parsed (parsed : Element.ofBytes content = .ok root) :
    Document.ofBytes home content = Document.ofTree home root := by
  rw [Document.ofBytes, parsed]
  rfl

theorem ofBytes_failed {fault : Markup.Fault} (failed : Element.ofBytes content = .error fault) :
    Document.ofBytes home content = .error (Failure.ofMarkup home.location fault) := by
  rw [Document.ofBytes, failed]
  rfl

theorem ofTree_ownError (parsed : Element.ofBytes content = .ok root) :
    FailsOnly (OwnError home.location content) (Document.ofTree home root) := by
  by_cases schema : tagOf? root = some "schema"
  · exact (ofTree_fails schema).of_imp fun _ own => own.ownError parsed
  · rw [ofTree_wrongRoot schema]
    exact failsOnly_error (.inl ⟨_, rfl, rfl⟩)

theorem ofBytes_charset {fault : CharsetFault} (wrong : charsetFault? content = some fault) :
    Document.ofBytes home content = .error (.charset fault) := by
  rw [ofBytes_failed (Element.ofBytes_fails_iff.mpr wrong), ofMarkup_ofCharset]

theorem ofBytes_ownError (known : charsetFault? content = none) :
    FailsOnly (OwnError home.location content) (Document.ofBytes home content) := by
  cases parsed : Element.ofBytes content with
  | ok root =>
      rw [ofBytes_parsed parsed]
      exact ofTree_ownError parsed
  | error fault =>
      rw [ofBytes_failed parsed]
      rcases fault.isMarkup_or_ofCharset with markup | ⟨other, rfl⟩
      · obtain ⟨loading, reading, same⟩ := ofMarkup_eq_load home.location markup
        exact failsOnly_error (.inl ⟨loading, reading, same⟩)
      · have wrong := Element.ofBytes_fails_iff.mp parsed
        cases known.symm.trans wrong

/-- A part of a document is read as the whole one, or it is a faulty document. -/
theorem ofBytes_prefix {front : List UInt8} (parsed : Element.ofBytes content = .ok root)
    (part : front <+: content) :
    Document.ofBytes home front = Document.ofBytes home content ∨
      ∃ fault, fault.isReading ∧
        Document.ofBytes home front = .error (.load fault home.location) := by
  rcases Element.ofBytes_prefix part parsed with same | ⟨fault, markup, failed⟩
  · exact .inl ((ofBytes_parsed same).trans (ofBytes_parsed parsed).symm)
  · obtain ⟨loading, reading, same⟩ := ofMarkup_eq_load home.location markup
    exact .inr ⟨loading, reading, by rw [ofBytes_failed failed, same]⟩

theorem ofBytes_wrongRoot_iff (parsed : Element.ofBytes content = .ok root) :
    Document.ofBytes home content =
        .error (.load (.wrongRoot (tagText root.name)) home.location) ↔
      tagOf? root ≠ some "schema" := by
  rw [ofBytes_parsed parsed]
  constructor
  · intro failed schema
    rcases ofTree_fails schema _ failed with ⟨inside, _⟩ | ⟨same, _⟩
    · cases inside
    · cases same
  · exact ofTree_wrongRoot

theorem ofBytes_bounds {document : Document} (parsed : Element.ofBytes content = .ok root)
    (read : Document.ofBytes home content = .ok document) {node : Element}
    (holds : HoldsElement root node) : ReadableBounds node := by
  obtain ⟨part, listed, kind, inside⟩ := holds
  rw [ofBytes_parsed parsed] at read
  unfold Document.ofTree at read
  split at read
  · exact (readTopLevel_understood read listed kind).bounds inside
  · cases read

/-- A schema with an element that is to occur `x` times. -/
def unnumberedContent : List UInt8 :=
  Text.Utf8.encode ("<s:schema xmlns:s='http://www.w3.org/2001/XMLSchema'>" ++
    "<s:element name='a' minOccurs='x'/></s:schema>").toList

/-- An empty schema in an encoding that nobody knows. -/
def misnamedContent : List UInt8 :=
  Text.Utf8.encode ("<?xml version='1.0' encoding='nope'?>" ++
    "<xs:schema xmlns:xs='http://www.w3.org/2001/XMLSchema'/>").toList

end SchemaSharp.Schema
