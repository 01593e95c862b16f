import SchemaSharp.Proofs.Lists
import SchemaSharp.Proofs.Schema.Content

/-!
Where the types of a document are written. A type that is written inside an element knows the name
of that element, at any depth, and every leaf of a content model that is an element was read as one.
-/

namespace SchemaSharp.Schema

open Markup (Element)

variable {home : Home}

/-! ## Owners -/

theorem readItem_owner {tag : String} {node : Element} {before after : ComplexType}
    (read : readItem home tag node before = .ok after) : after.owner = before.owner := by
  obtain ⟨name, attributes, scope, ordinal, children⟩ := node
  unfold readItem at read
  split at read
  · obtain ⟨items, _, read⟩ := ok_of_bind read
    cases read
    rfl
  all_goals
    cases read
    rfl

theorem owner_builds (home : Home) :
    Builds home fun _ before after => after.owner = before.owner where
  nothing _ := rfl
  around inner _ _ owner := inner.trans owner
  append first second := second.trans first
  item := readItem_owner

theorem readComplexType_owner {owner : Option Heading} {node : Element} {type : ComplexType}
    (read : readComplexType home owner node = .ok type) : type.owner = owner := by
  obtain ⟨name, attributes, scope, ordinal, children⟩ := node
  rw [readComplexType] at read
  exact readTypeBody_builds (owner_builds home) read

/-! ## Elements -/

theorem readInlineType_read {heading : Heading} {nodes : List Element} {type : ComplexType}
    (read : readInlineType home heading nodes = .ok (some (.complex type))) :
    ∃ node, readComplexType home (some heading) node = .ok type := by
  induction nodes with
  | nil => cases read
  | cons node rest ih =>
      rw [readInlineType] at read
      split at read
      · obtain ⟨decl, inner, read⟩ := ok_of_bind read
        cases read
        exact ⟨node, inner⟩
      · obtain ⟨decl, _, read⟩ := ok_of_bind read
        cases read
      · exact ih read

/-- The type inside an element was read as one that belongs to this element. -/
theorem readElementDecl_inline {node : Element} {decl : ElementDecl} {type : ComplexType}
    (read : readElementDecl home node = .ok decl)
    (inline : decl.inlineType = some (.complex type)) :
    ∃ child, readComplexType home (some decl.heading) child = .ok type := by
  obtain ⟨name, attributes, scope, ordinal, children⟩ := node
  rw [readElementDecl] at read
  obtain ⟨⟨least, greatest⟩, _, read⟩ := ok_of_bind read
  obtain ⟨ref, _, read⟩ := ok_of_bind read
  obtain ⟨typeRef, _, read⟩ := ok_of_bind read
  obtain ⟨inlineType, inner, read⟩ := ok_of_bind read
  cases read
  cases inline
  exact readInlineType_read inner

/-- An element among the leaves of a type was read from a node. -/
theorem exists_node_of_leaf {owner : Option Heading} {node : Element} {type : ComplexType}
    {decl : ElementDecl} (read : readComplexType home owner node = .ok type)
    (leaf : .element decl ∈ type.leaves) : ∃ child, readElementDecl home child = .ok decl := by
  obtain ⟨part, _, represents⟩ := exists_of_forall₂ (readComplexType_leaves read) leaf
  cases represents with
  | @element child _ read => exact ⟨child, read⟩

/-! ## Documents -/

/-- Every declaration of the document was read from a node. -/
structure Document.Written (home : Home) (document : Document) : Prop where
  elements : ∀ decl ∈ document.elements, ∃ node, readElementDecl home node = .ok decl
  types : ∀ type, .complex type ∈ document.types →
    ∃ node, readComplexType home none node = .ok type

theorem readDeclaration_written {node : Element} {before after : Document}
    (read : readDeclaration home node before = .ok after) (written : before.Written home) :
    after.Written home := by
  unfold readDeclaration at read
  split at read
  · cases read
    exact written
  · obtain ⟨decl, inner, read⟩ := ok_of_bind read
    cases read
    have one : ∀ other ∈ [decl], ∃ node, readElementDecl home node = .ok other :=
      List.forall_mem_singleton.mpr ⟨node, inner⟩
    exact ⟨List.forall_mem_append.mpr ⟨written.elements, one⟩, written.types⟩
  · obtain ⟨decl, inner, read⟩ := ok_of_bind read
    cases read
    refine ⟨written.elements, fun other member => ?_⟩
    rcases List.mem_append.mp member with earlier | new
    · exact written.types other earlier
    · cases List.mem_singleton.mp new
      exact ⟨node, inner⟩
  · -- a simple type is no complex one
    obtain ⟨decl, _, read⟩ := ok_of_bind read
    cases read
    exact ⟨written.elements, fun other member => written.types other (by simpa using member)⟩
  · split at read
    · obtain ⟨reference, _, read⟩ := ok_of_bind read
      cases read
      exact ⟨written.elements, written.types⟩
    · cases read
      exact written

theorem readTopLevel_written {nodes : List Element} {before after : Document}
    (read : readTopLevel home nodes before = .ok after) (written : before.Written home) :
    after.Written home := by
  induction nodes generalizing before with
  | nil =>
      cases read
      exact written
  | cons node rest ih =>
      obtain ⟨middle, first, read⟩ := ok_of_bind read
      exact ih read (readDeclaration_written first written)

theorem ofBytes_written {content : List UInt8} {document : Document}
    (read : Document.ofBytes home content = .ok document) : document.Written home := by
  obtain ⟨root, _, read⟩ := ok_of_bind read
  unfold Document.ofTree at read
  split at read
  · exact readTopLevel_written read ⟨by simp, by simp⟩
  · cases read

end SchemaSharp.Schema
