import SchemaSharp.Schema.Model

/-!
The leaves of a content model: what its sequences hold, however deep they are nested, in the order
of the document. Flattening gives the elements among them as far as there is nothing else.
-/

namespace SchemaSharp.Schema

mutual

/-- The elements and the unsupported particles at any depth. -/
def Particle.leaves : Particle → List Particle
  | .element decl => [.element decl]
  | .sequence items => leavesAll items
  | .unsupported tag => [.unsupported tag]

def leavesAll : List Particle → List Particle
  | [] => []
  | item :: rest => item.leaves ++ leavesAll rest

end

def ContentModel.leaves : ContentModel → List Particle
  | .sequence items => leavesAll items
  | .unsupported tag => [.unsupported tag]

def ComplexType.leaves (type : ComplexType) : List Particle :=
  match type.model with
  | none => []
  | some model => model.leaves

/-- What can come of flattening: all leaves are elements, or one comes first that is none. -/
def Flattens (leaves : List Particle) : Except String (List ElementDecl) → Prop
  | .ok decls => leaves = decls.map .element
  | .error tag => ∃ (decls : List ElementDecl) (rest : List Particle),
      leaves = decls.map .element ++ .unsupported tag :: rest

theorem Flattens.append {front back : List Particle} {decls : List ElementDecl}
    {result : Except String (List ElementDecl)} (first : Flattens front (.ok decls))
    (second : Flattens back result) : Flattens (front ++ back) (result.map (decls ++ ·)) := by
  have elements : front = decls.map .element := first
  cases result with
  | ok others =>
      have later : back = others.map .element := second
      rw [elements, later, ← List.map_append]
      rfl
  | error tag =>
      obtain ⟨others, rest, later⟩ := second
      refine ⟨decls ++ others, rest, ?_⟩
      rw [elements, later, List.map_append, List.append_assoc]

theorem Flattens.append_right {front : List Particle} {tag : String}
    (first : Flattens front (.error tag)) (back : List Particle) :
    Flattens (front ++ back) (.error tag) := by
  obtain ⟨decls, rest, elements⟩ := first
  refine ⟨decls, rest ++ back, ?_⟩
  rw [elements, List.append_assoc, List.cons_append]

mutual

theorem Particle.flatten_leaves : (item : Particle) → Flattens item.leaves item.flatten
  | .element decl => rfl
  | .sequence items => by
      rw [Particle.leaves, Particle.flatten]
      exact flattenAll_leaves items
  | .unsupported tag => ⟨[], [], rfl⟩

theorem flattenAll_leaves : (items : List Particle) → Flattens (leavesAll items) (flattenAll items)
  | [] => rfl
  | item :: rest => by
      have first := item.flatten_leaves
      have others := flattenAll_leaves rest
      rw [leavesAll, flattenAll]
      cases flat : item.flatten with
      | error tag =>
          rw [flat] at first
          exact first.append_right _
      | ok decls =>
          rw [flat] at first
          have both := first.append others
          revert both
          cases flattenAll rest with
          | error tag => exact id
          | ok later => exact id

end

/-- Where flattening succeeds, the leaves are elements. -/
theorem Flattens.mem_iff {leaves : List Particle} {decls : List ElementDecl}
    (flat : Flattens leaves (.ok decls)) (decl : ElementDecl) :
    .element decl ∈ leaves ↔ decl ∈ decls := by
  have elements : leaves = decls.map .element := flat
  simp [elements]

theorem Flattens.supported {leaves : List Particle} {decls : List ElementDecl}
    (flat : Flattens leaves (.ok decls)) (tag : String) : .unsupported tag ∉ leaves := by
  have elements : leaves = decls.map .element := flat
  simp [elements]

end SchemaSharp.Schema
