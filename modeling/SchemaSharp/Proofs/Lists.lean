import Mathlib.Data.List.Forall2
import SchemaSharp.Proofs.Result

/-!
Lists that are made of others, or go with them, item by item.
-/

namespace SchemaSharp

theorem exists_of_forall₂ {α β : Type} {holds : α → β → Prop} {firsts : List α} {seconds : List β}
    (related : List.Forall₂ holds firsts seconds) {second : β} (member : second ∈ seconds) :
    ∃ first ∈ firsts, holds first second := by
  induction related with
  | nil => cases member
  | cons here _ ih =>
      rcases List.mem_cons.mp member with rfl | later
      · exact ⟨_, by simp, here⟩
      · obtain ⟨first, listed, holds⟩ := ih later
        exact ⟨first, List.mem_cons_of_mem _ listed, holds⟩

theorem mapM_cons_eq_some {α β : Type} {outline : α → Option β} {first : α} {rest : List α}
    {outlines : List β} :
    (first :: rest).mapM outline = some outlines ↔
      ∃ head tail, outline first = some head ∧ rest.mapM outline = some tail ∧
        outlines = head :: tail := by
  rw [List.mapM_cons]
  constructor
  · intro computed
    obtain ⟨head, made, computed⟩ := Option.bind_eq_some_iff.mp computed
    obtain ⟨tail, others, computed⟩ := Option.bind_eq_some_iff.mp computed
    exact ⟨head, tail, made, others, (Option.some.inj computed).symm⟩
  · rintro ⟨head, tail, made, others, rfl⟩
    simp [made, others]

/-- What is computed item by item goes with the items. -/
theorem forall₂_of_mapM {α β : Type} {outline : α → Option β} {items : List α}
    {outlines : List β} (computed : items.mapM outline = some outlines) :
    List.Forall₂ (fun item made => outline item = some made) items outlines := by
  induction items generalizing outlines with
  | nil =>
      cases computed
      exact .nil
  | cons first rest ih =>
      obtain ⟨head, tail, one, others, rfl⟩ := mapM_cons_eq_some.mp computed
      exact .cons one (ih others)

theorem forall₂_of_mapM_ok {ε α β : Type} {compute : α → Except ε β} {items : List α}
    {results : List β} (computed : items.mapM compute = .ok results) :
    List.Forall₂ (fun item result => compute item = .ok result) items results := by
  induction items generalizing results with
  | nil =>
      cases computed
      exact .nil
  | cons first rest ih =>
      rw [List.mapM_cons] at computed
      obtain ⟨head, one, computed⟩ := ok_of_bind computed
      obtain ⟨tail, others, computed⟩ := ok_of_bind computed
      cases computed
      exact .cons one (ih others)

theorem mem_of_mapM {α β : Type} {outline : α → Option β} {items : List α} {outlines : List β}
    (computed : items.mapM outline = some outlines) {made : β} (member : made ∈ outlines) :
    ∃ item ∈ items, outline item = some made :=
  exists_of_forall₂ (forall₂_of_mapM computed) member

theorem exists_of_mapM {α β : Type} {outline : α → Option β} {items : List α} {outlines : List β}
    (computed : items.mapM outline = some outlines) {item : α} (member : item ∈ items) :
    ∃ made ∈ outlines, outline item = some made :=
  exists_of_forall₂ (forall₂_of_mapM computed).flip member

theorem mem_of_mapM_ok {ε α β : Type} {compute : α → Except ε β} {items : List α}
    {results : List β} (computed : items.mapM compute = .ok results) {result : β}
    (member : result ∈ results) : ∃ item ∈ items, compute item = .ok result :=
  exists_of_forall₂ (forall₂_of_mapM_ok computed) member

theorem mem_of_mem_intercalate {α : Type} {separator : List α} {parts : List (List α)} {item : α}
    (member : item ∈ separator.intercalate parts) :
    item ∈ separator ∨ ∃ part ∈ parts, item ∈ part := by
  induction parts with
  | nil => simp at member
  | cons part rest ih =>
      cases rest with
      | nil => exact .inr ⟨part, by simp, by simpa using member⟩
      | cons next others =>
          rw [List.intercalate_cons_cons, List.mem_append, List.mem_append] at member
          rcases member with (here | between) | later
          · exact .inr ⟨part, by simp, here⟩
          · exact .inl between
          · rcases ih later with between | ⟨other, listed, inside⟩
            · exact .inl between
            · exact .inr ⟨other, List.mem_cons_of_mem _ listed, inside⟩

end SchemaSharp
