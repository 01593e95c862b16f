import Mathlib.Data.List.Nodup
import Mathlib.Data.List.Perm.Basic
import SchemaSharp.Markup.Element

/-!
The numbers of the elements of a tree. An element gets its number when it begins, and numbers only
go up, so that no two elements of a tree have the same one, whatever the order of the events.
-/

namespace SchemaSharp.Markup

mutual

/-- The numbers of an element and of everything in it. -/
def Element.ordinals : Element → List Nat
  | ⟨_, _, _, ordinal, children⟩ => ordinal :: ordinalsAll children

def ordinalsAll : List Element → List Nat
  | [] => []
  | element :: rest => element.ordinals ++ ordinalsAll rest

end

theorem ordinals_eq (element : Element) :
    element.ordinals = element.ordinal :: ordinalsAll element.children := by
  cases element
  rw [Element.ordinals]

theorem ordinalsAll_append (left right : List Element) :
    ordinalsAll (left ++ right) = ordinalsAll left ++ ordinalsAll right := by
  induction left with
  | nil => rfl
  | cons element rest ih => simp [ordinalsAll, ih]

theorem ordinalsAll_reverse (elements : List Element) :
    (ordinalsAll elements.reverse).Perm (ordinalsAll elements) := by
  induction elements with
  | nil => exact List.Perm.refl _
  | cons element rest ih =>
      rw [List.reverse_cons, ordinalsAll_append]
      refine (List.perm_append_comm).trans ?_
      simpa [ordinalsAll] using ih.append_left element.ordinals

namespace Element

def Begun.ordinals (begun : Begun) : List Nat := begun.ordinal :: ordinalsAll begun.children

theorem finish_ordinals (begun : Begun) : begun.finish.ordinals.Perm begun.ordinals := by
  rw [ordinals_eq]
  exact (ordinalsAll_reverse begun.children).cons begun.ordinal

/-- The numbers given so far, as far as they are still open. -/
def Building.ordinals (building : Building) : List Nat :=
  building.openElements.flatMap Begun.ordinals

/-- No number is given twice, and those to come are larger. -/
structure Building.Numbered (building : Building) : Prop where
  nodup : building.ordinals.Nodup
  below : ∀ ordinal ∈ building.ordinals, ordinal < building.count
  root : ∀ root, building.root = some root → root.ordinals.Nodup

theorem start_numbered : Building.start.Numbered :=
  ⟨List.nodup_nil, fun _ member => absurd member List.not_mem_nil, fun _ found => nomatch found⟩

theorem opened_numbered (building : Building) (name : ExpandedName) (attributes : List Attribute)
    (numbered : building.Numbered) : (building.step (.opened name attributes)).Numbered := by
  have fresh : building.count ∉ building.ordinals := by
    intro member
    exact Nat.lt_irrefl _ (numbered.below _ member)
  constructor
  · exact List.nodup_cons.mpr ⟨fresh, numbered.nodup⟩
  · intro ordinal member
    rcases List.mem_cons.mp member with same | old
    · exact same ▸ Nat.lt_succ_self _
    · exact Nat.lt_succ_of_lt (numbered.below ordinal old)
  · exact numbered.root

theorem closed_numbered (building : Building) (numbered : building.Numbered) :
    (building.step .closed).Numbered := by
  obtain ⟨nodup, below, root⟩ := numbered
  cases opened : building.openElements with
  | nil => simpa [Building.step, opened] using Building.Numbered.mk nodup below root
  | cons innermost outer =>
      cases outer with
      | nil =>
          have alone : building.ordinals = innermost.ordinals := by
            simp [Building.ordinals, opened]
          simp only [Building.step, opened]
          refine ⟨List.nodup_nil, fun _ member => absurd member List.not_mem_nil, ?_⟩
          rintro _ ⟨⟩
          exact (finish_ordinals innermost).nodup_iff.mpr (alone ▸ nodup)
      | cons parent rest =>
          -- The numbers of the ended element move below its parent; none is added or lost.
          have moved : (building.step .closed).ordinals.Perm building.ordinals := by
            simp only [Building.ordinals, Building.step, opened, List.flatMap_cons]
            rw [← List.append_assoc]
            refine List.Perm.append_right _ ?_
            simp only [Begun.ordinals, ordinalsAll]
            have inner := finish_ordinals innermost
            exact ((inner.append_right _).cons _).trans List.perm_middle.symm
          refine ⟨moved.nodup_iff.mpr nodup, fun ordinal member => ?_, ?_⟩
          · have count : (building.step .closed).count = building.count := by
              simp [Building.step, opened]
            exact count ▸ below ordinal (moved.mem_iff.mp member)
          · have same : (building.step .closed).root = building.root := by
              simp [Building.step, opened]
            exact same ▸ root

theorem step_numbered (building : Building) (event : Event) (numbered : building.Numbered) :
    (building.step event).Numbered := by
  cases event with
  | declare label uri => exact ⟨numbered.nodup, numbered.below, numbered.root⟩
  | opened name attributes => exact opened_numbered building name attributes numbered
  | closed => exact closed_numbered building numbered

theorem foldl_numbered (events : List Event) (building : Building)
    (numbered : building.Numbered) : (events.foldl Building.step building).Numbered := by
  induction events generalizing building with
  | nil => exact numbered
  | cons event rest ih => exact ih _ (step_numbered building event numbered)

/-- Every element of a document has a number of its own. -/
theorem ofBytes_nodup {bytes : List UInt8} {root : Element} (read : ofBytes bytes = .ok root) :
    root.ordinals.Nodup := by
  unfold ofBytes at read
  split at read
  · cases read
  · rename_i events _
    split at read
    · rename_i found
      cases read
      exact (foldl_numbered events _ start_numbered).root _ found
    · cases read

end Element

end SchemaSharp.Markup
