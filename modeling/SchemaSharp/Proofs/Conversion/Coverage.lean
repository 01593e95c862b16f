import SchemaSharp.Proofs.Conversion.Documents

/-!
What the outlines of a document cover. There is a class for every complex type of the document,
top-level or written inside a member, under the name by which its user knows it, and whatever such a
class uses the document uses.
-/

namespace SchemaSharp.Conversion

open Schema (ComplexType ElementDecl TypeDecl Document)

variable {job : Job} {store : Store}

/-- The waiting type has a class of the name it was given. -/
def Outlined (job : Job) (store : Store) (outlines : List ClassOutline) :
    ComplexType × String → Prop
  | (type, name) => ∃ outline ∈ outlines,
      classOutline? job store type (type.owner.bind (·.name)) (some name) = some outline

/-- Each outline is that of a class, and whatever a class leaves waiting has an outline as well. -/
structure Covered (job : Job) (store : Store) (outlines : List ClassOutline) : Prop where
  made : ∀ outline ∈ outlines, ∃ name className,
    classOutline? job store outline.type name className = some outline
  waiting : ∀ outline ∈ outlines, ∀ pair ∈ outline.waiting, Outlined job store outlines pair

theorem Outlined.mono {outlines larger : List ClassOutline} {pair : ComplexType × String}
    (outlined : Outlined job store outlines pair)
    (subset : ∀ outline ∈ outlines, outline ∈ larger) : Outlined job store larger pair := by
  obtain ⟨outline, member, made⟩ := outlined
  exact ⟨outline, subset outline member, made⟩

theorem Covered.flatten {groups : List (List ClassOutline)}
    (each : ∀ outlines ∈ groups, Covered job store outlines) :
    Covered job store groups.flatten := by
  constructor
  · intro outline member
    obtain ⟨outlines, listed, inside⟩ := List.mem_flatten.mp member
    exact (each outlines listed).made outline inside
  · intro outline member pair left
    obtain ⟨outlines, listed, inside⟩ := List.mem_flatten.mp member
    exact ((each outlines listed).waiting outline inside pair left).mono fun other found =>
      List.mem_flatten.mpr ⟨outlines, listed, found⟩

theorem Covered.nil : Covered job store [] := by
  constructor
  · simp
  · simp

theorem Outlined.later {first : ClassOutline} {others : List ClassOutline}
    {pair : ComplexType × String} (outlined : Outlined job store others pair) :
    Outlined job store (first :: others) pair :=
  outlined.mono fun _ member => List.mem_cons_of_mem _ member

/-- A class may come first if whatever it leaves waiting follows. -/
theorem Covered.cons {type : ComplexType} {name className : Option String} {first : ClassOutline}
    {others : List ClassOutline}
    (one : classOutline? job store type name className = some first)
    (left : ∀ pair ∈ first.waiting, Outlined job store others pair)
    (covered : Covered job store others) : Covered job store (first :: others) := by
  constructor
  · intro outline member
    rcases List.mem_cons.mp member with rfl | inside
    · obtain ⟨same, _⟩ := classOutline?_eq_some one
      exact ⟨name, className, by rwa [same]⟩
    · exact covered.made outline inside
  · intro outline member pair waiting
    rcases List.mem_cons.mp member with rfl | inside
    · exact (left pair waiting).later
    · exact (covered.waiting outline inside pair waiting).later

/-- With enough rounds whatever waits gets its class in turn: first what waited from the start, then
what the classes themselves leave waiting. -/
theorem waitingOutlines?_inTurn {budget : Nat} {waiting : List (ComplexType × String)}
    {outlines : List ClassOutline}
    (made : waitingOutlines? job store budget waiting = some outlines)
    (enough : waitingWeight waiting ≤ budget) :
    List.Forall₂ (fun left outline => classOutline? job store left.1
        (left.1.owner.bind (·.name)) (some left.2) = some outline)
      (waiting ++ outlines.flatMap ClassOutline.waiting) outlines := by
  induction budget generalizing waiting outlines with
  | zero =>
      cases made
      rw [nothing_waiting enough]
      exact .nil
  | succ budget ih =>
      cases waiting with
      | nil =>
          cases made
          exact .nil
      | cons first rest =>
          obtain ⟨head, tail, one, others, rfl⟩ := waitingOutlines?_cons.mp made
          have later := ih others (waitingWeight_next one enough)
          rw [List.append_assoc] at later
          rw [List.cons_append, List.flatMap_cons]
          exact .cons one later

theorem waitingOutlines?_covered {budget : Nat} {waiting : List (ComplexType × String)}
    {outlines : List ClassOutline}
    (made : waitingOutlines? job store budget waiting = some outlines)
    (enough : waitingWeight waiting ≤ budget) :
    Covered job store outlines ∧ ∀ pair ∈ waiting, Outlined job store outlines pair := by
  have inTurn := waitingOutlines?_inTurn made enough
  have each : ∀ pair ∈ waiting ++ outlines.flatMap ClassOutline.waiting,
      Outlined job store outlines pair :=
    fun _ listed => exists_of_forall₂ inTurn.flip listed
  refine ⟨⟨?_, ?_⟩, fun pair listed => each pair (List.mem_append_left _ listed)⟩
  · intro outline listed
    obtain ⟨left, _, one⟩ := exists_of_forall₂ inTurn listed
    obtain ⟨same, _⟩ := classOutline?_eq_some one
    exact ⟨_, _, same ▸ one⟩
  · intro outline listed pair waits
    exact each pair (List.mem_append_right _ (List.mem_flatMap.mpr ⟨outline, listed, waits⟩))

theorem typeOutlines?_covered {type : ComplexType} {name : Option String}
    {outlines : List ClassOutline} (made : typeOutlines? job store type name = some outlines) :
    Covered job store outlines ∧
      ∃ outline ∈ outlines, classOutline? job store type name none = some outline := by
  obtain ⟨first, others, one, all, rfl⟩ := typeOutlines?_eq_some.mp made
  obtain ⟨covered, left⟩ := waitingOutlines?_covered all (Nat.le_refl _)
  exact ⟨.cons one left covered, first, List.mem_cons_self, one⟩

theorem typeOutlines?_uses {type : ComplexType} {name : Option String}
    {outlines : List ClassOutline} (made : typeOutlines? job store type name = some outlines)
    {outline : ClassOutline} (member : outline ∈ outlines) {use : String}
    (used : use ∈ store.classUses outline.type) : use ∈ store.typeUses type := by
  have listed : outline.type ∈ withNested type := by
    rw [← typeOutlines?_types made]
    exact List.mem_map_of_mem member
  exact List.mem_flatMap.mpr ⟨outline.type, listed, used⟩

/-! ## Documents -/

/-- Each declaration of the document has its class, and each class belongs to a declaration. -/
structure DocumentCovered (job : Job) (store : Store) (document : Document)
    (outlines : List ClassOutline) : Prop extends Covered job store outlines where
  types : ∀ decl ∈ document.types, ∃ type, decl = .complex type ∧
    ∃ outline ∈ outlines, classOutline? job store type none none = some outline
  elements : ∀ element ∈ document.elements, ∀ type, element.inlineType = some (.complex type) →
    ∃ outline ∈ outlines, classOutline? job store type element.name none = some outline
  uses : ∀ outline ∈ outlines, ∀ use ∈ store.classUses outline.type,
    use ∈ store.documentUses document

theorem elementOutlines?_covered {element : ElementDecl} {outlines : List ClassOutline}
    (made : elementOutlines? job store element = some outlines) :
    Covered job store outlines ∧
      (∀ type, element.inlineType = some (.complex type) →
        ∃ outline ∈ outlines, classOutline? job store type element.name none = some outline) ∧
          ∀ outline ∈ outlines, ∀ use ∈ store.classUses outline.type,
            use ∈ store.elementUses element := by
  unfold elementOutlines? at made
  unfold Store.elementUses
  split at made
  · next type inline =>
      obtain ⟨covered, own⟩ := typeOutlines?_covered made
      refine ⟨covered, ?_, ?_⟩
      · intro other same
        rw [inline] at same
        cases same
        exact own
      · intro outline member use used
        rw [inline]
        exact typeOutlines?_uses made member used
  · next name inline _ =>
      -- without a type inside, an element has no class of its own
      have empty : outlines = [] := by
        split at made
        · cases made
        · split at made
          · cases made
            rfl
          · cases made
      subst empty
      refine ⟨.nil, ?_, by simp⟩
      intro type same
      rw [inline] at same
      cases same
  · cases made

theorem declarationOutlines?_complex {decl : TypeDecl} {outlines : List ClassOutline}
    (made : declarationOutlines? job store decl = some outlines) :
    ∃ type, decl = .complex type ∧ typeOutlines? job store type none = some outlines := by
  cases decl with
  | complex type => exact ⟨type, rfl, made⟩
  | simple type => cases made

theorem documentOutlines?_covered {document : Document} {outlines : List ClassOutline}
    (made : documentOutlines? job store document = some outlines) :
    DocumentCovered job store document outlines := by
  unfold documentOutlines? at made
  obtain ⟨elements, inElements, made⟩ := Option.bind_eq_some_iff.mp made
  obtain ⟨types, inTypes, made⟩ := Option.bind_eq_some_iff.mp made
  cases made
  -- every group of classes is that of an element or of a type
  have groups : ∀ group ∈ elements ++ types, Covered job store group := by
    intro group member
    rcases List.mem_append.mp member with first | second
    · obtain ⟨element, _, computed⟩ := mem_of_mapM inElements first
      exact (elementOutlines?_covered computed).1
    · obtain ⟨decl, _, computed⟩ := mem_of_mapM inTypes second
      obtain ⟨type, _, whole⟩ := declarationOutlines?_complex computed
      exact (typeOutlines?_covered whole).1
  have covered := Covered.flatten groups
  rw [List.flatten_append] at covered
  refine ⟨covered, ?_, ?_, ?_⟩
  · intro decl member
    obtain ⟨group, listed, computed⟩ := exists_of_mapM inTypes member
    obtain ⟨type, rfl, whole⟩ := declarationOutlines?_complex computed
    obtain ⟨outline, inside, one⟩ := (typeOutlines?_covered whole).2
    have found : outline ∈ types.flatten := List.mem_flatten.mpr ⟨group, listed, inside⟩
    exact ⟨type, rfl, outline, List.mem_append_right _ found, one⟩
  · intro element member type inline
    obtain ⟨group, listed, computed⟩ := exists_of_mapM inElements member
    obtain ⟨outline, inside, one⟩ := (elementOutlines?_covered computed).2.1 type inline
    have found : outline ∈ elements.flatten := List.mem_flatten.mpr ⟨group, listed, inside⟩
    exact ⟨outline, List.mem_append_left _ found, one⟩
  · intro outline member use used
    unfold Store.documentUses
    rcases List.mem_append.mp member with first | second
    · obtain ⟨group, listed, inside⟩ := List.mem_flatten.mp first
      obtain ⟨element, declared, computed⟩ := mem_of_mapM inElements listed
      have direct := (elementOutlines?_covered computed).2.2 outline inside use used
      exact List.mem_append_left _ (List.mem_flatMap.mpr ⟨element, declared, direct⟩)
    · obtain ⟨group, listed, inside⟩ := List.mem_flatten.mp second
      obtain ⟨decl, declared, computed⟩ := mem_of_mapM inTypes listed
      obtain ⟨type, rfl, whole⟩ := declarationOutlines?_complex computed
      have direct := typeOutlines?_uses whole inside used
      exact List.mem_append_right _ (List.mem_flatMap.mpr ⟨_, declared, direct⟩)

end SchemaSharp.Conversion
