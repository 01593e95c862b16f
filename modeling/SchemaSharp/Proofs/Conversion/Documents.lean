import SchemaSharp.Proofs.Conversion.Progress

/-!
Translating whole documents. Each top-level declaration gets its class and then those of everything
written inside it, so that nothing is left waiting; as no type of a document can be taken for
another one, every type of a document that was not met before gets its class.
-/

namespace SchemaSharp.Conversion

open Schema (ComplexType ElementDecl TypeDecl Document inlineIdentities modelIdentities
  identities_eq)
open SchemaSharp.Task (Returns)
open Traversal (inQueueOrder generations totalWeight totalWeight_append
  inQueueOrder_eq_generations)

variable {job : Job} {before after : Conversion}

/-! ## Identities apart -/

/-- Identities that differ from each other and from all that are marked already. -/
def Apart (marked identities : List ComplexType.Identity) : Prop :=
  identities.Nodup ∧ ∀ identity ∈ identities, identity ∉ marked

theorem Apart.left {marked first second : List ComplexType.Identity}
    (apart : Apart marked (first ++ second)) : Apart marked first := by
  obtain ⟨distinct, new⟩ := apart
  exact ⟨distinct.of_append_left, fun identity member => new identity (by simp [member])⟩

/-- Marking some identities keeps the others apart. -/
theorem Apart.right {marked first second used : List ComplexType.Identity}
    (apart : Apart marked (first ++ second)) (within : ∀ identity ∈ used, identity ∈ first) :
    Apart (marked ++ used) second := by
  obtain ⟨distinct, new⟩ := apart
  refine ⟨distinct.of_append_right, fun identity member taken => ?_⟩
  rcases List.mem_append.mp taken with earlier | here
  · exact new identity (by simp [member]) earlier
  · exact (List.nodup_append.mp distinct).2.2 identity (within identity here) identity member rfl

/-- When a type is marked, those nested in it take its place behind the others. -/
theorem Apart.next {marked : List ComplexType.Identity} {type : ComplexType}
    {rest : List ComplexType} (apart : Apart marked (identitiesOf (type :: rest))) :
    type.identity ∉ marked ∧
      Apart (marked ++ [type.identity]) (identitiesOf (rest ++ nestedTypes type)) := by
  have split : identitiesOf (type :: rest) =
      [type.identity] ++ (modelIdentities type.model ++ identitiesOf rest) := by
    simp [identitiesOf, identities_eq]
  rw [split] at apart
  refine ⟨apart.2 _ (by simp), ?_⟩
  have others : Apart (marked ++ [type.identity])
      (modelIdentities type.model ++ identitiesOf rest) := apart.right (by simp)
  obtain ⟨distinct, new⟩ := others
  have fewer : (identitiesOf (nestedTypes type) ++ identitiesOf rest).Sublist
      (modelIdentities type.model ++ identitiesOf rest) :=
    (nestedTypes_identities type).append (List.Sublist.refl _)
  have swapped : identitiesOf (rest ++ nestedTypes type) =
      identitiesOf rest ++ identitiesOf (nestedTypes type) := List.flatMap_append
  rw [swapped]
  constructor
  · exact List.nodup_append_comm.mp (distinct.sublist fewer)
  · intro identity member
    apply new
    apply fewer.subset
    exact List.mem_append.mpr (List.mem_append.mp member).symm

theorem mem_generations_identities {depth : Nat} {types : List ComplexType} {type : ComplexType}
    (member : type ∈ generations nestedTypes depth types) :
    type.identity ∈ identitiesOf types := by
  induction depth generalizing types with
  | zero => cases member
  | succ depth ih =>
      rcases List.mem_append.mp member with here | deeper
      · refine List.mem_flatMap.mpr ⟨type, here, ?_⟩
        rw [identities_eq]
        exact List.mem_cons_self
      · obtain ⟨inner, found, inside⟩ := List.mem_flatMap.mp (ih deeper)
        obtain ⟨outer, listed, nested⟩ := List.mem_flatMap.mp found
        refine List.mem_flatMap.mpr ⟨outer, listed, ?_⟩
        rw [identities_eq]
        apply List.mem_cons_of_mem
        exact (nestedTypes_identities outer).subset (List.mem_flatMap.mpr ⟨inner, nested, inside⟩)

/-! ## Types that wait -/

/-- What the outline of a member is made of. -/
theorem memberOutline?_eq_some {store : Store} {scope : String} {element : ElementDecl}
    {outline : MemberOutline} (made : memberOutline? job store scope element = some outline) :
    ∃ target text, targetMeant? store element = some target ∧
      memberName? job target scope = some outline.name ∧
        memberTypeText? job store element target outline.name = some text ∧
          outline.type = repeatedText element text ∧ outline.nested = nestedIn element := by
  unfold memberOutline? at made
  obtain ⟨target, meant, made⟩ := Option.bind_eq_some_iff.mp made
  obtain ⟨name, called, made⟩ := Option.bind_eq_some_iff.mp made
  obtain ⟨text, typed, made⟩ := Option.bind_eq_some_iff.mp made
  cases made
  exact ⟨target, text, meant, called, typed, rfl, rfl⟩

/-- What the outline of a class is made of. -/
theorem classOutline?_eq_some {store : Store} {type : ComplexType} {name className : Option String}
    {outline : ClassOutline} (made : classOutline? job store type name className = some outline) :
    outline.type = type ∧
      className? job (rawClassName type name) className = some outline.name ∧
        baseName? job store type = some outline.base ∧
          (membersOf type).mapM (memberOutline? job store outline.name) = some outline.members := by
  unfold classOutline? at made
  split at made
  · cases made
  · obtain ⟨identifier, called, made⟩ := Option.bind_eq_some_iff.mp made
    obtain ⟨base, derived, made⟩ := Option.bind_eq_some_iff.mp made
    obtain ⟨elements, flat, made⟩ := Option.bind_eq_some_iff.mp made
    obtain ⟨members, all, made⟩ := Option.bind_eq_some_iff.mp made
    cases made
    refine ⟨rfl, called, derived, ?_⟩
    rw [membersOf, flat]
    exact all

theorem memberOutlines_waiting {store : Store} {scope : String} {elements : List ElementDecl}
    {outlines : List MemberOutline}
    (made : elements.mapM (memberOutline? job store scope) = some outlines) :
    (outlines.flatMap MemberOutline.waiting).map Prod.fst = elements.filterMap nestedIn := by
  induction elements generalizing outlines with
  | nil =>
      cases made
      rfl
  | cons element rest ih =>
      obtain ⟨head, tail, one, others, rfl⟩ := mapM_cons_eq_some.mp made
      obtain ⟨_, _, _, _, _, _, nested⟩ := memberOutline?_eq_some one
      rw [List.flatMap_cons, List.map_append, ih others, MemberOutline.waiting, nested]
      cases found : nestedIn element with
      | none => simp [found]
      | some type => simp [found]

/-- What a class leaves waiting are the types nested in its own. -/
theorem classOutline?_waiting {store : Store} {type : ComplexType} {name className : Option String}
    {outline : ClassOutline} (made : classOutline? job store type name className = some outline) :
    outline.type = type ∧ outline.waiting.map Prod.fst = nestedTypes type := by
  obtain ⟨same, _, _, all⟩ := classOutline?_eq_some made
  exact ⟨same, memberOutlines_waiting all⟩

theorem waitingOutlines?_types {store : Store} {budget : Nat}
    {waiting : List (ComplexType × String)} {outlines : List ClassOutline}
    (made : waitingOutlines? job store budget waiting = some outlines) :
    outlines.map ClassOutline.type = inQueueOrder nestedTypes budget (waiting.map Prod.fst) := by
  induction budget generalizing waiting outlines with
  | zero =>
      cases made
      rfl
  | succ budget ih =>
      cases waiting with
      | nil =>
          cases made
          rfl
      | cons first rest =>
          obtain ⟨head, tail, one, others, rfl⟩ := waitingOutlines?_cons.mp made
          obtain ⟨same, left⟩ := classOutline?_waiting one
          rw [List.map_cons, List.map_cons, inQueueOrder, ih others, same, List.map_append, left]

/-- What translating some types adds when it leaves none waiting. -/
def completed (uses : List String) (outlines : List ClassOutline) : Progress :=
  ⟨uses, outlines.map fun outline => outline.type.identity, [],
    outlines.flatMap ClassOutline.calls⟩

theorem waitingWeight_eq (waiting : List (ComplexType × String)) :
    waitingWeight waiting = totalWeight typeWeight (waiting.map Prod.fst) := by
  induction waiting with
  | nil => rfl
  | cons first rest ih => rw [waitingWeight, ih, List.map_cons, totalWeight]

theorem waitingWeight_append (left right : List (ComplexType × String)) :
    waitingWeight (left ++ right) = waitingWeight left + waitingWeight right := by
  simp only [waitingWeight_eq, List.map_append, totalWeight_append]

theorem nothing_waiting {waiting : List (ComplexType × String)}
    (weightless : waitingWeight waiting ≤ 0) : waiting = [] := by
  cases waiting with
  | nil => rfl
  | cons first rest =>
      have heavy := nestedTypes_lighter first.1
      rw [waitingWeight] at weightless
      omega

/-- A class leaves less waiting than it was itself. -/
theorem waitingWeight_next {store : Store} {budget : Nat} {type : ComplexType}
    {waitingName : String} {name className : Option String} {outline : ClassOutline}
    {rest : List (ComplexType × String)}
    (made : classOutline? job store type name className = some outline)
    (enough : waitingWeight ((type, waitingName) :: rest) ≤ budget + 1) :
    waitingWeight (rest ++ outline.waiting) ≤ budget := by
  have heavy := nestedTypes_lighter type
  rw [← (classOutline?_waiting made).2, ← waitingWeight_eq] at heavy
  rw [waitingWeight] at enough
  rw [waitingWeight_append]
  omega

/-- With nothing waiting there is nothing to put off. -/
theorem without_waiting {conversion : Conversion} (idle : conversion.anonymous = []) :
    { conversion with anonymous := [] } = conversion := by
  rw [← idle]

theorem flush_nothing {conversion : Conversion} (idle : conversion.anonymous = []) :
    conversion = { conversion with anonymous := [] }.extend (completed [] []) := by
  rw [without_waiting idle]
  exact (extend_none conversion).symm

/-- What one type leaves waiting is translated by the rounds that follow. -/
theorem extend_without_waiting (before : Conversion) (uses : List String)
    (identities : List ComplexType.Identity) (waiting : List (ComplexType × String))
    (calls : List Writer.Call) :
    { before.extend ⟨uses, identities, waiting, calls⟩ with anonymous := [] } =
      { before with anonymous := [] }.extend ⟨uses, identities, [], calls⟩ := rfl

theorem flushWithin_returns {budget : Nat} {answer : Unit}
    (returned : Returns (flushWithin job budget) before answer after)
    (enough : waitingWeight before.anonymous ≤ budget)
    (apart : Apart before.translated (identitiesOf (before.anonymous.map Prod.fst))) :
    ∃ outlines, waitingOutlines? job before.store budget before.anonymous = some outlines ∧
      after = { before with anonymous := [] }.extend (completed
        (outlines.flatMap fun outline : ClassOutline => before.store.classUses outline.type)
        outlines) := by
  induction budget generalizing before with
  | zero =>
      obtain ⟨_, rfl⟩ := returned.of_pure
      exact ⟨[], rfl, flush_nothing (nothing_waiting enough)⟩
  | succ budget ih =>
      obtain ⟨taken, middle, took, rest⟩ := returned.of_bind
      unfold takeWaiting at took
      have took := took.of_current_bind
      cases waiting : before.anonymous with
      | nil =>
          rw [waiting] at took
          obtain ⟨rfl, rfl⟩ := took.of_pure
          obtain ⟨_, rfl⟩ := rest.of_pure
          exact ⟨[], rfl, flush_nothing waiting⟩
      | cons first others =>
          obtain ⟨type, className⟩ := first
          rw [waiting] at took apart enough
          obtain ⟨rfl, rfl⟩ := took.of_change_bind.of_pure
          obtain ⟨unmarked, next⟩ := apart.next
          obtain ⟨_, last, translated, further⟩ := rest.of_bind
          obtain ⟨outline, made, rfl⟩ := translateComplexType_returns translated unmarked
          obtain ⟨same, left⟩ := classOutline?_waiting made
          -- the types inside the class join the queue, and all of them weigh less than it did
          have light := waitingWeight_next made enough
          have kept : Apart (before.translated ++ [type.identity])
              (identitiesOf ((others ++ outline.waiting).map Prod.fst)) := by
            rw [List.map_append, left]
            exact next
          obtain ⟨outlines, all, rfl⟩ := ih further light kept
          refine ⟨outline :: outlines, ?_, ?_⟩
          · exact waitingOutlines?_cons.mpr ⟨outline, outlines, made, all, rfl⟩
          · rw [extend_without_waiting, extend_extend, ← same]
            rfl

theorem flushAnonymous_idle {answer : Unit}
    (returned : Returns (flushAnonymous job) before answer after) (idle : before.anonymous = []) :
    after = before := by
  have returned := returned.of_current_bind
  rw [idle] at returned
  exact returned.of_pure.2

/-! ## Declarations -/

theorem typeOutlines?_types {store : Store} {type : ComplexType} {name : Option String}
    {outlines : List ClassOutline} (made : typeOutlines? job store type name = some outlines) :
    outlines.map ClassOutline.type = withNested type := by
  obtain ⟨first, others, one, all, rfl⟩ := typeOutlines?_eq_some.mp made
  obtain ⟨same, left⟩ := classOutline?_waiting one
  have heavy := nestedTypes_lighter type
  -- the first generation is the type itself, and the queue begins with the second
  have depth : ∃ depth, typeWeight type = depth + 1 := ⟨typeWeight type - 1, by omega⟩
  obtain ⟨depth, deep⟩ := depth
  rw [List.map_cons, same, waitingOutlines?_types all, waitingWeight_eq, left, withNested, deep,
    generations, List.flatMap_singleton]
  rw [inQueueOrder_eq_generations nestedTypes_lighter depth _ _ (Nat.le_refl _) (by omega)]
  rfl

/-- A type and all that is written in it, translated together, leave nothing behind. -/
theorem translateWhole_returns {type : ComplexType} {name : Option String} {answer : Unit}
    (returned : Returns (do translateComplexType job type name none; flushAnonymous job) before
      answer after)
    (idle : before.anonymous = []) (apart : Apart before.translated type.identities) :
    ∃ outlines, typeOutlines? job before.store type name = some outlines ∧
      after = before.extend (completed (before.store.typeUses type) outlines) := by
  obtain ⟨_, middle, first, flushed⟩ := returned.of_bind
  have listed : Apart before.translated (identitiesOf [type]) := by
    simpa [identitiesOf] using apart
  obtain ⟨unmarked, next⟩ := listed.next
  obtain ⟨outline, made, rfl⟩ := translateComplexType_returns first unmarked
  obtain ⟨same, left⟩ := classOutline?_waiting made
  have waiting : (before.extend ⟨before.store.classUses type, [type.identity], outline.waiting,
      outline.calls⟩).anonymous = outline.waiting := by
    simp [extend, idle]
  have flushed := flushed.of_current_bind
  rw [waiting] at flushed
  obtain ⟨others, all, rfl⟩ := flushWithin_returns flushed (Nat.le_of_eq (by rw [waiting])) (by
    rw [waiting, left]
    exact next)
  rw [waiting] at all
  have whole : typeOutlines? job before.store type name = some (outline :: others) :=
    typeOutlines?_eq_some.mpr ⟨outline, others, made, all, rfl⟩
  refine ⟨outline :: others, whole, ?_⟩
  have types := typeOutlines?_types whole
  have uses : before.store.typeUses type = (outline :: others).flatMap fun outline =>
      before.store.classUses outline.type := by
    rw [Store.typeUses, ← types, List.flatMap_map]
  rw [extend_without_waiting, without_waiting idle, extend_extend, uses, ← same]
  rfl

/-- The types that get a class with a type are written in it. -/
theorem typeOutlines?_inside {store : Store} {type : ComplexType} {name : Option String}
    {outlines : List ClassOutline} (made : typeOutlines? job store type name = some outlines) :
    ∀ outline ∈ outlines, outline.type.identity ∈ type.identities := by
  intro outline member
  have listed : outline.type ∈ withNested type := by
    rw [← typeOutlines?_types made]
    exact List.mem_map_of_mem member
  simpa [identitiesOf] using mem_generations_identities listed

theorem completed_append (firstUses secondUses : List String)
    (first second : List ClassOutline) :
    (completed firstUses first).followedBy (completed secondUses second) =
      completed (firstUses ++ secondUses) (first ++ second) := by
  simp [completed, Progress.followedBy]

/-- Wherever no type is waiting and these identities are new, the work and the flush that follows
it have these uses and write classes with these outlines. -/
def Completes (job : Job) (store : Store) (work : Work Unit) (uses : List String)
    (outlines? : Option (List ClassOutline)) (identities : List ComplexType.Identity) : Prop :=
  ∀ before after, before.store = store → before.anonymous = [] →
    Apart before.translated identities →
      Returns (do work; flushAnonymous job) before () after →
        ∃ outlines, outlines? = some outlines ∧
          (∀ outline ∈ outlines, outline.type.identity ∈ identities) ∧
            after = before.extend (completed uses outlines)

theorem completes_throw {store : Store} {failure : Failure} {uses : List String}
    {outlines? : Option (List ClassOutline)} {identities : List ComplexType.Identity} :
    Completes job store (throw failure) uses outlines? identities := by
  intro before after _ _ _ returned
  obtain ⟨_, middle, failed, _⟩ := returned.of_bind
  exact absurd failed Returns.of_throw

theorem translateComplexType_completes (store : Store) (type : ComplexType)
    (name : Option String) :
    Completes job store (translateComplexType job type name none) (store.typeUses type)
      (typeOutlines? job store type name) type.identities := by
  intro before after same idle apart returned
  subst same
  obtain ⟨outlines, made, same⟩ := translateWhole_returns returned idle apart
  exact ⟨outlines, made, typeOutlines?_inside made, same⟩

theorem translateElement_completes (store : Store) (element : ElementDecl) :
    Completes job store (translateElement job element) (store.elementUses element)
      (elementOutlines? job store element) (inlineIdentities element.inlineType) := by
  unfold translateElement elementOutlines? Store.elementUses
  cases inline : element.inlineType with
  | some decl =>
      cases decl with
      | complex type =>
          rw [inlineIdentities]
          exact translateComplexType_completes store type element.name
      | simple type => exact completes_throw
  | none =>
      cases ref : element.typeRef with
      | none => exact completes_throw
      | some name =>
          -- the class is left to the type, so that only the document of the type is used
          intro before after same idle apart returned
          subst same
          obtain ⟨_, middle, used, flushed⟩ := returned.of_bind
          dsimp only at used
          split at used
          · exact absurd used Returns.of_throw
          · next own =>
              obtain ⟨decl, last, resolved, rest⟩ := used.of_bind
              obtain ⟨meant, rfl⟩ := resolveType_returns resolved
              cases decl with
              | simple type => exact absurd rest Returns.of_throw
              | complex type =>
                  have scheduled := scheduleOwner_returns rest.of_say_bind
                  have left : middle.anonymous = [] := by
                    simp [scheduled, extend, idle, Progress.ofUses]
                  rw [flushAnonymous_idle flushed left, scheduled]
                  refine ⟨[], by simp [own, meant], by simp, ?_⟩
                  simp only [Store.namedUses, own, meant]
                  rfl

theorem translateType_completes (store : Store) (decl : TypeDecl) :
    Completes job store (translateType job decl) (store.declarationUses decl)
      (declarationOutlines? job store decl) (inlineIdentities (some decl)) := by
  cases decl with
  | simple type => exact completes_throw
  | complex type =>
      rw [inlineIdentities]
      exact translateComplexType_completes store type none

/-! ## Documents -/

/-- Declarations that share no type are translated one after the other as each of them is alone. -/
theorem translateEach_returns {α : Type} {store : Store} {work : α → Work Unit}
    {uses : α → List String} {outlines? : α → Option (List ClassOutline)}
    {identities : α → List ComplexType.Identity} {items : List α} {answer : Unit}
    (each : ∀ item, Completes job store (work item) (uses item) (outlines? item)
      (identities item))
    (returned : Returns (items.forM fun item => do work item; flushAnonymous job) before answer
      after)
    (same : before.store = store) (idle : before.anonymous = [])
    (apart : Apart before.translated (items.flatMap identities)) :
    ∃ outlines, items.mapM outlines? = some outlines ∧
      (∀ outline ∈ outlines.flatten, outline.type.identity ∈ items.flatMap identities) ∧
        after = before.extend (completed (items.flatMap uses) outlines.flatten) := by
  induction items generalizing before with
  | nil =>
      obtain ⟨_, rfl⟩ := returned.of_pure
      exact ⟨[], rfl, by simp, (extend_none after).symm⟩
  | cons item rest ih =>
      obtain ⟨middle, first, others⟩ := returned.of_forM_cons
      rw [List.flatMap_cons] at apart
      obtain ⟨one, made, inside, rfl⟩ := each item before middle same idle apart.left first
      -- what was translated for this item is of none of the others
      have kept : Apart (before.extend (completed (uses item) one)).translated
          (rest.flatMap identities) := by
        apply apart.right
        intro identity member
        obtain ⟨outline, listed, rfl⟩ := List.mem_map.mp member
        exact inside outline listed
      have left : (before.extend (completed (uses item) one)).anonymous = [] := by
        simp [extend, completed, idle]
      obtain ⟨outlines, all, within, rfl⟩ := ih others same left kept
      refine ⟨one :: outlines, mapM_cons_eq_some.mpr ⟨_, _, made, all, rfl⟩, ?_, ?_⟩
      · intro outline member
        rw [List.flatten_cons] at member
        rw [List.flatMap_cons]
        rcases List.mem_append.mp member with here | later
        · exact List.mem_append_left _ (inside outline here)
        · exact List.mem_append_right _ (within outline later)
      · rw [extend_extend, completed_append, List.flatMap_cons, List.flatten_cons]

/-- A document whose types were not met before is translated as its outlines say. -/
theorem translateDocument_returns {document : Document} {answer : Unit}
    (returned : Returns (translateDocument job document) before answer after)
    (idle : before.anonymous = []) (apart : Apart before.translated document.identities) :
    ∃ outlines, documentOutlines? job before.store document = some outlines ∧
      (∀ outline ∈ outlines, outline.type.identity ∈ document.identities) ∧
        after = before.extend (completed (before.store.documentUses document) outlines) := by
  unfold translateDocument at returned
  obtain ⟨_, middle, first, second⟩ := returned.of_say_bind.of_bind
  obtain ⟨elements, made, inElements, rfl⟩ :=
    translateEach_returns (translateElement_completes before.store) first rfl idle apart.left
  have left : (before.extend (completed (document.elements.flatMap before.store.elementUses)
      elements.flatten)).anonymous = [] := by
    simp [extend, completed, idle]
  have kept : Apart (before.extend (completed (document.elements.flatMap before.store.elementUses)
      elements.flatten)).translated
        (document.types.flatMap fun decl => inlineIdentities (some decl)) := by
    apply apart.right
    intro identity member
    obtain ⟨outline, listed, rfl⟩ := List.mem_map.mp member
    exact inElements outline listed
  obtain ⟨types, all, inTypes, rfl⟩ :=
    translateEach_returns (translateType_completes before.store) second rfl left kept
  refine ⟨elements.flatten ++ types.flatten, ?_, ?_, ?_⟩
  · simp [documentOutlines?, made, all]
  · intro outline member
    rcases List.mem_append.mp member with here | later
    · exact List.mem_append_left _ (inElements outline here)
    · exact List.mem_append_right _ (inTypes outline later)
  · rw [extend_extend, completed_append]
    rfl

end SchemaSharp.Conversion
