import SchemaSharp.Proofs.Conversion.Outline
import SchemaSharp.Proofs.Conversion.Steps

/-!
What translating adds to a conversion. An operation that returns schedules what it uses, marks the
types it translates, leaves types waiting, and makes calls to the open artifact; nothing else
changes, and each of the four follows from the declarations and the store.
-/

namespace SchemaSharp

open Schema (ComplexType ElementDecl TypeDecl SimpleType QName Home Document Variety)
open SchemaSharp.Task (Returns FailsFrom)

namespace Artifact

/-- The artifact after some calls, also after those that failed. -/
def performAll (calls : List Writer.Call) (artifact : Artifact) : Artifact :=
  calls.foldl (fun artifact call => (artifact.perform call).2) artifact

theorem performAll_append (first second : List Writer.Call) (artifact : Artifact) :
    artifact.performAll (first ++ second) = (artifact.performAll first).performAll second :=
  List.foldl_append

theorem calls_performAll (calls : List Writer.Call) (artifact : Artifact) :
    (artifact.performAll calls).calls = artifact.calls ++ calls := by
  induction calls generalizing artifact with
  | nil => simp [performAll]
  | cons call rest ih =>
      change ((artifact.perform call).2.performAll rest).calls = _
      rw [ih]
      simp [perform]

end Artifact

namespace Conversion

open Traversal (unseen unseen_append unseen_nil unseen_singleton)

/-! ## Progress -/

/-- The documents that are used, in order and with repetitions, the types that get their class, the
types that are left waiting, and the calls to the artifact. -/
structure Progress where
  uses : List String
  types : List ComplexType.Identity
  waiting : List (ComplexType × String)
  calls : List Writer.Call

namespace Progress

def none : Progress := ⟨[], [], [], []⟩

def ofUses (uses : List String) : Progress := ⟨uses, [], [], []⟩

def ofCalls (calls : List Writer.Call) : Progress := ⟨[], [], [], calls⟩

def followedBy (first second : Progress) : Progress :=
  ⟨first.uses ++ second.uses, first.types ++ second.types, first.waiting ++ second.waiting,
    first.calls ++ second.calls⟩

end Progress

@[simp]
theorem Progress.ofUses_nil : Progress.ofUses [] = .none := rfl

def performOnDesk (calls : List Writer.Call) : List Artifact → List Artifact
  | [] => []
  | artifact :: others => artifact.performAll calls :: others

/-- Of the documents that are used only those that were never met enter the queue. -/
def extend (progress : Progress) (conversion : Conversion) : Conversion :=
  let new := unseen conversion.processed progress.uses
  { conversion with
    queue := conversion.queue ++ new
    processed := conversion.processed ++ new
    translated := conversion.translated ++ progress.types
    anonymous := conversion.anonymous ++ progress.waiting
    desk := performOnDesk progress.calls conversion.desk }

theorem performOnDesk_nil (desk : List Artifact) : performOnDesk [] desk = desk := by
  cases desk <;> rfl

theorem performOnDesk_append (first second : List Writer.Call) (desk : List Artifact) :
    performOnDesk (first ++ second) desk = performOnDesk second (performOnDesk first desk) := by
  cases desk with
  | nil => rfl
  | cons artifact others => simp [performOnDesk, Artifact.performAll_append]

@[simp]
theorem extend_none (conversion : Conversion) : conversion.extend .none = conversion := by
  simp [extend, Progress.none, unseen_nil, performOnDesk_nil]

theorem extend_extend (first second : Progress) (conversion : Conversion) :
    (conversion.extend first).extend second = conversion.extend (first.followedBy second) := by
  simp [extend, Progress.followedBy, unseen_append, performOnDesk_append]

variable {job : Job} {before after : Conversion}

/-! ## Scheduling and writing -/

/-- A document that is used enters the queue unless it was met. -/
theorem extend_use (before : Conversion) (location : String) :
    before.extend (.ofUses [location]) =
      if location ∈ before.processed then before else before.enqueue location := by
  split
  · next known => simp [extend, Progress.ofUses, unseen_singleton, known, performOnDesk_nil]
  · next new => simp [extend, Progress.ofUses, unseen_singleton, new, performOnDesk_nil, enqueue]

theorem schedule_returns {location : String} {isNew : Bool}
    (returned : Returns (schedule location) before isNew after) :
    after = before.extend (.ofUses [location]) ∧
      isNew = !before.processed.contains location := by
  unfold schedule at returned
  have returned := returned.of_current_bind
  split at returned
  · next known =>
      obtain ⟨rfl, rfl⟩ := returned.of_pure
      have old : location ∈ after.processed := by simpa using known
      exact ⟨by rw [extend_use, if_pos old], by simp [old]⟩
  · next unmet =>
      obtain ⟨rfl, rfl⟩ := returned.of_change_bind.of_say_bind.of_pure
      have new : location ∉ before.processed := by simpa using unmet
      exact ⟨by rw [extend_use, if_neg new], by simp [new]⟩

theorem scheduleOwner_returns {home : Home} {declaration : Option String} {answer : Unit}
    (returned : Returns (scheduleOwner home declaration) before answer after) :
    after = before.extend (.ofUses (before.store.ownerOf home)) := by
  unfold scheduleOwner at returned
  have returned := returned.of_current_bind
  unfold Store.ownerOf
  cases owned : before.store.owner? home with
  | none =>
      rw [owned] at returned
      obtain ⟨_, rfl⟩ := returned.of_pure
      exact (extend_none after).symm
  | some owner =>
      rw [owned] at returned
      obtain ⟨isNew, middle, scheduled, rest⟩ := returned.of_bind
      have same : after = middle := by
        split at rest
        · exact rest.of_say
        · exact rest.of_pure.2
      rw [same]
      exact (schedule_returns scheduled).1

/-- A call that succeeds is made to the artifact that is open. -/
theorem write_returns {call : Writer.Call} {answer : Unit}
    (returned : Returns (write call) before answer after) :
    after = before.extend (.ofCalls [call]) := by
  unfold write at returned
  obtain ⟨artifact, middle, opened, rest⟩ := returned.of_bind
  obtain ⟨current, rfl⟩ := openArtifact?_returns opened
  have same : after = middle.replaceCurrent (artifact.perform call).2 := by
    have ending := rest.of_change_bind
    split at ending
    · exact ending.of_pure.2
    · exact absurd ending Returns.of_throw
  unfold current? at current
  split at current
  · obtain ⟨others, desk⟩ := List.head?_eq_some_iff.mp current
    simp [same, extend, Progress.ofCalls, unseen_nil, replaceCurrent, desk, performOnDesk,
      Artifact.performAll]
  · cases current

/-! ## Types -/

theorem resolveType_returns {name : QName} {home : Home} {decl : TypeDecl}
    (returned : Returns (resolveType name home) before decl after) :
    typeMeant? before.store name home.location = some decl ∧ after = before := by
  unfold resolveType at returned
  have returned := returned.of_current_bind
  split at returned
  · next found =>
      obtain ⟨rfl, rfl⟩ := returned.of_pure
      exact ⟨found, rfl⟩
  · exact absurd returned Returns.of_throw

theorem resolveType_sure {kind : Failure → Prop} {name : QName} {home : Home} {decl : TypeDecl}
    (meant : typeMeant? before.store name home.location = some decl) :
    FailsFrom kind (resolveType name home) before := by
  refine Task.failsFrom_current_bind ?_
  rw [meant]
  exact (Task.failsOnly_pure _).from _

theorem resolveElement_returns {name : QName} {home : Home} {decl : ElementDecl}
    (returned : Returns (resolveElement name home) before decl after) :
    elementMeant? before.store name home.location = some decl ∧ after = before := by
  unfold resolveElement at returned
  have returned := returned.of_current_bind
  split at returned
  · next found =>
      obtain ⟨rfl, rfl⟩ := returned.of_pure
      exact ⟨found, rfl⟩
  · exact absurd returned Returns.of_throw

theorem identifier_returns {name : Option String} {text : String}
    (returned : Returns (identifier job name) before text after) :
    (Identifier.ofName name job.settings.cleanNames).toOption = some text ∧ after = before := by
  obtain ⟨computed, unchanged⟩ := returned.of_outcome
  rw [ok_of_orFail computed]
  exact ⟨rfl, unchanged⟩

theorem spelled_returns {name : TypeName} {text : String}
    (returned : Returns (spelled job name) before text after) :
    spelling? job name = some text ∧ after = before := by
  cases name with
  | own name => exact identifier_returns returned
  | known name =>
      obtain ⟨rfl, rfl⟩ := returned.of_pure
      exact ⟨rfl, rfl⟩

theorem namedType_returns {name : QName} {home : Home} {found : TypeName}
    (returned : Returns (namedType name home) before found after) :
    namedTypeName? before.store name home = some found ∧
      after = before.extend (.ofUses (before.store.namedUses name home)) := by
  unfold namedType at returned
  unfold namedTypeName? Store.namedUses
  split at returned
  · next builtin =>
      obtain ⟨rfl, rfl⟩ := returned.of_pure
      simp [builtin]
  · next own =>
      obtain ⟨decl, middle, resolved, rest⟩ := returned.of_bind
      obtain ⟨meant, rfl⟩ := resolveType_returns resolved
      obtain ⟨_, last, scheduled, ending⟩ := rest.of_bind
      obtain ⟨rfl, rfl⟩ := ending.of_pure
      simp only [own, Bool.false_eq_true, if_false, meant, Option.map_some, true_and]
      exact scheduleOwner_returns scheduled

theorem ofVariety_returns {variety : Variety} {name found : TypeName}
    (returned : Returns (ofVariety job variety name) before found after) :
    varietyName? job variety name = some found ∧ after = before := by
  unfold ofVariety at returned
  unfold varietyName?
  cases variety with
  | list =>
      obtain ⟨text, middle, written, ending⟩ := returned.of_bind
      obtain ⟨spelling, rfl⟩ := spelled_returns written
      obtain ⟨rfl, rfl⟩ := ending.of_pure
      simp [spelling]
  | restriction =>
      obtain ⟨rfl, rfl⟩ := returned.of_pure
      exact ⟨rfl, rfl⟩
  | union =>
      obtain ⟨rfl, rfl⟩ := returned.of_pure
      exact ⟨rfl, rfl⟩

theorem simpleTypeName_returns : (type : SimpleType) → {before after : Conversion} →
    {found : TypeName} → Returns (simpleTypeName job type) before found after →
      simpleTypeName? job before.store type = some found ∧
        after = before.extend (.ofUses (before.store.simpleUses type))
  | ⟨_, variety, base, inlineBase, _, home⟩, before, after, found, returned => by
      unfold simpleTypeName at returned
      unfold simpleTypeName? Store.simpleUses
      split at returned
      · next union =>
          obtain ⟨rfl, rfl⟩ := returned.of_pure
          simp [union]
      · next other =>
          rw [if_neg other, if_neg other]
          cases inlineBase with
          | some inner =>
              obtain ⟨name, middle, named, rest⟩ := returned.of_bind
              obtain ⟨computed, rfl⟩ := simpleTypeName_returns inner named
              obtain ⟨varied, rfl⟩ := ofVariety_returns rest
              exact ⟨by simp [computed, varied], rfl⟩
          | none =>
              cases base with
              | some base =>
                  obtain ⟨name, middle, named, rest⟩ := returned.of_bind
                  obtain ⟨computed, rfl⟩ := namedType_returns named
                  obtain ⟨varied, rfl⟩ := ofVariety_returns rest
                  exact ⟨by simp [computed, varied], rfl⟩
              | none =>
                  obtain ⟨varied, rfl⟩ := ofVariety_returns returned
                  exact ⟨varied, (extend_none after).symm⟩

theorem memberType_returns {element : ElementDecl} {found : TypeName}
    (returned : Returns (memberType job element) before found after) :
    elementTypeName? job before.store element = some found ∧
      after = before.extend (.ofUses (before.store.contentUses element)) := by
  unfold memberType at returned
  unfold elementTypeName? Store.contentUses
  cases inline : element.inlineType with
  | some decl =>
      cases decl with
      | complex type =>
          simp only [inline] at returned ⊢
          obtain ⟨rfl, rfl⟩ := returned.of_pure
          exact ⟨rfl, (extend_none after).symm⟩
      | simple type =>
          simp only [inline] at returned ⊢
          exact simpleTypeName_returns type returned
  | none =>
      cases ref : element.typeRef with
      | some name =>
          simp only [inline, ref] at returned ⊢
          exact namedType_returns returned
      | none =>
          simp only [inline, ref] at returned ⊢
          obtain ⟨rfl, rfl⟩ := returned.of_pure
          exact ⟨rfl, (extend_none after).symm⟩

/-! ## Members -/

theorem targetOf_returns {element target : ElementDecl}
    (returned : Returns (targetOf element) before target after) :
    targetMeant? before.store element = some target ∧
      ∃ uses, before.store.memberUses element = uses ++ before.store.contentUses target ∧
        after = before.extend (.ofUses uses) := by
  unfold targetOf at returned
  unfold targetMeant? Store.memberUses
  cases ref : element.ref with
  | none =>
      rw [ref] at returned
      obtain ⟨rfl, rfl⟩ := returned.of_pure
      exact ⟨rfl, [], rfl, (extend_none after).symm⟩
  | some name =>
      rw [ref] at returned
      obtain ⟨found, middle, resolved, rest⟩ := returned.of_bind
      obtain ⟨meant, rfl⟩ := resolveElement_returns resolved
      obtain ⟨_, last, scheduled, ending⟩ := rest.of_bind
      obtain ⟨rfl, rfl⟩ := ending.of_pure
      simp only [meant, true_and]
      exact ⟨_, rfl, scheduleOwner_returns scheduled⟩

theorem nestedIn_eq_some_iff {element : ElementDecl} {type : ComplexType} :
    nestedIn element = some type ↔
      element.ref = none ∧ element.inlineType = some (.complex type) := by
  unfold nestedIn
  split
  · next inline => simp [*]
  · next other =>
      constructor
      · intro none
        cases none
      · rintro ⟨standing, inline⟩
        exact absurd inline (other type standing)

theorem typeOfMember_returns {element target : ElementDecl} {memberName text : String}
    (returned : Returns (typeOfMember job element target memberName) before text after)
    (targeted : targetMeant? before.store element = some target) :
    memberTypeText? job before.store element target memberName = some text ∧
      after = before.extend ⟨before.store.contentUses target, [],
        ((nestedIn element).map fun type => (type, memberName)).toList, []⟩ := by
  unfold typeOfMember at returned
  unfold memberTypeText?
  split at returned
  · next type inline standing =>
      unfold targetMeant? at targeted
      rw [standing] at targeted
      cases targeted
      have nested : nestedIn element = some type := nestedIn_eq_some_iff.mpr ⟨standing, inline⟩
      obtain ⟨rfl, rfl⟩ := returned.of_change_bind.of_pure
      simp [nested, extend, Store.contentUses, inline, unseen_nil, await, performOnDesk_nil]
  · next other =>
      have nested : nestedIn element = none := by
        cases found : nestedIn element with
        | none => rfl
        | some type =>
            obtain ⟨standing, inline⟩ := nestedIn_eq_some_iff.mp found
            unfold targetMeant? at targeted
            rw [standing] at targeted
            cases targeted
            exact absurd standing (other type inline)
      -- a type that is not written inside has its class elsewhere
      obtain ⟨name, middle, typed, rest⟩ := returned.of_bind
      obtain ⟨computed, rfl⟩ := memberType_returns typed
      obtain ⟨spelling, rfl⟩ := spelled_returns rest
      exact ⟨by simp [nested, computed, spelling], by rw [nested]; rfl⟩

/-- A member that is translated is written as its outline says. -/
theorem translateMember_returns {element : ElementDecl} {scope : String} {answer : Unit}
    (returned : Returns (translateMember job element scope) before answer after) :
    ∃ outline, memberOutline? job before.store scope element = some outline ∧
      after = before.extend
        ⟨before.store.memberUses element, [], outline.waiting, [outline.call]⟩ := by
  unfold translateMember at returned
  obtain ⟨target, first, aimed, rest⟩ := returned.of_bind
  obtain ⟨targeted, uses, used, rfl⟩ := targetOf_returns aimed
  obtain ⟨name, named, rest⟩ := rest.of_outcome_bind
  obtain ⟨text, second, typed, ending⟩ := rest.of_bind
  obtain ⟨worded, rfl⟩ := typeOfMember_returns typed targeted
  have written := write_returns ending
  have called : memberName? job target scope = some name := by
    rw [memberName?, ok_of_orFail named]
    rfl
  refine ⟨⟨repeatedText element text, name, wireName target.name name, nestedIn element⟩, ?_, ?_⟩
  · have worded : memberTypeText? job before.store element target name = some text := worded
    simp [memberOutline?, targeted, called, worded]
  · rw [written, extend_extend, extend_extend]
    simp [Progress.followedBy, Progress.ofUses, Progress.ofCalls, used, MemberOutline.waiting,
      MemberOutline.call, repeatedText, extend]

theorem translateMembers_returns {elements : List ElementDecl} {scope : String} {answer : Unit}
    (returned : Returns (elements.forM fun element => translateMember job element scope) before
      answer after) :
    ∃ outlines, elements.mapM (memberOutline? job before.store scope) = some outlines ∧
      after = before.extend ⟨elements.flatMap before.store.memberUses, [],
        outlines.flatMap MemberOutline.waiting, outlines.map MemberOutline.call⟩ := by
  induction elements generalizing before with
  | nil =>
      obtain ⟨_, rfl⟩ := returned.of_pure
      exact ⟨[], rfl, (extend_none after).symm⟩
  | cons element rest ih =>
      obtain ⟨middle, first, others⟩ := returned.of_forM_cons
      obtain ⟨outline, made, rfl⟩ := translateMember_returns first
      obtain ⟨outlines, all, rfl⟩ := ih others
      refine ⟨outline :: outlines, mapM_cons_eq_some.mpr ⟨_, _, made, all, rfl⟩, ?_⟩
      rw [extend_extend]
      rfl

/-! ## Classes -/

theorem baseClass_returns {type : ComplexType} {place : String} {base : Option String}
    (returned : Returns (baseClass job type place) before base after) :
    baseName? job before.store type = some base ∧
      after = before.extend (.ofUses (before.store.baseUses type)) := by
  unfold baseClass at returned
  unfold baseName? Store.baseUses Store.namedUses
  cases given : givenBase? type with
  | none =>
      rw [given] at returned
      obtain ⟨rfl, rfl⟩ := returned.of_pure
      exact ⟨rfl, (extend_none after).symm⟩
  | some name =>
      rw [given] at returned
      dsimp only at returned ⊢
      split at returned
      · exact absurd returned Returns.of_throw
      · next own =>
          obtain ⟨decl, middle, resolved, rest⟩ := returned.of_bind
          obtain ⟨meant, rfl⟩ := resolveType_returns resolved
          cases decl with
          | simple decl => exact absurd rest Returns.of_throw
          | complex decl =>
              obtain ⟨text, last, named, scheduling⟩ := rest.of_bind
              obtain ⟨spelling, rfl⟩ := identifier_returns named
              obtain ⟨_, final, scheduled, ending⟩ := scheduling.of_bind
              obtain ⟨rfl, rfl⟩ := ending.of_pure
              rw [if_neg own, if_neg own, meant]
              exact ⟨by simp [spelling], scheduleOwner_returns scheduled⟩

theorem requireSupported_returns {type : ComplexType} {place : String} {answer : Unit}
    (returned : Returns (requireSupported type place) before answer after) :
    unsupportedPart? type = none ∧ after = before := by
  unfold requireSupported at returned
  split at returned
  · next supported => exact ⟨supported, returned.of_pure.2⟩
  · exact absurd returned Returns.of_throw

theorem requireMembers_returns {type : ComplexType} {place : String} {members : List ElementDecl}
    (returned : Returns (requireMembers type place) before members after) :
    memberElements type = .ok members ∧ after = before := by
  unfold requireMembers at returned
  split at returned
  · next elements flat =>
      obtain ⟨rfl, rfl⟩ := returned.of_pure
      exact ⟨flat, rfl⟩
  · exact absurd returned Returns.of_throw

theorem classIdentifier_returns {rawName className : Option String} {text : String}
    (returned : Returns (classIdentifier job rawName className) before text after) :
    className? job rawName className = some text ∧ after = before := by
  unfold classIdentifier at returned
  unfold className?
  cases given : Schema.given? className with
  | some name =>
      rw [given] at returned
      obtain ⟨rfl, rfl⟩ := returned.of_pure
      exact ⟨rfl, rfl⟩
  | none =>
      rw [given] at returned
      exact identifier_returns returned

theorem openClass_returns {className : String} {base : Option String} {isAbstract : Bool}
    {answer : Unit} (returned : Returns (openClass className base isAbstract) before answer after) :
    after = before.extend (.ofCalls [.openType className base isAbstract []]) := by
  unfold openClass at returned
  obtain ⟨artifact, middle, opened, rest⟩ := returned.of_bind
  obtain ⟨_, rfl⟩ := openArtifact?_returns opened
  obtain ⟨_, last, wrote, ending⟩ := rest.of_bind
  have same : after = last := by
    split at ending
    · exact ending.of_say
    · exact ending.of_pure.2
  rw [same]
  exact write_returns wrote

theorem writeClass_returns {type : ComplexType} {marker : Arguments} {className : String}
    {base : Option String} {members : List ElementDecl} {answer : Unit}
    (returned :
      Returns (writeClass job type marker className base members) before answer after) :
    ∃ outlines, members.mapM (memberOutline? job before.store className) = some outlines ∧
      let outline : ClassOutline := ⟨type, className, base, marker, outlines⟩
      after = before.extend
        ⟨members.flatMap before.store.memberUses, [], outline.waiting, outline.calls⟩ := by
  unfold writeClass at returned
  obtain ⟨_, first, marked, opening⟩ := returned.of_bind
  obtain rfl := write_returns marked
  obtain ⟨_, second, opened, writing⟩ := opening.of_bind
  obtain rfl := openClass_returns opened
  obtain ⟨_, third, written, ending⟩ := writing.of_say_bind.of_bind
  obtain ⟨outlines, made, rfl⟩ := translateMembers_returns written
  refine ⟨outlines, made, ?_⟩
  rw [write_returns ending]
  simp only [extend_extend]
  simp [Progress.followedBy, Progress.ofCalls, ClassOutline.waiting, ClassOutline.calls, extend]

theorem translateNew_returns {type : ComplexType} {name className : Option String} {answer : Unit}
    (returned : Returns (translateNew job type name className) before answer after) :
    ∃ outline, classOutline? job before.store type name className = some outline ∧
      after = before.extend
        ⟨before.store.classUses type, [], outline.waiting, outline.calls⟩ := by
  unfold translateNew at returned
  obtain ⟨_, first, required, naming⟩ := returned.of_bind
  obtain ⟨supported, rfl⟩ := requireSupported_returns required
  obtain ⟨identifier, second, identified, inheriting⟩ := naming.of_bind
  obtain ⟨called, rfl⟩ := classIdentifier_returns identified
  obtain ⟨base, third, based, flattening⟩ := inheriting.of_bind
  obtain ⟨derived, rfl⟩ := baseClass_returns based
  obtain ⟨members, fourth, flattened, opening⟩ := flattening.of_bind
  obtain ⟨flat, rfl⟩ := requireMembers_returns flattened
  obtain ⟨artifact, fifth, opened, writing⟩ := opening.of_bind
  obtain ⟨_, rfl⟩ := openArtifact?_returns opened
  obtain ⟨outlines, made, rfl⟩ := writeClass_returns writing.of_current_bind
  have named : className? job (rawClassName type name) className = some identifier := called
  have listed : members.mapM (memberOutline? job second.store identifier) = some outlines := made
  refine ⟨⟨type, identifier, base, contract name.isSome (rawClassName type name) identifier
    (second.store.spaceOf type.home.location), outlines⟩, ?_, ?_⟩
  · simp [classOutline?, supported, named, derived, flat, listed, Except.toOption]
  · rw [extend_extend]
    simp only [Progress.followedBy, Progress.ofUses, Store.classUses, membersOf, flat]
    rfl

/-- A type that has no class yet gets the one that its outline describes. -/
theorem translateComplexType_returns {type : ComplexType} {name className : Option String}
    {answer : Unit}
    (returned : Returns (translateComplexType job type name className) before answer after)
    (unmarked : type.identity ∉ before.translated) :
    ∃ outline, classOutline? job before.store type name className = some outline ∧
      after = before.extend
        ⟨before.store.classUses type, [type.identity], outline.waiting, outline.calls⟩ := by
  unfold translateComplexType at returned
  have returned := returned.of_current_bind
  rw [if_neg (by simpa using unmarked)] at returned
  obtain ⟨outline, made, rfl⟩ := translateNew_returns returned.of_change_bind
  refine ⟨outline, made, ?_⟩
  have marked : before.markTranslated type = before.extend ⟨[], [type.identity], [], []⟩ := by
    simp [extend, markTranslated, unseen_nil, performOnDesk_nil]
  rw [marked, extend_extend]
  rfl

end Conversion

end SchemaSharp
