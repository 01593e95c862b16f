import SchemaSharp.Proofs.Conversion.Coverage
import SchemaSharp.Proofs.Conversion.Runs
import SchemaSharp.Proofs.Identifier

/-!
Every type that is written exists. A base class is always one that the same run writes, and the
type of a member is a class of the run or a type of the class library, or an array of one. There is
one exception: a member that is renamed to nothing gives its name to no class.
-/

namespace SchemaSharp.Conversion

open Schema (ComplexType ElementDecl TypeDecl SimpleType QName Home Document Variety)
open Text (fillTemplate)
open SchemaSharp.Task (Returns)
open Traversal (Visits)

/-! ## References -/

/-- The call was made for some artifact. -/
def Wrote (conversion : Conversion) (call : Writer.Call) : Prop :=
  ∃ artifact ∈ conversion.closed ++ conversion.desk, call ∈ artifact.calls

/-- A class of that name was opened. -/
def Opened (conversion : Conversion) (name : String) : Prop :=
  ∃ base isAbstract interfaces, conversion.Wrote (.openType name base isAbstract interfaces)

/-- The type holds the values of some built-in type. -/
def IsValueType (name : String) : Prop := ∃ builtin, (builtin, name) ∈ Schema.builtinTypes

def arrayOf (name : String) : Nat → String
  | 0 => name
  | rank + 1 => arrayOf name rank ++ "[]"

/-- The text names a class of the run or a known type, or an array of one. -/
def Known (conversion : Conversion) (text : String) : Prop :=
  ∃ name rank, text = arrayOf name rank ∧ (conversion.Opened name ∨ IsValueType name)

/-- No class mentions a type that is neither known nor written in the same run. -/
structure ReferenceClosed (conversion : Conversion) : Prop where
  bases : ∀ name base isAbstract interfaces,
    conversion.Wrote (.openType name (some base) isAbstract interfaces) → conversion.Opened base
  members : ∀ type name markers,
    conversion.Wrote (.writeMember type name markers) → conversion.Known type

/-- The text names nothing, or the array of nothing. -/
def Nameless (text : String) : Prop := text = "" ∨ text = "[]"

variable {job : Job} {store : Store} {begun after : Conversion} {seeds paths : List String}
  {outlines : List (List ClassOutline)}

/-! ## Classes of a run -/

theorem Completed.wrote_iff (completed : Completed job seeds outlines after)
    {call : Writer.Call} (forClass : isClassCall call) :
    after.Wrote call ↔ ∃ outline ∈ outlines.flatten, call ∈ outline.calls := by
  rw [Wrote, ← List.mem_flatMap, ← List.mem_flatMap, ← completed.record, Conversion.record,
    List.mem_filter]
  simp [forClass]

/-- What a run opens are the classes that its outlines describe. -/
theorem Completed.opened_iff (completed : Completed job seeds outlines after) (name : String) :
    after.Opened name ↔ ∃ outline ∈ outlines.flatten, outline.name = name := by
  constructor
  · rintro ⟨base, isAbstract, interfaces, wrote⟩
    obtain ⟨outline, listed, written⟩ := (completed.wrote_iff rfl).mp wrote
    obtain ⟨same, _⟩ := ClassOutline.openType_mem_calls_iff.mp written
    exact ⟨outline, listed, same.symm⟩
  · rintro ⟨outline, listed, rfl⟩
    have written := ClassOutline.openType_mem_calls_iff.mpr
      ⟨rfl, @rfl _ outline.base, @rfl _ outline.type.isAbstract, rfl⟩
    exact ⟨_, _, _, (completed.wrote_iff rfl).mpr ⟨outline, listed, written⟩⟩

/-- Each group of classes is that of a document that was taken out. -/
theorem Completed.group (completed : Completed job seeds outlines after)
    {made : List ClassOutline} (listed : made ∈ outlines) :
    ∃ location ∈ after.dequeued, ∃ entry, after.store.at? location = some entry ∧
      DocumentCovered job after.store entry.document made := by
  obtain ⟨location, dequeued, computed⟩ := mem_of_mapM completed.outlined listed
  obtain ⟨entry, found, computed⟩ := Option.bind_eq_some_iff.mp computed
  exact ⟨location, dequeued, entry, found, documentOutlines?_covered computed⟩

theorem Completed.covered (completed : Completed job seeds outlines after) :
    Covered job after.store outlines.flatten := by
  apply Covered.flatten
  intro made listed
  obtain ⟨_, _, _, _, covered⟩ := completed.group listed
  exact covered.toCovered

/-- Whatever a class of the run uses was taken out as well. -/
theorem Completed.uses_dequeued (completed : Completed job seeds outlines after)
    {outline : ClassOutline} (member : outline ∈ outlines.flatten) {target : String}
    (used : target ∈ after.store.classUses outline.type) : target ∈ after.dequeued := by
  obtain ⟨made, listed, inside⟩ := List.mem_flatten.mp member
  obtain ⟨location, dequeued, entry, found, covered⟩ := completed.group listed
  apply completed.visits.closed (by simp) location dequeued
  rw [Store.uses, found]
  exact covered.uses outline inside target used

/-- The run writes the classes of a stored document if it is used. -/
theorem Completed.owner_document (completed : Completed job seeds outlines after) {home : Home}
    {owner : Entry} (stored : owner ∈ after.store.entries)
    (owned : after.store.owner? home = some owner)
    (used : ∀ target ∈ after.store.ownerOf home, target ∈ after.dequeued) :
    ∃ made, DocumentCovered job after.store owner.document made ∧
      ∀ outline ∈ made, outline ∈ outlines.flatten := by
  have dequeued : owner.location ∈ after.dequeued := used _ (by simp [Store.ownerOf, owned])
  obtain ⟨made, listed, computed⟩ := exists_of_mapM completed.outlined dequeued
  obtain ⟨entry, found, computed⟩ := Option.bind_eq_some_iff.mp computed
  rw [completed.sound.at?_eq stored] at found
  cases found
  refine ⟨made, documentOutlines?_covered computed, ?_⟩
  intro outline member
  exact List.mem_flatten.mpr ⟨made, listed, member⟩

/-! ## Names of declarations -/

theorem className?_none {rawName : Option String} {text : String}
    (named : Identifier.ofName rawName job.settings.cleanNames = .ok text) :
    className? job rawName none = some text := by
  change (Identifier.ofName rawName job.settings.cleanNames).toOption = some text
  rw [named]
  rfl

/-- Whatever a name means stands in the index, under it or under its local part in the document's
namespace. -/
theorem withFallback_indexed {α : Type} {find : QName → Option α} {name : QName}
    {location : String} {found : α} (meant : withFallback store find name location = some found) :
    ∃ uri, find ⟨uri, name.name⟩ = some found := by
  unfold withFallback at meant
  cases direct : find name with
  | some other =>
      rw [direct] at meant
      cases meant
      exact ⟨name.uri, direct⟩
  | none =>
      cases uri : name.uri with
      | none =>
          rw [direct, uri] at meant
          exact ⟨_, meant⟩
      | some given =>
          rw [direct, uri] at meant
          cases meant

/-- A named type whose document was taken out is a complex one, and its identifier is opened. -/
theorem Completed.type_opened (completed : Completed job seeds outlines after) {name : QName}
    {location : String} {decl : TypeDecl}
    (meant : typeMeant? after.store name location = some decl)
    (used : ∀ target ∈ after.store.ownerOf decl.home, target ∈ after.dequeued) {text : String}
    (named : Identifier.ofName decl.name job.settings.cleanNames = .ok text) :
    after.Opened text := by
  obtain ⟨uri, found⟩ := withFallback_indexed meant
  obtain ⟨owner, stored, declared, _, owned⟩ := completed.sound.type_owner? found
  obtain ⟨made, covered, within⟩ := completed.owner_document stored owned used
  obtain ⟨type, rfl, outline, member, computed⟩ := covered.types decl declared
  apply (completed.opened_iff text).mpr
  refine ⟨outline, within outline member, ?_⟩
  obtain ⟨_, called, _, _⟩ := classOutline?_eq_some computed
  have same : rawClassName type none = (TypeDecl.complex type).name := rfl
  rw [same, className?_none named] at called
  exact (Option.some.inj called).symm

/-- An element with a type of its own gives its identifier to the class of that type. -/
theorem Completed.element_opened (completed : Completed job seeds outlines after) {name : QName}
    {location : String} {target : ElementDecl} {type : ComplexType}
    (meant : elementMeant? after.store name location = some target)
    (used : ∀ goal ∈ after.store.ownerOf target.home, goal ∈ after.dequeued)
    (inline : target.inlineType = some (.complex type)) {text : String}
    (named : Identifier.ofName target.name job.settings.cleanNames = .ok text) :
    after.Opened text := by
  obtain ⟨uri, found⟩ := withFallback_indexed meant
  obtain ⟨owner, stored, declared, called, owned⟩ := completed.sound.element_owner? found
  obtain ⟨made, covered, within⟩ := completed.owner_document stored owned used
  obtain ⟨outline, member, computed⟩ := covered.elements target declared type inline
  apply (completed.opened_iff text).mpr
  refine ⟨outline, within outline member, ?_⟩
  obtain ⟨_, identified, _, _⟩ := classOutline?_eq_some computed
  -- an indexed element has a name that is not empty, so the name of the type is not asked for
  have same : rawClassName type target.name = target.name := by
    have given : target.name = some name.name := by
      unfold Schema.given? at called
      exact (Option.filter_eq_some_iff.mp called).1
    rw [rawClassName, called, given]
    rfl
  rw [same, className?_none named] at identified
  exact (Option.some.inj identified).symm

/-! ## Bases -/

theorem Completed.base_opened (completed : Completed job seeds outlines after)
    {outline : ClassOutline} (member : outline ∈ outlines.flatten) {base : String}
    (based : outline.base = some base) : after.Opened base := by
  obtain ⟨name, className, made⟩ := completed.covered.made outline member
  obtain ⟨_, _, derived, _⟩ := classOutline?_eq_some made
  rw [based] at derived
  have used : ∀ target ∈ after.store.baseUses outline.type, target ∈ after.dequeued :=
    fun target listed => completed.uses_dequeued member (List.mem_append_left _ listed)
  unfold baseName? at derived
  unfold Store.baseUses Store.namedUses at used
  cases given : givenBase? outline.type with
  | none =>
      rw [given] at derived
      cases derived
  | some full =>
      rw [given] at derived used
      dsimp only at derived used
      split at derived
      · cases derived
      · next own =>
          rw [if_neg own] at used
          split at derived
          · next decl meant =>
              rw [meant] at used
              obtain ⟨text, named, same⟩ := Option.map_eq_some_iff.mp derived
              cases same
              exact completed.type_opened meant used (ok_of_toOption named)
          · cases derived

/-! ## Member types -/

theorem Known.array {conversion : Conversion} {text : String} (known : conversion.Known text) :
    conversion.Known (text ++ "[]") := by
  obtain ⟨name, rank, rfl, found⟩ := known
  exact ⟨name, rank + 1, rfl, found⟩

theorem Known.repeated {conversion : Conversion} {text : String} (known : conversion.Known text)
    (element : ElementDecl) : conversion.Known (repeatedText element text) := by
  unfold repeatedText
  split
  · exact known.array
  · exact known

theorem known_of_opened {conversion : Conversion} {name : String}
    (opened : conversion.Opened name) : conversion.Known name :=
  ⟨name, 0, rfl, .inl opened⟩

theorem isValueType_valueType (builtin : String) : IsValueType (Schema.valueType builtin) := by
  unfold Schema.valueType
  cases found : Schema.builtinTypes.lookup builtin with
  | none => exact ⟨"string", by decide⟩
  | some name =>
      obtain ⟨_, _, split, _⟩ := List.lookup_eq_some_iff.mp found
      exact ⟨builtin, by simp [split]⟩

theorem known_valueType (conversion : Conversion) (builtin : String) :
    conversion.Known (Schema.valueType builtin) :=
  ⟨_, 0, rfl, .inr (isValueType_valueType builtin)⟩

/-- However the name is spelled, it is known. -/
def NameKnown (job : Job) (conversion : Conversion) (name : TypeName) : Prop :=
  ∀ text, spelling? job name = some text → conversion.Known text

theorem nameKnown_known {conversion : Conversion} {text : String}
    (known : conversion.Known text) : NameKnown job conversion (.known text) := by
  intro other spelled
  cases spelled
  exact known

theorem NameKnown.variety {conversion : Conversion} {variety : Variety} {name varied : TypeName}
    (known : NameKnown job conversion name) (made : varietyName? job variety name = some varied) :
    NameKnown job conversion varied := by
  unfold varietyName? at made
  split at made
  · obtain ⟨text, spelled, rfl⟩ := Option.map_eq_some_iff.mp made
    exact nameKnown_known (known text spelled).array
  · cases made
    exact known

theorem Completed.namedTypeName_known (completed : Completed job seeds outlines after)
    {name : QName} {home : Home} {found : TypeName}
    (made : namedTypeName? after.store name home = some found)
    (used : ∀ target ∈ after.store.namedUses name home, target ∈ after.dequeued) :
    NameKnown job after found := by
  unfold namedTypeName? at made
  unfold Store.namedUses at used
  split at made
  · cases made
    exact nameKnown_known (known_valueType after name.name)
  · next own =>
      obtain ⟨decl, meant, rfl⟩ := Option.map_eq_some_iff.mp made
      rw [if_neg own, meant] at used
      intro text spelled
      exact known_of_opened (completed.type_opened meant used (ok_of_toOption spelled))

theorem Completed.simpleTypeName_known (completed : Completed job seeds outlines after) :
    (type : SimpleType) → (found : TypeName) →
      simpleTypeName? job after.store type = some found →
        (∀ target ∈ after.store.simpleUses type, target ∈ after.dequeued) →
          NameKnown job after found
  | ⟨_, variety, base, inlineBase, _, home⟩, found, made, used => by
      have text : NameKnown job after (.known Schema.textType) :=
        nameKnown_known (known_valueType after "string")
      unfold simpleTypeName? at made
      unfold Store.simpleUses at used
      split at made
      · cases made
        exact text
      · next other =>
          rw [if_neg other] at used
          cases inlineBase with
          | some inner =>
              obtain ⟨name, named, varied⟩ := Option.bind_eq_some_iff.mp made
              exact (completed.simpleTypeName_known inner name named used).variety varied
          | none =>
              cases base with
              | some full =>
                  obtain ⟨name, named, varied⟩ := Option.bind_eq_some_iff.mp made
                  exact (completed.namedTypeName_known named used).variety varied
              | none => exact text.variety made

/-- The type of an element is known if a type of its own has its class under the element's name. -/
theorem Completed.elementTypeName_known (completed : Completed job seeds outlines after)
    {element : ElementDecl} {found : TypeName}
    (made : elementTypeName? job after.store element = some found)
    (used : ∀ target ∈ after.store.contentUses element, target ∈ after.dequeued)
    (own : ∀ type, element.inlineType = some (.complex type) →
      NameKnown job after (.own element.name)) :
    NameKnown job after found := by
  unfold elementTypeName? at made
  unfold Store.contentUses at used
  cases inline : element.inlineType with
  | some decl =>
      cases decl with
      | complex type =>
          simp only [inline] at made
          cases made
          exact own type inline
      | simple type =>
          simp only [inline] at made used
          exact completed.simpleTypeName_known type found made used
  | none =>
      cases ref : element.typeRef with
      | some name =>
          simp only [inline, ref] at made used
          exact completed.namedTypeName_known made used
      | none =>
          simp only [inline, ref] at made
          cases made
          exact nameKnown_known (known_valueType after "anyType")

/-- Each member stands for an element of its class, and what the element uses was taken out. -/
theorem Completed.element_of_member (completed : Completed job seeds outlines after)
    {outline : ClassOutline} (listed : outline ∈ outlines.flatten) {member : MemberOutline}
    (inside : member ∈ outline.members) :
    ∃ element, memberOutline? job after.store outline.name element = some member ∧
      ∀ target ∈ after.store.memberUses element, target ∈ after.dequeued := by
  obtain ⟨name, className, made⟩ := completed.covered.made outline listed
  obtain ⟨_, _, _, all⟩ := classOutline?_eq_some made
  obtain ⟨element, written, computed⟩ := mem_of_mapM all inside
  refine ⟨element, computed, fun target used => completed.uses_dequeued listed ?_⟩
  exact List.mem_append_right _ (List.mem_flatMap.mpr ⟨element, written, used⟩)

/-- A type written inside a member has its class under the name of the member, if that is one. -/
theorem Completed.nested_opened (completed : Completed job seeds outlines after)
    {outline : ClassOutline} (listed : outline ∈ outlines.flatten) {member : MemberOutline}
    (inside : member ∈ outline.members) {type : ComplexType} (nested : member.nested = some type)
    (named : member.name ≠ "") : after.Opened member.name := by
  have left : (type, member.name) ∈ outline.waiting := by
    apply List.mem_flatMap.mpr
    exact ⟨member, inside, by simp [MemberOutline.waiting, nested]⟩
  obtain ⟨other, written, made⟩ := completed.covered.waiting outline listed _ left
  obtain ⟨_, called, _, _⟩ := classOutline?_eq_some made
  apply (completed.opened_iff member.name).mpr
  refine ⟨other, written, ?_⟩
  have given : Schema.given? (some member.name) = some member.name := by
    simp [Schema.given?, named]
  rw [className?, given] at called
  exact (Option.some.inj called).symm

/-- The type of an element that is not nested in the member is known. -/
theorem Completed.targetTypeName_known (completed : Completed job seeds outlines after)
    {element target : ElementDecl} {found : TypeName}
    (meant : targetMeant? after.store element = some target)
    (flat : nestedIn element = none)
    (made : elementTypeName? job after.store target = some found)
    (used : ∀ goal ∈ after.store.memberUses element, goal ∈ after.dequeued) :
    NameKnown job after found := by
  unfold targetMeant? at meant
  unfold Store.memberUses at used
  cases refers : element.ref with
  | none =>
      rw [refers] at meant used
      cases meant
      apply completed.elementTypeName_known made used
      intro type inline
      simp [nestedIn, refers, inline] at flat
  | some name =>
      rw [refers] at meant used
      dsimp only at meant used
      rw [meant] at used
      have owner : ∀ goal ∈ after.store.ownerOf target.home, goal ∈ after.dequeued :=
        fun goal member => used goal (List.mem_append_left _ member)
      apply completed.elementTypeName_known made
      · exact fun goal member => used goal (List.mem_append_right _ member)
      · intro type inline text spelled
        exact known_of_opened
          (completed.element_opened meant owner inline (ok_of_toOption spelled))

/-- A member has a known type, unless it takes the type's name from a member without a name. -/
theorem Completed.member_known (completed : Completed job seeds outlines after)
    {outline : ClassOutline} (listed : outline ∈ outlines.flatten) {member : MemberOutline}
    (inside : member ∈ outline.members) :
    after.Known member.type ∨ member.name = "" ∧ Nameless member.type ∧
      fillTemplate job.settings.renamingPattern outline.name = .ok "" := by
  obtain ⟨element, computed, used⟩ := completed.element_of_member listed inside
  obtain ⟨target, text, meant, called, typed, repeated, nested⟩ := memberOutline?_eq_some computed
  rw [repeated]
  unfold memberTypeText? at typed
  cases within : nestedIn element with
  | none =>
      rw [within] at typed
      obtain ⟨found, made, spelled⟩ := Option.bind_eq_some_iff.mp typed
      have known := completed.targetTypeName_known meant within made used text spelled
      exact .inl (known.repeated element)
  | some type =>
      rw [within] at typed nested
      cases typed
      -- a type that waits under no name is taken for one without a class name of its own
      by_cases named : member.name = ""
      · rw [named] at called ⊢
        refine .inr ⟨rfl, ?_, Identifier.renamed_of_ofMember_empty (ok_of_toOption called)⟩
        unfold repeatedText
        split
        · exact .inr rfl
        · exact .inl rfl
      · have opened := completed.nested_opened listed inside nested named
        exact .inl ((known_of_opened opened).repeated element)

/-! ## The closure of a run -/

theorem Completed.opened_ne_empty (completed : Completed job seeds outlines after) {name : String}
    (opened : after.Opened name) : name ≠ "" := by
  obtain ⟨outline, listed, rfl⟩ := (completed.opened_iff name).mp opened
  obtain ⟨rawName, className, made⟩ := completed.covered.made outline listed
  obtain ⟨_, called, _, _⟩ := classOutline?_eq_some made
  unfold className? at called
  split at called
  · next given found =>
      cases called
      have kept := (Option.filter_eq_some_iff.mp found).2
      simpa using kept
  · exact Identifier.ofName_ne_empty (ok_of_toOption called)

theorem not_isValueType_of_nameless {text : String} (nameless : Nameless text) :
    ¬ IsValueType text := by
  rintro ⟨builtin, listed⟩
  have named : ∀ entry ∈ Schema.builtinTypes, ¬ (entry.2 = "" ∨ entry.2 = "[]") := by decide
  exact named _ listed nameless

theorem arrayOf_ne_empty {name : String} (named : name ≠ "") (rank : Nat) :
    arrayOf name rank ≠ "" := by
  cases rank with
  | zero => exact named
  | succ rank =>
      intro empty
      have size := congrArg String.length empty
      simp [arrayOf] at size

/-- Where no class has an empty name, only a class can make such a text known. -/
theorem Known.opened_of_nameless {conversion : Conversion} {text : String}
    (known : conversion.Known text) (nameless : Nameless text)
    (nonempty : ¬ conversion.Opened "") : conversion.Opened text := by
  obtain ⟨name, rank, rfl, found⟩ := known
  have named : name ≠ "" := by
    rintro rfl
    exact found.elim nonempty (not_isValueType_of_nameless (.inl rfl))
  cases rank with
  | zero => exact found.resolve_right (not_isValueType_of_nameless nameless)
  | succ rank =>
      rcases nameless with empty | brackets
      · exact absurd empty (arrayOf_ne_empty named (rank + 1))
      · have inner : arrayOf name rank = "" := (String.append_left_inj "[]").mp brackets
        exact absurd inner (arrayOf_ne_empty named rank)

/-- Each member that is written is one of an outline. -/
theorem Completed.member_of_call (completed : Completed job seeds outlines after)
    {type name : String} {markers : List (Marker × Arguments)}
    (wrote : after.Wrote (.writeMember type name markers)) :
    ∃ outline ∈ outlines.flatten, ∃ member ∈ outline.members,
      member.type = type ∧ member.name = name := by
  obtain ⟨outline, listed, written⟩ := (completed.wrote_iff rfl).mp wrote
  obtain ⟨member, inside, typed, named, _⟩ := ClassOutline.writeMember_mem_calls_iff.mp written
  exact ⟨outline, listed, member, inside, typed, named⟩

theorem Completed.base_of_call (completed : Completed job seeds outlines after)
    {name base : String} {isAbstract : Bool} {interfaces : List String}
    (wrote : after.Wrote (.openType name (some base) isAbstract interfaces)) :
    after.Opened base := by
  obtain ⟨outline, listed, written⟩ := (completed.wrote_iff rfl).mp wrote
  obtain ⟨_, based, _⟩ := ClassOutline.openType_mem_calls_iff.mp written
  exact completed.base_opened listed based.symm

theorem Completed.known_of_call (completed : Completed job seeds outlines after)
    {type name : String} {markers : List (Marker × Arguments)}
    (wrote : after.Wrote (.writeMember type name markers)) :
    after.Known type ∨ name = "" ∧ Nameless type ∧ ∃ enclosing, after.Opened enclosing ∧
      fillTemplate job.settings.renamingPattern enclosing = .ok "" := by
  obtain ⟨outline, listed, member, inside, rfl, rfl⟩ := completed.member_of_call wrote
  rcases completed.member_known listed inside with known | ⟨unnamed, nameless, renamed⟩
  · exact .inl known
  · have opened := (completed.opened_iff outline.name).mpr ⟨outline, listed, rfl⟩
    exact .inr ⟨unnamed, nameless, outline.name, opened, renamed⟩

/-- In a run that returns, every base is a class of the run and every member has a known type, but
for members that are renamed to nothing and would give that name to a class. The output is closed
exactly if each such type is a class of the run by chance, and always if the pattern fills the name
of no class to nothing. -/
theorem references_closed_unless_nameless (started : start job = .ok begun)
    (returned : Returns (run job) begun paths after) :
    (∀ name base isAbstract interfaces,
      after.Wrote (.openType name (some base) isAbstract interfaces) → after.Opened base) ∧
      (∀ type name markers, after.Wrote (.writeMember type name markers) →
        after.Known type ∨ name = "" ∧ Nameless type ∧ ∃ enclosing, after.Opened enclosing ∧
          fillTemplate job.settings.renamingPattern enclosing = .ok "") ∧
      (ReferenceClosed after ↔ ∀ type name markers, after.Wrote (.writeMember type name markers) →
        Nameless type → after.Opened type) ∧
      ((∀ enclosing, after.Opened enclosing →
        fillTemplate job.settings.renamingPattern enclosing ≠ .ok "") → ReferenceClosed after) := by
  obtain ⟨seeds, outlines, completed⟩ := run_returns started returned
  have bases : ∀ name base isAbstract interfaces,
      after.Wrote (.openType name (some base) isAbstract interfaces) → after.Opened base :=
    fun _ _ _ _ wrote => completed.base_of_call wrote
  refine ⟨bases, fun _ _ _ wrote => completed.known_of_call wrote, ?_, fun named => ⟨bases, ?_⟩⟩
  · constructor
    · intro whole type name markers wrote nameless
      have known := whole.members type name markers wrote
      exact known.opened_of_nameless nameless fun opened => completed.opened_ne_empty opened rfl
    · intro allOpened
      refine ⟨bases, fun type name markers wrote => ?_⟩
      rcases completed.known_of_call wrote with known | ⟨_, nameless, _⟩
      · exact known
      · exact known_of_opened (allOpened type name markers wrote nameless)
  · intro type name markers wrote
    rcases completed.known_of_call wrote with known | ⟨_, _, enclosing, opened, renamed⟩
    · exact known
    · exact absurd renamed (named enclosing opened)

theorem pair_references_closed :
    ∃ begun after, start pair = .ok begun ∧ Returns (run pair) begun ["a.cs", "b.cs"] after ∧
      ReferenceClosed after := by
  obtain ⟨begun, started, returned, _⟩ := pair_returns
  have closed := (references_closed_unless_nameless started returned).2.2.2
  refine ⟨begun, _, started, returned, closed fun enclosing _ filled => ?_⟩
  have shown : fillTemplate pair.settings.renamingPattern enclosing = .ok (enclosing ++ "Data") :=
    Identifier.fillTemplate_default enclosing
  rw [shown] at filled
  have size := congrArg String.length (Except.ok.inj filled)
  simp at size

/-! ## A class without a name -/

/-- The pattern fills every name to nothing, and the member is named like the class it is in. -/
def shadowed : Job :=
  let world : World :=
    { directory := ⟨['/'], []⟩
      files :=
        [(["a".toList], pairText ("<s:complexType name='A'><s:sequence><s:element name='A'>"
            ++ "<s:complexType/></s:element></s:sequence></s:complexType>"))]
      web := [] }
  ⟨{ inputs := ["a"], renamingPattern := "\x7b0:\x7b0\x7d<.0\x7d" }, world.source false⟩

def shadowedCalls : List Writer.Call :=
  [.declareReference "System", .openNamespace "Unknown", .writeMarker dataContract [],
    .openType "A" none false [], .writeMember "" "" [(dataMember, [("Name", .text "A")])], .close,
    .writeMarker dataContract [("Name", .text "A")], .openType "A" none false [], .close, .finish]

set_option maxRecDepth 100000 in
theorem shadowed_runs :
    ((start shadowed).toOption.map fun begun =>
      let outcome := (run shadowed).perform begun
      let artifacts := outcome.2.state.closed ++ outcome.2.state.desk
      (outcome.1.toOption, artifacts.map Artifact.calls)) =
        some (some ["a.cs"], [shadowedCalls]) := by
  simp only [shadowed, pairText, Text.Utf8.encode_toList]
  decide +kernel

theorem wrote_iff_of_shadowedCalls {conversion : Conversion}
    (calls : (conversion.closed ++ conversion.desk).map Artifact.calls = [shadowedCalls])
    (call : Writer.Call) : conversion.Wrote call ↔ call ∈ shadowedCalls := by
  obtain ⟨artifact, alone, calls⟩ := List.map_eq_singleton_iff.mp calls
  rw [Wrote, alone, ← calls]
  simp

theorem opened_of_shadowedCalls {conversion : Conversion}
    (calls : (conversion.closed ++ conversion.desk).map Artifact.calls = [shadowedCalls])
    {name : String} (opened : conversion.Opened name) : name = "A" := by
  obtain ⟨base, isAbstract, interfaces, called⟩ := opened
  rw [wrote_iff_of_shadowedCalls calls] at called
  obtain ⟨same, _⟩ : name = "A" ∧ base = none ∧ isAbstract = false ∧ interfaces = [] := by
    simpa [shadowedCalls] using called
  exact same

theorem not_closed_of_shadowedCalls {conversion : Conversion}
    (calls : (conversion.closed ++ conversion.desk).map Artifact.calls = [shadowedCalls]) :
    ¬ ReferenceClosed conversion := by
  have nothing : ¬ conversion.Opened "" :=
    fun opened => absurd (opened_of_shadowedCalls calls opened) (by decide)
  intro whole
  have known : conversion.Known "" := by
    apply whole.members "" "" [(dataMember, [("Name", .text "A")])]
    rw [wrote_iff_of_shadowedCalls calls]
    decide
  exact nothing (known.opened_of_nameless (.inl rfl) nothing)

/-- The type of the member is the empty name of the member, but the class for it is called after
the schema name of the member. -/
theorem shadowed_not_closed :
    shadowed.settings.check = .ok () ∧ ∃ begun after, start shadowed = .ok begun ∧
      Returns (run shadowed) begun ["a.cs"] after ∧ ¬ ReferenceClosed after := by
  obtain ⟨begun, made, ran⟩ := Option.map_eq_some_iff.mp shadowed_runs
  obtain ⟨answered, calls⟩ := Prod.mk.inj ran
  have checked : shadowed.settings.check = .ok () := ok_of_toOption (by decide +kernel)
  exact ⟨checked, begun, _, ok_of_toOption made,
    Task.returns_of_perform (ok_of_toOption answered), not_closed_of_shadowedCalls calls⟩

end SchemaSharp.Conversion
