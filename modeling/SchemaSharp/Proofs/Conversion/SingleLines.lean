import SchemaSharp.Proofs.Conversion.Origins
import SchemaSharp.Proofs.Conversion.ReferenceClosure
import SchemaSharp.Proofs.Conversion.SourceFiles
import SchemaSharp.Proofs.Identifier.Lines
import SchemaSharp.Proofs.Writer.SingleLines

/-!
Lines that a schema can break. Nobody filters what a document is given as names: a line end in one
of them shows in the class or member that is called after it. So the lines of a run are whole
exactly if these names are on single lines, and besides them the names that the renaming pattern
makes, which are if the pattern is tame.
-/

namespace SchemaSharp.Conversion

open Schema (ComplexType ElementDecl Document Home)
open Text (SingleLine physicalLines physicalLines_joined_iff Template.Tame)
open Writer (MarkerPlain levelAfter? levelAfter?_append)

/-- Every line of every artifact is read back as the line that was written. -/
def LinesWhole (conversion : Conversion) : Prop :=
  ∀ artifact ∈ conversion.closed,
    physicalLines artifact.writer.text = artifact.writer.lines ++ [""]

theorem linesWhole_iff {conversion : Conversion} :
    LinesWhole conversion ↔
      ∀ artifact ∈ conversion.closed, ∀ line ∈ artifact.writer.lines, SingleLine line :=
  forall₂_congr fun artifact _ => physicalLines_joined_iff artifact.writer.lines

/-- What a document gives to its classes is on single lines: the names of its types, with those of
the elements around them, the names of all members, and the namespace of the contracts. -/
structure PlainNames (job : Job) (store : Store) (document : Document) : Prop where
  types : ∀ type, .complex type ∈ document.types → ∀ name ∈ type.name, SingleLine name
  elements : ∀ element ∈ document.elements, ∀ type, element.inlineType = some (.complex type) →
    ∀ name ∈ rawClassName type element.name, SingleLine name
  members : ∀ type, document.Writes type → ∀ element, .element element ∈ type.leaves →
    ∀ target, targetMeant? store element = some target → ∀ name ∈ target.name, SingleLine name
  spaces : job.settings.dataContracts = true → ∀ type, document.Writes type →
    ∀ space ∈ store.spaceOf type.home.location, SingleLine space

variable {job : Job} {store : Store} {document : Document} {begun after : Conversion}
  {seeds paths : List String} {outlines : List (List ClassOutline)}

/-! ## Artifacts -/

theorem plain_headerCalls (plain : SingleLine job.settings.targetNamespace) :
    ∀ call ∈ headerCalls job, call.Plain job.settings.emitOptions := by
  have directives : ∀ space ∈ fileSpaces job, SingleLine space := by
    unfold fileSpaces Writer.optionSpaces
    obtain ⟨contracts, notifying, dependent⟩ := job.settings.emitOptions
    cases contracts <;> cases notifying <;> cases dependent <;> decide
  have calls : headerCalls job = (fileSpaces job).map Writer.Call.declareReference ++
      [.openNamespace job.settings.targetNamespace] := rfl
  rw [calls, List.forall_mem_append, List.forall_mem_map, List.forall_mem_singleton]
  exact ⟨directives, plain⟩

theorem exists_levelAfter?_draft (classes : List ClassOutline) (cut : Option ClassOutline) :
    ∃ next, levelAfter? .namespaceBody (draftCalls classes cut) = some next := by
  rw [draftCalls, levelAfter?_append, levelAfter?_calls, Option.bind_some]
  cases cut with
  | none => exact ⟨.namespaceBody, rfl⟩
  | some outline => exact ⟨.classBody, by simpa using levelAfter?_begun outline⟩

/-- The lines of an artifact are whole exactly if its classes are given single lines only. -/
theorem filed_whole_iff (plain : SingleLine job.settings.targetNamespace) (path : String)
    (classes : List ClassOutline) (cut : Option ClassOutline) :
    let artifact := Artifact.filed job path (draftCalls classes cut)
    physicalLines artifact.writer.text = artifact.writer.lines ++ [""] ↔
      ∀ call ∈ draftCalls classes cut, call.Plain job.settings.emitOptions := by
  dsimp only
  rw [writer_filed]
  refine (Writer.physicalLines_text_iff (by decide)).trans ?_
  constructor
  · intro each call listed
    obtain ⟨next, leads⟩ := exists_levelAfter?_draft classes cut
    exact each call ((at_headed job).done leads listed [.finish])
  · intro each call done
    rcases List.mem_append.mp done.mem with head | others
    · exact plain_headerCalls plain call head
    · rcases List.mem_append.mp others with listed | last
      · exact each call listed
      · cases List.mem_singleton.mp last
        trivial

theorem isClassCall_of_outline {outline : ClassOutline} {call : Writer.Call}
    (inside : call ∈ outline.calls) : isClassCall call = true := by
  have same := calls_isClassCall [outline]
  rw [List.flatMap_singleton, List.filter_eq_self] at same
  exact same call inside

theorem isClassCall_of_draft {classes : List ClassOutline} {cut : Option ClassOutline}
    {call : Writer.Call} (listed : call ∈ draftCalls classes cut) : isClassCall call = true := by
  rcases List.mem_append.mp listed with whole | broken
  · obtain ⟨outline, _, inside⟩ := List.mem_flatMap.mp whole
    exact isClassCall_of_outline inside
  · obtain ⟨outline, _, inside⟩ := List.mem_flatMap.mp broken
    exact isClassCall_of_outline (outline.calls_eq ▸ List.mem_append_left _ inside)

/-- What a run leaves is whole exactly if no class was given a text with a line end. -/
theorem linesWhole_iff_calls {settings : Settings} {world : World}
    (plain : SingleLine settings.targetNamespace)
    (started : start ⟨settings, world.source settings.allowRemote⟩ = .ok begun) :
    let after := ((run ⟨settings, world.source settings.allowRemote⟩).perform begun).2.state
    LinesWhole after ↔
      ∀ call, isClassCall call → after.Wrote call → call.Plain settings.emitOptions := by
  intro after
  let job : Job := ⟨settings, world.source settings.allowRemote⟩
  have civil : job.source.Civil := world.source_civil settings.allowRemote
  obtain ⟨result, drafts, left, _, each, _⟩ := runs_leave_alike civil started
  obtain ⟨⟨_, same⟩, holds⟩ := each settings.singleFile
  rw [← same] at holds
  -- the calls at the head and the end hold no text of the documents
  have alike : ∀ artifact ∈ after.closed,
      (physicalLines artifact.writer.text = artifact.writer.lines ++ [""] ↔
        ∀ call ∈ artifact.calls, isClassCall call → call.Plain settings.emitOptions) := by
    intro artifact listed
    obtain ⟨draft, _, path, rfl⟩ := exists_of_forall₂ holds.filed listed
    refine (@filed_whole_iff job plain path draft.classes draft.cut).trans ?_
    rw [calls_filed, List.forall_mem_append, List.forall_mem_append, List.forall_mem_singleton]
    constructor
    · intro calls
      have head := @plain_headerCalls job plain
      exact ⟨fun call member _ => head call member, fun call member _ => calls call member,
        fun _ => trivial⟩
    · rintro ⟨-, calls, -⟩ call member
      exact calls call member (isClassCall_of_draft member)
  have closed : after.closed ++ after.desk = after.closed := by
    have empty : after.desk = [] := holds.desk
    rw [empty, List.append_nil]
  unfold LinesWhole Wrote
  rw [closed]
  constructor
  · rintro whole call forClass ⟨artifact, listed, made⟩
    exact (alike artifact listed).mp (whole artifact listed) call made forClass
  · intro calls artifact listed
    exact (alike artifact listed).mpr fun call made forClass =>
      calls call forClass ⟨artifact, listed, made⟩

/-! ## Arguments -/

theorem singleLine_ofOption (name : Option String) :
    SingleLine (ArgumentValue.ofOption name).literal ↔ ∀ text ∈ name, SingleLine text := by
  cases name with
  | none => exact iff_of_true (by decide) (by simp)
  | some text => simp [ArgumentValue.ofOption, ArgumentValue.literal, Writer.singleLine_textLiteral]

/-- A name is left out of a marker only where it is the identifier beside it. -/
theorem wireName_plain_iff {name : Option String} {identifier : String}
    (single : SingleLine identifier) :
    MarkerPlain dataMember (wireName name identifier) ↔ ∀ text ∈ name, SingleLine text := by
  rw [Writer.markerPlain_iff (by decide) (by decide), wireName]
  split
  · next same =>
      rw [beq_iff_eq.mp same]
      simpa using single
  · simp +decide [singleLine_ofOption]

theorem contract_plain_iff {named : Bool} {rawName space : Option String} {className : String}
    (single : SingleLine className) :
    MarkerPlain dataContract (contract named rawName className space) ↔
      (∀ text ∈ rawName, SingleLine text) ∧ ∀ text ∈ space, SingleLine text := by
  rw [Writer.markerPlain_iff (by decide) (by decide), contract, List.forall_mem_append]
  refine and_congr ?_ ?_
  · split
    · simp +decide [singleLine_ofOption]
    · next left =>
        have same : rawName = some className := by
          simp only [Bool.or_eq_true, bne_iff_ne, not_or, not_not] at left
          exact left.2
        rw [same]
        simpa using single
  · cases given : Schema.given? space with
    | none =>
        refine iff_of_true (by simp) fun text same => ?_
        have empty : text.isEmpty = true := by
          simpa using Option.filter_eq_none_iff.mp given text same
        rw [String.isEmpty_iff.mp empty]
        decide
    | some text =>
        have same : space = some text := (Option.filter_eq_some_iff.mp given).1
        simp +decide [same, ArgumentValue.literal, Writer.singleLine_textLiteral]

/-! ## Names -/

theorem singleLine_className {rawName className : Option String} {text : String}
    (made : className? job rawName className = some text)
    (raw : ∀ name ∈ rawName, SingleLine name) (given : ∀ name ∈ className, SingleLine name) :
    SingleLine text := by
  unfold className? at made
  split at made
  · next name found =>
      cases made
      exact given text (Option.filter_eq_some_iff.mp found).1
  · exact (Identifier.singleLine_ofName_iff (ok_of_toOption made)).mpr raw

theorem singleLine_arrayOf (name : String) (rank : Nat) :
    SingleLine (arrayOf name rank) ↔ SingleLine name := by
  induction rank with
  | zero => rfl
  | succ rank ih => simp +decide [arrayOf, ih]

theorem Known.singleLine {text : String} (known : after.Known text)
    (classes : ∀ name, after.Opened name → SingleLine name) : SingleLine text := by
  obtain ⟨name, rank, rfl, opened | ⟨builtin, listed⟩⟩ := known
  · exact (singleLine_arrayOf name rank).mpr (classes name opened)
  · have library : ∀ entry ∈ Schema.builtinTypes, SingleLine entry.2 := by decide +kernel
    exact (singleLine_arrayOf name rank).mpr (library _ listed)

/-- An element that gives a member its name also names the class of the type inside it. -/
theorem rawClassName_of_member {type : ComplexType} {element : ElementDecl} {scope name : String}
    (called : memberName? job element scope = some name) :
    rawClassName type element.name = element.name := by
  obtain ⟨plain, named, _⟩ := Identifier.ofMember_eq_ok (ok_of_toOption called)
  unfold Identifier.ofName at named
  split at named
  · cases named
  · next text same =>
      split at named
      · cases named
      · next full => simp [rawClassName, same, Schema.given?, full]

/-! ## Classes -/

section

variable {outline : ClassOutline} {type : ComplexType} {name className : Option String}

/-- A class with plain names has an identifier and a marker on single lines. -/
theorem plain_of_class (made : classOutline? job store type name className = some outline)
    (raw : ∀ text ∈ rawClassName type name, SingleLine text)
    (given : ∀ text ∈ className, SingleLine text) :
    SingleLine outline.name ∧
      ((∀ space ∈ store.spaceOf outline.type.home.location, SingleLine space) →
        MarkerPlain dataContract outline.marker) := by
  obtain ⟨same, called, _, _⟩ := classOutline?_eq_some made
  have single := singleLine_className called raw given
  refine ⟨single, fun spaced => ?_⟩
  rw [classOutline?_marker made, contract_plain_iff single]
  exact ⟨raw, same ▸ spaced⟩

theorem singleLine_class_iff (made : classOutline? job store type name none = some outline) :
    SingleLine outline.name ↔ ∀ text ∈ rawClassName type name, SingleLine text := by
  obtain ⟨_, called, _, _⟩ := classOutline?_eq_some made
  exact Identifier.singleLine_ofName_iff (ok_of_toOption called)

/-- A type that a member left waiting is known by the name of the element of the member. -/
theorem rawClassName_of_nested {home : Home} {outer : ClassOutline} {member : MemberOutline}
    (written : document.Written home) (above : Origin job store document outer)
    (inside : member ∈ outer.members) (left : member.nested = some type)
    (names : PlainNames job store document) :
    ∀ text ∈ rawClassName type (type.owner.bind (·.name)), SingleLine text := by
  obtain ⟨name, className, made⟩ := above.made
  obtain ⟨element, target, leaf, meant, called, _, nested⟩ := leaf_of_member made inside
  obtain ⟨standing, inline⟩ := nestedIn_eq_some_iff.mp (nested.symm.trans left)
  have same : target = element := by
    rw [targetMeant?, standing] at meant
    exact (Option.some.inj meant).symm
  subst same
  have heading : type.owner.bind (·.name) = target.name := by
    rw [written.owner above.writes leaf inline]
    rfl
  rw [heading, rawClassName_of_member called]
  exact names.members outer.type above.writes target leaf target meant

theorem Origin.plain {home : Home} (origin : Origin job store document outline)
    (written : document.Written home) (names : PlainNames job store document)
    (members : ∀ other, Origin job store document other →
      ∀ member ∈ other.members, SingleLine member.name) :
    SingleLine outline.name ∧
      ((∀ space ∈ store.spaceOf outline.type.home.location, SingleLine space) →
        MarkerPlain dataContract outline.marker) := by
  cases origin with
  | type declared made => exact plain_of_class made (names.types _ declared) (by simp)
  | element declared inline made =>
      exact plain_of_class made (names.elements _ declared _ inline) (by simp)
  | @nested outer _ member type above inside left made =>
      refine plain_of_class made (rawClassName_of_nested written above inside left names) ?_
      simpa using members outer above member inside

/-- A tame pattern makes a plain name of every member whose element has one. -/
theorem Origin.members_plain (origin : Origin job store document outline)
    (tame : Template.Tame job.settings.renamingPattern.toList)
    (names : PlainNames job store document) :
    ∀ member ∈ outline.members, SingleLine member.name := by
  intro member inside
  obtain ⟨name, className, made⟩ := origin.made
  obtain ⟨element, target, leaf, meant, called, _⟩ := leaf_of_member made inside
  have single := names.members outline.type origin.writes element leaf target meant
  exact Identifier.singleLine_of_ofMember tame (ok_of_toOption called) single

/-- The texts of a class. -/
theorem plain_calls_iff {options : EmitOptions} :
    (∀ call ∈ outline.calls, call.Plain options) ↔
      (options.dataContracts = true → MarkerPlain dataContract outline.marker) ∧
        SingleLine outline.name ∧ (∀ base ∈ outline.base, SingleLine base) ∧
          ∀ member ∈ outline.members, SingleLine member.type ∧ SingleLine member.name ∧
            (options.dataContracts = true → MarkerPlain dataMember member.wire) := by
  have classMarker : options.includes dataContract.options = options.dataContracts := by
    simp [EmitOptions.includes, dataContract, EmitOptions.none]
  have memberMarker : options.includes dataMember.options = options.dataContracts := by
    simp [EmitOptions.includes, dataMember, EmitOptions.none]
  simp [ClassOutline.calls, MemberOutline.call, Writer.Call.Plain, classMarker, memberMarker,
    or_imp, forall_and, and_assoc]

end

/-! ## Runs -/

theorem written_of_sound {source : Source} {location : String} {entry : Entry}
    (sound : store.Sound source) (found : store.at? location = some entry) :
    ∃ home : Home, home.location = location ∧ entry.document.Written home := by
  obtain ⟨content, _, read⟩ := sound.read entry (List.mem_of_find?_eq_some found)
  have here : entry.location = location := by simpa using List.find?_some found
  have written := Schema.ofBytes_written read
  exact ⟨⟨entry.document.location, store.edition⟩, here, written.elements, written.types⟩

/-- The names of all documents that were translated are plain. -/
def NamedPlainly (job : Job) (conversion : Conversion) : Prop :=
  ∀ location ∈ conversion.dequeued, ∃ entry, conversion.store.at? location = some entry ∧
    PlainNames job conversion.store entry.document

section

variable (completed : Completed job seeds outlines after)
include completed

/-- Each class of a run has its origin in a document whose classes are all of the run. -/
theorem Completed.origin {outline : ClassOutline} (listed : outline ∈ outlines.flatten) :
    ∃ location ∈ after.dequeued, ∃ entry, after.store.at? location = some entry ∧
      Origin job after.store entry.document outline ∧
        ∀ other, Origin job after.store entry.document other → other ∈ outlines.flatten := by
  obtain ⟨made, group, inside⟩ := List.mem_flatten.mp listed
  obtain ⟨location, taken, computed⟩ := mem_of_mapM completed.outlined group
  obtain ⟨entry, found, computed⟩ := Option.bind_eq_some_iff.mp computed
  have same := fun {outline} => @documentOutlines?_mem_iff _ _ _ _ outline computed
  refine ⟨location, taken, entry, found, same.mp inside, fun other origin => ?_⟩
  exact List.mem_flatten.mpr ⟨made, group, same.mpr origin⟩

/-- Single lines only come from plain names. -/
theorem Completed.named_of_plain
    (plain : ∀ outline ∈ outlines.flatten, ∀ call ∈ outline.calls,
      call.Plain job.settings.emitOptions) : NamedPlainly job after := by
  intro location taken
  obtain ⟨made, group, computed⟩ := exists_of_mapM completed.outlined taken
  obtain ⟨entry, found, computed⟩ := Option.bind_eq_some_iff.mp computed
  have covered := documentOutlines?_covered computed
  have texts := fun (outline : ClassOutline) (inside : outline ∈ made) =>
    plain_calls_iff.mp (plain outline (List.mem_flatten.mpr ⟨made, group, inside⟩))
  refine ⟨entry, found, ⟨?_, ?_, ?_, ?_⟩⟩
  · intro type declared
    obtain ⟨_, same, outline, inside, one⟩ := covered.types _ declared
    cases same
    exact (singleLine_class_iff one).mp (texts outline inside).2.1
  · intro element declared type inline
    obtain ⟨outline, inside, one⟩ := covered.elements element declared type inline
    exact (singleLine_class_iff one).mp (texts outline inside).2.1
  · intro type writes element leaf target meant
    obtain ⟨name, className, outline, inside, one⟩ := covered.outlined writes
    obtain ⟨member, within, other, same, called⟩ := member_of_leaf one leaf
    rw [meant] at same
    cases same
    obtain ⟨_, single, _, members⟩ := texts outline inside
    exact Identifier.singleLine_of_member (ok_of_toOption called) single (members member within).2.1
  · intro contracts type writes
    obtain ⟨name, className, outline, inside, one⟩ := covered.outlined writes
    obtain ⟨marker, single, _, _⟩ := texts outline inside
    have marked := marker contracts
    rw [classOutline?_marker one, contract_plain_iff single] at marked
    exact marked.2

/-- Plain names lead to single lines, where the members have them as well. -/
theorem Completed.plain_of_named (named : NamedPlainly job after)
    (members : ∀ outline ∈ outlines.flatten, ∀ member ∈ outline.members, SingleLine member.name) :
    ∀ outline ∈ outlines.flatten, ∀ call ∈ outline.calls, call.Plain job.settings.emitOptions := by
  have origins : ∀ outline ∈ outlines.flatten, ∃ document, PlainNames job after.store document ∧
      Origin job after.store document outline ∧ SingleLine outline.name ∧
        ((∀ space ∈ after.store.spaceOf outline.type.home.location, SingleLine space) →
          MarkerPlain dataContract outline.marker) := by
    intro outline listed
    obtain ⟨location, taken, entry, found, origin, others⟩ := completed.origin listed
    obtain ⟨_, same, names⟩ := named location taken
    cases found.symm.trans same
    obtain ⟨home, _, written⟩ := written_of_sound completed.sound found
    exact ⟨entry.document, names, origin, origin.plain written names fun other within =>
      members other (others other within)⟩
  -- a base or a type of a member is the name of a class, if it is not known beforehand
  have classes : ∀ name, after.Opened name → SingleLine name := by
    intro name opened
    obtain ⟨outline, listed, rfl⟩ := (completed.opened_iff name).mp opened
    obtain ⟨_, _, _, single, _⟩ := origins outline listed
    exact single
  intro outline listed
  obtain ⟨document, names, origin, single, marker⟩ := origins outline listed
  refine plain_calls_iff.mpr ⟨fun contracts => ?_, single, fun base based => ?_,
    fun member inside => ⟨?_, members outline listed member inside, fun _ => ?_⟩⟩
  · exact marker (names.spaces contracts outline.type origin.writes)
  · exact classes base (completed.base_opened listed based)
  · rcases completed.member_known listed inside with known | ⟨_, nameless, _⟩
    · exact known.singleLine classes
    · rcases nameless with empty | brackets
      · rw [empty]
        decide
      · rw [brackets]
        decide
  · obtain ⟨name, className, made⟩ := origin.made
    obtain ⟨element, target, leaf, meant, _, wire, _⟩ := leaf_of_member made inside
    rw [wire, wireName_plain_iff (members outline listed member inside)]
    exact names.members outline.type origin.writes element leaf target meant

theorem Completed.members_of_named (named : NamedPlainly job after)
    (tame : Template.Tame job.settings.renamingPattern.toList) :
    ∀ outline ∈ outlines.flatten, ∀ member ∈ outline.members, SingleLine member.name := by
  intro outline listed
  obtain ⟨location, taken, entry, found, origin, _⟩ := completed.origin listed
  obtain ⟨_, same, names⟩ := named location taken
  cases found.symm.trans same
  exact origin.members_plain tame names

/-- The classes of a run are given single lines exactly if the names are plain, those of the members
as well. -/
theorem Completed.plain_iff :
    (∀ call, isClassCall call → after.Wrote call → call.Plain job.settings.emitOptions) ↔
      NamedPlainly job after ∧
        ∀ type name markers, after.Wrote (.writeMember type name markers) → SingleLine name := by
  constructor
  · intro plain
    have all : ∀ outline ∈ outlines.flatten, ∀ call ∈ outline.calls,
        call.Plain job.settings.emitOptions := by
      intro outline listed call inside
      have forClass := isClassCall_of_outline inside
      exact plain call forClass ((completed.wrote_iff forClass).mpr ⟨outline, listed, inside⟩)
    exact ⟨completed.named_of_plain all, fun type name markers wrote => (plain _ rfl wrote).2.1⟩
  · rintro ⟨named, members⟩ call forClass wrote
    obtain ⟨outline, listed, inside⟩ := (completed.wrote_iff forClass).mp wrote
    refine completed.plain_of_named named (fun other there member within => ?_) outline listed call
      inside
    have written := ClassOutline.writeMember_mem_calls_iff.mpr ⟨member, within, rfl, rfl, rfl⟩
    exact members _ _ _ ((completed.wrote_iff rfl).mpr ⟨other, there, written⟩)

end

/-- In a run that returns, each line that was written is one line of its artifact exactly if the
names that classes and members are called after hold no line end, and the names that the pattern
makes of them hold none either; the latter need not be asked where the pattern is tame. -/
theorem lines_whole_iff_named_plainly {settings : Settings} {world : World}
    (plain : SingleLine settings.targetNamespace)
    (started : start ⟨settings, world.source settings.allowRemote⟩ = .ok begun)
    (answered : ((run ⟨settings, world.source settings.allowRemote⟩).perform begun).1 = .ok paths) :
    let job : Job := ⟨settings, world.source settings.allowRemote⟩
    let after := ((run job).perform begun).2.state
    (LinesWhole after ↔ NamedPlainly job after ∧
      ∀ type name markers, after.Wrote (.writeMember type name markers) → SingleLine name) ∧
    (Template.Tame settings.renamingPattern.toList →
      (LinesWhole after ↔ NamedPlainly job after)) := by
  intro job after
  obtain ⟨seeds, outlines, completed⟩ := run_returns started (Task.returns_of_perform answered)
  have whole : LinesWhole after ↔ NamedPlainly job after ∧
      ∀ type name markers, after.Wrote (.writeMember type name markers) → SingleLine name :=
    (linesWhole_iff_calls plain started).trans completed.plain_iff
  refine ⟨whole, fun tame => whole.trans (and_iff_left_of_imp fun named => ?_)⟩
  intro type name markers wrote
  obtain ⟨outline, listed, member, inside, _, rfl⟩ := completed.member_of_call wrote
  exact completed.members_of_named named tame outline listed member inside

/-! ## A class with a line end in its name -/

/-- A document with one class; the name is as it is written in the attribute. -/
def classWorld (name : String) : World where
  directory := ⟨['/'], []⟩
  files :=
    [(["a".toList], pairText ("<s:complexType name='" ++ name ++ "'><s:sequence>"
      ++ "<s:element name='x' type='s:string'/></s:sequence></s:complexType>"))]
  web := []

def classSettings : Settings := { inputs := ["a"] }

def classJob (name : String) : Job := ⟨classSettings, (classWorld name).source false⟩

def classLines (name : String) : List String :=
  ["using System;", "", "namespace Unknown", "\x7b", "\tpublic class " ++ name, "\t\x7b",
    "\t\tpublic String X \x7b get; set; \x7d", "\t\x7d", "\x7d"]

/-- The run answers, and leaves one artifact with these lines. -/
def Leaves (job : Job) (begun : Conversion) (lines : List String) : Prop :=
  ((run job).perform begun).1 = .ok ["a.cs"] ∧
    ((run job).perform begun).2.state.closed.map (·.writer.lines) = [lines]

theorem leaves_of_runs (job : Job) (lines : List String)
    (ran : ((start job).toOption.map fun begun =>
      let outcome := (run job).perform begun
      (outcome.1.toOption, outcome.2.state.closed.map (·.writer.lines))) =
        some (some ["a.cs"], [lines])) :
    ∃ begun, start job = .ok begun ∧ Leaves job begun lines := by
  obtain ⟨begun, made, ran⟩ := Option.map_eq_some_iff.mp ran
  obtain ⟨answered, wrote⟩ := Prod.mk.inj ran
  exact ⟨begun, ok_of_toOption made, ok_of_toOption answered, wrote⟩

theorem linesWhole_of_leaves {lines : List String} (leaves : Leaves job begun lines) :
    LinesWhole ((run job).perform begun).2.state ↔ ∀ line ∈ lines, SingleLine line := by
  obtain ⟨artifact, alone, same⟩ := List.map_eq_singleton_iff.mp leaves.2
  rw [linesWhole_iff, alone, List.forall_mem_singleton, same]

set_option maxRecDepth 100000 in
theorem plain_class_whole :
    ∃ begun, start (classJob "A") = .ok begun ∧
      let after := ((run (classJob "A")).perform begun).2.state
      LinesWhole after ∧ NamedPlainly (classJob "A") after := by
  obtain ⟨begun, started, leaves⟩ := leaves_of_runs (classJob "A") (classLines "A") (by
    simp only [classJob, classWorld, pairText, Text.Utf8.encode_toList]
    decide +kernel)
  have whole := (linesWhole_of_leaves leaves).mpr (by decide)
  have named := (@lines_whole_iff_named_plainly _ _ classSettings (classWorld "A") (by decide)
    started leaves.1).2 ⟨by decide, by decide⟩
  exact ⟨begun, started, whole, named.mp whole⟩

set_option maxRecDepth 100000 in
/-- A line end in the name of a type, written as a reference to the character, ends the line of its
class. -/
theorem broken_class_line :
    classSettings.check = .ok () ∧ SingleLine classSettings.targetNamespace ∧
      SingleLine classSettings.renamingPattern ∧
        ∃ begun, start (classJob "A&#10;B") = .ok begun ∧
          ((run (classJob "A&#10;B")).perform begun).1 = .ok ["a.cs"] ∧
            ¬ LinesWhole ((run (classJob "A&#10;B")).perform begun).2.state := by
  have checked : classSettings.check = .ok () := ok_of_toOption (by decide +kernel)
  obtain ⟨begun, started, leaves⟩ := leaves_of_runs (classJob "A&#10;B") (classLines "A\nB") (by
    simp only [classJob, classWorld, pairText, Text.Utf8.encode_toList]
    decide +kernel)
  refine ⟨checked, by decide, by decide, begun, started, leaves.1, ?_⟩
  rw [linesWhole_of_leaves leaves]
  decide

end SchemaSharp.Conversion
