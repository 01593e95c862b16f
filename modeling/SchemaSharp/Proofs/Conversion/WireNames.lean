import SchemaSharp.Proofs.Conversion.OutputOptions
import SchemaSharp.Proofs.Conversion.Refusals
import SchemaSharp.Proofs.Conversion.SingleLines

/-!
Names on the wire. With data contracts, what a class or a member is called in the schema can be told
from its marker: the marker holds the name, or it holds none and the identifier is the name. So
neither the renaming pattern nor the capitals show in what is exchanged.
-/

namespace SchemaSharp

open Schema (ComplexType ElementDecl Document Particle Home)
open Writer (Mark laidOut markerText)

/-- What a document calls a type that is written in it: by its own name, or by that of the element
around it. -/
inductive Schema.Document.Calls (document : Document) : ComplexType → String → Prop where
  | type {type : ComplexType} {text : String} (declared : .complex type ∈ document.types)
      (named : type.name = some text) : document.Calls type text
  | element {element : ElementDecl} {type : ComplexType} {text : String}
      (declared : element ∈ document.elements) (inline : element.inlineType = some (.complex type))
      (named : (Schema.given? element.name).or type.name = some text) : document.Calls type text
  | nested {outer type : ComplexType} {element : ElementDecl} {text : String}
      (above : document.Writes outer) (leaf : .element element ∈ outer.leaves)
      (standing : element.ref = none) (inline : element.inlineType = some (.complex type))
      (named : element.name = some text) : document.Calls type text

namespace Conversion

variable {job : Job} {store : Store} {document : Document} {entry : Entry}
  {outline : ClassOutline} {type : ComplexType} {name className : Option String}

/-! ## Arguments -/

/-- What a marker says that something is called: the name that it holds, or else the identifier. -/
def wireOf (arguments : Arguments) (identifier : String) : ArgumentValue :=
  (arguments.lookup "Name").getD (.text identifier)

theorem wireOf_wireName (text identifier : String) :
    wireOf (wireName (some text) identifier) identifier = .text text := by
  unfold wireName
  split
  · next same =>
      rw [Option.some.inj (beq_iff_eq.mp same)]
      rfl
  · rfl

theorem wireOf_contract (named : Bool) (text identifier : String) (space : Option String) :
    wireOf (contract named (some text) identifier space) identifier = .text text := by
  unfold wireOf contract
  split
  · rfl
  · next left =>
      have same : text = identifier := by
        simp only [Bool.or_eq_true, bne_iff_ne, not_or, not_not] at left
        exact Option.some.inj left.2
      rw [same]
      cases Schema.given? space <;> rfl

theorem lookup_space_contract (named : Bool) (rawName : Option String) (identifier : String)
    (space : Option String) :
    (contract named rawName identifier space).lookup "Namespace" =
      (Schema.given? space).map ArgumentValue.text := by
  unfold contract
  split
  all_goals
    cases Schema.given? space <;> rfl

/-! ## Classes -/

/-- A member has the name of the element that it stands for. -/
def MemberWired (store : Store) (element : ElementDecl) (member : MemberOutline) : Prop :=
  ∃ target text, targetMeant? store element = some target ∧ target.name = some text ∧
    wireOf member.wire member.name = .text text

/-- A class has the name of its type and the namespace of its document, and each member is called
as its element is. -/
structure ClassWired (store : Store) (entry : Entry) (outline : ClassOutline) : Prop where
  name : ∃ text, entry.document.Calls outline.type text ∧
    wireOf outline.marker outline.name = .text text
  space : outline.marker.lookup "Namespace" =
    (Schema.given? entry.space).map ArgumentValue.text
  members : ∃ elements, outline.type.leaves = elements.map Particle.element ∧
    List.Forall₂ (MemberWired store) elements outline.members

theorem memberWired_of_outline {scope : String} {element : ElementDecl} {member : MemberOutline}
    (made : memberOutline? job store scope element = some member) :
    MemberWired store element member := by
  unfold memberOutline? at made
  obtain ⟨target, meant, made⟩ := Option.bind_eq_some_iff.mp made
  obtain ⟨identifier, called, made⟩ := Option.bind_eq_some_iff.mp made
  obtain ⟨_, _, made⟩ := Option.bind_eq_some_iff.mp made
  cases made
  obtain ⟨plain, named, _⟩ := Identifier.ofMember_eq_ok (ok_of_toOption called)
  obtain ⟨text, same⟩ := Identifier.exists_of_ofName named
  exact ⟨target, text, meant, same, same ▸ wireOf_wireName text identifier⟩

/-- A class whose type has a schema name is called by it. -/
theorem wireOf_class (made : classOutline? job store type name className = some outline)
    {text : String} (named : rawClassName type name = some text) :
    wireOf outline.marker outline.name = .text text := by
  rw [classOutline?_marker made, named]
  exact wireOf_contract _ text outline.name _

/-- Whoever has an identifier of its own has a name. -/
theorem exists_rawClassName (made : classOutline? job store type name none = some outline) :
    ∃ text, rawClassName type name = some text :=
  Identifier.exists_of_ofName (ok_of_toOption (classOutline?_eq_some made).2.1)

theorem Origin.called {home : Home} (origin : Origin job store document outline)
    (written : document.Written home) :
    ∃ text, document.Calls outline.type text ∧ wireOf outline.marker outline.name = .text text := by
  cases origin with
  | type declared made =>
      obtain ⟨text, named⟩ := exists_rawClassName made
      rw [(classOutline?_eq_some made).1]
      exact ⟨text, .type declared named, wireOf_class made named⟩
  | element declared inline made =>
      obtain ⟨text, named⟩ := exists_rawClassName made
      rw [(classOutline?_eq_some made).1]
      exact ⟨text, .element declared inline named, wireOf_class made named⟩
  | @nested outer _ member type above inside left made =>
      -- The type knows the element that holds it, which has given the member its name.
      obtain ⟨_, _, around⟩ := above.made
      obtain ⟨element, target, leaf, meant, called, _, nested⟩ := leaf_of_member around inside
      obtain ⟨standing, inline⟩ := nestedIn_eq_some_iff.mp (nested.symm.trans left)
      obtain rfl : element = target := by
        rw [targetMeant?, standing] at meant
        exact Option.some.inj meant
      have owner : type.owner.bind (·.name) = element.name := by
        rw [written.owner above.writes leaf inline]
        rfl
      rw [owner] at made
      obtain ⟨plain, named, _⟩ := Identifier.ofMember_eq_ok (ok_of_toOption called)
      obtain ⟨text, same⟩ := Identifier.exists_of_ofName named
      rw [(classOutline?_eq_some made).1]
      exact ⟨text, .nested above.writes leaf standing inline same,
        wireOf_class made ((rawClassName_of_member called).trans same)⟩

theorem Origin.classWired {home : Home} (origin : Origin job store entry.document outline)
    (written : entry.document.Written home) (found : store.at? home.location = some entry) :
    ClassWired store entry outline := by
  obtain ⟨name, className, made⟩ := origin.made
  constructor
  case name => exact origin.called written
  case space =>
    obtain ⟨owner, node, read⟩ := written.readAsType origin.writes
    have homed : outline.type.home = home :=
      (Schema.readComplexType_covered home owner node _ read).1
    rw [classOutline?_marker made, lookup_space_contract, homed, Store.spaceOf, found]
    rfl
  case members =>
    obtain ⟨_, _, _, all⟩ := classOutline?_eq_some made
    refine ⟨membersOf outline.type, (classOutline?_supported made).2, ?_⟩
    exact (forall₂_of_mapM all).imp fun _ _ => memberWired_of_outline

/-! ## Lines -/

/-- The lines of markers among what is written. -/
def markerLines (marks : List Mark) : List String :=
  marks.filterMap fun
    | .line .classMarker text => some text
    | .line .memberMarker text => some text
    | _ => none

theorem markerLines_append (first second : List Mark) :
    markerLines (first ++ second) = markerLines first ++ markerLines second :=
  List.filterMap_append

theorem markerLines_flatten (parts : List (List Mark)) :
    markerLines parts.flatten = parts.flatMap markerLines := by
  rw [markerLines, List.filterMap_flatten]
  rfl

/-- The lines of markers that a class has with data contracts. -/
def ClassOutline.markerLines (outline : ClassOutline) : List String :=
  markerText "DataContract" outline.marker ::
    outline.members.map fun member => markerText "DataMember" member.wire

theorem markerLines_member {writer : Writer} (referenced : writer.Referenced)
    (contracts : writer.options.dataContracts = true) (member : MemberOutline) :
    markerLines (writer.memberMarks member.type member.name [(dataMember, member.wire)]) =
      [markerText "DataMember" member.wire] := by
  have marker : writer.markerMarks .memberMarker [(dataMember, member.wire)] = _ :=
    Writer.markerMarks_of_contracts referenced ⟨rfl, rfl⟩ contracts _ _
  have short : dataMember.shortName = "DataMember" := by decide
  unfold Writer.memberMarks
  rw [marker, short]
  split <;> rfl

theorem markerLines_opening (writer : Writer) (name : String) (base : Option String)
    (isAbstract : Bool) :
    markerLines (Writer.Call.marks writer (.openType name base isAbstract [])) = [] := by
  have silent : ∀ lines : List String, markerLines (lines.map (.line .member)) = [] := by
    intro lines
    simp [markerLines]
  simp only [Writer.Call.marks]
  change markerLines (if _ then _ else _) = []
  split
  · exact silent _
  · rfl

theorem markerLines_calls {writer : Writer} (between : Between writer)
    (contracts : writer.options.dataContracts = true) (outline : ClassOutline) :
    markerLines (writer.marksOf outline.calls) = outline.markerLines := by
  have marker : writer.markerMarks .classMarker [(dataContract, outline.marker)] = _ :=
    Writer.markerMarks_of_contracts between.referenced ⟨rfl, rfl⟩ contracts _ _
  have short : dataContract.shortName = "DataContract" := by decide
  have closing : markerLines [.closes] = [] := rfl
  -- opening the class changes neither the options nor what has been declared
  have referenced : (outline.entered writer).Referenced := between.referenced
  have still : (outline.entered writer).options.dataContracts = true := contracts
  rw [class_marks between, marker, short, markerLines_append, markerLines_append,
    markerLines_append, markerLines_opening, markerLines_flatten, closing, List.flatMap_map,
    List.append_nil, List.nil_append]
  simp only [markerLines_member referenced still]
  rw [← List.map_eq_flatMap]
  rfl

theorem classMarks_markerLines (contracts : job.settings.dataContracts = true)
    (outline : ClassOutline) : markerLines (classMarks job outline) = outline.markerLines := by
  have options : (headed job).options = job.settings.emitOptions :=
    congrArg Writer.options (head_written job).2
  have on : (headed job).options.dataContracts = true := by
    rw [options]
    exact contracts
  exact markerLines_calls (between_headed job) on outline

theorem fileMarks_markerLines (contracts : job.settings.dataContracts = true)
    (outlines : List ClassOutline) :
    markerLines (fileMarks job outlines) = outlines.flatMap ClassOutline.markerLines := by
  have head : markerLines (Writer.fileHead (fileSpaces job) job.settings.targetNamespace) = [] := by
    simp [markerLines, Writer.fileHead]
  have closing : markerLines [.closes] = [] := rfl
  rw [fileMarks, markerLines_append, markerLines_append, head, closing, markerLines_flatten,
    List.flatMap_map, List.append_nil, List.nil_append]
  simp only [classMarks_markerLines contracts]

/-! ## Runs -/

/-- The classes are all that is in the artifact, and its markers are theirs. -/
structure HoldsClasses (job : Job) (artifact : Artifact) (outlines : List ClassOutline) : Prop where
  calls : artifact.calls = headerCalls job ++ (outlines.flatMap ClassOutline.calls ++ [.finish])
  lines : artifact.writer.lines = laidOut "\t" 0 (fileMarks job outlines)
  markers : markerLines (fileMarks job outlines) = outlines.flatMap ClassOutline.markerLines

variable {after : Conversion} {seeds : List String} {documents : List (List ClassOutline)}

theorem WholeFile.holds {artifact : Artifact} {outlines : List ClassOutline}
    (contracts : job.settings.dataContracts = true) (whole : WholeFile job store artifact)
    (same : classCalls artifact = outlines.flatMap ClassOutline.calls) :
    HoldsClasses job artifact outlines := by
  obtain ⟨path, others, _, rfl⟩ := whole
  rw [classCalls_filed, calls_isClassCall] at same
  rw [same]
  obtain ⟨calls, lines⟩ := @whole_written job path outlines
  exact ⟨calls, lines, fileMarks_markerLines contracts outlines⟩

/-- What is in the artifacts of a run that is complete: the classes of all documents, or of each. -/
theorem Completed.holds (completed : Completed job seeds documents after)
    (contracts : job.settings.dataContracts = true)
    (whole : ∀ artifact ∈ after.closed, WholeFile job after.store artifact) :
    List.Forall₂ (HoldsClasses job) after.closed
      (if job.settings.singleFile then [documents.flatten] else documents) := by
  have artifacts : after.closed.map classCalls =
      (if job.settings.singleFile then [documents.flatten] else documents).map
        (·.flatMap ClassOutline.calls) := by
    have artifacts := completed.artifacts
    rw [completed.desk, List.append_nil] at artifacts
    rw [artifacts, artifactCalls]
    split <;> rfl
  rw [← List.forall₂_eq_eq_eq] at artifacts
  have related := List.forall₂_map_right_iff.mp (List.forall₂_map_left_iff.mp artifacts)
  exact ((List.forall₂_and_left _ _).mpr ⟨whole, related⟩).imp
    fun _ _ both => both.1.holds contracts both.2

/-- In a run with data contracts that returns, the markers tell the names of the schema: of each
class that of its type, with the namespace of its document, and of each member that of its element.
-/
theorem wire_names_kept (job : Job) (contracts : job.settings.dataContracts = true)
    {begun : Conversion} {paths : List String} (started : start job = .ok begun)
    (answered : ((run job).perform begun).1 = .ok paths) :
    let after := ((run job).perform begun).2.state
    ∃ documents : List (List ClassOutline),
      List.Forall₂ (fun location outlines => ∃ entry, after.store.at? location = some entry ∧
        ∀ outline ∈ outlines, ClassWired after.store entry outline) after.dequeued documents ∧
      after.desk = [] ∧ List.Forall₂ (HoldsClasses job) after.closed
        (if job.settings.singleFile then [documents.flatten] else documents) := by
  intro after
  obtain ⟨seeds, documents, completed⟩ := run_returns started (Task.returns_of_perform answered)
  have allowed : FailsOnly (·.isRefusal = true) ((run job).perform begun).1 :=
    answered ▸ failsOnly_ok paths
  obtain ⟨desk, whole⟩ := run_fills started allowed
  refine ⟨documents, ?_, desk, completed.holds contracts whole⟩
  refine (forall₂_of_mapM completed.outlined).imp fun location outlines computed => ?_
  obtain ⟨entry, found, made⟩ := Option.bind_eq_some_iff.mp computed
  obtain ⟨home, rfl, written⟩ := written_of_sound completed.sound found
  refine ⟨entry, found, fun outline listed => ?_⟩
  exact (documentOutlines?_origin made outline listed).classWired written found

/-- A type with a member that its name would be taken from, which is renamed, as is the type inside
it; and a reference to an element. -/
def renamed : World where
  directory := ⟨['/'], []⟩
  files :=
    [(["a".toList], Text.Utf8.encode ("<s:schema xmlns:s='http://www.w3.org/2001/XMLSchema'"
      ++ " xmlns='urn:m' targetNamespace='urn:m'><s:element name='note'><s:complexType/></s:element>"
      ++ "<s:complexType name='order-line'><s:sequence><s:element name='order-line'><s:complexType/>"
      ++ "</s:element><s:element ref='note'/></s:sequence></s:complexType></s:schema>").toList)]
  web := []

def renamedJob : Job := ⟨{ inputs := ["a"], dataContracts := true }, renamed.source false⟩

def renamedLines : List String :=
  ["using System;", "using System.Runtime.Serialization;", "", "namespace Unknown", "\x7b",
    "\t[DataContract(Name = \"note\", Namespace = \"urn:m\")]", "\tpublic class Note", "\t\x7b",
    "\t\x7d",
    "\t[DataContract(Name = \"order-line\", Namespace = \"urn:m\")]", "\tpublic class OrderLine",
    "\t\x7b", "\t\t[DataMember(Name = \"order-line\")]",
    "\t\tpublic OrderLineData OrderLineData \x7b get; set; \x7d",
    "\t\t[DataMember(Name = \"note\")]", "\t\tpublic Note Note \x7b get; set; \x7d", "\t\x7d",
    "\t[DataContract(Name = \"order-line\", Namespace = \"urn:m\")]",
    "\tpublic class OrderLineData", "\t\x7b", "\t\x7d", "\x7d"]

set_option maxRecDepth 100000 in
theorem renamed_keeps_wire_names :
    ∃ begun, start renamedJob = .ok begun ∧ Leaves renamedJob begun renamedLines ∧
      let after := ((run renamedJob).perform begun).2.state
      ∃ documents : List (List ClassOutline),
        List.Forall₂ (fun location outlines => ∃ entry, after.store.at? location = some entry ∧
          ∀ outline ∈ outlines, ClassWired after.store entry outline) after.dequeued documents ∧
        List.Forall₂ (HoldsClasses renamedJob) after.closed documents := by
  obtain ⟨begun, started, leaves⟩ := leaves_of_runs renamedJob renamedLines (by
    simp only [renamedJob, renamed, Text.Utf8.encode_toList]
    decide +kernel)
  obtain ⟨documents, wired, _, holds⟩ := wire_names_kept renamedJob rfl started leaves.1
  exact ⟨begun, started, leaves, documents, wired, holds⟩

end Conversion

end SchemaSharp
