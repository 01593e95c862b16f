import SchemaSharp.Proofs.Conversion.Course
import SchemaSharp.Proofs.Writer.Grammar

/-!
The files of a run. Every artifact has the same head, and what follows depends on its classes alone.
A class that is cut off because the run fails is closed where it stands, and so is a whole class of
the grammar with fewer members.
-/

namespace SchemaSharp.Conversion

open Writer (At Mark Balanced ClassText FileText MemberText fileHead laidOut Referenced)

variable {job : Job}

/-! ## Heads -/

/-- The directives of every artifact. -/
def fileSpaces (job : Job) : List String :=
  "System" :: Writer.optionSpaces job.settings.emitOptions

theorem fileSpaces_nodup (job : Job) : (fileSpaces job).Nodup := by
  unfold fileSpaces Writer.optionSpaces
  obtain ⟨contracts, notifying, dependent⟩ := job.settings.emitOptions
  cases contracts <;> cases notifying <;> cases dependent <;> decide

/-- The writer of an artifact that has its head. -/
def headed (job : Job) : Writer :=
  (Writer.start job.settings.emitOptions "\t").afterCalls (headerCalls job)

theorem head_written (job : Job) :
    (Writer.start job.settings.emitOptions "\t").marksOf (headerCalls job) =
        fileHead (fileSpaces job) job.settings.targetNamespace ∧
      (headed job).blank = ⟨job.settings.emitOptions, "", .namespaceBody,
        some job.settings.targetNamespace, [], fileSpaces job, none, false, []⟩ := by
  let begun := Writer.start job.settings.emitOptions "\t"
  have calls : headerCalls job = (fileSpaces job).map Writer.Call.declareReference ++
      [.openNamespace job.settings.targetNamespace] := rfl
  have here : At .header begun := ⟨rfl, rfl⟩
  obtain ⟨marks, after⟩ := Writer.marksOf_declare here (fileSpaces_nodup job)
    fun _ _ => List.not_mem_nil
  generalize reached : begun.afterCalls ((fileSpaces job).map Writer.Call.declareReference) =
    middle at after
  have accepted :
      Writer.Call.refusal? middle (.openNamespace job.settings.targetNamespace) = none := by
    have finished : middle.finished = false := congrArg Writer.finished after
    have level : middle.level = .header := congrArg Writer.level after
    have space : middle.space = none := congrArg Writer.space after
    simp [Writer.Call.refusal?, Writer.Call.misplaced?, finished, level, space]
  unfold headed
  rw [calls, Writer.marksOf_append, Writer.afterCalls_append, marks, reached,
    Writer.marksOf_cons_of_accepted accepted, Writer.afterCalls_cons,
    Writer.perform_of_accepted accepted]
  refine ⟨rfl, ?_⟩
  change { middle.blank with
    space := some job.settings.targetNamespace, level := .namespaceBody } = _
  rw [after]
  rfl

theorem at_headed (job : Job) : At .namespaceBody (headed job) :=
  ⟨congrArg Writer.finished (head_written job).2, congrArg Writer.level (head_written job).2⟩

/-! ## Classes -/

/-- A writer between two classes, which has written the directives that its options need. -/
structure Between (writer : Writer) : Prop where
  here : At .namespaceBody writer
  idle : writer.currentType = none
  referenced : writer.Referenced

theorem between_headed (job : Job) : Between (headed job) where
  here := at_headed job
  idle := congrArg Writer.currentType (head_written job).2
  referenced space needed := by
    have options : (headed job).options = job.settings.emitOptions :=
      congrArg Writer.options (head_written job).2
    have references : (headed job).references = fileSpaces job :=
      congrArg Writer.references (head_written job).2
    rw [options] at needed
    rw [references]
    exact List.mem_cons_of_mem _ needed

variable {writer : Writer}

theorem members_written (here : At .classBody writer) (members : List MemberOutline) :
    writer.marksOf (members.map MemberOutline.call) =
        (members.map fun member =>
          writer.memberMarks member.type member.name [(dataMember, member.wire)]).flatten ∧
      (writer.afterCalls (members.map MemberOutline.call)).blank = writer.blank := by
  induction members generalizing writer with
  | nil => exact ⟨rfl, rfl⟩
  | cons member rest ih =>
      have leads : Writer.Call.next? .classBody member.call = some .classBody := rfl
      obtain ⟨accepted, there⟩ := here.accepts leads
      have same : (writer.accept member.call).blank = writer.blank := rfl
      have alike : ∀ other : MemberOutline,
          (writer.accept member.call).memberMarks other.type other.name [(dataMember, other.wire)] =
            writer.memberMarks other.type other.name [(dataMember, other.wire)] := by
        intro other
        rw [← Writer.memberMarks_blank, same, Writer.memberMarks_blank]
      obtain ⟨marks, after⟩ := ih there
      constructor
      · rw [List.map_cons, Writer.marksOf_cons_of_accepted accepted, marks]
        simp only [alike]
        rfl
      · rw [List.map_cons, Writer.afterCalls_cons, Writer.perform_of_accepted accepted]
        exact after.trans same

/-- The writer inside the class, before any of its members. -/
def ClassOutline.entered (outline : ClassOutline) (writer : Writer) : Writer :=
  (writer.accept (.writeMarker dataContract outline.marker)).accept
    (.openType outline.name outline.base outline.type.isAbstract [])

theorem members_accepted (between : Between writer) (outline : ClassOutline) :
    At .classBody (outline.entered writer) ∧
      writer.marksOf outline.calls =
          Writer.Call.marks writer (.writeMarker dataContract outline.marker) ++
            (Writer.Call.marks writer
                (.openType outline.name outline.base outline.type.isAbstract []) ++
              (outline.entered writer).marksOf
                (outline.members.map MemberOutline.call ++ [.close])) ∧
        writer.afterCalls outline.calls = (outline.entered writer).afterCalls
          (outline.members.map MemberOutline.call ++ [.close]) := by
  let marking : Writer.Call := .writeMarker dataContract outline.marker
  let opening : Writer.Call := .openType outline.name outline.base outline.type.isAbstract []
  have stays : marking.next? .namespaceBody = some .namespaceBody := rfl
  have enters : opening.next? .namespaceBody = some .classBody := rfl
  obtain ⟨marked, still⟩ := between.here.accepts stays
  obtain ⟨opened, inside⟩ := still.accepts enters
  have parts : outline.calls =
      marking :: opening :: (outline.members.map MemberOutline.call ++ [.close]) := rfl
  refine ⟨inside, ?_, ?_⟩
  · rw [parts, Writer.marksOf_cons_of_accepted marked, Writer.marksOf_cons_of_accepted opened]
    rfl
  · rw [parts, Writer.afterCalls_cons, Writer.perform_of_accepted marked, Writer.afterCalls_cons,
      Writer.perform_of_accepted opened]
    rfl

/-- What a class is written as: its marker, the lines that open it, and its members. -/
theorem class_marks (between : Between writer) (outline : ClassOutline) :
    writer.marksOf outline.calls =
      writer.markerMarks .classMarker [(dataContract, outline.marker)] ++
        (Writer.Call.marks writer
            (.openType outline.name outline.base outline.type.isAbstract []) ++
          ((outline.members.map fun member => (outline.entered writer).memberMarks member.type
            member.name [(dataMember, member.wire)]).flatten ++ [.closes])) := by
  have leaves : Writer.Call.next? .classBody .close = some .namespaceBody := rfl
  obtain ⟨inside, whole, _⟩ := members_accepted between outline
  obtain ⟨members, kept⟩ := members_written inside outline.members
  obtain ⟨closed, _⟩ := (inside.of_blank kept).accepts leaves
  have markers : Writer.Call.marks writer (.writeMarker dataContract outline.marker) =
      writer.markerMarks .classMarker [(dataContract, outline.marker)] := by
    simp only [Writer.Call.marks, between.here.level, if_true]
  rw [whole, markers, Writer.marksOf_append, members, Writer.marksOf_cons_of_accepted closed]
  rfl

/-- A class is written as the grammar has it, and leaves the writer as it was. -/
theorem class_written (between : Between writer) (outline : ClassOutline) :
    ClassText writer.options (writer.marksOf outline.calls) ∧
      (writer.afterCalls outline.calls).blank = writer.blank := by
  constructor
  · have contract := Writer.marked_of_markers between.referenced ⟨rfl, rfl⟩
      (show dataContract.shortName = "DataContract" by decide) .classMarker outline.marker
    obtain ⟨inheritance, notification, notified, head⟩ :=
      Writer.opening_text between.referenced outline.name outline.base outline.type.isAbstract
    rw [class_marks between, head, List.cons_append, ← List.append_assoc notification]
    refine .block contract notified fun member listed => ?_
    obtain ⟨made, _, rfl⟩ := List.mem_map.mp listed
    have referenced : (outline.entered writer).Referenced := between.referenced
    exact Writer.memberMarks_text referenced made.type made.name made.wire
  · have leaves : Writer.Call.next? .classBody .close = some .namespaceBody := rfl
    obtain ⟨inside, _, reached⟩ := members_accepted between outline
    have kept := (members_written inside outline.members).2
    obtain ⟨closed, _⟩ := (inside.of_blank kept).accepts leaves
    rw [reached, Writer.afterCalls_append, Writer.afterCalls_cons,
      Writer.perform_of_accepted closed]
    change (Writer.accept _ .close).blank = _
    rw [Writer.blank_accept, kept, ← Writer.blank_accept]
    change { writer.blank with level := .namespaceBody, currentType := none } = writer.blank
    rw [← between.here.level, ← between.idle]
    rfl

/-! ## Drafts -/

theorem Between.of_blank {other : Writer} (between : Between writer)
    (same : other.blank = writer.blank) : Between other where
  here := between.here.of_blank same
  idle := (congrArg Writer.currentType same).trans between.idle
  referenced := by
    intro space needed
    have options := congrArg Writer.options same
    have references := congrArg Writer.references same
    change other.options = writer.options at options
    change other.references = writer.references at references
    rw [options] at needed
    rw [references]
    exact between.referenced space needed

theorem finish_written {level : Level} (here : At level writer) :
    writer.marksOf [.finish] = List.replicate level.depth .closes := by
  have accepted : Writer.Call.refusal? writer .finish = none := rfl
  rw [Writer.marksOf_cons_of_accepted accepted, Writer.Call.marks, here.unfinished, here.level]
  simp [Writer.marksOf]

/-- A class that is cut off is closed at the end as any other is where it ends. -/
theorem begun_written (here : At .namespaceBody writer) (outline : ClassOutline) :
    writer.marksOf (outline.begun ++ [.finish]) = writer.marksOf outline.calls ++ [.closes] := by
  have inside := (here.afterCalls (levelAfter?_begun outline)).1
  have leaves : Writer.Call.next? .classBody .close = some .namespaceBody := rfl
  obtain ⟨closed, _⟩ := inside.accepts leaves
  rw [outline.calls_eq, Writer.marksOf_append, Writer.marksOf_append, finish_written inside,
    Writer.marksOf_cons_of_accepted closed, List.append_assoc]
  rfl

theorem draft_written (between : Between writer) (classes : List ClassOutline)
    (cut : Option ClassOutline) :
    writer.marksOf (draftCalls classes cut ++ [.finish]) =
      ((classes ++ cut.toList).map fun outline => writer.marksOf outline.calls).flatten ++
        [.closes] := by
  induction classes generalizing writer with
  | nil =>
      cases cut with
      | none => exact finish_written between.here
      | some outline => simpa [draftCalls] using begun_written between.here outline
  | cons outline rest ih =>
      have kept := (class_written between outline).2
      have alike : ∀ other : ClassOutline,
          (writer.afterCalls outline.calls).marksOf other.calls = writer.marksOf other.calls :=
        fun other => (Writer.marksOf_congr kept other.calls).1
      have others := ih (between.of_blank kept)
      simp only [alike] at others
      have calls : draftCalls (outline :: rest) cut ++ [.finish] =
          outline.calls ++ (draftCalls rest cut ++ [.finish]) := by
        simp [draftCalls]
      rw [calls, Writer.marksOf_append, others, ← List.append_assoc]
      rfl

/-! ## Artifacts -/

/-- The marks of a class in any artifact of the job. -/
def classMarks (job : Job) (outline : ClassOutline) : List Mark :=
  (headed job).marksOf outline.calls

theorem classMarks_text (job : Job) (outline : ClassOutline) :
    ClassText job.settings.emitOptions (classMarks job outline) := by
  have options : (headed job).options = job.settings.emitOptions :=
    congrArg Writer.options (head_written job).2
  rw [← options]
  exact (class_written (between_headed job) outline).1

/-- The marks of an artifact with these classes. -/
def fileMarks (job : Job) (outlines : List ClassOutline) : List Mark :=
  fileHead (fileSpaces job) job.settings.targetNamespace ++
    ((outlines.map (classMarks job)).flatten ++ [.closes])

theorem fileMarks_text (job : Job) (outlines : List ClassOutline) :
    FileText job.settings.emitOptions job.settings.targetNamespace (fileMarks job outlines) := by
  refine .file (fileSpaces_nodup job) fun text listed => ?_
  obtain ⟨outline, _, rfl⟩ := List.mem_map.mp listed
  exact classMarks_text job outline

theorem calls_filed (job : Job) (path : String) (calls : List Writer.Call) :
    (Artifact.filed job path calls).calls = headerCalls job ++ (calls ++ [.finish]) := by
  have performed : ((Artifact.start path job.settings.emitOptions).performAll
      (headerCalls job ++ calls)).calls = headerCalls job ++ calls :=
    Artifact.calls_performAll _ _
  rw [← List.append_assoc, ← performed]
  rfl

theorem writer_filed (job : Job) (path : String) (calls : List Writer.Call) :
    (Artifact.filed job path calls).writer =
      (Writer.start job.settings.emitOptions "\t").afterCalls
        (headerCalls job ++ (calls ++ [.finish])) := by
  have performed : ((Artifact.start path job.settings.emitOptions).performAll
      (headerCalls job ++ calls)).writer =
        (Writer.start job.settings.emitOptions "\t").afterCalls (headerCalls job ++ calls) :=
    Bench.writer_performAll _ _
  rw [← List.append_assoc, Writer.afterCalls_append, ← performed]
  rfl

/-- The marks of an artifact are its head and its classes, the last of them closed even if it was
cut off. -/
theorem marks_filed (path : String) (classes : List ClassOutline) (cut : Option ClassOutline) :
    (Writer.start job.settings.emitOptions "\t").marksOf
      (Artifact.filed job path (draftCalls classes cut)).calls =
        fileMarks job (classes ++ cut.toList) := by
  rw [calls_filed, Writer.marksOf_append, (head_written job).1]
  exact congrArg _ (draft_written (between_headed job) classes cut)

/-- An artifact is finished, and its lines are its marks laid out. -/
theorem filed_written (path : String) (classes : List ClassOutline) (cut : Option ClassOutline) :
    let artifact := Artifact.filed job path (draftCalls classes cut)
    artifact.writer.finished = true ∧
      artifact.writer.lines = laidOut "\t" 0 (fileMarks job (classes ++ cut.toList)) := by
  intro artifact
  have formed := (Writer.formed_start job.settings.emitOptions "\t").afterCalls
    (headerCalls job ++ draftCalls classes cut)
  have whole := (Writer.formed_start job.settings.emitOptions "\t").afterCalls
    (headerCalls job ++ (draftCalls classes cut ++ [.finish]))
  have writer : artifact.writer = _ := writer_filed job path (draftCalls classes cut)
  rw [writer]
  constructor
  · rw [← List.append_assoc]
    exact (Writer.finish_afterCalls _ formed.oriented).1
  · rw [← marks_filed path classes cut, calls_filed]
    exact whole.lines

/-! ## What a run leaves -/

/-- The artifact of a draft. -/
def Filed (job : Job) (draft : Draft) (artifact : Artifact) : Prop :=
  ∃ path, artifact = .filed job path draft.calls

theorem publishEach_left (drafts : List Draft) (bench : Bench) :
    ∃ artifacts, List.Forall₂ (Filed job) drafts artifacts ∧
      (bench.publishEach job drafts).desk = bench.desk ∧
        (bench.publishEach job drafts).closed = bench.closed ++ artifacts ∧
          (bench.publishEach job drafts).written = bench.written ++ artifacts.map (·.path) := by
  induction drafts generalizing bench with
  | nil => exact ⟨[], .nil, by simp [Bench.publishEach]⟩
  | cons draft rest ih =>
      let path := Artifact.freshPath (FilePath.ofString job.settings.outputDirectory) draft.stem
        bench.written
      obtain ⟨artifacts, filed, desk, closed, written⟩ := ih (bench.publish job path draft.calls)
      refine ⟨.filed job path draft.calls :: artifacts, .cons ⟨path, rfl⟩ filed, desk, ?_, ?_⟩
      · rw [Bench.publishEach, closed, Bench.publish, List.append_assoc]
        rfl
      · rw [Bench.publishEach, written, Bench.publish, List.append_assoc, List.map_cons,
          Artifact.path_filed]
        rfl

/-- The artifacts on a bench that nothing is being written to: those of the given drafts. -/
structure Bench.Holds (job : Job) (drafts : List Draft) (bench : Bench) : Prop where
  desk : bench.desk = []
  written : bench.closed.map (·.path) = bench.written
  filed : List.Forall₂ (Filed job) drafts bench.closed

theorem holds_publish (path : String) (draft : Draft) :
    (Bench.empty.publish job path draft.calls).Holds job [draft] where
  desk := rfl
  written := congrArg (fun place => [place]) (Artifact.path_filed job path draft.calls)
  filed := .cons ⟨path, rfl⟩ .nil

theorem holds_publishEach (drafts : List Draft) :
    (Bench.empty.publishEach job drafts).Holds job drafts := by
  obtain ⟨artifacts, filed, desk, closed, written⟩ := @publishEach_left job drafts .empty
  constructor
  · exact desk
  · rw [closed, written]
    rfl
  · rw [closed]
    exact filed

theorem Bench.Holds.nothing {bench : Bench} (holds : bench.Holds job []) :
    bench.written = [] ∧ bench.closed = [] := by
  have closed : bench.closed = [] := List.forall₂_nil_left_iff.mp holds.filed
  rw [← holds.written, closed]
  exact ⟨rfl, rfl⟩

theorem Bench.Holds.alone {draft : Draft} {bench : Bench} (holds : bench.Holds job [draft]) :
    ∃ artifact, bench.closed = [artifact] := by
  obtain ⟨artifact, others, _, none, closed⟩ := List.forall₂_cons_left_iff.mp holds.filed
  rw [List.forall₂_nil_left_iff.mp none] at closed
  exact ⟨artifact, closed⟩

theorem holds_nothing : Bench.empty.Holds job [] where
  desk := rfl
  written := rfl
  filed := .nil

/-- In both modes a run ends alike and leaves the artifacts of drafts with the same classes: of none
if the inputs cannot be loaded, and of a single draft where all goes into one file. -/
theorem runs_leave_alike {begun : Conversion} (civil : job.source.Civil)
    (started : start job = .ok begun) :
    let seeding := (seed job).run ⟨{ begun with started := true }, []⟩
    ∃ result, ∃ drafts : Bool → List Draft, ∃ after : Bool → Conversion, Proper result ∧
      (∀ single, Ends (job.inMode single) begun result (after single) ∧
        (after single).bench.Holds job (drafts single)) ∧
      (after true).dequeued = (after false).dequeued ∧
      (drafts true).flatMap Draft.outlines = (drafts false).flatMap Draft.outlines ∧
      ((∃ failure, seeding.1 = .error failure ∧ result = .error failure ∧
          ∀ single, drafts single = []) ∨
        ∃ seeds draft, seeding.1 = .ok seeds ∧ drafts true = [draft]) := by
  intro seeding
  rcases run_course civil started with
    ⟨failure, failed, mild, empty, _, ends⟩ |
      ⟨seeds, result, drafts, path, after, found, _, drafted, _, styled⟩
  · refine ⟨.error failure, fun _ => [], fun _ => seeding.2.state, failsOnly_error mild,
      fun single => ⟨ends job.settings.emitOptions single, ?_⟩, rfl, rfl,
      .inl ⟨failure, failed, rfl, fun _ => rfl⟩⟩
    rw [empty]
    exact holds_nothing
  · -- The calls of all drafts, one after the other, are the calls of one draft with all classes.
    obtain ⟨joined, calls, outlines⟩ := drafted.series.joined
    obtain ⟨alone, apart⟩ := styled job.settings.emitOptions
    rw [calls] at alone
    refine ⟨result, fun single => bif single then [joined] else drafts, fun single => after.on
      (bif single then Bench.empty.publish job path joined.calls
        else Bench.empty.publishEach job drafts),
      drafted.proper, Bool.forall_bool.mpr ⟨⟨apart, ?_⟩, alone, ?_⟩, rfl, ?_,
      .inr ⟨seeds, joined, found, rfl⟩⟩
    · exact holds_publishEach drafts
    · exact holds_publish path joined
    · simpa using outlines.symm

theorem run_holds {begun : Conversion} (civil : job.source.Civil)
    (started : start job = .ok begun) :
    ∃ drafts, ((run job).perform begun).2.state.bench.Holds job drafts := by
  obtain ⟨_, drafts, _, _, each, _⟩ := runs_leave_alike civil started
  obtain ⟨⟨_, same⟩, holds⟩ := each job.settings.singleFile
  exact ⟨drafts job.settings.singleFile, same ▸ holds⟩

/-- The first run of a conversion never misuses the writer. -/
theorem run_proper {begun : Conversion} (civil : job.source.Civil)
    (started : start job = .ok begun) : Proper ((run job).perform begun).1 := by
  obtain ⟨result, drafts, left, proper, each, _⟩ := runs_leave_alike civil started
  obtain ⟨⟨ended, _⟩, _⟩ := each job.settings.singleFile
  intro failure failed
  refine proper failure ?_
  rw [← ended]
  exact congrArg (Except.map fun _ => ()) failed

/-- The first run of a conversion never misuses the writer, and whether it ends well or fails at any
point, in either mode, every artifact it wrote is finished and matches the grammar: the one that it
was writing when it failed as well. -/
theorem run_writes_whole_files {settings : Settings} {world : World} {begun : Conversion}
    (started : start ⟨settings, world.source settings.allowRemote⟩ = .ok begun) :
    let outcome := (run ⟨settings, world.source settings.allowRemote⟩).perform begun
    let after := outcome.2.state
    (outcome.1 ≠ .error .noArtifact ∧ ∀ fault, outcome.1 ≠ .error (.writer fault)) ∧
      after.desk = [] ∧ after.closed.map (·.path) = after.written ∧
        ∀ artifact ∈ after.closed, artifact.writer.finished = true ∧
          ∃ marks, FileText settings.emitOptions settings.targetNamespace marks ∧
            artifact.writer.lines = laidOut "\t" 0 marks := by
  intro outcome after
  let job : Job := ⟨settings, world.source settings.allowRemote⟩
  have civil : job.source.Civil := world.source_civil settings.allowRemote
  obtain ⟨result, drafts, left, _, each, _⟩ := runs_leave_alike civil started
  obtain ⟨⟨_, same⟩, holds⟩ := each settings.singleFile
  rw [← same] at holds
  have apart : ∀ failure, failure.isWriting = true → outcome.1 ≠ .error failure := by
    intro failure writing failed
    have mild : failure.isWriting = false := run_proper civil started failure failed
    rw [writing] at mild
    cases mild
  refine ⟨⟨apart _ rfl, fun fault => apart _ rfl⟩, holds.desk, holds.written, ?_⟩
  intro artifact listed
  obtain ⟨draft, _, path, rfl⟩ := exists_of_forall₂ holds.filed listed
  obtain ⟨finished, lines⟩ := @filed_written job path draft.classes draft.cut
  exact ⟨finished, _, fileMarks_text job _, lines⟩

/-- A class whose second member has a type that nobody declares. -/
def torn : World where
  directory := ⟨['/'], []⟩
  files :=
    [(["a".toList], pairText ("<s:complexType name='A'><s:sequence>"
      ++ "<s:element name='x' type='s:string'/><s:element name='y' type='B'/>"
      ++ "</s:sequence></s:complexType>"))]
  web := []

def tornSettings : Settings := { inputs := ["a"], dataContracts := true }

/-- What is written before the run fails inside the class. -/
def tornLines : List String :=
  ["using System;", "using System.Runtime.Serialization;", "", "namespace Unknown", "\x7b",
    "\t[DataContract]", "\tpublic class A", "\t\x7b", "\t\t[DataMember(Name = \"x\")]",
    "\t\tpublic String X \x7b get; set; \x7d", "\t\x7d", "\x7d"]

set_option maxRecDepth 100000 in
/-- The run fails, and the class is closed behind its first member. -/
theorem torn_writes_whole_files :
    ∃ begun, start ⟨tornSettings, torn.source false⟩ = .ok begun ∧
      let outcome := (run ⟨tornSettings, torn.source false⟩).perform begun
      outcome.1.toOption = none ∧ outcome.1 ≠ .error .noArtifact ∧
        ∃ artifact, outcome.2.state.closed = [artifact] ∧ artifact.writer.lines = tornLines ∧
          ∃ marks, FileText tornSettings.emitOptions "Unknown" marks ∧
            tornLines = laidOut "\t" 0 marks := by
  have ran : ((start ⟨tornSettings, torn.source false⟩).toOption.map fun begun =>
      let outcome := (run ⟨tornSettings, torn.source false⟩).perform begun
      (outcome.1.toOption, outcome.2.state.closed.map (·.writer.lines))) =
        some (none, [tornLines]) := by
    simp only [torn, pairText, Text.Utf8.encode_toList]
    decide +kernel
  obtain ⟨begun, made, ran⟩ := Option.map_eq_some_iff.mp ran
  obtain ⟨failed, wrote⟩ := Prod.mk.inj ran
  have started : start ⟨tornSettings, torn.source tornSettings.allowRemote⟩ = .ok begun :=
    ok_of_toOption made
  obtain ⟨⟨attached, _⟩, _, _, whole⟩ := run_writes_whole_files started
  obtain ⟨artifact, alone, lines⟩ := List.map_eq_singleton_iff.mp wrote
  have listed := List.mem_singleton_self artifact
  rw [← alone] at listed
  obtain ⟨_, marks, text, same⟩ := whole artifact listed
  exact ⟨begun, started, failed, attached, artifact, alone, lines, marks, text, lines ▸ same⟩

end SchemaSharp.Conversion
