import SchemaSharp.Proofs.Conversion.Failures
import SchemaSharp.Proofs.Task.Keeping

/-!
Types that are refused. Whatever makes a type unsupported is found before its class is begun, and
nothing that is done for a class once it is begun refuses anything. So a refusal leaves the
artifacts as they were, and a run that ends with one has written whole classes only.
-/

namespace SchemaSharp

open Schema (ComplexType ElementDecl)
open SchemaSharp.Task (Keeps KeepsIn KeepsFrom Returns)
open Writer (laidOut)

def Failure.isRefusal : Failure → Bool
  | .unsupported _ _ => true
  | _ => false

namespace Conversion

variable {job : Job} {type : ComplexType} {name className : Option String}

/-! ## One type -/

/-- Nothing that can go wrong while a class is written is a refusal. -/
theorem writesAs_refusing_nothing : job.WritesAs (·.isRefusal = false) where
  load _ _ := rfl
  identifier _ := rfl
  writer _ := rfl
  detached := rfl
  unfilled _ _ _ := rfl

/-- Nothing was written, and no type was left waiting. -/
structure Spared (before after : Logged Conversion) : Prop where
  bench : after.state.bench = before.state.bench
  anonymous : after.state.anonymous = before.state.anonymous
  store : after.state.store = before.state.store

instance : IsPreorder (Logged Conversion) Spared where
  refl _ := ⟨rfl, rfl, rfl⟩
  trans _ _ _ first second :=
    ⟨second.bench.trans first.bench, second.anonymous.trans first.anonymous,
      second.store.trans first.store⟩

theorem say_spares (notice : Notice) : Keeps Spared (Task.say notice) :=
  fun _ => ⟨rfl, rfl, rfl⟩

/-- All that is done before a class is begun is to schedule the documents that it uses. -/
theorem spared_looks :
    Looks (fun _ => True) fun task before => KeepsFrom (fun _ => True) Spared task before where
  toComposes := keepsFrom_composes (fun _ => say_spares _) fun _ _ => ⟨rfl, rfl, rfl⟩
  read := Task.keepsFrom_current_bind

/-- If the task refuses something, it does so before it writes. -/
def RefusesFirst {α : Type} (task : Work α) : Prop :=
  ∀ before failure, (task.run before).1 = .error failure → failure.isRefusal = true →
    Spared before (task.run before).2

theorem refusesFirst_bind {α β : Type} {task : Work α} {next : α → Work β}
    (first : ∀ before, KeepsFrom (fun _ => True) Spared task before)
    (rest : ∀ value, RefusesFirst (next value)) : RefusesFirst (task >>= next) := by
  intro before failure failed refused
  have spared := Task.keeps_of_from first before
  rw [Task.run_bind] at failed ⊢
  cases ran : task.run before with
  | mk result middle =>
    rw [ran] at failed spared
    cases result with
    | error failure => exact spared
    | ok value => exact trans_of Spared spared (rest value middle failure failed refused)

theorem refusesFirst_current_bind {β : Type} {next : Conversion → Work β}
    (rest : ∀ conversion, RefusesFirst (next conversion)) :
    RefusesFirst (Task.current >>= next) :=
  fun before => rest before.state before

theorem writeClass_refusesFirst (marker : Arguments) (className : String) (base : Option String)
    (members : List ElementDecl) :
    RefusesFirst (writeClass job type marker className base members) := by
  intro before failure failed refused
  have mild : failure.isRefusal = false :=
    writeClass_fails writesAs_refusing_nothing type marker className base members before failure
      failed
  rw [refused] at mild
  cases mild

theorem translateNew_refusesFirst : RefusesFirst (translateNew job type name className) := by
  have composes := spared_looks.toComposes
  refine refusesFirst_bind (requireSupported_composed composes fun _ => trivial) fun _ => ?_
  refine refusesFirst_bind (classIdentifier_composed composes job.namesAs_any _ _) fun _ => ?_
  refine refusesFirst_bind (baseClass_composed composes job.namesAs_any ?_ _ _) fun _ => ?_
  · exact fun _ _ => trivial
  refine refusesFirst_bind (requireMembers_composed composes fun _ => trivial) fun _ => ?_
  refine refusesFirst_bind (openArtifact?_composed spared_looks trivial) fun _ => ?_
  exact refusesFirst_current_bind fun _ => writeClass_refusesFirst _ _ _ _

theorem translateComplexType_refusesFirst :
    RefusesFirst (translateComplexType job type name className) := by
  refine refusesFirst_current_bind fun conversion => ?_
  split
  · rintro before failure failed -
    cases failed
  · have marked : Keeps Spared (Task.change (markTranslated type)) := fun _ => ⟨rfl, rfl, rfl⟩
    exact refusesFirst_bind marked.from fun _ => translateNew_refusesFirst

/-! ## What goes on aside -/

section Aside

variable {kind : Failure → Prop} {kept : Logged Conversion → Logged Conversion → Prop}
  [IsPreorder (Logged Conversion) kept]
  (aside : ∀ before after : Logged Conversion, after.state.store = before.state.store →
    after.state.bench = before.state.bench → kept before after)

include aside

theorem aside_composes :
    Composes (fun _ => True) fun task before => KeepsFrom kind kept task before :=
  keepsFrom_composes (fun _ _ => aside _ _ rfl rfl) fun _ _ => aside _ _ rfl rfl

theorem aside_translates :
    Translates (fun _ => True) fun task before => KeepsFrom kind kept task before where
  toComposes := aside_composes aside
  waits _ _ _ _ _ := aside _ _ rfl rfl
  marked _ _ _ := aside _ _ rfl rfl
  taken _ _ _ := aside _ _ rfl rfl

theorem aside_dequeues :
    Dequeues (fun _ => True) fun task before => KeepsFrom kind kept task before where
  toComposes := aside_composes aside
  read := Task.keepsFrom_current_bind
  dequeued _ _ _ := aside _ _ rfl rfl

theorem drain_keepsIn (each : ∀ location, KeepsIn kind kept (translateQueued job location)) :
    KeepsIn kind kept (drain job) :=
  Task.keepsIn_of_from (drain_composed (aside_dequeues aside) fun location => (each location).from)

end Aside

/-! ## Whole classes -/

/-- A class as a type is to have it, with a member for each of the elements, in their order. -/
structure ClassOutline.Complete (job : Job) (store : Store) (outline : ClassOutline) : Prop where
  described : ∃ name className,
    classOutline? job store outline.type name className = some outline
  members : ∃ elements, memberElements outline.type = .ok elements ∧
    List.Forall₂ (fun element member => memberOutline? job store outline.name element = some member)
      elements outline.members

theorem complete_of_outline {store : Store} {outline : ClassOutline}
    (made : classOutline? job store type name className = some outline) :
    outline.Complete job store := by
  have same := (classOutline?_eq_some made).1
  refine ⟨⟨name, className, same ▸ made⟩, ?_⟩
  unfold classOutline? at made
  split at made
  · cases made
  · obtain ⟨identifier, called, made⟩ := Option.bind_eq_some_iff.mp made
    obtain ⟨base, derived, made⟩ := Option.bind_eq_some_iff.mp made
    obtain ⟨elements, flat, made⟩ := Option.bind_eq_some_iff.mp made
    obtain ⟨members, all, made⟩ := Option.bind_eq_some_iff.mp made
    cases made
    exact ⟨elements, ok_of_toOption flat, forall₂_of_mapM all⟩

/-- All that was written are whole classes, to the artifact at hand. -/
structure WroteClasses (job : Job) (before after : Logged Conversion) : Prop where
  store : after.state.store = before.state.store
  classes : ∃ outlines : List ClassOutline,
    (∀ outline ∈ outlines, outline.Complete job before.state.store) ∧
      after.state.bench = before.state.bench.write (outlines.flatMap ClassOutline.calls)

theorem wrote_nothing {before after : Logged Conversion}
    (store : after.state.store = before.state.store)
    (bench : after.state.bench = before.state.bench) : WroteClasses job before after :=
  ⟨store, [], by simp, by simpa using bench⟩

theorem Spared.wrote {before after : Logged Conversion} (spared : Spared before after) :
    WroteClasses job before after :=
  wrote_nothing spared.store spared.bench

instance : IsPreorder (Logged Conversion) (WroteClasses job) where
  refl _ := wrote_nothing rfl rfl
  trans := by
    rintro before middle after ⟨store, first, complete, bench⟩ ⟨kept, second, others, grown⟩
    refine ⟨kept.trans store, first ++ second, ?_, ?_⟩
    · intro outline member
      rcases List.mem_append.mp member with earlier | later
      · exact complete outline earlier
      · exact store ▸ others outline later
    · rw [grown, bench, Bench.write_write, List.flatMap_append]

/-- As long as nothing but a refusal goes wrong, the task writes whole classes. -/
abbrev WritesWhole (job : Job) {α : Type} (task : Work α) : Prop :=
  KeepsIn (·.isRefusal = true) (WroteClasses job) task

theorem translateComplexType_writesWhole :
    WritesWhole job (translateComplexType job type name className) := by
  intro before allowed
  have refuses : RefusesFirst (translateComplexType job type name className) :=
    translateComplexType_refusesFirst
  have spared := refuses before
  cases ran : (translateComplexType job type name className).run before with
  | mk result after =>
    rw [ran] at allowed spared
    cases result with
    | error failure => exact (spared failure rfl (allowed failure rfl)).wrote
    | ok value =>
        have returned : Returns (translateComplexType job type name className) before.state value
          after.state := ⟨before.journal, after.journal, ran⟩
        have rest := returned.of_current_bind
        split at rest
        · have same := rest.of_say
          exact wrote_nothing (by rw [same]) (by rw [same])
        · obtain ⟨outline, made, left⟩ := translateNew_returns rest.of_change_bind
          refine ⟨by rw [left]; rfl, [outline], ?_, ?_⟩
          · intro other member
            rw [List.mem_singleton.mp member]
            exact complete_of_outline made
          · rw [left, List.flatMap_singleton]
            rfl

theorem translateStored_writesWhole (location : String) :
    WritesWhole job (translateStored job location) := by
  have classes : ∀ type name className before, KeepsFrom (·.isRefusal = true) (WroteClasses job)
      (translateComplexType job type name className) before :=
    fun _ _ _ => translateComplexType_writesWhole.from
  have translates : Translates (fun _ => True) fun task before =>
      KeepsFrom (·.isRefusal = true) (WroteClasses job) task before :=
    aside_translates fun _ _ => wrote_nothing
  exact Task.keepsIn_of_from (translateStored_composed translates classes job.namesAs_any
    (fun _ _ => trivial) location)

/-! ## Whole artifacts -/

/-- An artifact with whole classes between its header and its end. -/
def WholeFile (job : Job) (store : Store) (artifact : Artifact) : Prop :=
  ∃ path, ∃ outlines : List ClassOutline, (∀ outline ∈ outlines, outline.Complete job store) ∧
    artifact = .filed job path (outlines.flatMap ClassOutline.calls)

/-- All that was written are whole artifacts. -/
structure Filled (job : Job) (before after : Logged Conversion) : Prop where
  store : after.state.store = before.state.store
  desk : after.state.desk = before.state.desk
  artifacts : ∃ artifacts, (∀ artifact ∈ artifacts, WholeFile job before.state.store artifact) ∧
    after.state.closed = before.state.closed ++ artifacts

theorem filled_nothing {before after : Logged Conversion}
    (store : after.state.store = before.state.store)
    (bench : after.state.bench = before.state.bench) : Filled job before after :=
  ⟨store, congrArg Bench.desk bench, [], by simp,
    (congrArg Bench.closed bench).trans (List.append_nil _).symm⟩

instance : IsPreorder (Logged Conversion) (Filled job) where
  refl _ := filled_nothing rfl rfl
  trans := by
    rintro before middle after ⟨store, desk, first, whole, closed⟩
      ⟨kept, cleared, second, others, grown⟩
    refine ⟨kept.trans store, cleared.trans desk, first ++ second, ?_, ?_⟩
    · intro artifact member
      rcases List.mem_append.mp member with earlier | later
      · exact whole artifact earlier
      · exact store ▸ others artifact later
    · rw [grown, closed, List.append_assoc]

theorem withArtifact_fills {work : Work Unit} (path : String) (whole : WritesWhole job work) :
    KeepsIn (·.isRefusal = true) (Filled job) (withArtifact job path work) := by
  intro before allowed
  obtain ⟨said, opened⟩ := @runs_openArtifact job path before.state before.state.bench trivial
    before.journal
  let headed := (before.state.bench.place job path).write (headerCalls job)
  have ran : (withArtifact job path work).run before =
      let outcome := work.run ⟨before.state.on headed, said⟩
      (outcome.1, ⟨outcome.2.state.shelve, outcome.2.journal⟩) := by
    change (((openArtifact job path >>= fun _ => work).run before).1,
      (closeArtifact.run ((openArtifact job path >>= fun _ => work).run before).2).2) = _
    rw [Task.run_bind]
    change (openArtifact job path).run before = _ at opened
    rw [opened]
    rfl
  rw [ran] at allowed ⊢
  obtain ⟨store, outlines, complete, bench⟩ := whole _ allowed
  let last := (work.run ⟨before.state.on headed, said⟩).2.state
  have shelved : last.shelve =
      last.on (before.state.bench.publish job path (outlines.flatMap ClassOutline.calls)) := by
    rw [← shelve_on, ← Bench.write_write]
    exact congrArg (fun bench => (last.on bench).shelve) bench
  change Filled job before ⟨last.shelve, _⟩
  rw [shelved]
  refine ⟨store, rfl, [.filed job path (outlines.flatMap ClassOutline.calls)], ?_, rfl⟩
  intro artifact member
  exact ⟨path, outlines, complete, List.mem_singleton.mp member⟩

/-- What is in an artifact of whole classes. -/
theorem whole_written (path : String) (outlines : List ClassOutline) :
    let artifact := Artifact.filed job path (outlines.flatMap ClassOutline.calls)
    artifact.calls = headerCalls job ++ (outlines.flatMap ClassOutline.calls ++ [.finish]) ∧
      artifact.writer.lines = laidOut "\t" 0 (fileMarks job outlines) := by
  have lines := (@filed_written job path outlines none).2
  have uncut : draftCalls outlines none = outlines.flatMap ClassOutline.calls := by
    simp [draftCalls]
  rw [uncut, Option.toList_none, List.append_nil] at lines
  exact ⟨calls_filed job path _, lines⟩

theorem WholeFile.written {store : Store} {artifact : Artifact}
    (whole : WholeFile job store artifact) :
    ∃ outlines : List ClassOutline, (∀ outline ∈ outlines, outline.Complete job store) ∧
      artifact.calls = headerCalls job ++ (outlines.flatMap ClassOutline.calls ++ [.finish]) ∧
        artifact.writer.lines = laidOut "\t" 0 (fileMarks job outlines) := by
  obtain ⟨path, outlines, complete, rfl⟩ := whole
  exact ⟨outlines, complete, whole_written path outlines⟩

/-! ## Runs -/

theorem translateFrom_fills (seeds : List String) :
    KeepsIn (·.isRefusal = true) (Filled job) (translateFrom job seeds) := by
  unfold translateFrom
  split
  · next single =>
      refine Task.keepsIn_bind (Task.keeps_outcome _).keepsIn fun path => ?_
      refine withArtifact_fills path (drain_keepsIn (fun _ _ => wrote_nothing) fun location => ?_)
      unfold translateQueued
      rw [if_pos single]
      exact translateStored_writesWhole location
  · next separate =>
      refine drain_keepsIn (fun _ _ => filled_nothing) fun location => ?_
      unfold translateQueued
      rw [if_neg separate]
      refine Task.keepsIn_bind ?_ fun path =>
        withArtifact_fills path (translateStored_writesWhole location)
      have dequeues : Dequeues (fun _ => True) fun task before =>
          KeepsFrom (·.isRefusal = true) (Filled job) task before :=
        aside_dequeues fun _ _ => filled_nothing
      exact Task.keepsIn_of_from (artifactPath_composed dequeues.toLooks fun _ _ => trivial)


/-- A run that fails with nothing but a refusal leaves whole artifacts, and so does one that
returns. -/
theorem run_fills {begun : Conversion} (started : start job = .ok begun)
    (allowed : FailsOnly (·.isRefusal = true) ((run job).perform begun).1) :
    let after := ((run job).perform begun).2.state
    after.desk = [] ∧ ∀ artifact ∈ after.closed, WholeFile job after.store artifact := by
  intro after
  obtain ⟨empty, -, idle⟩ := bench_of_start started
  let seeding := (seed job).run ⟨{ begun with started := true }, []⟩
  have bench : seeding.2.state.bench = .empty :=
    (untouched_of_steps (seed_untouched _ [])).bench.trans empty
  have desk : seeding.2.state.desk = [] := congrArg Bench.desk bench
  have closed : seeding.2.state.closed = [] := congrArg Bench.closed bench
  cases seeded : seeding.1 with
  | error fault =>
      -- seeding opens no artifact
      have left : after = seeding.2.state :=
        (ends_of_seed idle (Prod.ext seeded rfl : seeding = (.error fault, seeding.2))).2
      rw [left, closed]
      exact ⟨desk, fun artifact member => by cases member⟩
  | ok seeds =>
      let translating := (translateFrom job seeds).run seeding.2
      have ends : Ends job begun translating.1 translating.2.state :=
        ends_of_translate idle (Prod.ext seeded rfl : seeding = (.ok seeds, seeding.2)) rfl
      have refused : FailsOnly (·.isRefusal = true) translating.1 := by
        intro failure same
        refine allowed failure ?_
        rw [ends.outcome, same]
        rfl
      obtain ⟨store, kept, artifacts, whole, filed⟩ := translateFrom_fills seeds seeding.2 refused
      rw [closed, List.nil_append] at filed
      have here : after = translating.2.state := ends.2
      rw [here, filed, kept, store]
      exact ⟨desk, whole⟩

/-- A refusal leaves the artifacts, with their writers and their texts, and the types that wait as
they were. And all that a run has written that ends with a refusal are whole classes: each is made
for its type as any other, has a member for each element, and nothing is cut off. -/
theorem refusal_leaves_no_trace (job : Job) :
    (∀ (type : ComplexType) (name className : Option String) (before : Logged Conversion)
        (construct : Construct) (place : Option String),
      let outcome := (translateComplexType job type name className).run before
      outcome.1 = .error (.unsupported construct place) →
        outcome.2.state.bench = before.state.bench ∧
          outcome.2.state.current? = before.state.current? ∧
            outcome.2.state.anonymous = before.state.anonymous) ∧
      ∀ (begun : Conversion) (construct : Construct) (place : Option String),
        start job = .ok begun →
          let outcome := (run job).perform begun
          outcome.1 = .error (.unsupported construct place) →
            outcome.2.state.desk = [] ∧ ∀ artifact ∈ outcome.2.state.closed,
              ∃ outlines : List ClassOutline,
                (∀ outline ∈ outlines, outline.Complete job outcome.2.state.store) ∧
                  artifact.calls =
                    headerCalls job ++ (outlines.flatMap ClassOutline.calls ++ [.finish]) ∧
                  artifact.writer.lines = laidOut "\t" 0 (fileMarks job outlines) := by
  constructor
  · intro type name className before construct place outcome refused
    have spared : Spared before outcome.2 :=
      translateComplexType_refusesFirst before _ refused rfl
    refine ⟨spared.bench, ?_, spared.anonymous⟩
    have attached : outcome.2.state.attached = before.state.attached :=
      congrArg Bench.attached spared.bench
    have desk : outcome.2.state.desk = before.state.desk := congrArg Bench.desk spared.bench
    rw [current?, current?, attached, desk]
  · intro begun construct place started outcome refused
    have allowed : FailsOnly (·.isRefusal = true) outcome.1 := refused ▸ failsOnly_error rfl
    obtain ⟨desk, whole⟩ := run_fills started allowed
    exact ⟨desk, fun artifact member => (whole artifact member).written⟩

/-- A type that can be translated, and another one below that cannot. -/
def refusingWorld : World where
  directory := ⟨['/'], []⟩
  files :=
    [(["a".toList], pairText ("<s:complexType name='A'><s:sequence>"
      ++ "<s:element name='x'><s:complexType/></s:element></s:sequence></s:complexType>"
      ++ "<s:complexType name='B' mixed='true'/>"))]
  web := []

def refusingJob : Job := ⟨{ inputs := ["a"] }, refusingWorld.source false⟩

/-- A type that is refused, in no document. -/
def mixedType : ComplexType :=
  { name := some "C", isAbstract := false, isMixed := true, base := none, derivation := none,
    content := none, model := none, attributes := [], owner := none, ordinal := 0,
    home := ⟨"file:///c", 0⟩ }

set_option maxRecDepth 100000 in
theorem refusing_refuses :
    ((start refusingJob).toOption.map fun begun =>
      let opened := ((openArtifact refusingJob "c.cs").perform begun).2
      (((run refusingJob).perform begun).1,
        ((run refusingJob).perform begun).2.state.closed.length,
        ((translateComplexType refusingJob mixedType none none).run opened).1)) =
      some (.error (.unsupported .mixedContent (some "type B in file:///a")), 1,
        .error (.unsupported .mixedContent (some "type C in file:///c"))) := by
  simp only [refusingJob, refusingWorld, pairText, Text.Utf8.encode_toList]
  decide +kernel

/-- The run writes what stands before the type that is refused, as a whole; and a type that is
refused where an artifact was just begun leaves it as it was. -/
theorem refusing_leaves_no_trace :
    ∃ begun, start refusingJob = .ok begun ∧
      let outcome := (run refusingJob).perform begun
      let opened := ((openArtifact refusingJob "c.cs").perform begun).2
      let refusal := (translateComplexType refusingJob mixedType none none).run opened
      (outcome.1 = .error (.unsupported .mixedContent (some "type B in file:///a")) ∧
        ∃ artifact, outcome.2.state.closed = [artifact] ∧ ∃ outlines : List ClassOutline,
          (∀ outline ∈ outlines, outline.Complete refusingJob outcome.2.state.store) ∧
            artifact.writer.lines = laidOut "\t" 0 (fileMarks refusingJob outlines)) ∧
      refusal.1 = .error (.unsupported .mixedContent (some "type C in file:///c")) ∧
        refusal.2.state.bench = opened.state.bench := by
  obtain ⟨begun, made, ran⟩ := Option.map_eq_some_iff.mp refusing_refuses
  obtain ⟨failed, ran⟩ := Prod.mk.inj ran
  obtain ⟨count, refused⟩ := Prod.mk.inj ran
  have started : start refusingJob = .ok begun := ok_of_toOption made
  obtain ⟨spares, whole⟩ := refusal_leaves_no_trace refusingJob
  obtain ⟨artifact, alone⟩ := List.length_eq_one_iff.mp count
  obtain ⟨outlines, complete, _, lines⟩ :=
    (whole begun _ _ started failed).2 artifact (by rw [alone]; exact List.mem_singleton_self _)
  exact ⟨begun, started, ⟨failed, artifact, alone, outlines, complete, lines⟩, refused,
    (spares mixedType none none _ _ _ refused).1⟩

end Conversion

end SchemaSharp
