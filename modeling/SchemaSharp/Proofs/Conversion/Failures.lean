import SchemaSharp.Proofs.Conversion.SourceFiles

/-!
How a run fails. Every failure of a run is one that a command reports, or it has one of four causes:
the pattern cannot be filled with some name, some text cannot be taken apart as a location, a document
is written in an encoding that cannot be read, or the references of the documents go on for longer
than the source has patience.
-/

namespace SchemaSharp

/-- Why a failure of a run is none that a command reports. -/
inductive Escapes (job : Job) : Failure → Prop where
  | pattern {name : String} {fault : Text.TemplateFault}
      (unfilled : Text.fillTemplate job.settings.renamingPattern name = .error fault) :
      Escapes job (.pattern fault)
  | host {text scheme : List Char} {fault : Location.HostFault}
      (unread : Location.Reference.read text scheme = .error fault) : Escapes job (.host fault)
  | charset {location : String} {content : List UInt8} {edition : Nat} {fault : CharsetFault}
      (fetched : (job.source.fetch location).2 = .ok content)
      (unread : Schema.Document.ofBytes ⟨location, edition⟩ content = .error (.charset fault)) :
      Escapes job (.charset fault)
  | patience : Escapes job .outOfPatience

theorem Escapes.unreported {job : Job} {failure : Failure} (escapes : Escapes job failure) :
    failure.isReported = false := by
  cases escapes <;> rfl

/-- All that can go wrong while a class is written is of a kind. -/
structure Job.WritesAs (kind : Failure → Prop) (job : Job) : Prop where
  load : ∀ fault location, kind (.load fault location)
  identifier : ∀ fault, kind (.identifier fault)
  writer : ∀ fault, kind (.writer fault)
  detached : kind .noArtifact
  unfilled : ∀ name fault, Text.fillTemplate job.settings.renamingPattern name = .error fault →
    kind (.pattern fault)

/-- All that can go wrong in a conversion is of a kind. -/
structure Job.FailsAs (kind : Failure → Prop) (job : Job) : Prop where
  loading : job.source.FailsAs kind
  reported : ∀ failure, failure.isReported = true → kind failure
  detached : kind .noArtifact
  unfilled : ∀ name fault, Text.fillTemplate job.settings.renamingPattern name = .error fault →
    kind (.pattern fault)

theorem Job.WritesAs.naming {kind : Failure → Prop} {job : Job} (fails : job.WritesAs kind) :
    job.NamesAs kind :=
  ⟨fails.load, fails.identifier, fails.unfilled⟩

theorem Job.FailsAs.writing {kind : Failure → Prop} {job : Job} (fails : job.FailsAs kind) :
    job.WritesAs kind where
  load _ _ := fails.reported _ rfl
  identifier _ := fails.reported _ rfl
  writer _ := fails.reported _ rfl
  detached := fails.detached
  unfilled := fails.unfilled

namespace Conversion

open Schema (ComplexType ElementDecl)
open SchemaSharp.Task (FailsFrom)

variable {job : Job} {kind : Failure → Prop}

/-! ## Classes -/

theorem write_fails (fails : job.WritesAs kind) (call : Writer.Call) :
    Task.FailsOnly kind (write call) := by
  have opened := openArtifact?_composed failsFrom_looks fails.detached
  refine Task.failsOnly_bind (Task.failsOnly_of_from opened) fun artifact => ?_
  refine Task.failsOnly_bind (Task.failsOnly_change _) fun _ => ?_
  split
  · exact Task.failsOnly_pure _
  · exact Task.failsOnly_throw (fails.writer _)

theorem failsFrom_writes (fails : job.WritesAs kind) :
    Writes kind (fun task before => FailsFrom kind task before) job where
  toLooks := failsFrom_looks
  waits _ _ _ := (Task.failsOnly_change _).from _
  marked _ := (Task.failsOnly_change _).from _
  taken _ := (Task.failsOnly_change _).from _
  detached := fails.detached
  written call := (write_fails fails call).from
  placed _ _ := (Task.failsOnly_change _).from _
  -- what is done at the end has no say in the outcome
  shelved first := first

theorem requireSupported_fails {type : ComplexType} {place : String}
    (refused : ∀ part, kind (.unsupported part (some place))) :
    Task.FailsOnly kind (requireSupported type place) :=
  Task.failsOnly_of_from (requireSupported_composed failsFrom_looks.toComposes refused)

theorem requireMembers_fails {type : ComplexType} {place : String}
    (refused : ∀ part, kind (.unsupported part (some place))) :
    Task.FailsOnly kind (requireMembers type place) :=
  Task.failsOnly_of_from (requireMembers_composed failsFrom_looks.toComposes refused)

theorem writeClass_fails (fails : job.WritesAs kind) (type : ComplexType) (marker : Arguments)
    (className : String) (base : Option String) (members : List ElementDecl) :
    Task.FailsOnly kind (writeClass job type marker className base members) :=
  Task.failsOnly_of_from
    (writeClass_composed (failsFrom_writes fails) fails.naming type marker className base members)

/-! ## Documents -/

theorem translateStored_fails (fails : job.FailsAs kind) (location : String)
    (before : Conversion) : FailsFrom kind (translateStored job location) before := by
  have writes := failsFrom_writes fails.writing
  have names := fails.writing.naming
  have refused := fun part place => fails.reported (.unsupported part place) rfl
  have classes := translateComplexType_composed writes names refused
  exact translateStored_composed writes.toTranslates classes names refused location before

theorem translateQueued_fails (fails : job.FailsAs kind) (location : String)
    (before : Conversion) : FailsFrom kind (translateQueued job location) before := by
  have stored := translateStored_fails fails location
  refine translateQueued_composed failsFrom_looks ?_ stored (fun path state => ?_) before
  · exact Location.stem_fails fails.loading.faults location
  · exact withArtifact_composed (failsFrom_writes fails.writing) stored

theorem drain_fails (fails : job.FailsAs kind) (before : Conversion) :
    FailsFrom kind (drain job) before := by
  refine drain_composed ⟨failsFrom_looks, ?_⟩ (translateQueued_fails fails) before
  exact fun _ => (Task.failsOnly_change _).from _

/-! ## Runs -/

theorem translateFrom_fails (fails : job.FailsAs kind) (seeds : List String) :
    Task.FailsOnly kind (translateFrom job seeds) := by
  have shared : FailsOnly kind (orFail .host (sharedPath job seeds)) := by
    unfold sharedPath
    rw [orFail_bind]
    exact failsOnly_bind (failsOnly_mapM fun seed => Location.stem_fails fails.loading.faults seed)
      fun _ => failsOnly_ok _
  have drained := drain_fails fails
  refine Task.failsOnly_of_from (translateFrom_composed failsFrom_looks.toComposes shared drained ?_)
  exact fun path before => withArtifact_composed (failsFrom_writes fails.writing) drained

/-- The first run of a conversion fails in such a way only. -/
theorem run_fails (fails : job.FailsAs kind) {begun : Conversion} (idle : begun.started = false) :
    FailsOnly kind ((run job).perform begun).1 := by
  unfold run Task.perform
  rw [Task.run_bind, run_begin idle]
  refine (Task.failsOnly_bind (seed_fails fails.loading) fun seeds => ?_ : Task.FailsOnly kind _) _
  refine Task.failsOnly_bind (translateFrom_fails fails seeds) fun _ => ?_
  refine Task.failsOnly_bind Task.failsOnly_current fun conversion => ?_
  exact Task.failsOnly_bind (Task.failsOnly_say _) fun _ => Task.failsOnly_pure _

/-! ## Worlds -/

/-- What a conversion in a world can fail with, if the artifact were not open to be written. -/
theorem job_failsAs (world : World) (settings : Settings) :
    let job : Job := ⟨settings, world.source settings.allowRemote⟩
    job.FailsAs fun failure =>
      failure.isReported = true ∨ failure = .noArtifact ∨ Escapes job failure := by
  intro job
  have faults : Location.FaultsAre fun failure =>
      failure.isReported = true ∨ failure = .noArtifact ∨ Escapes job failure :=
    fun _ _ _ unread => .inr (.inr (.host unread))
  refine ⟨?_, fun _ => .inl, .inr (.inl rfl), fun _ _ unfilled => .inr (.inr (.pattern unfilled))⟩
  constructor
  · exact world.probe_fails faults
  · exact world.fetch_fails faults (fun _ _ => .inl rfl) (fun _ => .inl rfl) _
  · intro location content edition fetched failure unread
    have concerns := Schema.ofBytes_fails _ content failure unread
    cases failure with
    | load fault place => exact .inl rfl
    | unsupported construct place => exact .inl rfl
    | charset fault => exact .inr (.inr (.charset fetched unread))
    | _ => exact concerns.elim
  · exact faults
  · exact fun _ => .inl rfl
  · exact fun _ => .inl rfl
  · exact .inr (.inr .patience)

/-- A run that returns answers the artifacts it finished, in the order in which it wrote them. -/
theorem run_answers_artifacts {begun after : Conversion} {paths : List String}
    (civil : job.source.Civil) (started : start job = .ok begun)
    (returned : ((run job).perform begun).1 = .ok paths)
    (left : ((run job).perform begun).2.state = after) :
    after.closed.map (·.path) = paths := by
  have answered : paths = after.written := left ▸ run_answers_written returned
  obtain ⟨drafts, holds⟩ := run_holds civil started
  rw [answered, ← left]
  exact holds.written

/-- The first run of a conversion fails with what a command reports, or for one of the causes that
escape. -/
theorem run_reported_or_escapes {world : World} {settings : Settings} {begun : Conversion}
    {failure : Failure} (started : start ⟨settings, world.source settings.allowRemote⟩ = .ok begun)
    (failed : ((run ⟨settings, world.source settings.allowRemote⟩).perform begun).1 =
      .error failure) :
    failure.isReported = true ∨ Escapes ⟨settings, world.source settings.allowRemote⟩ failure := by
  have idle := (bench_of_start started).2.2
  rcases run_fails (job_failsAs world settings) idle failure failed with
    reported | rfl | escapes
  · exact .inl reported
  · -- whatever a run does, it does with an artifact open
    cases run_proper (world.source_civil _) started _ failed
  · exact .inr escapes

end Conversion

end SchemaSharp
