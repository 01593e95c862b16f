import SchemaSharp.Proofs.Conversion.Runs
import SchemaSharp.Proofs.Conversion.Scripts

/-!
From the bench to the files. An artifact is begun with its header, written to by one document or by
all of them, and ended whatever became of that. In either mode of output the same drafts are made,
one for each document that is taken from the queue; they only end up in one artifact or in many.
-/

namespace SchemaSharp

open SchemaSharp.Conversion (headerCalls)

namespace Artifact

/-- An artifact with the given calls between its header and its end. -/
def filed (job : Job) (path : String) (calls : List Writer.Call) : Artifact :=
  ((start path job.settings.emitOptions).performAll (headerCalls job ++ calls)).finished

theorem path_performAll (calls : List Writer.Call) (artifact : Artifact) :
    (artifact.performAll calls).path = artifact.path := by
  induction calls generalizing artifact with
  | nil => rfl
  | cons call rest ih => exact ih _

theorem path_filed (job : Job) (path : String) (calls : List Writer.Call) :
    (filed job path calls).path = path :=
  path_performAll _ _

end Artifact

namespace Conversion

open Writer (At)

variable {job : Job} {before after : Conversion}

namespace Bench

def place (job : Job) (path : String) (bench : Bench) : Bench :=
  { bench with
    written := bench.written ++ [path]
    desk := .start path job.settings.emitOptions :: bench.desk
    attached := true
    files := bench.files.create path }

/-- A whole artifact is added to the closed ones. -/
def publish (job : Job) (path : String) (calls : List Writer.Call) (bench : Bench) : Bench :=
  { bench with
    attached := false
    closed := bench.closed ++ [.filed job path calls]
    written := bench.written ++ [path]
    files := (bench.files.create path).lay path (Artifact.filed job path calls).writer.text }

/-- The artifact at hand has no namespace yet. -/
def Begun (bench : Bench) : Prop :=
  ∃ artifact others, bench.attached = true ∧ bench.desk = artifact :: others ∧
    At .header artifact.writer ∧ artifact.writer.space = none

theorem begun_place (job : Job) (path : String) (bench : Bench) : (bench.place job path).Begun :=
  ⟨_, _, rfl, rfl, ⟨rfl, rfl⟩, rfl⟩

end Bench

/-! ## One artifact -/

theorem Bench.Begun.declare {bench : Bench} (begun : bench.Begun) (name : String) :
    (bench.write [.declareReference name]).Begun := by
  obtain ⟨artifact, others, attached, desk, here, space⟩ := begun
  have leads : Writer.Call.next? .header (.declareReference name) = some .header := rfl
  obtain ⟨accepted, there⟩ := here.accepts leads
  have wrote : (artifact.performAll [.declareReference name]).writer =
      artifact.writer.accept (.declareReference name) := by
    rw [writer_performAll, Writer.afterCalls_cons, Writer.perform_of_accepted accepted]
    rfl
  refine ⟨artifact.performAll [.declareReference name], others, attached, ?_, ?_, ?_⟩
  · rw [Bench.write, desk, performOnDesk]
  · rwa [wrote]
  · rw [wrote, Writer.space_accept]
    exact space

theorem runs_declareReference (name : String) (before : Conversion) :
    Runs Bench.Begun (write (.declareReference name)) before (.ok ()) before
      (Bench.write [.declareReference name]) := by
  refine (runs_accepted _ before).of_imp ?_
  rintro bench ⟨artifact, others, attached, desk, here, _⟩
  exact ⟨artifact, others, attached, desk, (here.accepts rfl).1⟩

theorem Bench.Begun.declareAll {bench : Bench} (begun : bench.Begun) (names : List String) :
    (bench.write (names.map Writer.Call.declareReference)).Begun := by
  induction names generalizing bench with
  | nil => simpa using begun
  | cons name rest ih =>
      have others := ih (begun.declare name)
      rwa [Bench.write_write] at others

theorem runs_declareReferences (names : List String) (before : Conversion) :
    Runs Bench.Begun (names.forM fun name => write (.declareReference name)) before (.ok ()) before
      (Bench.write (names.map Writer.Call.declareReference)) := by
  induction names with
  | nil =>
      rw [List.map_nil, Bench.write_nil]
      exact runs_pure () before
  | cons name rest ih =>
      have whole := (runs_declareReference name before).seq ih fun _ begun => begun.declare name
      simp only [Bench.write_write] at whole
      exact whole

theorem Bench.Begun.accepts {bench : Bench} (begun : bench.Begun) (name : String) :
    ∃ artifact others, bench.attached = true ∧ bench.desk = artifact :: others ∧
      Writer.Call.refusal? artifact.writer (.openNamespace name) = none ∧
        At .namespaceBody (artifact.writer.accept (.openNamespace name)) := by
  obtain ⟨artifact, others, attached, desk, here, space⟩ := begun
  refine ⟨artifact, others, attached, desk, ?_, here.unfinished, rfl⟩
  simp [Writer.Call.refusal?, Writer.misplaced?_eq_none.mpr ⟨here.unfinished, here.level⟩, space]

theorem Bench.Begun.ready {bench : Bench} (begun : bench.Begun) (name : String) :
    (bench.write [.openNamespace name]).Ready .namespaceBody := by
  obtain ⟨artifact, others, attached, desk, accepted, there⟩ := begun.accepts name
  refine ⟨artifact.performAll [.openNamespace name], others, attached, ?_, ?_⟩
  · rw [Bench.write, desk, performOnDesk]
  · rw [writer_performAll, Writer.afterCalls_cons, Writer.perform_of_accepted accepted]
    exact there

theorem runs_openNamespace (name : String) (before : Conversion) :
    Runs Bench.Begun (write (.openNamespace name)) before (.ok ()) before
      (Bench.write [.openNamespace name]) := by
  refine (runs_accepted _ before).of_imp fun bench begun => ?_
  obtain ⟨artifact, others, attached, desk, accepted, _⟩ := begun.accepts name
  exact ⟨artifact, others, attached, desk, accepted⟩

theorem runs_place (path : String) (before : Conversion) :
    Runs (fun _ => True) (Task.change (place job path)) before (.ok ()) before
      (Bench.place job path) :=
  fun _ _ journal => ⟨journal, rfl⟩

/-- An artifact can always be begun. -/
theorem runs_openArtifact (path : String) (before : Conversion) :
    Runs (fun _ => True) (openArtifact job path) before (.ok ()) before
      fun bench => (bench.place job path).write (headerCalls job) := by
  have opened := (runs_declareReferences (Writer.optionSpaces job.settings.emitOptions) before).seq
    (runs_openNamespace job.settings.targetNamespace before) fun _ begun => begun.declareAll _
  have declared := (runs_declareReference "System" before).seq opened
    fun _ begun => begun.declare "System"
  have placed := (runs_place path before).seq declared
    fun bench _ => Bench.begun_place job path bench
  have said : Runs (fun _ => True) (Task.say (.writing path)) before (.ok ()) before id :=
    runs_say _ _
  have whole := said.seq placed fun _ fit => fit
  simp only [Bench.write_write] at whole
  exact whole

theorem ready_headed (job : Job) (path : String) (bench : Bench) :
    ((bench.place job path).write (headerCalls job)).Ready .namespaceBody := by
  have begun := ((bench.begun_place job path).declare "System").declareAll
    (Writer.optionSpaces job.settings.emitOptions)
  have ready := begun.ready job.settings.targetNamespace
  simp only [Bench.write_write] at ready
  exact ready

theorem shelve_on (path : String) (calls : List Writer.Call) (bench : Bench) :
    (after.on ((bench.place job path).write (headerCalls job ++ calls))).shelve =
      after.on (bench.publish job path calls) := by
  have path : (((Artifact.start path job.settings.emitOptions).performAll
      (headerCalls job ++ calls)).finished).path = path := Artifact.path_filed job path calls
  simp only [shelve, on, Bench.write, Bench.place, performOnDesk, Bench.publish, Artifact.filed,
    path]

/-- Work on an artifact of its own: it ends as on any other, and the artifact is filed. -/
theorem runs_withArtifact {work : Work Unit} {result : Except Failure Unit}
    {calls : List Writer.Call} (path : String)
    (runs : Runs (Bench.Ready .namespaceBody) work before result after (Bench.write calls)) :
    Runs (fun _ => True) (withArtifact job path work) before result after
      (Bench.publish job path calls) := by
  have inside := (@runs_openArtifact job path before).seq runs
    fun bench _ => ready_headed job path bench
  simp only [Bench.write_write] at inside
  intro bench fit journal
  obtain ⟨said, ran⟩ := inside bench fit journal
  refine ⟨said, ?_⟩
  change (((openArtifact job path >>= fun _ => work).run ⟨before.on bench, journal⟩).1,
    (closeArtifact.run ((openArtifact job path >>= fun _ => work).run
      ⟨before.on bench, journal⟩).2).2) = _
  rw [ran]
  exact congrArg (fun state => (result, (⟨state, said⟩ : Logged Conversion)))
    (shelve_on path calls bench)

end Conversion

end SchemaSharp
