import SchemaSharp.Proofs.Conversion.Progress
import SchemaSharp.Proofs.Store.Failures
import SchemaSharp.Proofs.Writer.Levels

/-!
What a conversion reads and what it only writes to. Translating looks at the store, the queue and
the marked types; the artifacts, open and closed, are a bench that it works on without looking. So
what a task does is one and the same on every bench: it ends in the same way, leaves the same
behind, and makes the same calls to the artifact at hand.
-/

namespace SchemaSharp

namespace Conversion

open Writer (At levelAfter?)

/-! ## Benches -/

namespace Bench

/-- There is an artifact at hand, on the given level. -/
def Ready (level : Level) (bench : Bench) : Prop :=
  ∃ artifact others, bench.attached = true ∧ bench.desk = artifact :: others ∧
    At level artifact.writer

def write (calls : List Writer.Call) (bench : Bench) : Bench :=
  { bench with desk := performOnDesk calls bench.desk }

@[simp]
theorem write_nil : write [] = id := by
  funext bench
  rw [write, performOnDesk_nil]
  rfl

theorem write_write (first second : List Writer.Call) (bench : Bench) :
    (bench.write first).write second = bench.write (first ++ second) := by
  rw [write, write, write, performOnDesk_append]

theorem writer_performAll (calls : List Writer.Call) (artifact : Artifact) :
    (artifact.performAll calls).writer = artifact.writer.afterCalls calls := by
  induction calls generalizing artifact with
  | nil => rfl
  | cons call rest ih => exact ih _

theorem Ready.write {level next : Level} {calls : List Writer.Call} {bench : Bench}
    (ready : bench.Ready level) (leads : levelAfter? level calls = some next) :
    (bench.write calls).Ready next := by
  obtain ⟨artifact, others, attached, desk, here⟩ := ready
  refine ⟨artifact.performAll calls, others, attached, ?_, ?_⟩
  · rw [Bench.write, desk, performOnDesk]
  · rw [writer_performAll]
    exact (here.afterCalls leads).1

end Bench

/-! ## Tasks on a bench -/

variable {α β : Type} {task : Work α} {next : α → Work β} {before middle after : Conversion}

/-- On every bench that fits, the task ends alike and leaves the same, and has the same effect on
the bench. The journal may differ. -/
def Runs (fits : Bench → Prop) (task : Work α) (before : Conversion) (result : Except Failure α)
    (after : Conversion) (effect : Bench → Bench) : Prop :=
  ∀ bench, fits bench → ∀ journal, ∃ said,
    task.run ⟨before.on bench, journal⟩ = (result, ⟨after.on (effect bench), said⟩)

/-- What a task does on the bench at hand does not depend on the journal. -/
theorem Runs.agree {fits : Bench → Prop} {result : Except Failure α} {effect : Bench → Bench}
    {alike : Failure → Failure → Prop} (runs : Runs fits task before result after effect)
    (fit : fits before.bench) : Task.Agree alike task task before := by
  intro journal said
  obtain ⟨_, ran⟩ := runs before.bench fit journal
  obtain ⟨_, ranOther⟩ := runs before.bench fit said
  change task.run ⟨before, journal⟩ = _ at ran
  change task.run ⟨before, said⟩ = _ at ranOther
  rw [ran, ranOther]
  exact ⟨.same _, rfl⟩

theorem Runs.bind {fits fitting : Bench → Prop} {first second : Bench → Bench} {value : α}
    {result : Except Failure β} (front : Runs fits task before (.ok value) middle first)
    (back : Runs fitting (next value) middle result after second)
    (prepared : ∀ bench, fits bench → fitting (first bench)) :
    Runs fits (task >>= next) before result after fun bench => second (first bench) := by
  intro bench fit journal
  obtain ⟨said, ran⟩ := front bench fit journal
  obtain ⟨last, went⟩ := back (first bench) (prepared bench fit) said
  refine ⟨last, ?_⟩
  rw [Task.run_bind, ran]
  exact went

theorem Runs.seq {fits fitting : Bench → Prop} {first second : Bench → Bench} {value : α}
    {ending : Work β} {result : Except Failure β}
    (front : Runs fits task before (.ok value) middle first)
    (back : Runs fitting ending middle result after second)
    (prepared : ∀ bench, fits bench → fitting (first bench)) :
    Runs fits (task >>= fun _ => ending) before result after fun bench => second (first bench) :=
  front.bind back prepared

theorem Runs.bind_error {fits : Bench → Prop} {effect : Bench → Bench} {failure : Failure}
    (front : Runs fits task before (.error failure) after effect) :
    Runs fits (task >>= next) before (.error failure) after effect := by
  intro bench fit journal
  obtain ⟨said, ran⟩ := front bench fit journal
  refine ⟨said, ?_⟩
  rw [Task.run_bind, ran]

/-- A task that reads what is not on the bench. -/
theorem Runs.current_bind {fits : Bench → Prop} {effect : Bench → Bench} {result : Except Failure β}
    {next : Conversion → Work β} (apart : ∀ bench, next (before.on bench) = next before)
    (rest : Runs fits (next before) before result after effect) :
    Runs fits (Task.current >>= next) before result after effect := by
  intro bench fit journal
  obtain ⟨said, ran⟩ := rest bench fit journal
  refine ⟨said, ?_⟩
  rw [Task.run_bind]
  exact (congrArg (fun task : Work β => task.run _) (apart bench)).trans ran

theorem runs_pure {fits : Bench → Prop} (value : α) (before : Conversion) :
    Runs fits (pure value) before (.ok value) before id :=
  fun _ _ journal => ⟨journal, rfl⟩

/-! ## Quiet tasks -/

/-- A task that leaves every bench as it is, and does not fail for want of an artifact. -/
def Quiet (task : Work α) (before : Conversion) : Prop :=
  ∃ result after, Proper result ∧ after.store = before.store ∧
    Runs (fun _ => True) task before result after id

theorem quiet_pure (value : α) (before : Conversion) : Quiet (pure value) before :=
  ⟨.ok value, before, failsOnly_ok value, rfl, fun _ _ journal => ⟨journal, rfl⟩⟩

theorem quiet_throw {failure : Failure} (before : Conversion) (mild : failure.isWriting = false) :
    Quiet (throw failure : Work α) before :=
  ⟨.error failure, before, failsOnly_error mild, rfl, fun _ _ journal => ⟨journal, rfl⟩⟩

theorem quiet_say (notice : Notice) (before : Conversion) : Quiet (Task.say notice) before :=
  ⟨.ok (), before, failsOnly_ok (), rfl, fun _ _ journal => ⟨journal ++ [notice], rfl⟩⟩

/-- A change of what is not on the bench. -/
theorem quiet_change {update : Conversion → Conversion}
    (store : (update before).store = before.store)
    (apart : ∀ bench, update (before.on bench) = (update before).on bench) :
    Quiet (Task.change update) before := by
  refine ⟨.ok (), update before, failsOnly_ok (), store, fun bench _ journal => ⟨journal, ?_⟩⟩
  change (Except.ok (), (⟨update (before.on bench), journal⟩ : Logged Conversion)) = _
  rw [apart]
  rfl

/-! ## Tasks that write -/

/-- What a task may write, from some level and back to it, whether it ends well or not. -/
structure Script where
  level : Level
  fits : Bool → List Writer.Call → Prop
  nil : fits true []
  cut : ∀ {calls}, fits true calls → fits false calls
  append : ∀ {first second ended}, fits true first → fits ended second →
    fits ended (first ++ second)
  returns : ∀ {calls}, fits true calls → levelAfter? level calls = some level

/-- With an artifact at hand, a task makes calls to it as the script says, whatever the bench. -/
def Scripted (script : Script) (task : Work α) (before : Conversion) : Prop :=
  ∃ result after calls, Proper result ∧ after.store = before.store ∧
    script.fits result.toBool calls ∧
      Runs (Bench.Ready script.level) task before result after (Bench.write calls)

variable {script : Script}

theorem Quiet.scripted (quiet : Quiet task before) : Scripted script task before := by
  obtain ⟨result, after, proper, store, runs⟩ := quiet
  refine ⟨result, after, [], proper, store, ?_, fun bench _ journal => ?_⟩
  · cases result with
    | ok value => exact script.nil
    | error failure => exact script.cut script.nil
  · rw [Bench.write_nil]
    exact runs bench trivial journal

theorem scripted_bind (first : Scripted script task before)
    (rest : ∀ value middle, Scripted script (next value) middle) :
    Scripted script (task >>= next) before := by
  obtain ⟨result, middle, calls, proper, store, fits, runs⟩ := first
  cases result with
  | error failure =>
      exact ⟨.error failure, middle, calls, failsOnly_error (proper failure rfl), store, fits,
        runs.bind_error⟩
  | ok value =>
      obtain ⟨result, after, others, proper, kept, fitting, running⟩ := rest value middle
      have whole := runs.bind running fun _ ready => ready.write (script.returns fits)
      simp only [Bench.write_write] at whole
      exact ⟨result, after, calls ++ others, proper, kept.trans store,
        script.append fits fitting, whole⟩

theorem scripted_current_bind {next : Conversion → Work β}
    (apart : ∀ bench, next (before.on bench) = next before)
    (rest : Scripted script (next before) before) :
    Scripted script (Task.current >>= next) before := by
  obtain ⟨result, after, calls, proper, store, fits, runs⟩ := rest
  exact ⟨result, after, calls, proper, store, fits, runs.current_bind apart⟩

/-- Whatever writes nothing itself, and looks at nothing on the bench, goes with any script. -/
theorem scripted_translates (script : Script) :
    Translates (·.isWriting = false) fun task before => Scripted script task before where
  answer value before := (quiet_pure value before).scripted
  fail before mild := (quiet_throw before mild).scripted
  report before _ := (quiet_say _ before).scripted
  chain := scripted_bind
  look := scripted_current_bind
  queued _ _ := (quiet_change rfl fun _ => rfl).scripted
  waits _ _ _ := (quiet_change rfl fun _ => rfl).scripted
  marked _ := (quiet_change rfl fun _ => rfl).scripted
  taken _ := (quiet_change rfl fun _ => rfl).scripted

theorem run_openArtifact? {artifact : Artifact} {conversion : Conversion} (journal : List Notice)
    (current : conversion.current? = some artifact) :
    openArtifact?.run ⟨conversion, journal⟩ = (.ok artifact, ⟨conversion, journal⟩) := by
  have asked : Task.current.run ⟨conversion, journal⟩ =
      (.ok conversion, ⟨conversion, journal⟩) := rfl
  unfold openArtifact?
  rw [Task.run_bind, asked]
  dsimp only
  rw [current]
  rfl

/-- There is an artifact at hand that does not refuse the call. -/
def Bench.Accepts (call : Writer.Call) (bench : Bench) : Prop :=
  ∃ artifact others, bench.attached = true ∧ bench.desk = artifact :: others ∧
    call.refusal? artifact.writer = none

theorem runs_accepted (call : Writer.Call) (before : Conversion) :
    Runs (Bench.Accepts call) (write call) before (.ok ()) before (Bench.write [call]) := by
  rintro bench ⟨artifact, others, attached, desk, accepted⟩ journal
  refine ⟨journal, ?_⟩
  have current : (before.on bench).current? = some artifact := by
    simp [current?, on, attached, desk]
  have outcome : artifact.perform call = (.ok (), artifact.performAll [call]) := by
    simp only [Artifact.perform, Writer.perform_of_accepted accepted, Artifact.performAll,
      List.foldl]
  unfold write
  rw [Task.run_bind, run_openArtifact? journal current]
  simp only [outcome]
  change (Except.ok (), (⟨replaceCurrent (artifact.performAll [call]) (before.on bench), journal⟩ :
    Logged Conversion)) = _
  simp [replaceCurrent, on, Bench.write, desk, performOnDesk]

theorem Runs.of_imp {fits fitting : Bench → Prop} {result : Except Failure α}
    {effect : Bench → Bench} (runs : Runs fitting task before result after effect)
    (narrower : ∀ bench, fits bench → fitting bench) :
    Runs fits task before result after effect :=
  fun bench fit journal => runs bench (narrower bench fit) journal

/-- A call that is in its place is made to the artifact at hand. -/
theorem runs_write {level next : Level} {call : Writer.Call} (before : Conversion)
    (leads : call.next? level = some next) :
    Runs (Bench.Ready level) (write call) before (.ok ()) before (Bench.write [call]) := by
  refine (runs_accepted call before).of_imp ?_
  rintro bench ⟨artifact, others, attached, desk, here⟩
  exact ⟨artifact, others, attached, desk, (here.accepts leads).1⟩

end Conversion

end SchemaSharp
