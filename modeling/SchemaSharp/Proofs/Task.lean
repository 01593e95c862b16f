import Mathlib.Logic.Relation
import SchemaSharp.Source

/-!
What can be said of a task without running it. `Returns` is about the tasks that succeed: what
they answer and the state they leave. `Follows` is about all of them: it says that a task changes
the state by steps of a given kind only, wherever it may have failed. The journal of a task has no
influence on either. `FailsOnly` is about the tasks that fail: whatever they were started in, the
failure is of a given kind; `FailsFrom` says so for one state to start in. A task that is `Unharmed`
by failing leaves the state as it was if it fails. `Reports` is about the journal of a task that
returns. `Mirrors` compares two tasks: seen through a view of the state, both do the same, whatever
they report. `Agree` does so for one state to start in, and the two may fail in ways that count as
one.
-/

namespace SchemaSharp

/-! ## Computations that fail -/

section FailsOnly

variable {α β : Type} {kind other : Failure → Prop}

/-- If there is a failure, it is of the given kind. -/
def FailsOnly (kind : Failure → Prop) (result : Except Failure α) : Prop :=
  ∀ failure, result = .error failure → kind failure

theorem failsOnly_ok (value : α) : FailsOnly kind (.ok value) := by
  intro failure same
  cases same

theorem failsOnly_error {failure : Failure} (allowed : kind failure) :
    FailsOnly kind (.error failure : Except Failure α) := by
  intro other same
  cases same
  exact allowed

theorem failsOnly_orFail {ε : Type} {wrap : ε → Failure} {result : Except ε α}
    (allowed : ∀ fault, kind (wrap fault)) : FailsOnly kind (orFail wrap result) := by
  cases result with
  | ok value => exact failsOnly_ok value
  | error fault => exact failsOnly_error (allowed fault)

theorem FailsOnly.of_orFail {ε : Type} {wrap : ε → Failure} {result : Except ε α} {fault : ε}
    (fails : FailsOnly kind (orFail wrap result)) (failed : result = .error fault) :
    kind (wrap fault) :=
  fails _ (by rw [failed]; rfl)

theorem orFail_bind {ε : Type} (wrap : ε → Failure) (result : Except ε α)
    (next : α → Except ε β) :
    orFail wrap (result >>= next) =
      orFail wrap result >>= fun value => orFail wrap (next value) := by
  cases result <;> rfl

theorem failsOnly_bind {result : Except Failure α} {next : α → Except Failure β}
    (first : FailsOnly kind result) (rest : ∀ value, FailsOnly kind (next value)) :
    FailsOnly kind (result >>= next) := by
  cases result with
  | ok value => exact rest value
  | error failure => exact failsOnly_error (first failure rfl)

theorem failsOnly_mapM {ε : Type} {wrap : ε → Failure} {step : α → Except ε β} {items : List α}
    (each : ∀ item, FailsOnly kind (orFail wrap (step item))) :
    FailsOnly kind (orFail wrap (items.mapM step)) := by
  induction items with
  | nil => exact failsOnly_ok _
  | cons item rest ih =>
      rw [List.mapM_cons, orFail_bind]
      refine failsOnly_bind (each item) fun first => ?_
      rw [orFail_bind]
      exact failsOnly_bind ih fun others => failsOnly_ok _

theorem FailsOnly.of_imp {result : Except Failure α} (fails : FailsOnly kind result)
    (wider : ∀ failure, kind failure → other failure) : FailsOnly other result :=
  fun failure same => wider failure (fails failure same)

end FailsOnly

namespace Task

open Relation (ReflTransGen)

variable {σ τ α β : Type}

/-- Started in the state `before`, the task answers `value` and leaves the state `after`. -/
def Returns (task : Task σ α) (before : σ) (value : α) (after : σ) : Prop :=
  ∃ journal said, task.run ⟨before, journal⟩ = (.ok value, ⟨after, said⟩)

/-- However the task ends, steps lead from the state `before` to the one it leaves. -/
def Follows (step : σ → σ → Prop) (task : Task σ α) (before : σ) : Prop :=
  ∀ journal, ReflTransGen step before (task.run ⟨before, journal⟩).2.state

/-! ## Running -/

theorem run_bind (task : Task σ α) (next : α → Task σ β) (logged : Logged σ) :
    (task >>= next).run logged =
      match task.run logged with
      | (.ok value, middle) => (next value).run middle
      | (.error failure, middle) => (.error failure, middle) := by
  change (do let result ← task.run; ExceptT.bindCont next result) logged = _
  simp only [bind, StateT.bind]
  cases task.run logged with
  | mk result middle => cases result <;> rfl

theorem run_current_bind (next : σ → Task σ β) (logged : Logged σ) :
    (current >>= next).run logged = (next logged.state).run logged := rfl

theorem run_within (part : σ → τ) (replace : σ → τ → σ) (task : Task τ α) (logged : Logged σ) :
    (within part replace task).run logged =
      let (result, after) := task.run ⟨part logged.state, logged.journal⟩
      (result, ⟨replace logged.state after.state, after.journal⟩) := rfl

/-- Only what follows a success of the first task matters. -/
theorem run_bind_congr {task : Task σ α} {next other : α → Task σ β} {logged : Logged σ}
    (same : ∀ value middle, task.run logged = (.ok value, middle) →
      (next value).run middle = (other value).run middle) :
    (task >>= next).run logged = (task >>= other).run logged := by
  rw [run_bind, run_bind]
  cases ran : task.run logged with
  | mk result middle =>
    cases result with
    | error failure => rfl
    | ok value => exact same value middle ran

theorem run_notices (notices : List Notice) (state : σ) (journal : List Notice) :
    (notices.forM say : Task σ PUnit).run ⟨state, journal⟩ =
      (.ok (), ⟨state, journal ++ notices⟩) := by
  induction notices generalizing journal with
  | nil =>
      rw [List.append_nil]
      rfl
  | cons notice rest ih =>
      have told := ih (journal ++ [notice])
      rwa [List.append_assoc] at told

theorem run_ask (given : Answer α) (state : σ) (journal : List Notice) :
    (ask given : Task σ α).run ⟨state, journal⟩ = (given.2, ⟨state, journal ++ given.1⟩) := by
  obtain ⟨notices, result⟩ := given
  unfold ask
  rw [run_bind, run_notices]
  cases result <;> rfl

/-- Leaving out the answer leaves the state. -/
theorem run_discard (task : Task σ α) (logged : Logged σ) :
    ((discard task).run logged).2 = (task.run logged).2 := by
  change ((task >>= fun _ => pure ()).run logged).2 = _
  rw [run_bind]
  cases task.run logged with
  | mk result after => cases result <;> rfl

/-! ## Tasks that return -/

theorem returns_of_perform {task : Task σ α} {before : σ} {value : α}
    (ran : (task.perform before).1 = .ok value) :
    Returns task before value (task.perform before).2.state :=
  ⟨[], (task.perform before).2.journal, Prod.ext ran rfl⟩

theorem Returns.of_pure {value answer : α} {before after : σ}
    (returned : Returns (pure value) before answer after) : answer = value ∧ after = before := by
  obtain ⟨journal, said, ran⟩ := returned
  cases ran
  exact ⟨rfl, rfl⟩

theorem Returns.of_throw {failure : Failure} {answer : α} {before after : σ}
    (returned : Returns (throw failure) before answer after) : False := by
  obtain ⟨journal, said, ran⟩ := returned
  cases ran

theorem Returns.of_bind {task : Task σ α} {next : α → Task σ β} {answer : β} {before after : σ}
    (returned : Returns (task >>= next) before answer after) :
    ∃ value middle, Returns task before value middle ∧
      Returns (next value) middle answer after := by
  obtain ⟨journal, said, ran⟩ := returned
  rw [run_bind] at ran
  cases first : task.run ⟨before, journal⟩ with
  | mk result middle =>
    cases result with
    | error failure =>
        rw [first] at ran
        cases ran
    | ok value =>
        rw [first] at ran
        exact ⟨value, middle.state, ⟨journal, middle.journal, first⟩, middle.journal, said, ran⟩

theorem Returns.of_say {notice : Notice} {answer : Unit} {before after : σ}
    (returned : Returns (say notice) before answer after) : after = before := by
  obtain ⟨journal, said, ran⟩ := returned
  cases ran
  rfl

theorem Returns.of_current {answer before after : σ}
    (returned : Returns current before answer after) : answer = before ∧ after = before := by
  obtain ⟨journal, said, ran⟩ := returned
  cases ran
  exact ⟨rfl, rfl⟩

theorem Returns.of_change {update : σ → σ} {answer : Unit} {before after : σ}
    (returned : Returns (change update) before answer after) : after = update before := by
  obtain ⟨journal, said, ran⟩ := returned
  cases ran
  rfl

theorem Returns.of_outcome {result : Except Failure α} {answer : α} {before after : σ}
    (returned : Returns (outcome result) before answer after) :
    result = .ok answer ∧ after = before := by
  cases result with
  | error failure => exact absurd returned Returns.of_throw
  | ok value =>
      obtain ⟨same, unchanged⟩ := returned.of_pure
      exact ⟨by rw [same], unchanged⟩

/-- A task that only speaks first goes on in the same state. -/
theorem Returns.of_say_bind {notice : Notice} {next : Unit → Task σ β} {answer : β}
    {before after : σ} (returned : Returns (say notice >>= next) before answer after) :
    Returns (next ()) before answer after := by
  obtain ⟨_, middle, said, rest⟩ := returned.of_bind
  rwa [said.of_say] at rest

theorem Returns.of_current_bind {next : σ → Task σ β} {answer : β} {before after : σ}
    (returned : Returns (current >>= next) before answer after) :
    Returns (next before) before answer after := by
  obtain ⟨value, middle, read, rest⟩ := returned.of_bind
  obtain ⟨same, unchanged⟩ := read.of_current
  rwa [same, unchanged] at rest

theorem Returns.of_change_bind {update : σ → σ} {next : Unit → Task σ β} {answer : β}
    {before after : σ} (returned : Returns (change update >>= next) before answer after) :
    Returns (next ()) (update before) answer after := by
  obtain ⟨_, middle, changed, rest⟩ := returned.of_bind
  rwa [changed.of_change] at rest

theorem Returns.of_outcome_bind {result : Except Failure α} {next : α → Task σ β} {answer : β}
    {before after : σ} (returned : Returns (outcome result >>= next) before answer after) :
    ∃ value, result = .ok value ∧ Returns (next value) before answer after := by
  obtain ⟨value, middle, first, rest⟩ := returned.of_bind
  obtain ⟨computed, unchanged⟩ := first.of_outcome
  rw [unchanged] at rest
  exact ⟨value, computed, rest⟩

theorem Returns.of_forM_cons {item : β} {rest : List β} {work : β → Task σ PUnit}
    {answer : PUnit} {before after : σ}
    (returned : Returns ((item :: rest).forM work) before answer after) :
    ∃ middle, Returns (work item) before () middle ∧ Returns (rest.forM work) middle () after := by
  change Returns (work item >>= fun _ => rest.forM work) before answer after at returned
  obtain ⟨_, middle, first, others⟩ := returned.of_bind
  exact ⟨middle, first, others⟩

theorem Returns.of_notices {notices : List Notice} {answer : PUnit} {before after : σ}
    (returned : Returns (notices.forM say) before answer after) : after = before := by
  obtain ⟨journal, said, ran⟩ := returned
  rw [run_notices] at ran
  cases ran
  rfl

theorem Returns.of_ask {given : Answer α} {answer : α} {before after : σ}
    (returned : Returns (ask given) before answer after) :
    given.2 = .ok answer ∧ after = before := by
  obtain ⟨journal, said, ran⟩ := returned
  rw [run_ask] at ran
  obtain ⟨answered, left⟩ := Prod.mk.inj ran
  exact ⟨answered, (congrArg Logged.state left).symm⟩

theorem Returns.of_within {part : σ → τ} {replace : σ → τ → σ} {task : Task τ α} {answer : α}
    {before after : σ} (returned : Returns (within part replace task) before answer after) :
    ∃ inner, Returns task (part before) answer inner ∧ after = replace before inner := by
  obtain ⟨journal, said, ran⟩ := returned
  rw [run_within] at ran
  obtain ⟨answered, left⟩ := Prod.mk.inj ran
  refine ⟨(task.run ⟨part before, journal⟩).2.state, ⟨journal, _, Prod.ext answered rfl⟩, ?_⟩
  exact (congrArg Logged.state left).symm

/-- What is done at the end always returns; then the task itself returned before that. -/
theorem Returns.of_concludedBy {task : Task σ α} {update : σ → σ} {answer : α} {before after : σ}
    (returned : Returns (concludedBy task (change update)) before answer after) :
    ∃ middle, Returns task before answer middle ∧ after = update middle := by
  obtain ⟨journal, said, ran⟩ := returned
  obtain ⟨answered, left⟩ := Prod.mk.inj ran
  refine ⟨(task.run ⟨before, journal⟩).2.state, ⟨journal, _, Prod.ext answered rfl⟩, ?_⟩
  exact (congrArg Logged.state left).symm

/-! ## Steps of any task -/

variable {step : σ → σ → Prop}

theorem Follows.steps_of_returns {task : Task σ α} {value : α} {before after : σ}
    (follows : Follows step task before) (returned : Returns task before value after) :
    ReflTransGen step before after := by
  obtain ⟨journal, said, ran⟩ := returned
  have reached := follows journal
  rwa [ran] at reached

theorem follows_pure (value : α) (before : σ) : Follows step (pure value) before :=
  fun _ => ReflTransGen.refl

theorem follows_throw (failure : Failure) (before : σ) :
    Follows step (throw failure : Task σ α) before :=
  fun _ => ReflTransGen.refl

theorem follows_say (notice : Notice) (before : σ) : Follows step (say notice) before :=
  fun _ => ReflTransGen.refl

theorem follows_change (update : σ → σ) (before : σ) (changes : step before (update before)) :
    Follows step (change update) before :=
  fun _ => ReflTransGen.single changes

theorem follows_outcome (result : Except Failure α) (before : σ) :
    Follows step (outcome result) before := by
  cases result with
  | ok value => exact follows_pure value before
  | error failure => exact follows_throw failure before

/-- What follows the first task starts where that one returned. -/
theorem follows_bind {task : Task σ α} {next : α → Task σ β} {before : σ}
    (first : Follows step task before)
    (rest : ∀ value middle, Returns task before value middle → Follows step (next value) middle) :
    Follows step (task >>= next) before := by
  intro journal
  have reached := first journal
  rw [run_bind]
  cases ran : task.run ⟨before, journal⟩ with
  | mk result middle =>
    rw [ran] at reached
    cases result with
    | error failure => exact reached
    | ok value =>
        exact reached.trans (rest value middle.state ⟨journal, middle.journal, ran⟩ middle.journal)

theorem follows_current_bind {next : σ → Task σ β} {before : σ}
    (rest : Follows step (next before) before) : Follows step (current >>= next) before :=
  rest

theorem follows_say_bind {notice : Notice} {next : Unit → Task σ β} {before : σ}
    (rest : Follows step (next ()) before) : Follows step (say notice >>= next) before :=
  fun journal => rest (journal ++ [notice])

theorem follows_change_bind {update : σ → σ} {next : Unit → Task σ β} {before : σ}
    (changes : step before (update before)) (rest : Follows step (next ()) (update before)) :
    Follows step (change update >>= next) before :=
  fun journal => ReflTransGen.head changes (rest journal)

theorem follows_outcome_bind {result : Except Failure α} {next : α → Task σ β} {before : σ}
    (rest : ∀ value, result = .ok value → Follows step (next value) before) :
    Follows step (outcome result >>= next) before := by
  refine follows_bind (follows_outcome result before) fun value middle returned => ?_
  obtain ⟨computed, unchanged⟩ := returned.of_outcome
  exact unchanged ▸ rest value computed

theorem follows_forM {items : List α} {work : α → Task σ PUnit} (before : σ)
    (each : ∀ item ∈ items, ∀ state, Follows step (work item) state) :
    Follows step (items.forM work) before := by
  induction items generalizing before with
  | nil => exact follows_pure _ before
  | cons item rest ih =>
      change Follows step (work item >>= fun _ => rest.forM work) before
      refine follows_bind (each item (by simp) before) fun _ middle _ => ?_
      exact ih middle fun other member => each other (by simp [member])

theorem follows_notices (notices : List Notice) (before : σ) :
    Follows step (notices.forM say) before :=
  follows_forM before fun notice _ state => follows_say notice state

theorem follows_ask (given : Answer α) (before : σ) : Follows step (ask given) before :=
  follows_bind (follows_notices given.1 before) fun _ middle _ => follows_outcome given.2 middle

theorem follows_concludedBy {task : Task σ α} {last : Task σ Unit} {before : σ}
    (first : Follows step task before) (rest : ∀ state, Follows step last state) :
    Follows step (concludedBy task last) before :=
  fun journal => (first journal).trans (rest _ _)

/-- Steps of a part are steps of the whole. -/
theorem follows_within {part : σ → τ} {replace : σ → τ → σ} {inner : τ → τ → Prop}
    {task : Task τ α} {before : σ} (first : Follows inner task (part before))
    (lifted : ∀ old new, inner old new → step (replace before old) (replace before new))
    (same : replace before (part before) = before) :
    Follows step (within part replace task) before := by
  intro journal
  have reached : ReflTransGen step (replace before (part before)) (replace before _) :=
    ReflTransGen.lift (replace before) lifted _ _ (first journal)
  rwa [same] at reached

/-! ## Tasks that fail -/

section FailsOnly

variable {kind : Failure → Prop}

/-- Whatever it is started in, the task fails in no other way. -/
def FailsOnly (kind : Failure → Prop) (task : Task σ α) : Prop :=
  ∀ logged, SchemaSharp.FailsOnly kind (task.run logged).1

theorem failsOnly_pure (value : α) : FailsOnly kind (pure value : Task σ α) :=
  fun _ => SchemaSharp.failsOnly_ok value

theorem failsOnly_throw {failure : Failure} (allowed : kind failure) :
    FailsOnly kind (throw failure : Task σ α) :=
  fun _ => SchemaSharp.failsOnly_error allowed

theorem failsOnly_say (notice : Notice) : FailsOnly kind (say notice : Task σ Unit) :=
  fun _ => SchemaSharp.failsOnly_ok ()

theorem failsOnly_current : FailsOnly kind (current : Task σ σ) :=
  fun _ => SchemaSharp.failsOnly_ok _

theorem failsOnly_change (update : σ → σ) : FailsOnly kind (change update) :=
  fun _ => SchemaSharp.failsOnly_ok ()

theorem failsOnly_outcome {result : Except Failure α} (fails : SchemaSharp.FailsOnly kind result) :
    FailsOnly kind (outcome result : Task σ α) := by
  cases result with
  | ok value => exact failsOnly_pure value
  | error failure => exact failsOnly_throw (fails failure rfl)

/-- Started in the state `before`, the task fails in no other way. -/
def FailsFrom (kind : Failure → Prop) (task : Task σ α) (before : σ) : Prop :=
  ∀ journal, SchemaSharp.FailsOnly kind (task.run ⟨before, journal⟩).1

theorem FailsOnly.from {task : Task σ α} (fails : FailsOnly kind task) (before : σ) :
    FailsFrom kind task before :=
  fun journal => fails ⟨before, journal⟩

theorem failsOnly_of_from {task : Task σ α} (each : ∀ before, FailsFrom kind task before) :
    FailsOnly kind task :=
  fun logged => each logged.state logged.journal

theorem failsFrom_current_bind {next : σ → Task σ β} {before : σ}
    (rest : FailsFrom kind (next before) before) : FailsFrom kind (current >>= next) before :=
  rest

theorem failsFrom_bind {task : Task σ α} {next : α → Task σ β} {before : σ}
    (first : FailsFrom kind task before)
    (rest : ∀ value middle, Returns task before value middle →
      FailsFrom kind (next value) middle) :
    FailsFrom kind (task >>= next) before := by
  intro journal
  have failed := first journal
  rw [run_bind]
  cases ran : task.run ⟨before, journal⟩ with
  | mk result middle =>
    rw [ran] at failed
    cases result with
    | ok value =>
        exact rest value middle.state ⟨journal, middle.journal, ran⟩ middle.journal
    | error failure => exact SchemaSharp.failsOnly_error (failed failure rfl)

/-- What follows may be judged by what the first task answered. -/
theorem failsOnly_bind_returns {task : Task σ α} {next : α → Task σ β}
    (first : FailsOnly kind task)
    (rest : ∀ value before after, Returns task before value after → FailsOnly kind (next value)) :
    FailsOnly kind (task >>= next) :=
  failsOnly_of_from fun before =>
    failsFrom_bind (first.from before) fun value middle returned =>
      (rest value before middle returned).from middle

theorem failsOnly_bind {task : Task σ α} {next : α → Task σ β} (first : FailsOnly kind task)
    (rest : ∀ value, FailsOnly kind (next value)) : FailsOnly kind (task >>= next) :=
  failsOnly_bind_returns first fun value _ _ _ => rest value

theorem failsOnly_forM {items : List α} {work : α → Task σ PUnit}
    (each : ∀ item, FailsOnly kind (work item)) : FailsOnly kind (items.forM work) := by
  induction items with
  | nil => exact failsOnly_pure _
  | cons item rest ih => exact failsOnly_bind (each item) fun _ => ih

theorem failsOnly_ask {given : Answer α} (fails : SchemaSharp.FailsOnly kind given.2) :
    FailsOnly kind (ask given : Task σ α) :=
  failsOnly_bind (failsOnly_forM failsOnly_say) fun _ => failsOnly_outcome fails

theorem failsOnly_within {part : σ → τ} {replace : σ → τ → σ} {task : Task τ α}
    (inner : FailsOnly kind task) : FailsOnly kind (within part replace task) :=
  fun _ => inner _

end FailsOnly

/-! ## Tasks that fail without harm -/

/-- If the task fails, the state is still the one that it was started in. -/
def Unharmed (task : Task σ α) : Prop :=
  ∀ logged failure, (task.run logged).1 = .error failure →
    (task.run logged).2.state = logged.state

theorem unharmed_of_sure {task : Task σ α} (sure : FailsOnly (fun _ => False) task) :
    Unharmed task :=
  fun logged failure failed => (sure logged failure failed).elim

theorem unharmed_throw (failure : Failure) : Unharmed (throw failure : Task σ α) :=
  fun _ _ _ => rfl

/-- A task that makes no step at all leaves the state alone. -/
theorem Follows.state_eq {task : Task σ α} {before : σ}
    (still : Follows (fun _ _ => False) task before) (journal : List Notice) :
    (task.run ⟨before, journal⟩).2.state = before := by
  rcases (still journal).cases_tail with same | ⟨_, _, never⟩
  · exact same
  · exact never.elim

theorem unharmed_bind_of_still {task : Task σ α} {next : α → Task σ β}
    (still : ∀ before, Follows (fun _ _ => False) task before)
    (rest : ∀ value, Unharmed (next value)) : Unharmed (task >>= next) := by
  rintro ⟨before, journal⟩ failure failed
  have same := (still before).state_eq journal
  rw [run_bind] at failed ⊢
  cases ran : task.run ⟨before, journal⟩ with
  | mk result middle =>
    rw [ran] at failed same
    cases result with
    | error failure => exact same
    | ok value => exact (rest value middle failure failed).trans same

theorem unharmed_bind_of_sure {task : Task σ α} {next : α → Task σ β} (first : Unharmed task)
    (sure : ∀ value, FailsOnly (fun _ => False) (next value)) : Unharmed (task >>= next) := by
  intro logged failure failed
  have kept := first logged
  rw [run_bind] at failed ⊢
  cases ran : task.run logged with
  | mk result middle =>
    rw [ran] at failed kept
    cases result with
    | error failure => exact kept failure rfl
    | ok value => exact (sure value middle failure failed).elim

theorem unharmed_within {part : σ → τ} {replace : σ → τ → σ} {task : Task τ α}
    (unharmed : Unharmed task) (same : ∀ state, replace state (part state) = state) :
    Unharmed (within part replace task) := by
  rintro ⟨before, journal⟩ failure failed
  have kept := unharmed ⟨part before, journal⟩ failure failed
  change replace before (task.run ⟨part before, journal⟩).2.state = before
  rw [kept, same]

/-- Of a task that does no harm by failing only the success is to be looked at. -/
theorem Unharmed.follows {step : σ → σ → Prop} {task : Task σ α} {before : σ}
    (unharmed : Unharmed task)
    (steps : ∀ value after, Returns task before value after → ReflTransGen step before after) :
    Follows step task before := by
  intro journal
  cases ran : task.run ⟨before, journal⟩ with
  | mk result last =>
    cases result with
    | ok value => exact steps value last.state ⟨journal, last.journal, ran⟩
    | error failure =>
        have kept := unharmed ⟨before, journal⟩ failure (by rw [ran])
        rw [ran] at kept
        exact kept ▸ .refl

/-! ## What tasks report -/

/-- Of a task that returns, started in the state `before`, this holds of what it adds to the journal
and of the state it leaves. -/
def Reports (holds : List Notice → σ → Prop) (task : Task σ α) (before : σ) : Prop :=
  ∀ journal value after, task.run ⟨before, journal⟩ = (.ok value, after) →
    ∃ said, after.journal = journal ++ said ∧ holds said after.state

section Reports

variable {holds : List Notice → σ → Prop} {before : σ}

theorem reports_pure {value : α} (silent : holds [] before) :
    Reports holds (pure value) before := by
  intro journal answer after ran
  cases ran
  exact ⟨[], (List.append_nil journal).symm, silent⟩

theorem reports_throw {failure : Failure} :
    Reports holds (throw failure : Task σ α) before := by
  intro journal answer after ran
  cases ran

theorem reports_say {notice : Notice} (told : holds [notice] before) :
    Reports holds (say notice) before := by
  intro journal answer after ran
  cases ran
  exact ⟨[notice], rfl, told⟩

theorem reports_change {update : σ → σ} (silent : holds [] (update before)) :
    Reports holds (change update) before := by
  intro journal answer after ran
  cases ran
  exact ⟨[], (List.append_nil journal).symm, silent⟩

/-- What follows the first task adds to what that one reported. -/
theorem reports_bind_returns {first : List Notice → σ → Prop} {task : Task σ α}
    {next : α → Task σ β} (reports : Reports first task before)
    (rest : ∀ value said middle, first said middle → Returns task before value middle →
      Reports (fun later => holds (said ++ later)) (next value) middle) :
    Reports holds (task >>= next) before := by
  intro journal answer after ran
  rw [run_bind] at ran
  cases inner : task.run ⟨before, journal⟩ with
  | mk result middle =>
    rw [inner] at ran
    cases result with
    | error failure => cases ran
    | ok value =>
        obtain ⟨said, grown, told⟩ := reports journal value middle inner
        have returned : Returns task before value middle.state := ⟨journal, middle.journal, inner⟩
        obtain ⟨later, grownAgain, toldAgain⟩ :=
          rest value said middle.state told returned middle.journal answer after ran
        exact ⟨said ++ later, by rw [grownAgain, grown, List.append_assoc], toldAgain⟩

theorem reports_bind {first : List Notice → σ → Prop} {task : Task σ α} {next : α → Task σ β}
    (reports : Reports first task before)
    (rest : ∀ value said middle, first said middle →
      Reports (fun later => holds (said ++ later)) (next value) middle) :
    Reports holds (task >>= next) before :=
  reports_bind_returns reports fun value said middle told _ => rest value said middle told

theorem reports_current_bind {next : σ → Task σ β} (rest : Reports holds (next before) before) :
    Reports holds (current >>= next) before :=
  rest

theorem reports_outcome_bind {result : Except Failure α} {next : α → Task σ β}
    (rest : ∀ value, result = .ok value → Reports holds (next value) before) :
    Reports holds (outcome result >>= next) before := by
  cases result with
  | ok value => exact rest value rfl
  | error failure =>
      intro journal answer after ran
      cases ran

theorem Reports.of_imp {wider : List Notice → σ → Prop} {task : Task σ α}
    (reports : Reports holds task before)
    (imp : ∀ said after, holds said after → wider said after) :
    Reports wider task before := by
  intro journal value after ran
  obtain ⟨said, grown, told⟩ := reports journal value after ran
  exact ⟨said, grown, imp said after.state told⟩

theorem reports_notices {notices : List Notice} (told : holds notices before) :
    Reports holds (notices.forM say) before := by
  intro journal answer after ran
  rw [run_notices] at ran
  cases ran
  exact ⟨notices, rfl, told⟩

theorem reports_ask {given : Answer α} (told : holds given.1 before) :
    Reports holds (ask given) before := by
  intro journal answer after ran
  rw [run_ask] at ran
  obtain ⟨-, rfl⟩ := Prod.mk.inj ran
  exact ⟨given.1, rfl, told⟩

theorem Reports.said_of_perform {task : Task σ α} {value : α} (reports : Reports holds task before)
    (ran : (task.perform before).1 = .ok value) :
    holds (task.perform before).2.journal (task.perform before).2.state := by
  obtain ⟨said, grown, told⟩ := reports [] value (task.perform before).2 (Prod.ext ran rfl)
  rwa [grown, List.nil_append]

end Reports

/-! ## Tasks that do the same -/

section Mirrors

variable {view : σ → τ}

/-- Through the view of its state the task answers and does what its image does. -/
def Mirrors (view : σ → τ) (task : Task σ α) (image : Task τ α) : Prop :=
  ∀ state journal other,
    (task.run ⟨state, journal⟩).1 = (image.run ⟨view state, other⟩).1 ∧
      view (task.run ⟨state, journal⟩).2.state = (image.run ⟨view state, other⟩).2.state

theorem mirrors_pure (value : α) : Mirrors view (pure value) (pure value) :=
  fun _ _ _ => ⟨rfl, rfl⟩

theorem mirrors_throw (failure : Failure) :
    Mirrors view (throw failure : Task σ α) (throw failure) :=
  fun _ _ _ => ⟨rfl, rfl⟩

theorem mirrors_say (notice other : Notice) : Mirrors view (say notice) (say other) :=
  fun _ _ _ => ⟨rfl, rfl⟩

theorem mirrors_change {update : σ → σ} {image : τ → τ}
    (same : ∀ state, view (update state) = image (view state)) :
    Mirrors view (change update) (change image) :=
  fun state _ _ => ⟨rfl, same state⟩

theorem mirrors_outcome (result : Except Failure α) :
    Mirrors view (outcome result) (outcome result) := by
  cases result with
  | ok value => exact mirrors_pure value
  | error failure => exact mirrors_throw failure

theorem mirrors_bind {task : Task σ α} {image : Task τ α} {next : α → Task σ β}
    {imageNext : α → Task τ β} (first : Mirrors view task image)
    (rest : ∀ value, Mirrors view (next value) (imageNext value)) :
    Mirrors view (task >>= next) (image >>= imageNext) := by
  intro state journal other
  obtain ⟨answered, left⟩ := first state journal other
  rw [run_bind, run_bind]
  cases ran : task.run ⟨state, journal⟩ with
  | mk result middle =>
    cases ranImage : image.run ⟨view state, other⟩ with
    | mk resultImage middleImage =>
      rw [ran, ranImage] at answered left
      obtain ⟨after, said⟩ := middle
      obtain ⟨afterImage, saidImage⟩ := middleImage
      simp only at answered left
      subst answered left
      cases result with
      | error failure => exact ⟨rfl, rfl⟩
      | ok value => exact rest value after said saidImage

theorem mirrors_current_bind {next : σ → Task σ β} {imageNext : τ → Task τ β}
    (rest : ∀ state, Mirrors view (next state) (imageNext (view state))) :
    Mirrors view (current >>= next) (current >>= imageNext) :=
  fun state journal other => rest state state journal other

theorem mirrors_notices (notices others : List Notice) :
    Mirrors view (notices.forM say) (others.forM say) := by
  intro state journal other
  rw [run_notices, run_notices]
  exact ⟨rfl, rfl⟩

theorem mirrors_ask {given image : Answer α} (same : given.2 = image.2) :
    Mirrors view (ask given) (ask image) := by
  intro state journal other
  rw [run_ask, run_ask, same]
  exact ⟨rfl, rfl⟩

/-- A task on the part that the view shows. -/
theorem mirrors_within {replace : σ → τ → σ} {task image : Task τ α}
    (same : Mirrors id task image) (shown : ∀ state inner, view (replace state inner) = inner) :
    Mirrors view (within view replace task) image := by
  intro state journal other
  obtain ⟨answered, left⟩ := same (view state) journal other
  exact ⟨answered, (shown state _).trans left⟩

/-- The same on a part of the state is the same on the whole. -/
theorem mirrors_within_same {part : σ → τ} {replace : σ → τ → σ} {task image : Task τ α}
    (same : Mirrors id task image) :
    Mirrors id (within part replace task) (within part replace image) := by
  intro state journal other
  obtain ⟨answered, left⟩ := same (part state) journal other
  exact ⟨answered, congrArg (replace state) left⟩

/-- A task that is an image of another does not depend on what was reported before. -/
theorem Mirrors.image_of_onto {task : Task σ α} {image : Task τ α} (same : Mirrors view task image)
    (onto : Function.Surjective view) : Mirrors id image image := by
  intro state journal other
  obtain ⟨whole, rfl⟩ := onto state
  obtain ⟨answered, left⟩ := same whole [] journal
  obtain ⟨answeredOther, leftOther⟩ := same whole [] other
  exact ⟨answered.symm.trans answeredOther, left.symm.trans leftOther⟩

theorem Mirrors.perform_of_returns {task : Task σ α} {image : Task τ α}
    (same : Mirrors view task image) (state : σ) {value : α} {after : τ}
    (returned : Returns image (view state) value after) :
    (task.perform state).1 = .ok value ∧ view (task.perform state).2.state = after := by
  obtain ⟨journal, said, ran⟩ := returned
  have mirrored := same state [] journal
  rwa [ran] at mirrored

theorem Mirrors.of_returns {task : Task σ α} {image : Task τ α} (same : Mirrors view task image)
    {before after : σ} {value : α} (returned : Returns task before value after) :
    Returns image (view before) value (view after) := by
  obtain ⟨journal, said, ran⟩ := returned
  obtain ⟨answered, left⟩ := same before journal []
  rw [ran] at answered left
  exact ⟨[], _, Prod.ext answered.symm (congrArg (Logged.mk · _) left.symm)⟩

end Mirrors

/-! ## Tasks that agree -/

section Agree

variable {alike : Failure → Failure → Prop} {before : σ}

/-- The same outcome, or two failures that count as one. -/
inductive Likewise (alike : Failure → Failure → Prop) :
    Except Failure α → Except Failure α → Prop where
  | same (result : Except Failure α) : Likewise alike result result
  | failed {failure other : Failure} (pair : alike failure other) :
      Likewise alike (.error failure) (.error other)

theorem Likewise.eq_ok {result other : Except Failure α} {value : α}
    (likewise : Likewise alike result other) (answered : result = .ok value) :
    other = .ok value := by
  cases likewise with
  | same => exact answered
  | failed => cases answered

/-- Started in the state `before`, both tasks end likewise and leave the same state, whatever was
reported. -/
def Agree (alike : Failure → Failure → Prop) (task other : Task σ α) (before : σ) : Prop :=
  ∀ journal said,
    Likewise alike (task.run ⟨before, journal⟩).1 (other.run ⟨before, said⟩).1 ∧
      (task.run ⟨before, journal⟩).2.state = (other.run ⟨before, said⟩).2.state

theorem Mirrors.agree {task other : Task σ α} (same : Mirrors id task other) (before : σ) :
    Agree alike task other before := by
  intro journal said
  obtain ⟨answered, left⟩ := same before journal said
  exact ⟨answered ▸ .same _, left⟩

theorem agree_throw {failure other : Failure} (pair : alike failure other) (before : σ) :
    Agree alike (throw failure : Task σ α) (throw other) before :=
  fun _ _ => ⟨.failed pair, rfl⟩

/-- What follows is compared only if both first tasks return. -/
theorem agree_bind {task other : Task σ α} {next otherNext : α → Task σ β}
    (first : Agree alike task other before)
    (rest : ∀ value middle, Returns task before value middle →
      Agree alike (next value) (otherNext value) middle) :
    Agree alike (task >>= next) (other >>= otherNext) before := by
  intro journal said
  obtain ⟨likewise, left⟩ := first journal said
  rw [run_bind, run_bind]
  cases ran : task.run ⟨before, journal⟩ with
  | mk result middle =>
    cases ranOther : other.run ⟨before, said⟩ with
    | mk resultOther middleOther =>
      rw [ran, ranOther] at likewise left
      obtain ⟨after, reported⟩ := middle
      obtain ⟨_, reportedOther⟩ := middleOther
      cases left
      cases likewise with
      | failed pair => exact ⟨.failed pair, rfl⟩
      | same =>
          cases result with
          | error failure => exact ⟨.same _, rfl⟩
          | ok value => exact rest value after ⟨journal, reported, ran⟩ reported reportedOther

end Agree

end Task

end SchemaSharp
