import Mathlib.Order.Defs.Unbundled
import SchemaSharp.Proofs.Task

/-!
What a task leaves as it was. `Keeps` is about every way a task may end and about its journal as
well as its state: what it leaves is related to what it was started with. `KeepsIn` does not count
the ways in which a task fails for other reasons than those of a kind. `Says` is the relation that
allows the journal to grow by notices of a given kind only.
-/

namespace SchemaSharp.Task

variable {σ τ α β : Type} {kept : Logged σ → Logged σ → Prop}

/-- Whatever becomes of the task, this relates what it leaves to what it was started with. -/
def Keeps (kept : Logged σ → Logged σ → Prop) (task : Task σ α) : Prop :=
  ∀ logged, kept logged (task.run logged).2

theorem Keeps.of_imp {wider : Logged σ → Logged σ → Prop} {task : Task σ α}
    (keeps : Keeps kept task) (imp : ∀ before after, kept before after → wider before after) :
    Keeps wider task :=
  fun logged => imp logged _ (keeps logged)

theorem Keeps.of_returns {task : Task σ α} {value : α} {before after : σ}
    (keeps : Keeps kept task) (returned : Returns task before value after) :
    ∃ journal said, kept ⟨before, journal⟩ ⟨after, said⟩ := by
  obtain ⟨journal, said, ran⟩ := returned
  have related := keeps ⟨before, journal⟩
  rw [ran] at related
  exact ⟨journal, said, related⟩

theorem keeps_current_bind {next : σ → Task σ β} (rest : ∀ state, Keeps kept (next state)) :
    Keeps kept (current >>= next) :=
  fun logged => rest logged.state logged

/-! ## Failures of a kind -/

variable {kind : Failure → Prop}

/-- As long as the task fails in no other way, this relates what it leaves to what it was started
with. -/
def KeepsIn (kind : Failure → Prop) (kept : Logged σ → Logged σ → Prop) (task : Task σ α) : Prop :=
  ∀ logged, SchemaSharp.FailsOnly kind (task.run logged).1 → kept logged (task.run logged).2

theorem Keeps.keepsIn {task : Task σ α} (keeps : Keeps kept task) : KeepsIn kind kept task :=
  fun logged _ => keeps logged

/-- The same for one state to start in. -/
def KeepsFrom (kind : Failure → Prop) (kept : Logged σ → Logged σ → Prop) (task : Task σ α)
    (before : σ) : Prop :=
  ∀ journal, SchemaSharp.FailsOnly kind (task.run ⟨before, journal⟩).1 →
    kept ⟨before, journal⟩ (task.run ⟨before, journal⟩).2

theorem Keeps.from {task : Task σ α} (keeps : Keeps kept task) (before : σ) :
    KeepsFrom kind kept task before :=
  fun _ _ => keeps _

theorem KeepsIn.from {task : Task σ α} (keeps : KeepsIn kind kept task) (before : σ) :
    KeepsFrom kind kept task before :=
  fun journal => keeps ⟨before, journal⟩

theorem keepsIn_of_from {task : Task σ α} (each : ∀ before, KeepsFrom kind kept task before) :
    KeepsIn kind kept task :=
  fun logged => each logged.state logged.journal

theorem keeps_of_from {task : Task σ α}
    (each : ∀ before, KeepsFrom (fun _ => True) kept task before) : Keeps kept task :=
  fun logged => each logged.state logged.journal fun _ _ => trivial

theorem keepsFrom_current_bind {next : σ → Task σ β} {before : σ}
    (rest : KeepsFrom kind kept (next before) before) :
    KeepsFrom kind kept (current >>= next) before :=
  rest

/-! ## Tasks one after the other -/

section Preorder

variable [IsPreorder (Logged σ) kept]

theorem keeps_pure (value : α) : Keeps kept (pure value : Task σ α) :=
  fun logged => refl_of kept logged

theorem keeps_throw (failure : Failure) : Keeps kept (throw failure : Task σ α) :=
  fun logged => refl_of kept logged

theorem keeps_outcome (result : Except Failure α) : Keeps kept (outcome result : Task σ α) := by
  cases result with
  | ok value => exact keeps_pure value
  | error failure => exact keeps_throw failure

theorem keepsFrom_bind {task : Task σ α} {next : α → Task σ β} {before : σ}
    (first : KeepsFrom kind kept task before)
    (rest : ∀ value middle, Returns task before value middle →
      KeepsFrom kind kept (next value) middle) :
    KeepsFrom kind kept (task >>= next) before := by
  intro journal allowed
  have opened := first journal
  rw [run_bind] at allowed ⊢
  cases ran : task.run ⟨before, journal⟩ with
  | mk result middle =>
    rw [ran] at opened allowed
    cases result with
    -- the rest is not done, so that the first task alone counts
    | error failure => exact opened (SchemaSharp.failsOnly_error (allowed failure rfl))
    | ok value =>
        have returned : Returns task before value middle.state := ⟨journal, middle.journal, ran⟩
        have further := rest value middle.state returned middle.journal allowed
        exact trans_of kept (opened (SchemaSharp.failsOnly_ok value)) further

theorem keepsIn_bind {task : Task σ α} {next : α → Task σ β} (first : KeepsIn kind kept task)
    (rest : ∀ value, KeepsIn kind kept (next value)) : KeepsIn kind kept (task >>= next) :=
  keepsIn_of_from fun before =>
    keepsFrom_bind (first.from before) fun value middle _ => (rest value).from middle

theorem keeps_bind {task : Task σ α} {next : α → Task σ β} (first : Keeps kept task)
    (rest : ∀ value, Keeps kept (next value)) : Keeps kept (task >>= next) :=
  keeps_of_from fun before =>
    keepsFrom_bind (first.from before) fun value middle _ => (rest value).from middle

theorem keeps_concludedBy {task : Task σ α} {last : Task σ Unit} (first : Keeps kept task)
    (rest : Keeps kept last) : Keeps kept (concludedBy task last) :=
  fun logged => trans_of kept (first logged) (rest _)

end Preorder

/-! ## The journal -/

/-- The journal has grown by notices of this kind. -/
def Says (kind : Notice → Prop) (before after : Logged σ) : Prop :=
  ∃ said, after.journal = before.journal ++ said ∧ ∀ notice ∈ said, kind notice

section Says

variable {kind other : Notice → Prop}

theorem Says.refl (logged : Logged σ) : Says kind logged logged := ⟨[], by simp⟩

theorem Says.trans {before middle after : Logged σ} (first : Says kind before middle)
    (second : Says kind middle after) : Says kind before after := by
  obtain ⟨said, grown, allowed⟩ := first
  obtain ⟨later, grownAgain, allowedToo⟩ := second
  refine ⟨said ++ later, by rw [grownAgain, grown, List.append_assoc], fun notice member => ?_⟩
  rcases List.mem_append.mp member with earlier | new
  · exact allowed notice earlier
  · exact allowedToo notice new

instance : IsPreorder (Logged σ) (Says kind) where
  refl := Says.refl
  trans _ _ _ := Says.trans

theorem Says.of_imp {before after : Logged σ} (spoken : Says kind before after)
    (imp : ∀ notice, kind notice → other notice) : Says other before after := by
  obtain ⟨said, grown, allowed⟩ := spoken
  exact ⟨said, grown, fun notice member => imp notice (allowed notice member)⟩

theorem says_say {notice : Notice} (allowed : kind notice) :
    Keeps (Says kind) (say notice : Task σ Unit) :=
  fun _ => ⟨[notice], rfl, by simpa using allowed⟩

theorem says_change (update : σ → σ) : Keeps (Says kind) (change update) :=
  fun logged => Says.refl logged

theorem says_notices {notices : List Notice} (allowed : ∀ notice ∈ notices, kind notice) :
    Keeps (Says kind) (notices.forM say : Task σ PUnit) := by
  intro logged
  rw [run_notices]
  exact ⟨notices, rfl, allowed⟩

theorem says_ask {given : Answer α} (allowed : ∀ notice ∈ given.1, kind notice) :
    Keeps (Says kind) (ask given : Task σ α) := by
  intro logged
  rw [run_ask]
  exact ⟨given.1, rfl, allowed⟩

theorem says_within {part : σ → τ} {replace : σ → τ → σ} {task : Task τ α}
    (inner : Keeps (Says kind) task) : Keeps (Says kind) (within part replace task) :=
  fun logged => inner ⟨part logged.state, logged.journal⟩

end Says

end SchemaSharp.Task
