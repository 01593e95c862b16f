import SchemaSharp.Proofs.Conversion.Composition

/-!
Translating is done offline. Whatever is translated and however that ends, the store stays as it
is, no document is taken from the queue, and neither the loader nor the store reports anything.
Working off the queue takes documents out, and still loads none.
-/

namespace SchemaSharp.Conversion

open SchemaSharp.Task (Keeps KeepsFrom Says)

/-- Nothing is loaded. -/
structure Unloaded (before after : Logged Conversion) : Prop where
  store : after.state.store = before.state.store
  journal : Says OwnNotice before after

instance : IsPreorder (Logged Conversion) Unloaded where
  refl logged := ⟨rfl, .refl logged⟩
  trans _ _ _ first second :=
    ⟨second.store.trans first.store, first.journal.trans second.journal⟩

/-- Nothing is loaded, and no document taken from the queue. -/
structure Offline (before after : Logged Conversion) : Prop extends Unloaded before after where
  dequeued : after.state.dequeued = before.state.dequeued

instance : IsPreorder (Logged Conversion) Offline where
  refl logged := ⟨refl_of Unloaded logged, rfl⟩
  trans _ _ _ first second :=
    ⟨trans_of Unloaded first.toUnloaded second.toUnloaded,
      second.dequeued.trans first.dequeued⟩

theorem unloaded_of_offline {α : Type} {task : Work α} (offline : Keeps Offline task) :
    Keeps Unloaded task :=
  offline.of_imp fun _ _ => Offline.toUnloaded

variable {job : Job}

theorem offline_say {notice : Notice} (own : OwnNotice notice) :
    Keeps Offline (Task.say notice) :=
  fun logged => ⟨⟨rfl, Task.says_say own logged⟩, rfl⟩

theorem offline_change {kind : Failure → Prop} {update : Conversion → Conversion}
    {before : Conversion} (store : (update before).store = before.store)
    (dequeued : (update before).dequeued = before.dequeued) :
    KeepsFrom kind Offline (Task.change update) before :=
  fun _ _ => ⟨⟨store, .refl _⟩, dequeued⟩

/-! ## Translating -/

theorem enqueue_offline (location : String) : Keeps Offline (Task.change (enqueue location)) :=
  Task.keeps_of_from fun _ => offline_change rfl rfl

theorem offline_looks :
    Looks (fun _ => True) fun task before => KeepsFrom (fun _ => True) Offline task before where
  toComposes := keepsFrom_composes offline_say enqueue_offline
  read := Task.keepsFrom_current_bind

theorem write_offline (call : Writer.Call) : Keeps Offline (write call) := by
  have opened := openArtifact?_composed offline_looks trivial
  refine Task.keeps_bind (Task.keeps_of_from opened) fun artifact => ?_
  refine Task.keeps_bind (Task.keeps_of_from fun _ => offline_change rfl rfl) fun _ => ?_
  split
  · exact Task.keeps_pure _
  · exact Task.keeps_throw _

theorem closeArtifact_offline : Keeps Offline closeArtifact := by
  refine Task.keeps_of_from fun before => offline_change ?_ ?_
  all_goals
    unfold shelve
    split <;> rfl

theorem offline_writes (job : Job) :
    Writes (fun _ => True)
      (fun task before => KeepsFrom (fun _ => True) Offline task before) job where
  toLooks := offline_looks
  waits _ _ _ := offline_change rfl rfl
  marked _ := offline_change rfl rfl
  taken _ := offline_change rfl rfl
  detached := trivial
  written call := (write_offline call).from
  placed _ _ := offline_change rfl rfl
  shelved first journal _ :=
    trans_of Offline (first journal fun _ _ => trivial) (closeArtifact_offline _)

theorem translateStored_offline (location : String) :
    Keeps Offline (translateStored job location) := by
  have classes := translateComplexType_composed (offline_writes job) job.namesAs_any
    fun _ _ => trivial
  have stored := translateStored_composed (offline_writes job).toTranslates classes
    job.namesAs_any (fun _ _ => trivial) location
  exact Task.keeps_of_from stored

/-- One document taken from the queue is translated, into whichever artifact. -/
theorem translateQueued_offline (location : String) :
    Keeps Offline (translateQueued job location) := by
  have stored : ∀ before, KeepsFrom (fun _ => True) Offline (translateStored job location) before :=
    (translateStored_offline location).from
  refine Task.keeps_of_from (translateQueued_composed offline_looks ?_ stored fun path before => ?_)
  · exact fun _ _ => trivial
  · exact withArtifact_composed (offline_writes job) stored

/-! ## The queue -/

theorem unloaded_dequeues :
    Dequeues (fun _ => True) fun task before => KeepsFrom (fun _ => True) Unloaded task before where
  toComposes := keepsFrom_composes (fun own => unloaded_of_offline (offline_say own))
    fun location => unloaded_of_offline (enqueue_offline location)
  read := Task.keepsFrom_current_bind
  dequeued _ _ _ := ⟨rfl, .refl _⟩

theorem dequeue_unloaded : Keeps Unloaded dequeue :=
  Task.keeps_of_from (dequeue_composed unloaded_dequeues)

theorem drain_unloaded : Keeps Unloaded (drain job) := by
  refine Task.keeps_of_from (drain_composed unloaded_dequeues fun location => ?_)
  exact (unloaded_of_offline (translateQueued_offline location)).from

/-- All that a run does once its inputs are loaded. -/
theorem translateFrom_unloaded (seeds : List String) :
    Keeps Unloaded (translateFrom job seeds) := by
  have filed : ∀ path, Keeps Unloaded (withArtifact job path (drain job)) := by
    intro path
    have opened := Task.keeps_of_from (openArtifact_composed (offline_writes job) path)
    refine Task.keeps_concludedBy ?_ (unloaded_of_offline closeArtifact_offline)
    exact Task.keeps_bind (unloaded_of_offline opened) fun _ => drain_unloaded
  refine Task.keeps_of_from (translateFrom_composed unloaded_dequeues.toComposes ?_ ?_ ?_)
  · exact fun _ _ => trivial
  · exact drain_unloaded.from
  · exact fun path => (filed path).from

end SchemaSharp.Conversion
