import SchemaSharp.Proofs.Conversion.Composition
import SchemaSharp.Proofs.Store.Steps

/-!
How a conversion changes. Each of its operations, wherever it fails, is a sequence of the small
steps listed here, so that an invariant of conversions has to be proved for these only.
-/

namespace SchemaSharp.Conversion

open Schema (ComplexType ElementDecl Document)
open SchemaSharp.Task (Returns Follows)
open Relation (ReflTransGen)

inductive Step (job : Job) : Conversion → Conversion → Prop where
  | load {before : Conversion} {store : Store} (step : Store.Step job.source before.store store) :
      Step job before { before with store := store }
  | enqueue {before : Conversion} {location : String}
      (stored : (before.store.at? location).isSome) (unmet : location ∉ before.processed) :
      Step job before (before.enqueue location)
  | dequeue {before : Conversion} {location : String} {rest : List String}
      (waiting : before.queue = location :: rest) :
      Step job before
        { before with queue := rest, dequeued := before.dequeued ++ [location] }
  | mark {before : Conversion} {type : ComplexType}
      (unmarked : type.identity ∉ before.translated) :
      Step job before (before.markTranslated type)
  | await {before : Conversion} (type : ComplexType) (identifier : String) :
      Step job before (before.await type identifier)
  | take {before : Conversion} {first : ComplexType × String} {rest : List (ComplexType × String)}
      (waiting : before.anonymous = first :: rest) :
      Step job before { before with anonymous := rest }
  | write {before : Conversion} {artifact : Artifact} (call : Writer.Call)
      (current : before.current? = some artifact) :
      Step job before (before.replaceCurrent (artifact.perform call).2)
  | place {before : Conversion} (path : String) : Step job before (before.place job path)
  | shelve {before : Conversion} : Step job before before.shelve
  | begin {before : Conversion} (idle : before.started = false) :
      Step job before { before with started := true }

variable {job : Job}

theorem openArtifact?_returns {before after : Conversion} {artifact : Artifact}
    (returned : Returns openArtifact? before artifact after) :
    before.current? = some artifact ∧ after = before := by
  unfold openArtifact? at returned
  have returned := returned.of_current_bind
  split at returned
  · exact absurd returned Returns.of_throw
  · next current =>
      obtain ⟨rfl, rfl⟩ := returned.of_pure
      exact ⟨current, rfl⟩

/-! ## Translating -/

theorem follows_looks :
    Looks (fun _ => True) fun task before => Follows (Step job) task before where
  toComposes := follows_composes .enqueue
  read := Task.follows_current_bind

theorem follows_dequeues :
    Dequeues (fun _ => True) fun task before => Follows (Step job) task before where
  toLooks := follows_looks
  dequeued waiting := Task.follows_change _ _ (.dequeue waiting)

theorem write_follows (call : Writer.Call) (before : Conversion) :
    Follows (Step job) (write call) before := by
  unfold write
  apply Task.follows_bind (openArtifact?_composed follows_looks trivial _)
  intro artifact middle opened
  obtain ⟨current, rfl⟩ := openArtifact?_returns opened
  apply Task.follows_change_bind (.write call current)
  split
  · exact Task.follows_pure _ _
  · exact Task.follows_throw _ _

theorem closeArtifact_follows (before : Conversion) :
    Follows (Step job) closeArtifact before :=
  Task.follows_change _ _ .shelve

theorem follows_writes :
    Writes (fun _ => True) (fun task before => Follows (Step job) task before) job where
  toLooks := follows_looks
  waits type identifier before := Task.follows_change _ before (.await type identifier)
  marked unmarked := Task.follows_change _ _ (.mark unmarked)
  taken waiting := Task.follows_change _ _ (.take waiting)
  detached := trivial
  written := write_follows
  placed path before := Task.follows_change _ before (.place path)
  shelved first := Task.follows_concludedBy first closeArtifact_follows

theorem schedule_follows {before : Conversion} {location : String}
    (stored : (before.store.at? location).isSome) :
    Follows (Step job) (schedule location) before :=
  schedule_composed follows_looks.toComposes (follows_looks.queued stored)

theorem openArtifact_follows (path : String) (before : Conversion) :
    Follows (Step job) (openArtifact job path) before :=
  openArtifact_composed follows_writes path before

theorem withArtifact_follows {path : String} {work : Work Unit} {before : Conversion}
    (inside : ∀ state, Follows (Step job) work state) :
    Follows (Step job) (withArtifact job path work) before :=
  withArtifact_composed follows_writes inside

theorem translateMember_follows (element : ElementDecl) (scope : String) (before : Conversion) :
    Follows (Step job) (translateMember job element scope) before :=
  translateMember_composed follows_writes job.namesAs_any element scope before

theorem translateComplexType_follows (type : ComplexType) (name className : Option String)
    (before : Conversion) :
    Follows (Step job) (translateComplexType job type name className) before :=
  translateComplexType_composed follows_writes job.namesAs_any (fun _ _ => trivial) type name
    className before

theorem flushAnonymous_follows (before : Conversion) :
    Follows (Step job) (flushAnonymous job) before :=
  flushAnonymous_composed follows_writes.toTranslates translateComplexType_follows before

theorem translateElement_follows (element : ElementDecl) (before : Conversion) :
    Follows (Step job) (translateElement job element) before :=
  translateElement_composed follows_writes.toTranslates translateComplexType_follows
    job.namesAs_any (fun _ _ => trivial) element before

theorem translateDocument_follows (document : Document) (before : Conversion) :
    Follows (Step job) (translateDocument job document) before :=
  translateDocument_composed follows_writes.toTranslates translateComplexType_follows
    job.namesAs_any (fun _ _ => trivial) document before

theorem translateStored_follows (location : String) (before : Conversion) :
    Follows (Step job) (translateStored job location) before :=
  translateStored_composed follows_writes.toTranslates translateComplexType_follows
    job.namesAs_any (fun _ _ => trivial) location before

theorem translateQueued_follows (location : String) (before : Conversion) :
    Follows (Step job) (translateQueued job location) before :=
  translateQueued_composed follows_looks (fun _ _ => trivial) (translateStored_follows location)
    (fun _ _ => withArtifact_follows (translateStored_follows location)) before

/-! ## Runs -/

theorem dequeue_follows (before : Conversion) : Follows (Step job) dequeue before :=
  dequeue_composed follows_dequeues before

theorem drain_follows (before : Conversion) : Follows (Step job) (drain job) before :=
  drain_composed follows_dequeues translateQueued_follows before

theorem steps_seeds :
    Seeds (fun _ => True) (fun task before => Follows (Step job) task before) job :=
  follows_seeds follows_looks.toComposes .load

theorem load_follows (location : String) (before : Conversion) :
    Follows (Step job) (inStore (Store.load job.source location)) before :=
  steps_seeds.loaded location before

theorem seed_follows (before : Conversion) : Follows (Step job) (seed job) before :=
  seed_composed steps_seeds before

theorem begin_follows (before : Conversion) : Follows (Step job) begin before := by
  unfold begin
  apply Task.follows_current_bind
  split
  · exact Task.follows_throw _ _
  · next idle =>
      exact Task.follows_change _ _ (.begin (by simpa using idle))

theorem translateFrom_follows (seeds : List String) (before : Conversion) :
    Follows (Step job) (translateFrom job seeds) before :=
  translateFrom_composed follows_looks.toComposes (fun _ _ => trivial) drain_follows
    (fun _ _ => withArtifact_follows drain_follows) before

theorem run_follows (before : Conversion) : Follows (Step job) (run job) before := by
  unfold run
  apply Task.follows_bind (begin_follows _)
  intro _ _ _
  apply Task.follows_bind (seed_follows _)
  intro seeds _ _
  apply Task.follows_bind (translateFrom_follows _ _)
  intro _ _ _
  exact Task.follows_current_bind (Task.follows_say_bind (Task.follows_pure _ _))

end SchemaSharp.Conversion
