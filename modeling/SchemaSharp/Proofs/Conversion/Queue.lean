import SchemaSharp.Proofs.Conversion.Steps
import SchemaSharp.World

/-!
The queue of documents. In every state that a conversion can reach, also after operations that
failed halfway, the documents taken from the queue and those still in it make one list without
repetition: it holds what was ever scheduled, all of it stored, and it only grows at its end.
-/

namespace SchemaSharp.Conversion

open Schema (ComplexType ElementDecl Document)
open Relation (ReflTransGen)

/-! ## Operations -/

/-- What can be asked of a conversion from outside. -/
inductive Operation where
  | load (location : String)
  | seed
  | schedule (location : String)
  | openArtifact (path : String)
  | closeArtifact
  | translateDocument (document : Document)
  | translateElement (element : ElementDecl)
  | translateComplexType (type : ComplexType) (name className : Option String)
  | translateMember (element : ElementDecl) (scope : String)
  | flushAnonymous
  | drain
  | run

def Operation.work (job : Job) : Operation → Work Unit
  | .load location => discard (inStore (Store.load job.source location))
  | .seed => discard (Conversion.seed job)
  | .schedule location => discard (Conversion.schedule location)
  | .openArtifact path => Conversion.openArtifact job path
  | .closeArtifact => Conversion.closeArtifact
  | .translateDocument document => Conversion.translateDocument job document
  | .translateElement element => Conversion.translateElement job element
  | .translateComplexType type name className =>
      Conversion.translateComplexType job type name className
  | .translateMember element scope => Conversion.translateMember job element scope
  | .flushAnonymous => Conversion.flushAnonymous job
  | .drain => Conversion.drain job
  | .run => discard (Conversion.run job)

/-- Only stored documents are scheduled. -/
def Operation.Allowed (conversion : Conversion) : Operation → Prop
  | .schedule location => (conversion.store.at? location).isSome
  | _ => True

/-- The state that an operation leaves, whatever became of it. -/
def afterOperation (job : Job) (operation : Operation) (conversion : Conversion) : Conversion :=
  ((operation.work job).perform conversion).2.state

/-- The states that any sequence of operations leads to. -/
inductive Reachable (job : Job) : Conversion → Prop where
  | start {begun : Conversion} (started : start job = .ok begun) : Reachable job begun
  | operation {before : Conversion} (reached : Reachable job before) (operation : Operation)
      (allowed : operation.Allowed before) : Reachable job (afterOperation job operation before)

theorem operation_follows {job : Job} {operation : Operation} {before : Conversion}
    (allowed : operation.Allowed before) :
    ReflTransGen (Step job) before (afterOperation job operation before) := by
  have discarded : ∀ {α : Type} {task : Work α}, Task.Follows (Step job) task before →
      Task.Follows (Step job) (discard task) before := fun follows =>
    Task.follows_bind follows fun _ _ _ => Task.follows_pure _ _
  cases operation with
  | load location => exact discarded (load_follows location before) []
  | seed => exact discarded (seed_follows before) []
  | schedule location => exact discarded (schedule_follows allowed) []
  | openArtifact path => exact openArtifact_follows path before []
  | closeArtifact => exact closeArtifact_follows before []
  | translateDocument document => exact translateDocument_follows document before []
  | translateElement element => exact translateElement_follows element before []
  | translateComplexType type name className =>
      exact translateComplexType_follows type name className before []
  | translateMember element scope => exact translateMember_follows element scope before []
  | flushAnonymous => exact flushAnonymous_follows before []
  | drain => exact drain_follows before []
  | run => exact discarded (run_follows before) []

/-! ## The invariant -/

/-- Everything that was scheduled, in that order. -/
def met (conversion : Conversion) : List String := conversion.dequeued ++ conversion.queue

theorem met_enqueue (location : String) (conversion : Conversion) :
    (conversion.enqueue location).met = conversion.met ++ [location] := by
  simp [met, enqueue]

/-- Taking the first document out moves it from one list to the end of the other. -/
theorem met_dequeue {conversion : Conversion} {location : String} {rest : List String}
    (waiting : conversion.queue = location :: rest) :
    met { conversion with queue := rest, dequeued := conversion.dequeued ++ [location] } =
      conversion.met := by
  simp [met, waiting]

structure Orderly (conversion : Conversion) : Prop where
  processed : conversion.processed = conversion.met
  nodup : conversion.met.Nodup
  stored : ∀ location ∈ conversion.met, (conversion.store.at? location).isSome

/-- There are no more documents in the queue than in the store. -/
theorem Orderly.length_le {conversion : Conversion} (orderly : conversion.Orderly) :
    conversion.met.length ≤ conversion.store.entries.length := by
  have within : conversion.met.length ≤ (conversion.store.entries.map Entry.location).length := by
    apply orderly.nodup.length_le_of_subset
    intro location member
    exact (Store.mem_locations_iff _ _).mpr (orderly.stored location member)
  rwa [List.length_map] at within

theorem start_orderly {job : Job} {begun : Conversion} (started : start job = .ok begun) :
    begun.Orderly := by
  unfold start at started
  split at started
  · cases started
  · cases started
    exact ⟨rfl, List.nodup_nil, by simp [met]⟩

/-- Steps that leave the queue alone. -/
theorem orderly_of_same {before after : Conversion} (orderly : before.Orderly)
    (processed : after.processed = before.processed) (dequeued : after.dequeued = before.dequeued)
    (queue : after.queue = before.queue) (store : after.store = before.store) :
    after.Orderly := by
  obtain ⟨same, nodup, stored⟩ := orderly
  have all : after.met = before.met := by rw [met, met, dequeued, queue]
  constructor
  · rw [processed, all, same]
  · rwa [all]
  · rwa [all, store]

theorem shelve_same (before : Conversion) :
    before.shelve.processed = before.processed ∧ before.shelve.dequeued = before.dequeued ∧
      before.shelve.queue = before.queue ∧ before.shelve.store = before.store := by
  unfold shelve
  split <;> exact ⟨rfl, rfl, rfl, rfl⟩

theorem Step.orderly {job : Job} {before after : Conversion} (step : Step job before after)
    (orderly : before.Orderly) : after.Orderly := by
  cases step with
  | load step =>
      obtain ⟨processed, nodup, stored⟩ := orderly
      exact ⟨processed, nodup, fun location member => step.isSome_at? (stored location member)⟩
  | @enqueue location stored unmet =>
      rw [orderly.processed] at unmet
      constructor
      · rw [met_enqueue, ← orderly.processed]
        rfl
      · rw [met_enqueue]
        apply List.Nodup.append orderly.nodup (List.nodup_singleton _)
        exact List.disjoint_singleton.mpr unmet
      · intro other member
        rw [met_enqueue] at member
        rcases List.mem_append.mp member with earlier | new
        · exact orderly.stored other earlier
        · rw [List.mem_singleton.mp new]
          exact stored
  | @dequeue location rest waiting =>
      obtain ⟨processed, nodup, stored⟩ := orderly
      have same := met_dequeue waiting
      constructor
      · rw [same, ← processed]
      · rwa [same]
      · rwa [same]
  | mark unmarked => exact orderly_of_same orderly rfl rfl rfl rfl
  | await type identifier => exact orderly_of_same orderly rfl rfl rfl rfl
  | take waiting => exact orderly_of_same orderly rfl rfl rfl rfl
  | write call current => exact orderly_of_same orderly rfl rfl rfl rfl
  | place path => exact orderly_of_same orderly rfl rfl rfl rfl
  | shelve =>
      obtain ⟨processed, dequeued, queue, store⟩ := shelve_same before
      exact orderly_of_same orderly processed dequeued queue store
  | begin idle => exact orderly_of_same orderly rfl rfl rfl rfl

/-- A step takes nothing out of either list and changes no order. -/
theorem Step.appends {job : Job} {before after : Conversion} (step : Step job before after) :
    before.met <+: after.met ∧ before.dequeued <+: after.dequeued := by
  cases step with
  | enqueue stored unmet =>
      constructor
      · rw [met_enqueue]
        exact List.prefix_append _ _
      · exact List.prefix_rfl
  | dequeue waiting =>
      constructor
      · exact (met_dequeue waiting).symm ▸ List.prefix_rfl
      · exact List.prefix_append _ _
  | shelve =>
      obtain ⟨_, dequeued, queue, _⟩ := shelve_same before
      rw [met, met, dequeued, queue]
      exact ⟨List.prefix_rfl, List.prefix_rfl⟩
  | _ => exact ⟨List.prefix_rfl, List.prefix_rfl⟩

theorem orderly_of_steps {job : Job} {before after : Conversion}
    (steps : ReflTransGen (Step job) before after) (orderly : before.Orderly) :
    after.Orderly := by
  induction steps with
  | refl => exact orderly
  | tail _ step ih => exact step.orderly ih

theorem appends_of_steps {job : Job} {before after : Conversion}
    (steps : ReflTransGen (Step job) before after) :
    before.met <+: after.met ∧ before.dequeued <+: after.dequeued := by
  induction steps with
  | refl => exact ⟨List.prefix_rfl, List.prefix_rfl⟩
  | tail _ step ih =>
      obtain ⟨met, dequeued⟩ := step.appends
      exact ⟨ih.1.trans met, ih.2.trans dequeued⟩

theorem Reachable.orderly {job : Job} {conversion : Conversion}
    (reached : Reachable job conversion) : conversion.Orderly := by
  induction reached with
  | start started => exact start_orderly started
  | operation _ operation allowed ih => exact orderly_of_steps (operation_follows allowed) ih

/-- What was taken from the queue and what is still in it: no document twice, exactly the processed
ones, all of them stored; and whatever is done next only adds to the end, also of what was taken. -/
theorem queue_keeps_order {job : Job} {conversion : Conversion}
    (reached : Reachable job conversion) :
    (conversion.dequeued ++ conversion.queue).Nodup ∧
      (∀ location, location ∈ conversion.dequeued ++ conversion.queue ↔
        location ∈ conversion.processed) ∧
      (∀ location ∈ conversion.dequeued ++ conversion.queue,
        ∃ entry ∈ conversion.store.entries, entry.location = location) ∧
      ∀ operation : Operation, operation.Allowed conversion →
        let after := afterOperation job operation conversion
        conversion.dequeued ++ conversion.queue <+: after.dequeued ++ after.queue ∧
          conversion.dequeued <+: after.dequeued := by
  obtain ⟨processed, nodup, stored⟩ := reached.orderly
  refine ⟨nodup, fun location => ?_, fun location member => ?_, fun operation allowed => ?_⟩
  · rw [processed]
    rfl
  · obtain ⟨entry, found⟩ := Option.isSome_iff_exists.mp (stored location member)
    exact ⟨entry, List.mem_of_find?_eq_some found, by simpa using List.find?_some found⟩
  · exact appends_of_steps (operation_follows allowed)

/-! ## A run with two documents -/

def pairText (body : String) : List UInt8 :=
  Text.Utf8.encode ("<s:schema xmlns:s='http://www.w3.org/2001/XMLSchema'>" ++ body
    ++ "</s:schema>").toList

/-- The class of the first document has a member with a type of the second. -/
def pair : Job :=
  let world : World :=
    { directory := ⟨['/'], []⟩
      files :=
        [(["a".toList], pairText ("<s:include schemaLocation='b'/><s:complexType name='A'>"
            ++ "<s:sequence><s:element name='x' type='B'/></s:sequence></s:complexType>")),
          (["b".toList], pairText "<s:complexType name='B'/>")]
      web := [] }
  ⟨{ inputs := ["a"] }, world.source false⟩

set_option maxRecDepth 100000 in
theorem pair_runs :
    ((start pair).toOption.map fun begun =>
      let outcome := (run pair).perform begun
      (outcome.1.toOption, outcome.2.state.dequeued)) =
        some (some ["a.cs", "b.cs"], ["file:///a", "file:///b"]) := by
  simp only [pair, pairText, Text.Utf8.encode_toList]
  decide +kernel

/-- The run of the pair returns, and leaves the state that it leaves as an operation. -/
theorem pair_returns :
    ∃ begun, start pair = .ok begun ∧
      Task.Returns (run pair) begun ["a.cs", "b.cs"] (afterOperation pair .run begun) ∧
        (afterOperation pair .run begun).dequeued = ["file:///a", "file:///b"] := by
  obtain ⟨begun, made, ran⟩ := Option.map_eq_some_iff.mp pair_runs
  obtain ⟨answered, dequeued⟩ := Prod.mk.inj ran
  have same : afterOperation pair .run begun = ((run pair).perform begun).2.state :=
    congrArg Logged.state (Task.run_discard (run pair) ⟨begun, []⟩)
  refine ⟨begun, ok_of_toOption made, ?_⟩
  rw [same]
  exact ⟨Task.returns_of_perform (ok_of_toOption answered), dequeued⟩

theorem pair_queue_keeps_order :
    ∃ begun, start pair = .ok begun ∧
      let after := afterOperation pair .run begun
      Reachable pair after ∧ after.dequeued = ["file:///a", "file:///b"] ∧
        (after.dequeued ++ after.queue).Nodup ∧
          ∀ location ∈ after.dequeued ++ after.queue,
            ∃ entry ∈ after.store.entries, entry.location = location := by
  obtain ⟨begun, started, _, dequeued⟩ := pair_returns
  have reached : Reachable pair (afterOperation pair .run begun) :=
    .operation (.start started) .run trivial
  have kept := queue_keeps_order reached
  exact ⟨begun, started, reached, dequeued, kept.1, kept.2.2.1⟩

end SchemaSharp.Conversion
