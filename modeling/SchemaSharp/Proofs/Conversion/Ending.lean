import Mathlib.Data.Set.Card
import SchemaSharp.Proofs.Conversion.Offline
import SchemaSharp.Proofs.Conversion.Runs
import SchemaSharp.Proofs.Task.Loop

/-!
That translating comes to its end. Both queues are fed while they are worked off, so that neither
gets shorter with every round. What gets less is the number of stored documents that were never
taken out, as nothing is loaded meanwhile and no document is scheduled twice; and the weight of the
types that wait, as a class only adds types that are written inside its own.
-/

namespace SchemaSharp.Conversion

open Schema (ComplexType)
open SchemaSharp.Task (Returns Keeps Says Loop)
open Traversal (Edge)
open Relation (ReflTransGen)

variable {job : Job} {before after : Conversion}

/-! ## The loops -/

/-- Takes one document from the queue and translates it. -/
def drainRound (job : Job) : Work Bool := Task.takeRound dequeue (translateQueued job)

/-- Takes one of the types that wait and writes its class. -/
def flushRound (job : Job) : Work Bool :=
  Task.takeRound takeWaiting fun waiting =>
    translateComplexType job waiting.1 (waiting.1.owner.bind (·.name)) (some waiting.2)

theorem drainWithin_eq (budget : Nat) :
    drainWithin job budget = Task.repeatWithin (drainRound job) budget := by
  induction budget with
  | zero => rfl
  | succ budget ih =>
      rw [drainWithin, ih, drainRound, Task.repeatWithin_takeRound]
      congr 1
      funext taken
      cases taken <;> rfl

theorem flushWithin_eq (budget : Nat) :
    flushWithin job budget = Task.repeatWithin (flushRound job) budget := by
  induction budget with
  | zero => rfl
  | succ budget ih =>
      rw [flushWithin, ih, flushRound, Task.repeatWithin_takeRound]
      congr 1
      funext taken
      cases taken <;> rfl

/-- The first document was taken from the queue. -/
def takeFirst (location : String) (rest : List String) (conversion : Conversion) : Conversion :=
  { conversion with queue := rest, dequeued := conversion.dequeued ++ [location] }

theorem run_dequeue (before : Logged Conversion) :
    dequeue.run before =
      match before.state.queue with
      | [] => (.ok none, before)
      | location :: rest =>
          (.ok (some location), ⟨before.state.takeFirst location rest, before.journal⟩) := by
  unfold dequeue
  rw [Task.run_current_bind]
  cases before.state.queue <;> rfl

theorem run_takeWaiting (before : Logged Conversion) :
    takeWaiting.run before =
      match before.state.anonymous with
      | [] => (.ok none, before)
      | first :: rest =>
          (.ok (some first), ⟨{ before.state with anonymous := rest }, before.journal⟩) := by
  unfold takeWaiting
  rw [Task.run_current_bind]
  cases before.state.anonymous <;> rfl

/-- A document that is taken out counts as such, whatever becomes of its translation. -/
theorem run_drainRound (before : Logged Conversion) :
    (drainRound job).run before =
      match before.state.queue with
      | [] => (.ok false, before)
      | location :: rest =>
          Task.busy ((translateQueued job location).run
            ⟨before.state.takeFirst location rest, before.journal⟩) := by
  rw [drainRound, Task.run_takeRound, run_dequeue]
  cases before.state.queue <;> rfl

theorem run_flushRound (before : Logged Conversion) :
    (flushRound job).run before =
      match before.state.anonymous with
      | [] => (.ok false, before)
      | (type, className) :: rest =>
          Task.busy ((translateComplexType job type (type.owner.bind (·.name))
            (some className)).run ⟨{ before.state with anonymous := rest }, before.journal⟩) := by
  rw [flushRound, Task.run_takeRound, run_takeWaiting]
  cases before.state.anonymous <;> rfl

/-! ## Types that wait -/

/-- What a type adds to those that wait weighs less than the type. A type that has its class
already adds nothing. -/
theorem translateComplexType_waiting {type : ComplexType} {name className : Option String}
    {answer : Unit}
    (returned : Returns (translateComplexType job type name className) before answer after) :
    ∃ added, after.anonymous = before.anonymous ++ added ∧
      waitingWeight added < typeWeight type := by
  have heavy := nestedTypes_lighter type
  by_cases marked : type.identity ∈ before.translated
  · unfold translateComplexType at returned
    have said := returned.of_current_bind
    rw [if_pos (by simpa using marked)] at said
    refine ⟨[], by rw [said.of_say, List.append_nil], ?_⟩
    rw [waitingWeight]
    omega
  · obtain ⟨outline, made, rfl⟩ := translateComplexType_returns returned marked
    refine ⟨outline.waiting, rfl, ?_⟩
    rwa [waitingWeight_eq, (classOutline?_waiting made).2]

/-- What a round of the flush leaves. -/
theorem flushRound_outcome {first last : Logged Conversion} {more : Bool}
    (ran : (flushRound job).run first = (.ok more, last)) :
    if more then waitingWeight last.state.anonymous < waitingWeight first.state.anonymous
    else last.state.anonymous = [] := by
  rw [run_flushRound] at ran
  cases waiting : first.state.anonymous with
  | nil =>
      rw [waiting] at ran
      cases ran
      simpa using waiting
  | cons pair rest =>
      rw [waiting] at ran
      dsimp only at ran
      cases translated : (translateComplexType job pair.1 (pair.1.owner.bind (·.name))
        (some pair.2)).run ⟨{ first.state with anonymous := rest }, first.journal⟩ with
      | mk result after =>
        rw [translated] at ran
        cases result with
        | error failure => cases ran
        | ok answer =>
            cases ran
            obtain ⟨added, grown, lighter⟩ :=
              translateComplexType_waiting ⟨first.journal, _, translated⟩
            -- what the class adds weighs less than its type, which is gone
            have less : waitingWeight (rest ++ added) < typeWeight pair.1 + waitingWeight rest := by
              rw [waitingWeight_append]
              omega
            exact grown ▸ less

/-- The flush goes on until nothing waits, from whatever state. -/
theorem flushAnonymous_loop (job : Job) (conversion : Conversion) (journal : List Notice) :
    ∃ rounds, rounds ≤ waitingWeight conversion.anonymous ∧
      Loop (flushRound job) rounds ⟨conversion, journal⟩
        ((flushAnonymous job).run ⟨conversion, journal⟩) := by
  change ∃ rounds, _ ∧ Loop _ _ _
    ((flushWithin job (waitingWeight conversion.anonymous)).run ⟨conversion, journal⟩)
  rw [flushWithin_eq]
  refine Task.repeatWithin_loop (fun _ => True) (fun conversion : Conversion =>
    waitingWeight conversion.anonymous) ?_ ?_ trivial (Nat.le_refl _) journal
  · intro state _ weightless journal
    rw [run_flushRound]
    simp only [nothing_waiting (Nat.le_of_eq weightless)]
  · intro first last _ returned
    obtain ⟨journal, said, ran⟩ := returned
    exact ⟨trivial, by simpa using flushRound_outcome ran⟩

/-! ## Documents that wait -/

/-- The documents of the store that were never scheduled. -/
def unmet (conversion : Conversion) : List String :=
  (conversion.store.entries.map Entry.location).filter fun location =>
    decide (location ∉ conversion.processed)

theorem drainRound_unloaded : Keeps Unloaded (drainRound job) := by
  refine Task.keeps_bind dequeue_unloaded fun taken => ?_
  cases taken with
  | none => exact Task.keeps_pure _
  | some location =>
      exact Task.keeps_bind (unloaded_of_offline (translateQueued_offline _)) fun _ =>
        Task.keeps_pure _

theorem drainRound_follows (before : Conversion) :
    Task.Follows (Step job) (drainRound job) before := by
  apply Task.follows_bind (dequeue_follows _)
  intro taken _ _
  cases taken with
  | none => exact Task.follows_pure _ _
  | some location =>
      exact Task.follows_bind (translateQueued_follows _ _) fun _ _ _ => Task.follows_pure _ _

/-- Each stored document was scheduled or was not. -/
theorem length_unmet {conversion : Conversion} (orderly : conversion.Orderly)
    (nodup : (conversion.store.entries.map Entry.location).Nodup) :
    conversion.unmet.length + conversion.met.length = conversion.store.entries.length := by
  have same : conversion.met.Perm ((conversion.store.entries.map Entry.location).filter
      fun location => decide (location ∈ conversion.processed)) := by
    apply (List.perm_ext_iff_of_nodup orderly.nodup (nodup.filter _)).mpr
    intro location
    rw [List.mem_filter, decide_eq_true_iff, orderly.processed, Store.mem_locations_iff]
    exact ⟨fun member => ⟨orderly.stored location member, member⟩, And.right⟩
  have split := List.length_eq_length_filter_add (l := conversion.store.entries.map Entry.location)
    fun location => decide (location ∈ conversion.processed)
  rw [List.length_map] at split
  rw [split, same.length_eq, unmet, Nat.add_comm]
  simp only [decide_not]

/-- There is work left as long as documents are stored that were never taken out. -/
def remaining (conversion : Conversion) : Nat :=
  conversion.store.entries.length - conversion.dequeued.length

/-- What a round of the queue leaves: one document more was taken out, or there was none. -/
theorem drainRound_outcome {first last : Logged Conversion} {result : Except Failure Bool}
    (ran : (drainRound job).run first = (result, last)) :
    (first.state.queue = [] ∧ result = .ok false ∧ last = first) ∨
      (result ≠ .ok false ∧ ∃ location, location ∈ first.state.queue ∧
        last.state.dequeued = first.state.dequeued ++ [location]) := by
  rw [run_drainRound] at ran
  cases waiting : first.state.queue with
  | nil =>
      rw [waiting] at ran
      cases ran
      exact .inl ⟨rfl, rfl, rfl⟩
  | cons location rest =>
      rw [waiting] at ran
      dsimp only at ran
      have offline := @translateQueued_offline job location
        ⟨first.state.takeFirst location rest, first.journal⟩
      obtain ⟨answered, left⟩ := Prod.mk.inj ran
      refine .inr ⟨answered ▸ Task.busy_ne_idle _, location, List.mem_cons_self, ?_⟩
      rw [← left]
      exact offline.dequeued

/-- The queue is worked off to its end, with a round for each document that is taken out. -/
theorem drain_loop (orderly : before.Orderly) (journal : List Notice) :
    ∃ rounds, rounds ≤ before.remaining ∧
      Loop (drainRound job) rounds ⟨before, journal⟩ ((drain job).run ⟨before, journal⟩) := by
  change ∃ rounds, _ ∧ Loop _ _ _
    ((drainWithin job (before.queue.length + before.store.entries.length)).run ⟨before, journal⟩)
  rw [drainWithin_eq]
  refine Task.repeatWithin_loop Orderly remaining ?_ ?_ orderly ?_ journal
  · intro state orderly done journal
    -- all that is stored was taken out, so that nothing can be waiting
    have empty : state.queue = [] := by
      have within := orderly.length_le
      rw [met, List.length_append] at within
      rw [remaining] at done
      exact List.length_eq_zero_iff.mp (by omega)
    rw [run_drainRound]
    simp only [empty]
  · intro first last orderly returned
    have kept := orderly_of_steps ((drainRound_follows first).steps_of_returns returned) orderly
    obtain ⟨_, _, unloaded⟩ := drainRound_unloaded.of_returns returned
    have store : last.store = first.store := unloaded.store
    obtain ⟨journal, said, ran⟩ := returned
    rcases drainRound_outcome ran with ⟨_, idle, _⟩ | ⟨_, location, waiting, dequeued⟩
    · cases idle
    · -- the document that was taken out is stored and had not been taken out
      have within := orderly.length_le
      rw [met, List.length_append] at within
      have positive : 0 < first.queue.length := List.length_pos_of_mem waiting
      have more : last.dequeued = first.dequeued ++ [location] := dequeued
      refine ⟨kept, ?_⟩
      rw [remaining, remaining, store, more, List.length_append, List.length_singleton]
      omega
  · rw [remaining]
    omega

/-! ## The ends -/

theorem Step.sound (step : Step job before after) (sound : before.store.Sound job.source) :
    after.store.Sound job.source := by
  cases step with
  | load step => exact step.sound sound
  | shelve =>
      obtain ⟨_, _, _, store⟩ := shelve_same before
      rwa [store]
  | _ => exact sound

theorem start_sound (started : start job = .ok before) : before.store.Sound job.source := by
  unfold start at started
  split at started
  · cases started
  · next store made =>
      cases started
      exact (Store.start_sound made).2.2

theorem sound_of_steps (steps : ReflTransGen (Step job) before after)
    (sound : before.store.Sound job.source) : after.store.Sound job.source := by
  induction steps with
  | refl => exact sound
  | tail _ step ih => exact step.sound ih

theorem Reachable.sound (reached : Reachable job after) : after.store.Sound job.source := by
  induction reached with
  | start started => exact start_sound started
  | operation _ operation allowed ih =>
      exact Conversion.sound_of_steps (operation_follows allowed) ih

/-- With nothing waiting, all that was ever scheduled was taken out. -/
theorem Orderly.all_taken (orderly : after.Orderly) (empty : after.queue = []) :
    after.dequeued = after.processed ∧ after.dequeued.Nodup := by
  have all : after.met = after.dequeued := by rw [met, empty, List.append_nil]
  exact ⟨by rw [orderly.processed, all], all ▸ orderly.nodup⟩

theorem length_dequeued_of_loop {rounds : Nat} {first : Logged Conversion}
    {outcome : Except Failure Unit × Logged Conversion}
    (loop : Loop (drainRound job) rounds first outcome) :
    outcome.2.state.dequeued.length = first.state.dequeued.length + rounds := by
  refine loop.count (fun logged => logged.state.dequeued.length) ?_ ?_
  · intro first last ran
    rcases drainRound_outcome ran with ⟨_, _, rfl⟩ | ⟨busy, _⟩
    · rfl
    · exact absurd rfl busy
  · intro first result last ran busy
    rcases drainRound_outcome ran with ⟨_, idle, _⟩ | ⟨_, location, _, dequeued⟩
    · exact absurd idle busy
    · rw [dequeued, List.length_append, List.length_singleton]

theorem queue_empty_of_loop {rounds : Nat} {first : Logged Conversion}
    {outcome : Except Failure Unit × Logged Conversion}
    (loop : Loop (drainRound job) rounds first outcome) (returned : outcome.1 = .ok ()) :
    outcome.2.state.queue = [] := by
  obtain ⟨last, ran⟩ := loop.last_idle returned
  rcases drainRound_outcome ran with ⟨empty, _, same⟩ | ⟨busy, _⟩
  · rwa [same]
  · exact absurd rfl busy

/-- There are as many documents taken out as the seeds lead to. -/
theorem Completed.length_dequeued {seeds : List String} {outlines : List (List ClassOutline)}
    (completed : Completed job seeds outlines after) :
    after.dequeued.length =
      {location | ∃ seed ∈ seeds, ReflTransGen (Edge after.store.uses) seed location}.ncard := by
  have reached : {location | ∃ seed ∈ seeds, ReflTransGen (Edge after.store.uses) seed location} =
      (after.dequeued.toFinset : Set String) := by
    ext location
    simp only [List.coe_toFinset, Set.mem_ofPred_eq, completed.visits.mem_iff_reachable,
      List.mem_eraseDups]
  have distinct := (completed.orderly.all_taken completed.queue).2
  rw [reached, Set.ncard_coe_finset, List.toFinset_card_of_nodup distinct]

/-- Translating ends. From every state that a conversion can reach, the queue is worked off in at
most as many rounds as there are documents waiting or stored and never scheduled, each of which
takes out one document, while nothing is loaded; when that does not fail, nothing waits and what
was ever scheduled was taken out. From every state at all, the types without a name are worked off.
So a run that returns takes out as many documents as the seeds lead to. -/
theorem translation_ends (job : Job) :
    (∀ conversion, Reachable job conversion → ∀ journal,
      let outcome := (drain job).run ⟨conversion, journal⟩
      let after := outcome.2.state
      ∃ rounds, Loop (drainRound job) rounds ⟨conversion, journal⟩ outcome ∧
        rounds ≤ conversion.unmet.length + conversion.queue.length ∧
        after.dequeued.length = conversion.dequeued.length + rounds ∧
        after.store = conversion.store ∧ Says OwnNotice ⟨conversion, journal⟩ outcome.2 ∧
        (outcome.1 = .ok () →
          after.queue = [] ∧ after.dequeued = after.processed ∧ after.dequeued.Nodup)) ∧
    (∀ conversion journal,
      let outcome := (flushAnonymous job).run ⟨conversion, journal⟩
      ∃ rounds, Loop (flushRound job) rounds ⟨conversion, journal⟩ outcome ∧
        rounds ≤ waitingWeight conversion.anonymous ∧
        (outcome.1 = .ok () → outcome.2.state.anonymous = [])) ∧
    ∀ begun paths after, start job = .ok begun → Returns (run job) begun paths after →
      ∃ seeds, seedKeys job job.settings.inputs = .ok seeds ∧
        after.queue = [] ∧ after.dequeued = after.processed ∧
        after.dequeued.length =
          {location | ∃ seed ∈ seeds, ReflTransGen (Edge after.store.uses) seed location}.ncard := by
  refine ⟨fun conversion reached journal => ?_, fun conversion journal => ?_,
    fun begun paths after started returned => ?_⟩
  · have orderly := reached.orderly
    obtain ⟨rounds, few, loop⟩ := @drain_loop job _ orderly journal
    have unloaded := loop.keeps drainRound_unloaded
    have bound : rounds ≤ conversion.unmet.length + conversion.queue.length := by
      have whole := length_unmet orderly reached.sound.nodup
      rw [met, List.length_append] at whole
      rw [remaining] at few
      omega
    refine ⟨rounds, loop, bound, length_dequeued_of_loop loop, unloaded.store, unloaded.journal,
      fun returned => ?_⟩
    have kept := orderly_of_steps (@drain_follows job conversion journal) orderly
    have empty := queue_empty_of_loop loop returned
    exact ⟨empty, kept.all_taken empty⟩
  · obtain ⟨rounds, few, loop⟩ := flushAnonymous_loop job conversion journal
    refine ⟨rounds, loop, few, fun returned => ?_⟩
    obtain ⟨last, ran⟩ := loop.last_idle returned
    simpa using flushRound_outcome ran
  · obtain ⟨seeds, outlines, completed⟩ := run_returns started returned
    exact ⟨seeds, completed.seeded, completed.queue,
      (completed.orderly.all_taken completed.queue).1, completed.length_dequeued⟩

/-! ## Two documents that use each other -/

/-- Each document includes the other one and has an element of the other's type. -/
def ring : Job :=
  let world : World :=
    { directory := ⟨['/'], []⟩
      files :=
        [(["a".toList], pairText ("<s:include schemaLocation='b'/><s:complexType name='A'/>"
            ++ "<s:element name='x' type='B'/>")),
          (["b".toList], pairText ("<s:include schemaLocation='a'/><s:complexType name='B'/>"
            ++ "<s:element name='y' type='A'/>"))]
      web := [] }
  ⟨{ inputs := ["a"] }, world.source false⟩

set_option maxRecDepth 100000 in
theorem ring_runs :
    ((start ring).toOption.map fun begun =>
      let seeded := afterOperation ring .seed begun
      let outcome := (run ring).perform begun
      (seeded.unmet, seeded.queue, outcome.1.toOption, outcome.2.state.dequeued)) =
        some (["file:///b"], ["file:///a"], some ["a.cs", "b.cs"],
          ["file:///a", "file:///b"]) := by
  simp only [ring, pairText, Text.Utf8.encode_toList]
  decide +kernel

theorem ring_translation_ends :
    ∃ begun after, start ring = .ok begun ∧
      Returns (run ring) begun ["a.cs", "b.cs"] after ∧
        after.dequeued = ["file:///a", "file:///b"] ∧ after.queue = [] ∧
          (∃ seeds, seedKeys ring ring.settings.inputs = .ok seeds ∧
            {location | ∃ seed ∈ seeds,
              ReflTransGen (Edge after.store.uses) seed location}.ncard = 2) ∧
            let seeded := afterOperation ring .seed begun
            Reachable ring seeded ∧
              ∃ rounds, Loop (drainRound ring) rounds ⟨seeded, []⟩ ((drain ring).perform seeded) ∧
                rounds ≤ 2 := by
  obtain ⟨begun, made, ran⟩ := Option.map_eq_some_iff.mp ring_runs
  simp only [Prod.mk.injEq] at ran
  obtain ⟨unmet, queue, answered, dequeued⟩ := ran
  have started := ok_of_toOption made
  have returned := Task.returns_of_perform (ok_of_toOption answered)
  have reached : Reachable ring (afterOperation ring .seed begun) :=
    .operation (.start started) .seed trivial
  obtain ⟨drains, _, runs⟩ := translation_ends ring
  obtain ⟨seeds, seeded, empty, _, count⟩ := runs begun _ _ started returned
  obtain ⟨rounds, loop, few, _⟩ := drains _ reached []
  rw [dequeued] at count
  rw [unmet, queue] at few
  exact ⟨begun, _, started, returned, dequeued, empty, ⟨seeds, seeded, count.symm⟩, reached,
    rounds, loop, few⟩

end SchemaSharp.Conversion
