import SchemaSharp.Proofs.Conversion.Documents
import SchemaSharp.Proofs.Conversion.Queue
import SchemaSharp.Proofs.Store.Sound

/-!
The course of a run that returns. Between two documents no type waits for its class and only types
of documents that were taken from the queue are marked, so that each document is translated as its
outlines say, and what it uses is all that it adds to the queue. The classes written in all, into
one artifact or many, are those of the documents in the order of the queue.
-/

namespace SchemaSharp.Conversion

open Schema (ComplexType Document)
open SchemaSharp.Task (Returns)
open Traversal (unseen unseen_nil unseen_empty Visits)

variable {job : Job} {before after : Conversion}

/-! ## The record of a run -/

/-- Calls that make up classes, in contrast to those that begin and end an artifact. -/
def isClassCall : Writer.Call → Bool
  | .declareReference _ => false
  | .openNamespace _ => false
  | .finish => false
  | _ => true

/-- The calls for classes in all artifacts, in the order of the artifacts. -/
def record (conversion : Conversion) : List Writer.Call :=
  ((conversion.closed ++ conversion.desk).flatMap Artifact.calls).filter isClassCall

/-- The calls for classes in one artifact. -/
def classCalls (artifact : Artifact) : List Writer.Call := artifact.calls.filter isClassCall

theorem record_eq (conversion : Conversion) :
    conversion.record = (conversion.closed ++ conversion.desk).flatMap classCalls :=
  List.filter_flatMap

theorem calls_isClassCall (outlines : List ClassOutline) :
    (outlines.flatMap ClassOutline.calls).filter isClassCall =
      outlines.flatMap ClassOutline.calls := by
  rw [List.filter_eq_self]
  intro call member
  obtain ⟨outline, _, listed⟩ := List.mem_flatMap.mp member
  rw [ClassOutline.mem_calls_iff] at listed
  rcases listed with rfl | rfl | ⟨made, _, rfl⟩ | rfl
  · rfl
  · rfl
  · rfl
  · rfl

/-- With one artifact on the desk, what is written comes last. -/
theorem record_extend {progress : Progress} (single : before.desk.length = 1) :
    (before.extend progress).record = before.record ++ progress.calls.filter isClassCall := by
  obtain ⟨artifact, alone⟩ := List.length_eq_one_iff.mp single
  simp [record, extend, alone, performOnDesk, Artifact.calls_performAll]

/-! ## Artifacts -/

/-- The calls that begin every artifact of a run. -/
def headerCalls (job : Job) : List Writer.Call :=
  .declareReference "System" ::
    (Writer.optionSpaces job.settings.emitOptions).map Writer.Call.declareReference ++
      [.openNamespace job.settings.targetNamespace]

theorem write_each_returns {α : Type} {items : List α} {call : α → Writer.Call} {answer : PUnit}
    (returned : Returns (items.forM fun item => write (call item)) before answer after) :
    after = before.extend (.ofCalls (items.map call)) := by
  induction items generalizing before with
  | nil =>
      obtain ⟨_, rfl⟩ := returned.of_pure
      exact (extend_none after).symm
  | cons item rest ih =>
      obtain ⟨middle, first, others⟩ := returned.of_forM_cons
      rw [ih others, write_returns first, extend_extend]
      rfl

/-- The state in which an artifact was just begun. -/
def beginning (job : Job) (path : String) (before : Conversion) : Conversion :=
  (before.place job path).extend (.ofCalls (headerCalls job))

section

variable (job : Job) (path : String) (before : Conversion)

@[simp]
theorem beginning_store : (beginning job path before).store = before.store := rfl

@[simp]
theorem beginning_dequeued : (beginning job path before).dequeued = before.dequeued := rfl

@[simp]
theorem beginning_queue : (beginning job path before).queue = before.queue := by
  simp [beginning, extend, Progress.ofCalls, unseen_nil, place]

@[simp]
theorem beginning_processed : (beginning job path before).processed = before.processed := by
  simp [beginning, extend, Progress.ofCalls, unseen_nil, place]

@[simp]
theorem beginning_translated : (beginning job path before).translated = before.translated := by
  simp [beginning, extend, Progress.ofCalls, place]

@[simp]
theorem beginning_anonymous : (beginning job path before).anonymous = before.anonymous := by
  simp [beginning, extend, Progress.ofCalls, place]

end

theorem length_performOnDesk (calls : List Writer.Call) (desk : List Artifact) :
    (performOnDesk calls desk).length = desk.length := by
  cases desk <;> rfl

theorem length_beginning_desk (path : String) (empty : before.desk = []) :
    (beginning job path before).desk.length = 1 := by
  simp [beginning, extend, length_performOnDesk, place, empty]

theorem openArtifact_returns {path : String} {answer : Unit}
    (returned : Returns (openArtifact job path) before answer after) :
    after = beginning job path before := by
  unfold openArtifact at returned
  obtain ⟨_, first, wrote, rest⟩ := returned.of_say_bind.of_change_bind.of_bind
  obtain ⟨_, second, listed, ending⟩ := rest.of_bind
  rw [write_returns ending, write_each_returns listed, write_returns wrote, extend_extend,
    extend_extend, beginning]
  simp [Progress.followedBy, Progress.ofCalls, headerCalls]

theorem headerCalls_filter (job : Job) : (headerCalls job).filter isClassCall = [] := by
  rw [List.filter_eq_nil_iff]
  intro call member
  simp only [headerCalls, List.mem_cons, List.mem_append, List.mem_map] at member
  rcases member with (rfl | ⟨space, _, rfl⟩) | rfl | none
  · simp [isClassCall]
  · simp [isClassCall]
  · simp [isClassCall]
  · cases none

/-- Beginning an artifact on an empty desk writes no class. -/
theorem record_beginning (path : String) (empty : before.desk = []) :
    (beginning job path before).record = before.record := by
  have single : (before.place job path).desk.length = 1 := by simp [place, empty]
  rw [beginning, record_extend single]
  simp [Progress.ofCalls, headerCalls_filter, record, place, empty, Artifact.start]

/-- Finishing an artifact keeps its classes and its place behind those that are finished. -/
theorem classCalls_shelve (conversion : Conversion) (single : conversion.desk.length ≤ 1) :
    (conversion.shelve.closed ++ conversion.shelve.desk).map classCalls =
      (conversion.closed ++ conversion.desk).map classCalls := by
  unfold shelve
  split
  · rfl
  · next artifact others desk =>
      have alone : others = [] := by
        rw [desk, List.length_cons] at single
        exact List.length_eq_zero_iff.mp (by omega)
      simp [desk, alone, classCalls, Artifact.finished, Artifact.perform, isClassCall]

theorem record_shelve (conversion : Conversion) (single : conversion.desk.length ≤ 1) :
    conversion.shelve.record = conversion.record := by
  rw [record_eq, record_eq, List.flatMap_def, List.flatMap_def, classCalls_shelve _ single]

/-! ## One document -/

def storedOutlines? (job : Job) (store : Store) (location : String) : Option (List ClassOutline) :=
  (store.at? location).bind fun entry => documentOutlines? job store entry.document

/-- The document just taken from the queue was translated: these are its uses and its classes. -/
structure Enlarged (before : Conversion) (uses : List String) (outlines : List ClassOutline)
    (after : Conversion) : Prop where
  store : after.store = before.store
  queue : after.queue = before.queue ++ unseen before.processed uses
  processed : after.processed = before.processed ++ unseen before.processed uses
  dequeued : after.dequeued = before.dequeued
  translated : after.translated =
    before.translated ++ outlines.map fun outline => outline.type.identity
  anonymous : after.anonymous = before.anonymous
  desk : after.desk.length = before.desk.length
  record : after.record = before.record ++ outlines.flatMap ClassOutline.calls
  -- the classes are in the artifact on the desk, or in one that was finished for them
  closed : ∃ finished, after.closed = before.closed ++ finished ∧
    finished.length + before.desk.length = 1

theorem enlarged_extend {uses : List String} {outlines : List ClassOutline}
    (single : before.desk.length = 1) :
    Enlarged before uses outlines (before.extend (completed uses outlines)) where
  store := rfl
  queue := rfl
  processed := rfl
  dequeued := rfl
  translated := rfl
  anonymous := by simp [extend, completed]
  desk := length_performOnDesk _ _
  record := by
    rw [record_extend single]
    exact congrArg (before.record ++ ·) (calls_isClassCall outlines)
  closed := ⟨[], (List.append_nil _).symm, by rw [single, List.length_nil]⟩

/-- An artifact of its own around a translation leaves the same classes behind. -/
theorem enlarged_shelve {path : String} {uses : List String} {outlines : List ClassOutline}
    (empty : before.desk = [])
    (inside : Enlarged (beginning job path before) uses outlines after) :
    Enlarged before uses outlines after.shelve := by
  obtain ⟨processedSame, dequeuedSame, queueSame, storeSame⟩ := shelve_same after
  have single : after.desk.length = 1 := by rw [inside.desk, length_beginning_desk path empty]
  obtain ⟨artifact, alone⟩ := List.length_eq_one_iff.mp single
  have translated : after.shelve.translated = after.translated ∧
      after.shelve.anonymous = after.anonymous ∧ after.shelve.desk = [] := by
    simp [shelve, alone]
  constructor
  · rw [storeSame, inside.store, beginning_store]
  · rw [queueSame, inside.queue, beginning_processed, beginning_queue]
  · rw [processedSame, inside.processed, beginning_processed]
  · rw [dequeuedSame, inside.dequeued, beginning_dequeued]
  · rw [translated.1, inside.translated, beginning_translated]
  · rw [translated.2.1, inside.anonymous, beginning_anonymous]
  · rw [translated.2.2, empty]
  · rw [record_shelve after (Nat.le_of_eq single), inside.record, record_beginning path empty]
  · obtain ⟨finished, closed, count⟩ := inside.closed
    have none : finished = [] := by
      rw [length_beginning_desk path empty] at count
      exact List.length_eq_zero_iff.mp (by omega)
    have shelved : after.shelve.closed = after.closed ++ [artifact.finished] := by
      simp [shelve, alone]
    refine ⟨[artifact.finished], ?_, by simp [empty]⟩
    rw [shelved, closed, none, List.append_nil]
    rfl

theorem translateStored_returns {location : String} {answer : Unit}
    (returned : Returns (translateStored job location) before answer after)
    (stored : (before.store.at? location).isSome) (idle : before.anonymous = [])
    (apart : ∀ entry, before.store.at? location = some entry →
      Apart before.translated entry.document.identities) :
    ∃ outlines, storedOutlines? job before.store location = some outlines ∧
      (∀ outline ∈ outlines, ∃ entry, before.store.at? location = some entry ∧
        outline.type.identity ∈ entry.document.identities) ∧
          after = before.extend (completed (before.store.uses location) outlines) := by
  unfold translateStored at returned
  have returned := returned.of_current_bind
  obtain ⟨entry, found⟩ := Option.isSome_iff_exists.mp stored
  rw [found] at returned
  obtain ⟨outlines, made, inside, same⟩ :=
    translateDocument_returns returned idle (apart entry found)
  refine ⟨outlines, ?_, fun outline member => ⟨entry, found, inside outline member⟩, ?_⟩
  · rw [storedOutlines?, found]
    exact made
  · rw [same, Store.uses, found]

/-- How many artifacts are on the desk while documents are taken from the queue. -/
def deskSize (job : Job) : Nat := if job.settings.singleFile then 1 else 0

theorem translateQueued_returns {location : String} {answer : Unit}
    (returned : Returns (translateQueued job location) before answer after)
    (stored : (before.store.at? location).isSome) (idle : before.anonymous = [])
    (apart : ∀ entry, before.store.at? location = some entry →
      Apart before.translated entry.document.identities)
    (desk : before.desk.length = deskSize job) :
    ∃ outlines, storedOutlines? job before.store location = some outlines ∧
      (∀ outline ∈ outlines, ∃ entry, before.store.at? location = some entry ∧
        outline.type.identity ∈ entry.document.identities) ∧
          Enlarged before (before.store.uses location) outlines after := by
  unfold translateQueued at returned
  unfold deskSize at desk
  split at returned
  · next single =>
      -- the artifact at hand is the one for all documents
      rw [if_pos single] at desk
      obtain ⟨outlines, made, inside, rfl⟩ := translateStored_returns returned stored idle apart
      exact ⟨outlines, made, inside, enlarged_extend desk⟩
  · next many =>
      rw [if_neg many] at desk
      have empty := List.length_eq_zero_iff.mp desk
      obtain ⟨path, middle, named, rest⟩ := returned.of_bind
      have unchanged : middle = before := by
        unfold artifactPath at named
        obtain ⟨stem, _, named⟩ := named.of_outcome_bind
        exact named.of_current_bind.of_pure.2
      subst unchanged
      -- an artifact is opened for the document, and shelved whatever comes of it
      obtain ⟨last, work, rfl⟩ := rest.of_concludedBy
      obtain ⟨_, begun, opened, translated⟩ := work.of_bind
      obtain rfl := openArtifact_returns opened
      have waiting : (beginning job path middle).anonymous = [] := by
        rw [beginning_anonymous, idle]
      obtain ⟨outlines, made, inside, rfl⟩ :=
        translateStored_returns translated stored waiting (by rwa [beginning_translated])
      have single := @length_beginning_desk job middle path empty
      exact ⟨outlines, made, inside, enlarged_shelve empty (enlarged_extend single)⟩

/-! ## The queue -/

/-- What holds between two documents of a run that has not failed. -/
structure Steady (job : Job) (conversion : Conversion) : Prop where
  sound : conversion.store.Sound job.source
  orderly : conversion.Orderly
  idle : conversion.anonymous = []
  marked : ∀ identity ∈ conversion.translated, identity.home.location ∈ conversion.dequeued
  desk : conversion.desk.length = deskSize job

/-- The types of a document all say where they were read. -/
theorem mem_identities_location {store : Store} {source : Source} {location : String}
    {entry : Entry} (sound : store.Sound source) (found : store.at? location = some entry)
    {identity : ComplexType.Identity} (member : identity ∈ entry.document.identities) :
    identity.home.location = location := by
  obtain ⟨stored, place⟩ := Store.mem_of_at? found
  rw [(sound.fresh stored).inside identity member]
  exact place

/-- The types of a document that is taken out only now are all new. -/
theorem Steady.apart (steady : Steady job before) {location : String}
    (later : location ∉ before.dequeued) (entry : Entry)
    (found : before.store.at? location = some entry) :
    Apart before.translated entry.document.identities := by
  have fresh := steady.sound.fresh (Store.mem_of_at? found).1
  refine ⟨fresh.nodup, fun identity member taken => later ?_⟩
  -- a marked type was read at a location that was taken out
  rw [← mem_identities_location steady.sound found member]
  exact steady.marked identity taken

/-- What is finished along with some documents: an artifact for each, unless there is one for all. -/
def finishedWith (job : Job) (outlines : List (List ClassOutline)) : List (List Writer.Call) :=
  if job.settings.singleFile then []
  else outlines.map fun classes => classes.flatMap ClassOutline.calls

theorem finishedWith_append (job : Job) (front back : List (List ClassOutline)) :
    finishedWith job (front ++ back) = finishedWith job front ++ finishedWith job back := by
  unfold finishedWith
  split
  · rfl
  · rw [List.map_append]

theorem Enlarged.finished {uses : List String} {outlines : List ClassOutline}
    (enlarged : Enlarged before uses outlines after) (desk : before.desk.length = deskSize job) :
    after.closed.map classCalls =
      before.closed.map classCalls ++ finishedWith job [outlines] := by
  obtain ⟨finished, closed, count⟩ := enlarged.closed
  unfold deskSize at desk
  unfold finishedWith
  rw [closed, List.map_append, List.append_right_inj]
  split
  · next single =>
      rw [if_pos single] at desk
      rw [List.length_eq_zero_iff.mp (show finished.length = 0 by omega), List.map_nil]
  · next many =>
      rw [if_neg many] at desk
      obtain ⟨artifact, rfl⟩ := List.length_eq_one_iff.mp (show finished.length = 1 by omega)
      -- with nothing on the desk, what the record gained is in the new artifact
      have here := List.length_eq_zero_iff.mp desk
      have there := List.length_eq_zero_iff.mp (enlarged.desk.trans desk)
      have gained := enlarged.record
      rw [record_eq, record_eq, here, there, closed, List.append_nil, List.append_nil,
        List.flatMap_append, List.append_right_inj] at gained
      rw [List.map_singleton, List.map_singleton, ← gained, List.flatMap_singleton]

/-- Taking one document out and translating it. -/
theorem Steady.next (steady : Steady job before) {location : String} {rest : List String}
    (waiting : before.queue = location :: rest) {answer : Unit}
    (returned : Returns (translateQueued job location)
      { before with queue := rest, dequeued := before.dequeued ++ [location] } answer after) :
    ∃ outlines, storedOutlines? job before.store location = some outlines ∧
      Enlarged { before with queue := rest, dequeued := before.dequeued ++ [location] }
        (before.store.uses location) outlines after ∧
        after.queue = rest ++ unseen (before.dequeued ++ location :: rest)
          (before.store.uses location) ∧
          Steady job after := by
  -- what was taken out before cannot be this document, hence its types are all unmarked
  have listed : before.met = before.dequeued ++ location :: rest := by rw [met, waiting]
  have present : (before.store.at? location).isSome :=
    steady.orderly.stored location (by simp [listed])
  have later : location ∉ before.dequeued := by
    have distinct := steady.orderly.nodup
    rw [listed] at distinct
    exact fun taken => (List.nodup_append.mp distinct).2.2 location taken location (by simp) rfl
  obtain ⟨outlines, made, inside, enlarged⟩ :=
    translateQueued_returns returned present steady.idle (steady.apart later) steady.desk
  have seen : before.processed = before.dequeued ++ location :: rest := by
    rw [steady.orderly.processed, listed]
  have kept : after.Orderly := by
    have steps := (@translateQueued_follows job location _).steps_of_returns returned
    exact orderly_of_steps steps (@Step.orderly job before _ (.dequeue waiting) steady.orderly)
  refine ⟨outlines, made, enlarged, ?_, ?_⟩
  · rw [enlarged.queue]
    exact congrArg (fun known => rest ++ unseen known (before.store.uses location)) seen
  · refine ⟨by rw [enlarged.store]; exact steady.sound, kept, ?_, ?_, ?_⟩
    · rw [enlarged.anonymous]
      exact steady.idle
    · intro identity member
      rw [enlarged.translated] at member
      rw [enlarged.dequeued]
      rcases List.mem_append.mp member with earlier | new
      · exact List.mem_append_left _ (steady.marked identity earlier)
      · obtain ⟨outline, written, rfl⟩ := List.mem_map.mp new
        obtain ⟨entry, found, member⟩ := inside outline written
        have home := mem_identities_location steady.sound found member
        exact List.mem_append_right _ (List.mem_singleton.mpr home)
    · rw [enlarged.desk]
      exact steady.desk

/-- What a drain comes to: the documents that it took out, and their classes. -/
structure Drains (job : Job) (before : Conversion) (outlines : List (List ClassOutline))
    (after : Conversion) : Prop where
  queue : after.queue = []
  store : after.store = before.store
  visits : Visits before.store.uses before.dequeued before.queue after.dequeued
  outlined : ∃ visited, after.dequeued = before.dequeued ++ visited ∧
    visited.mapM (storedOutlines? job before.store) = some outlines
  translated : after.translated =
    before.translated ++ outlines.flatten.map fun outline => outline.type.identity
  record : after.record = before.record ++ outlines.flatten.flatMap ClassOutline.calls
  closed : after.closed.map classCalls = before.closed.map classCalls ++ finishedWith job outlines

theorem drains_nothing (idle : before.queue = []) : Drains job before [] before where
  queue := idle
  store := rfl
  visits := idle ▸ .finished
  outlined := ⟨[], (List.append_nil _).symm, rfl⟩
  translated := (List.append_nil _).symm
  record := (List.append_nil _).symm
  closed := by simp [finishedWith]

theorem Drains.next {location : String} {rest : List String} {middle : Conversion}
    {outlines : List ClassOutline} {others : List (List ClassOutline)}
    (drains : Drains job middle others after) (desk : before.desk.length = deskSize job)
    (waiting : before.queue = location :: rest)
    (made : storedOutlines? job before.store location = some outlines)
    (enlarged : Enlarged { before with queue := rest, dequeued := before.dequeued ++ [location] }
      (before.store.uses location) outlines middle)
    (queue : middle.queue = rest ++ unseen (before.dequeued ++ location :: rest)
      (before.store.uses location)) : Drains job before (outlines :: others) after := by
  have store : middle.store = before.store := enlarged.store
  have dequeued : middle.dequeued = before.dequeued ++ [location] := enlarged.dequeued
  constructor
  case queue => exact drains.queue
  case store => rw [drains.store, store]
  case visits =>
    have visits := drains.visits
    rw [store, dequeued, queue] at visits
    rw [waiting]
    exact .visit visits
  case outlined =>
    obtain ⟨visited, listed, computed⟩ := drains.outlined
    rw [store] at computed
    refine ⟨location :: visited, ?_, mapM_cons_eq_some.mpr ⟨_, _, made, computed, rfl⟩⟩
    rw [listed, dequeued, List.append_assoc, List.singleton_append]
  case translated =>
    rw [drains.translated, enlarged.translated, List.flatten_cons, List.map_append,
      List.append_assoc]
  case record =>
    have gained : middle.record = before.record ++ outlines.flatMap ClassOutline.calls :=
      enlarged.record
    rw [drains.record, gained, List.flatten_cons, List.flatMap_append, List.append_assoc]
  case closed =>
    rw [drains.closed, enlarged.finished desk, List.append_assoc, ← finishedWith_append,
      List.singleton_append]

/-- As no document is taken out twice, there are enough rounds to empty the queue. -/
theorem drainWithin_returns {budget : Nat} {answer : Unit}
    (returned : Returns (drainWithin job budget) before answer after)
    (steady : Steady job before)
    (enough : before.store.entries.length ≤ budget + before.dequeued.length) :
    Steady job after ∧ ∃ outlines, Drains job before outlines after := by
  induction budget generalizing before with
  | zero =>
      -- by now every stored document was taken out, so none can be waiting
      obtain ⟨_, rfl⟩ := returned.of_pure
      have empty : after.queue = [] := by
        have within := steady.orderly.length_le
        rw [met, List.length_append] at within
        exact List.length_eq_zero_iff.mp (by omega)
      exact ⟨steady, [], drains_nothing empty⟩
  | succ budget ih =>
      obtain ⟨taken, middle, took, rest⟩ := returned.of_bind
      unfold dequeue at took
      have took := took.of_current_bind
      cases waiting : before.queue with
      | nil =>
          rw [waiting] at took
          obtain ⟨rfl, rfl⟩ := took.of_pure
          obtain ⟨_, rfl⟩ := rest.of_pure
          exact ⟨steady, [], drains_nothing waiting⟩
      | cons location others =>
          rw [waiting] at took
          obtain ⟨rfl, rfl⟩ := took.of_change_bind.of_pure
          obtain ⟨_, last, translated, further⟩ := rest.of_bind
          obtain ⟨outlines, made, enlarged, queue, kept⟩ := steady.next waiting translated
          -- one round less, one document more
          have bound : last.store.entries.length ≤ budget + last.dequeued.length := by
            rw [enlarged.store, enlarged.dequeued, List.length_append]
            simp only [List.length_singleton]
            omega
          obtain ⟨final, all, drains⟩ := ih further kept bound
          exact ⟨final, outlines :: all, drains.next steady.desk waiting made enlarged queue⟩

/-! ## Seeds -/

/-- The canonical locations of the inputs, in order. -/
def seedKeys (job : Job) (locations : List String) : Except Location.HostFault (List String) :=
  locations.mapM fun location => Location.canonical job.source.directory location none

/-- The first input is loaded and queued before the others, and is a seed unless it was queued. -/
theorem seedAll_cons_returns {location : String} {rest seeds : List String}
    (returned : Returns (seedAll job (location :: rest)) before seeds after) :
    ∃ key store others, Returns (Store.load job.source location) before.store key store ∧
      Returns (seedAll job rest) ({ before with store := store }.extend (.ofUses [key])) others
        after ∧
      (seeds = key :: others ∨ seeds = others) := by
  obtain ⟨key, middle, loaded, scheduling⟩ := returned.of_bind
  obtain ⟨store, inner, rfl⟩ := loaded.of_within
  obtain ⟨isNew, second, scheduled, seeding⟩ := scheduling.of_bind
  obtain ⟨rfl, _⟩ := schedule_returns scheduled
  obtain ⟨others, last, seeded, ending⟩ := seeding.of_bind
  obtain ⟨rfl, rfl⟩ := ending.of_pure
  refine ⟨key, store, others, inner, seeded, ?_⟩
  cases isNew with
  | true => exact .inl rfl
  | false => exact .inr rfl

/-- Loading and queueing the inputs changes the store and the queue only. -/
theorem seedAll_returns {locations seeds : List String}
    (returned : Returns (seedAll job locations) before seeds after) :
    ∃ keys, seedKeys job locations = .ok keys ∧
      Relation.ReflTransGen (Store.Step job.source) before.store after.store ∧
        after = { before with store := after.store }.extend (.ofUses keys) := by
  induction locations generalizing before seeds with
  | nil =>
      obtain ⟨_, rfl⟩ := returned.of_pure
      exact ⟨[], rfl, .refl, (extend_none after).symm⟩
  | cons location rest ih =>
      obtain ⟨key, store, others, loaded, seeded, _⟩ := seedAll_cons_returns returned
      obtain ⟨keys, computed, steps, same⟩ := ih seeded
      have named : Location.canonical job.source.directory location none = .ok key :=
        Store.load_key loaded
      have loads := (Store.load_follows job.source location before.store).steps_of_returns loaded
      refine ⟨key :: keys, ?_, loads.trans steps, ?_⟩
      · rw [seedKeys, List.mapM_cons, named]
        change (seedKeys job rest >>= fun keys => pure (key :: keys)) = _
        rw [computed]
        rfl
      · have whole := extend_extend (.ofUses [key]) (.ofUses keys)
          { before with store := after.store }
        rw [same]
        exact whole

theorem probeInput_returns {location : String} {answer : Unit}
    (returned : Returns (probeInput job location) before answer after) :
    after = before ∧ ∃ key, Location.canonical job.source.directory location none = .ok key ∧
      (job.source.probe key).2 = .ok true := by
  unfold probeInput at returned
  obtain ⟨key, named, asking⟩ := returned.of_outcome_bind
  obtain ⟨there, last, asked, ending⟩ := asking.of_bind
  obtain ⟨answered, rfl⟩ := asked.of_ask
  split at ending
  · next yes => exact ⟨ending.of_pure.2, key, ok_of_orFail named, yes ▸ answered⟩
  · exact absurd ending Returns.of_throw

theorem probeInputs_returns {locations : List String} {answer : PUnit}
    (returned : Returns (locations.forM (probeInput job)) before answer after) :
    after = before := by
  induction locations generalizing before with
  | nil => exact returned.of_pure.2
  | cons location rest ih =>
      obtain ⟨middle, first, others⟩ := returned.of_forM_cons
      rw [ih others, (probeInput_returns first).1]

/-- What the inputs leave behind when each of them was found and loaded. -/
structure Seeded (job : Job) (seeds : List String) (conversion : Conversion) : Prop where
  seeded : seedKeys job job.settings.inputs = .ok seeds
  sound : conversion.store.Sound job.source
  orderly : conversion.Orderly
  idle : conversion.anonymous = []
  unmarked : conversion.translated = []
  untaken : conversion.dequeued = []
  desk : conversion.desk = []
  closed : conversion.closed = []
  queue : conversion.queue = seeds.eraseDups

theorem Seeded.record {seeds : List String} (seeded : Seeded job seeds before) :
    before.record = [] := by
  simp [Conversion.record, seeded.closed, seeded.desk]

theorem seed_returns {begun : Conversion} {found : List String} (started : start job = .ok begun)
    (returned : Returns (seed job) { begun with started := true } found after) :
    ∃ seeds, Seeded job seeds after := by
  have orderly : after.Orderly := by
    have ready : Orderly { begun with started := true } :=
      orderly_of_same (start_orderly started) rfl rfl rfl rfl
    exact orderly_of_steps ((@seed_follows job _).steps_of_returns returned) ready
  unfold seed at returned
  obtain ⟨_, probed, probing, loading⟩ := returned.of_bind
  obtain rfl := probeInputs_returns probing
  obtain ⟨keys, named, steps, same⟩ := seedAll_returns loading
  unfold start at started
  split at started
  · cases started
  · next store made =>
      cases started
      obtain ⟨_, _, sound⟩ := @Store.start_sound job.source _ _ _ _ made
      refine ⟨keys, named, Store.sound_of_steps steps sound, orderly, ?_, ?_, ?_, ?_, ?_, ?_⟩
      all_goals
        rw [same]
        simp [extend, Progress.ofUses, performOnDesk, unseen_empty]

/-! ## The whole run -/

/-- The calls for classes in each artifact: in the one for all documents, or in that of each. -/
def artifactCalls (job : Job) (outlines : List (List ClassOutline)) : List (List Writer.Call) :=
  if job.settings.singleFile then [outlines.flatten.flatMap ClassOutline.calls]
  else outlines.map fun classes => classes.flatMap ClassOutline.calls

theorem artifactCalls_flatten (job : Job) (outlines : List (List ClassOutline)) :
    (artifactCalls job outlines).flatten = outlines.flatten.flatMap ClassOutline.calls := by
  unfold artifactCalls
  split
  · rw [List.flatten_singleton]
  · rw [List.flatMap_def, List.map_flatten, List.flatten_flatten, List.map_map]
    rfl

/-- All that the seeds lead to was taken from the queue in turn, and the classes of those documents
are what is written. -/
structure Drained (job : Job) (seeds : List String) (outlines : List (List ClassOutline))
    (conversion : Conversion) : Prop where
  seeded : seedKeys job job.settings.inputs = .ok seeds
  sound : conversion.store.Sound job.source
  orderly : conversion.Orderly
  queue : conversion.queue = []
  visits : Visits conversion.store.uses [] seeds.eraseDups conversion.dequeued
  outlined : conversion.dequeued.mapM (storedOutlines? job conversion.store) = some outlines
  translated : conversion.translated =
    outlines.flatten.map fun outline => outline.type.identity
  artifacts : (conversion.closed ++ conversion.desk).map classCalls = artifactCalls job outlines

/-- What a run leaves: nothing in the queue and nothing on the desk. -/
structure Completed (job : Job) (seeds : List String) (outlines : List (List ClassOutline))
    (conversion : Conversion) : Prop extends Drained job seeds outlines conversion where
  desk : conversion.desk = []

theorem Drained.record {seeds : List String} {outlines : List (List ClassOutline)}
    {conversion : Conversion} (drained : Drained job seeds outlines conversion) :
    conversion.record = outlines.flatten.flatMap ClassOutline.calls := by
  rw [record_eq, List.flatMap_def, drained.artifacts, artifactCalls_flatten]

/-- What drains from an unwritten state are all classes, and they are where they belong. -/
theorem Drains.artifacts {outlines : List (List ClassOutline)}
    (drains : Drains job before outlines after) (unwritten : before.closed = [])
    (blank : before.record = []) (desk : after.desk.length = deskSize job) :
    (after.closed ++ after.desk).map classCalls = artifactCalls job outlines := by
  have closed := drains.closed
  have recorded := drains.record
  rw [unwritten, List.map_nil, List.nil_append] at closed
  rw [record_eq, blank, List.nil_append] at recorded
  unfold finishedWith at closed
  unfold deskSize at desk
  unfold artifactCalls
  split
  · next single =>
      rw [if_pos single] at closed desk
      obtain ⟨artifact, alone⟩ := List.length_eq_one_iff.mp desk
      rw [List.map_eq_nil_iff.mp closed, alone, List.nil_append] at recorded ⊢
      rw [← recorded, List.map_singleton, List.flatMap_singleton]
  · next many =>
      rw [if_neg many] at closed desk
      rw [List.length_eq_zero_iff.mp desk, List.append_nil, closed]

/-- What a run drains from: inputs in the queue and no class written. -/
structure Ready (job : Job) (seeds : List String) (conversion : Conversion) : Prop
    extends Steady job conversion where
  seeded : seedKeys job job.settings.inputs = .ok seeds
  untaken : conversion.dequeued = []
  unmarked : conversion.translated = []
  queue : conversion.queue = seeds.eraseDups
  closed : conversion.closed = []
  record : conversion.record = []

theorem drain_returns {seeds : List String} {answer : Unit}
    (returned : Returns (drain job) before answer after) (ready : Ready job seeds before) :
    after.desk.length = deskSize job ∧ ∃ outlines, Drained job seeds outlines after := by
  have returned := returned.of_current_bind
  obtain ⟨final, outlines, drains⟩ :=
    drainWithin_returns returned ready.toSteady (by omega)
  refine ⟨final.desk, outlines, ?_⟩
  constructor
  case seeded => exact ready.seeded
  case sound => exact final.sound
  case orderly => exact final.orderly
  case queue => exact drains.queue
  case visits =>
    have visits := drains.visits
    rwa [ready.untaken, ready.queue, ← drains.store] at visits
  case outlined =>
    obtain ⟨visited, listed, computed⟩ := drains.outlined
    rw [ready.untaken, List.nil_append] at listed
    rwa [listed, drains.store]
  case translated => rw [drains.translated, ready.unmarked, List.nil_append]
  case artifacts => exact drains.artifacts ready.closed ready.record final.desk

/-- Finishing the only artifact clears the desk. -/
theorem Drained.shelve {seeds : List String} {outlines : List (List ClassOutline)}
    {conversion : Conversion} (drained : Drained job seeds outlines conversion)
    (single : conversion.desk.length = 1) : Completed job seeds outlines conversion.shelve := by
  obtain ⟨processed, dequeued, queue, store⟩ := shelve_same conversion
  obtain ⟨artifact, alone⟩ := List.length_eq_one_iff.mp single
  have translated : conversion.shelve.translated = conversion.translated := by
    simp [Conversion.shelve, alone]
  refine ⟨⟨drained.seeded, ?_, ?_, ?_, ?_, ?_, ?_, ?_⟩, by simp [Conversion.shelve, alone]⟩
  · rw [store]
    exact drained.sound
  · exact orderly_of_same drained.orderly processed dequeued queue store
  · rw [queue, drained.queue]
  · rw [store, dequeued]
    exact drained.visits
  · rw [store, dequeued]
    exact drained.outlined
  · rw [translated]
    exact drained.translated
  · rw [classCalls_shelve conversion (Nat.le_of_eq single)]
    exact drained.artifacts

/-- With the artifact for all documents begun, the run can drain. -/
theorem Seeded.beginning {seeds : List String} (seeded : Seeded job seeds before) {path : String}
    (single : job.settings.singleFile) (orderly : (beginning job path before).Orderly) :
    Ready job seeds (beginning job path before) where
  sound := seeded.sound
  orderly := orderly
  idle := by rw [beginning_anonymous, seeded.idle]
  marked := by simp [seeded.unmarked]
  desk := by rw [length_beginning_desk path seeded.desk, deskSize, if_pos single]
  seeded := seeded.seeded
  untaken := seeded.untaken
  unmarked := by rw [beginning_translated, seeded.unmarked]
  queue := by rw [beginning_queue, seeded.queue]
  closed := seeded.closed
  record := by rw [record_beginning path seeded.desk, seeded.record]

/-- With an artifact for each document, the run can drain at once. -/
theorem Seeded.ready {seeds : List String} (seeded : Seeded job seeds before)
    (many : ¬ job.settings.singleFile) : Ready job seeds before where
  sound := seeded.sound
  orderly := seeded.orderly
  idle := seeded.idle
  marked := by simp [seeded.unmarked]
  desk := by rw [seeded.desk, deskSize, if_neg many, List.length_nil]
  seeded := seeded.seeded
  untaken := seeded.untaken
  unmarked := seeded.unmarked
  queue := seeded.queue
  closed := seeded.closed
  record := seeded.record

theorem translateFrom_returns {seeds found : List String} {answer : Unit}
    (returned : Returns (translateFrom job found) before answer after)
    (seeded : Seeded job seeds before) : ∃ outlines, Completed job seeds outlines after := by
  unfold translateFrom at returned
  split at returned
  · next single =>
      obtain ⟨path, _, work⟩ := returned.of_outcome_bind
      obtain ⟨last, inner, rfl⟩ := work.of_concludedBy
      obtain ⟨_, placed, opening, drained⟩ := inner.of_bind
      have steps := (openArtifact_follows path before).steps_of_returns opening
      obtain rfl := openArtifact_returns opening
      have ready := seeded.beginning single (orderly_of_steps steps seeded.orderly)
      obtain ⟨desk, outlines, whole⟩ := drain_returns drained ready
      rw [deskSize, if_pos single] at desk
      exact ⟨outlines, whole.shelve desk⟩
  · next many =>
      obtain ⟨desk, outlines, whole⟩ := drain_returns returned (seeded.ready many)
      rw [deskSize, if_neg many] at desk
      exact ⟨outlines, whole, List.length_eq_zero_iff.mp desk⟩

theorem run_returns {begun : Conversion} {paths : List String} (started : start job = .ok begun)
    (returned : Returns (run job) begun paths after) :
    ∃ seeds outlines, Completed job seeds outlines after := by
  unfold run at returned
  obtain ⟨_, first, opened, rest⟩ := returned.of_bind
  have readied : first = { begun with started := true } := by
    unfold begin at opened
    have opened := opened.of_current_bind
    split at opened
    · exact absurd opened Returns.of_throw
    · exact opened.of_change
  subst readied
  obtain ⟨found, second, seeding, translating⟩ := rest.of_bind
  obtain ⟨_, third, translated, ending⟩ := translating.of_bind
  obtain ⟨_, rfl⟩ := ending.of_current_bind.of_say_bind.of_pure
  obtain ⟨seeds, seeded⟩ := seed_returns started seeding
  obtain ⟨outlines, completed⟩ := translateFrom_returns translated seeded
  exact ⟨seeds, outlines, completed⟩

end SchemaSharp.Conversion
