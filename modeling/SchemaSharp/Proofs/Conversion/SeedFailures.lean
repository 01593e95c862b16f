import SchemaSharp.Proofs.Conversion.Course
import SchemaSharp.Proofs.Store.Closure

/-!
Inputs that cannot be loaded. All inputs are probed before any is loaded, and all that they lead to
is loaded before anything is translated. So whatever is wrong with an input or a document that it
leads to, however far away, the run fails with nothing written; and it has not even loaded a
document if an input is not there.
-/

namespace SchemaSharp.Conversion

open Schema (Document Reference)
open Store (Closing)
open SchemaSharp.Task (Returns Follows)
open Relation (ReflTransGen)

variable {job : Job} {before after begun : Conversion}

/-! ## What the inputs lead to -/

/-- A document can be fetched and parsed. -/
def Reads (source : Source) (store : Store) (location : String) (document : Document) : Prop :=
  ∃ content, (source.fetch location).2 = .ok content ∧
    Document.ofBytes ⟨location, store.edition⟩ content = .ok document

/-- A reference of the document leads to the first of its candidates that is there. -/
def LeadsTo (source : Source) (store : Store) (location target : String) : Prop :=
  ∃ document, Reads source store location document ∧
    ∃ reference ∈ document.references, ∃ text found,
      Schema.given? reference.schemaLocation = some text ∧
        store.candidates source.directory location text = .ok found ∧
          found.find? source.has = some target

/-- An input, or a document that references lead to from one. -/
inductive Reached (job : Job) (store : Store) : String → Prop where
  | seed {location key : String} (given : location ∈ job.settings.inputs)
      (named : Location.canonical job.source.directory location none = .ok key) :
      Reached job store key
  | follow {location target : String} (reached : Reached job store location)
      (leads : LeadsTo job.source store location target) : Reached job store target

/-- An input that is not there: its location cannot be made out, or nothing is found at it. -/
def Absent (job : Job) (location : String) : Prop :=
  ∀ key, Location.canonical job.source.directory location none = .ok key →
    job.source.has key = false

/-- What keeps the inputs from being loaded. -/
inductive SeedFault (job : Job) (store : Store) : Prop where
  | absent {location : String} (given : location ∈ job.settings.inputs)
      (missing : Absent job location) : SeedFault job store
  | broken {location : String} (reached : Reached job store location)
      (unreadable : ∀ document, ¬Reads job.source store location document) : SeedFault job store
  | lost {location text : String} {document : Document} {reference : Reference}
      {fault : Location.HostFault} (reached : Reached job store location)
      (reads : Reads job.source store location document) (listed : reference ∈ document.references)
      (given : Schema.given? reference.schemaLocation = some text)
      (nowhere : store.candidates job.source.directory location text = .error fault) :
      SeedFault job store
  | refused {location : String} (reached : Reached job store location)
      (remote : Location.isRemote location = .ok true)
      (forbidden : job.settings.allowRemote = false) : SeedFault job store

theorem store_of_start (started : start job = .ok begun) :
    Store.start job.source.directory 0 job.settings.searchPaths = .ok begun.store := by
  unfold start at started
  split at started
  · cases started
  · next store made =>
      cases started
      exact made

/-! ## Seeding that ends well -/

theorem probeInputs_there {locations : List String} {answer : PUnit}
    (returned : Returns (locations.forM (probeInput job)) before answer after) :
    ∀ location ∈ locations, ∃ key,
      Location.canonical job.source.directory location none = .ok key ∧ job.source.has key := by
  induction locations generalizing before with
  | nil => simp
  | cons first rest ih =>
      obtain ⟨middle, probed, others⟩ := returned.of_forM_cons
      intro location listed
      rcases List.mem_cons.mp listed with rfl | later
      · obtain ⟨_, key, named, answered⟩ := probeInput_returns probed
        exact ⟨key, named, has_of_probe answered⟩
      · exact ih others location later

theorem seedAll_closing {locations seeds : List String}
    (there : ∀ location ∈ locations, ∃ key,
      Location.canonical job.source.directory location none = .ok key ∧ job.source.has key)
    (sound : before.store.Sound job.source) (closing : Closing job.source before.store [])
    (returned : Returns (seedAll job locations) before seeds after) :
    Closing job.source after.store [] ∧ ∀ location ∈ locations, ∀ key,
      Location.canonical job.source.directory location none = .ok key →
        (after.store.at? key).isSome := by
  induction locations generalizing before seeds with
  | nil =>
      obtain ⟨_, rfl⟩ := returned.of_pure
      exact ⟨closing, by simp⟩
  | cons first rest ih =>
      obtain ⟨here, others⟩ := List.forall_mem_cons.mp there
      obtain ⟨key, store, later, loaded, seeded, _⟩ := seedAll_cons_returns returned
      -- the input that is loaded is the one that was probed
      have named : Location.canonical job.source.directory first none = .ok key :=
        Store.load_key loaded
      have has : job.source.has key := by
        obtain ⟨place, found, has⟩ := here
        cases named.symm.trans found
        exact has
      have loads := (Store.load_follows job.source first before.store).steps_of_returns loaded
      obtain ⟨closed, stored⟩ := ih others (Store.sound_of_steps loads sound)
        (Store.load_closing sound closing loaded has) seeded
      refine ⟨closed, fun location listed place found => ?_⟩
      rcases List.mem_cons.mp listed with rfl | elsewhere
      · cases named.symm.trans found
        obtain ⟨_, _, steps, _⟩ := seedAll_returns seeded
        exact Store.isSome_at?_of_steps steps (Store.load_stored loaded)
      · exact stored location elsewhere place found

theorem Reads.of_same {source : Source} {store other : Store}
    (edition : other.edition = store.edition) {location : String} {document : Document}
    (reads : Reads source store location document) : Reads source other location document := by
  unfold Reads at reads ⊢
  rwa [edition]

/-- What a store leads to has to do with its bases and its edition only. -/
theorem Reached.of_same {store other : Store} (bases : other.bases = store.bases)
    (edition : other.edition = store.edition) {location : String}
    (reached : Reached job store location) : Reached job other location := by
  induction reached with
  | seed given named => exact .seed given named
  | follow _ leads ih =>
      obtain ⟨document, reads, reference, listed, text, found, given, searched, first⟩ := leads
      rw [← Store.candidates_eq bases] at searched
      exact .follow ih
        ⟨document, reads.of_same edition, reference, listed, text, found, given, searched, first⟩

/-- In a store that is closed under references, a document that is stored and can be read has
candidates for its references, and what they lead to is stored. -/
theorem settled_of_reads {store : Store} (sound : store.Sound job.source)
    (closing : Closing job.source store []) {location text : String} {document : Document}
    {reference : Reference} (stored : (store.at? location).isSome)
    (reads : Reads job.source store location document) (listed : reference ∈ document.references)
    (given : Schema.given? reference.schemaLocation = some text) :
    ∃ found, store.candidates job.source.directory location text = .ok found ∧
      ∀ target, found.find? job.source.has = some target → (store.at? target).isSome := by
  obtain ⟨entry, found⟩ := Option.isSome_iff_exists.mp stored
  obtain ⟨member, rfl⟩ := Store.mem_of_at? found
  obtain ⟨content, fetched, read⟩ := reads
  obtain ⟨same, again, reread⟩ := sound.read entry member
  cases fetched.symm.trans again
  cases read.symm.trans reread
  obtain ⟨marked, present, rfl⟩ := List.mem_map.mp listed
  have settled := closing.all_settled member present
  have called : Schema.given? marked.schemaLocation = some text := given
  unfold Store.Settled at settled
  rw [called] at settled
  obtain ⟨others, candidates, resolved⟩ := settled
  refine ⟨others, candidates, fun target first => ?_⟩
  exact sound.targets entry member marked present target (resolved.trans first)

/-- In such a store all that is reached is stored. -/
theorem stored_of_reached {store : Store} (sound : store.Sound job.source)
    (closing : Closing job.source store [])
    (seeded : ∀ location ∈ job.settings.inputs, ∀ key,
      Location.canonical job.source.directory location none = .ok key → (store.at? key).isSome)
    {location : String} (reached : Reached job store location) : (store.at? location).isSome := by
  induction reached with
  | seed given named => exact seeded _ given _ named
  | follow _ leads ih =>
      obtain ⟨document, reads, reference, listed, text, found, given, searched, first⟩ := leads
      obtain ⟨others, candidates, stored⟩ := settled_of_reads sound closing ih reads listed given
      cases searched.symm.trans candidates
      exact stored _ first

/-- If the inputs have been loaded there was nothing wrong with them. -/
theorem no_fault_of_seed {seeds : List String} (started : start job = .ok begun)
    (refusing : job.settings.allowRemote = false → ∀ location,
      Location.isRemote location = .ok true → ∀ content, (job.source.fetch location).2 ≠ .ok content)
    (returned : Returns (seed job) { begun with started := true } seeds after) :
    ¬SeedFault job begun.store := by
  obtain ⟨_, probed, probing, loading⟩ := returned.of_bind
  obtain rfl := probeInputs_returns probing
  have there := probeInputs_there probing
  have made := store_of_start started
  obtain ⟨_, _, sound⟩ := @Store.start_sound job.source _ _ _ _ made
  obtain ⟨_, _, steps, _⟩ := seedAll_returns loading
  obtain ⟨closing, seeded⟩ :=
    @seedAll_closing job { begun with started := true } _ _ _ there sound
      (Store.start_closing made) loading
  have kept := Store.sound_of_steps steps sound
  have edition := Store.edition_eq_of_steps steps
  have bases := Store.bases_eq_of_steps steps
  have all : ∀ location, Reached job begun.store location → (after.store.at? location).isSome :=
    fun _ reached => stored_of_reached kept closing seeded (reached.of_same bases edition)
  -- Whatever is reached has been stored, hence read.
  have reads : ∀ location, Reached job begun.store location →
      ∃ document, Reads job.source begun.store location document := by
    intro location reached
    obtain ⟨entry, found⟩ := Option.isSome_iff_exists.mp (all location reached)
    obtain ⟨member, rfl⟩ := Store.mem_of_at? found
    obtain ⟨content, fetched, read⟩ := kept.read entry member
    rw [edition] at read
    exact ⟨_, content, fetched, read⟩
  intro fault
  cases fault with
  | absent given missing =>
      obtain ⟨key, named, has⟩ := there _ given
      rw [missing key named] at has
      cases has
  | broken reached unreadable =>
      obtain ⟨document, read⟩ := reads _ reached
      exact unreadable document read
  | lost reached read listed given nowhere =>
      obtain ⟨_, found, _⟩ :=
        settled_of_reads kept closing (all _ reached) (read.of_same edition) listed given
      rw [Store.candidates_eq bases] at found
      cases nowhere.symm.trans found
  | refused reached remote forbidden =>
      obtain ⟨_, content, fetched, _⟩ := reads _ reached
      exact refusing forbidden _ remote content fetched

/-! ## Seeding that fails -/

/-- Probing takes no step, of whatever kind. -/
theorem probeInput_follows {step : Conversion → Conversion → Prop} (location : String)
    (before : Conversion) : Follows step (probeInput job location) before := by
  unfold probeInput
  apply Task.follows_bind (Task.follows_outcome _ _)
  intro _ _ _
  apply Task.follows_bind (Task.follows_ask _ _)
  intro _ _ _
  split
  · exact Task.follows_pure _ _
  · exact Task.follows_throw _ _

/-- If an input is not there, seeding fails and nothing has changed. -/
theorem seed_absent {location : String} (given : location ∈ job.settings.inputs)
    (missing : Absent job location) (journal : List Notice) :
    ∃ failure last, (seed job).run ⟨before, journal⟩ = (.error failure, last) ∧
      last.state = before := by
  -- probing the inputs changes nothing
  have still : Follows (fun _ _ => False) (job.settings.inputs.forM (probeInput job)) before :=
    Task.follows_forM before fun location _ state => probeInput_follows location state
  have unchanged := still journal
  cases ran : (job.settings.inputs.forM (probeInput job)).run ⟨before, journal⟩ with
  | mk result last =>
    rw [ran] at unchanged
    cases result with
    | ok value =>
        obtain ⟨key, named, has⟩ := probeInputs_there ⟨journal, last.journal, ran⟩ location given
        rw [missing key named] at has
        cases has
    | error failure =>
        refine ⟨failure, last, ?_, ?_⟩
        · unfold seed
          rw [Task.run_bind, ran]
        · rcases ReflTransGen.cases_head unchanged with same | ⟨_, never, _⟩
          · exact same.symm
          · cases never

theorem source_refuses (world : World) {allowRemote : Bool} (forbidden : allowRemote = false)
    {location : String} (remote : Location.isRemote location = .ok true) (content : List UInt8) :
    ((world.source allowRemote).fetch location).2 ≠ .ok content := by
  intro fetched
  subst forbidden
  change (world.fetch false location).2 = .ok content at fetched
  unfold World.fetch at fetched
  rw [remote] at fetched
  cases fetched

/-- If an input or a document that an input leads to cannot be loaded the run fails, no document has
been taken from the queue, and no artifact has been begun or file touched; and if an input is not
there, no document has been loaded either. -/
theorem seed_fault_writes_nothing {settings : Settings} {world : World} {begun : Conversion}
    (started : start ⟨settings, world.source settings.allowRemote⟩ = .ok begun)
    (fault : SeedFault ⟨settings, world.source settings.allowRemote⟩ begun.store) :
    let job : Job := ⟨settings, world.source settings.allowRemote⟩
    let outcome := (run job).perform begun
    let after := outcome.2.state
    (∃ failure, outcome.1 = .error failure) ∧ after.written = [] ∧ after.dequeued = [] ∧
      after.closed = [] ∧ after.desk = [] ∧ after.files = begun.files ∧ begun.files = [] ∧
      ((∃ location ∈ settings.inputs, Absent job location) →
        after.store = begun.store ∧ begun.store.entries = []) := by
  intro job outcome after
  have civil : job.source.Civil := world.source_civil settings.allowRemote
  obtain ⟨blank, _, idle⟩ := bench_of_start started
  obtain ⟨_, bench, dequeued, _⟩ := seed_ends civil started []
  cases seeding : (seed job).run ⟨{ begun with started := true }, []⟩ with
  | mk result last =>
    rw [seeding] at bench dequeued
    cases result with
    | ok seeds =>
        exact absurd fault (no_fault_of_seed started (fun forbidden _ remote =>
          source_refuses world forbidden remote) ⟨[], last.journal, seeding⟩)
    | error failure =>
        have ends := ends_of_seed idle seeding
        have left : after = last.state := ends.2
        have files : begun.files = [] := congrArg Bench.files blank
        rw [left]
        refine ⟨⟨failure, ends.outcome⟩, congrArg Bench.written bench, dequeued,
          congrArg Bench.closed bench, congrArg Bench.desk bench,
          (congrArg Bench.files bench).trans files.symm, files, ?_⟩
        rintro ⟨location, given, missing⟩
        obtain ⟨_, other, failed, same⟩ :=
          @seed_absent job { begun with started := true } _ given missing []
        cases seeding.symm.trans failed
        rw [same]
        exact ⟨rfl, (@Store.start_sound job.source _ _ _ _ (store_of_start started)).1⟩

/-- Two inputs, the second of which refers to a file that is no schema. -/
def spoilt : World where
  directory := ⟨['/'], []⟩
  files := [(["a".toList], pairText "<s:complexType name='A'/>"),
    (["b".toList], pairText "<s:include schemaLocation='c'/>"),
    (["c".toList], Text.Utf8.encode "<s".toList)]
  web := []

def spoiltSettings : Settings := { inputs := ["a", "b"] }

def spoiltJob : Job := ⟨spoiltSettings, spoilt.source spoiltSettings.allowRemote⟩

/-- The second input leads to the third file. -/
theorem spoilt_leads {store : Store} (fresh : store.edition = 0) (bases : store.bases = []) :
    LeadsTo spoiltJob.source store "file:///b" "file:///c" := by
  have fetched : (spoiltJob.source.fetch "file:///b").2 =
      .ok (pairText "<s:include schemaLocation='c'/>") := by
    decide +kernel
  have parsed : (Document.ofBytes ⟨"file:///b", 0⟩
      (pairText "<s:include schemaLocation='c'/>")).toOption.map (fun document =>
        document.references.map (·.schemaLocation)) = some [some "c"] := by
    decide +kernel
  obtain ⟨document, read, listed⟩ := Option.map_eq_some_iff.mp parsed
  obtain ⟨reference, alone, named⟩ := List.map_eq_singleton_iff.mp listed
  have searched : store.candidates spoiltJob.source.directory "file:///b" "c" =
      .ok ["file:///c"] := by
    unfold Store.candidates
    rw [bases]
    decide +kernel
  have there : ["file:///c"].find? spoiltJob.source.has = some "file:///c" := by decide +kernel
  refine ⟨document, ⟨_, fetched, fresh ▸ ok_of_toOption read⟩, reference, ?_, "c", _, ?_, searched,
    there⟩
  · rw [alone]
    exact List.mem_singleton_self reference
  · rw [named]
    decide

theorem spoilt_fault {store : Store} (fresh : store.edition = 0) (bases : store.bases = []) :
    SeedFault spoiltJob store := by
  have named : Location.canonical spoiltJob.source.directory "b" none = .ok "file:///b" := by
    decide +kernel
  have input : Reached spoiltJob store "file:///b" := .seed (by decide) named
  refine .broken (input.follow (spoilt_leads fresh bases)) fun document reads => ?_
  obtain ⟨content, fetched, read⟩ := reads
  have held : (spoiltJob.source.fetch "file:///c").2 = .ok (Text.Utf8.encode "<s".toList) := by
    decide +kernel
  have unread : (Document.ofBytes ⟨"file:///c", 0⟩
      (Text.Utf8.encode "<s".toList)).toOption.isNone := by
    decide +kernel
  cases held.symm.trans fetched
  rw [← fresh, read] at unread
  cases unread

/-- The first input could be translated, and yet nothing is written. -/
theorem spoilt_writes_nothing :
    ∃ begun, start spoiltJob = .ok begun ∧ SeedFault spoiltJob begun.store ∧
      let outcome := (run spoiltJob).perform begun
      (∃ failure, outcome.1 = .error failure) ∧ outcome.2.state.written = [] ∧
        outcome.2.state.dequeued = [] ∧ outcome.2.state.files = [] := by
  have starts : ∃ begun, start spoiltJob = .ok begun ∧ begun.store = ⟨0, [], [], [], []⟩ :=
    ⟨_, rfl, rfl⟩
  obtain ⟨begun, started, store⟩ := starts
  have fault : SeedFault spoiltJob begun.store := by
    rw [store]
    exact spoilt_fault rfl rfl
  obtain ⟨failed, written, dequeued, _, _, files, none, _⟩ :=
    @seed_fault_writes_nothing spoiltSettings spoilt begun started fault
  exact ⟨begun, started, fault, failed, written, dequeued, files.trans none⟩

end SchemaSharp.Conversion
