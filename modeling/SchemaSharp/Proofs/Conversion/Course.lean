import SchemaSharp.Proofs.Conversion.Modes

/-!
From the start of a run to the documents it begins with. Loading and queueing the inputs touches no
artifact, takes no document out of the queue, fails for no reason that has to do with an artifact,
and does not look at the mode or the options of output. So a run either ends before anything is
written, or it goes on from one and the same state whatever the output is to look like.
-/

namespace SchemaSharp.Conversion

open SchemaSharp.Task (Returns Follows FailsFrom)
open Relation (ReflTransGen)

variable {job : Job} {before after begun : Conversion} {kind : Failure → Prop}

/-! ## Failures -/

theorem seed_fails (fails : job.source.FailsAs kind) : Task.FailsOnly kind (seed job) := by
  have seeds : Seeds kind (fun task before => FailsFrom kind task before) job :=
    { toComposes := failsFrom_looks.toComposes
      onward := Task.failsFrom_bind
      faults := fails.faults
      missing := fails.missing
      probed := fun key => (Task.failsOnly_ask (fails.probe key)).from
      loaded := fun location => (Task.failsOnly_within (Store.load_fails fails location)).from }
  exact Task.failsOnly_of_from (seed_composed seeds)

/-! ## What is left alone -/

/-- A step that leaves the artifacts alone and takes no document out of the queue. -/
structure Untouched (before after : Conversion) : Prop where
  bench : after.bench = before.bench
  dequeued : after.dequeued = before.dequeued

theorem untouched_of_steps (steps : ReflTransGen Untouched before after) :
    Untouched before after := by
  induction steps with
  | refl => exact ⟨rfl, rfl⟩
  | tail _ step ih => exact ⟨step.bench.trans ih.bench, step.dequeued.trans ih.dequeued⟩

theorem seed_untouched (before : Conversion) : Follows Untouched (seed job) before :=
  seed_composed (follows_seeds (follows_composes fun _ _ => ⟨rfl, rfl⟩) fun _ => ⟨rfl, rfl⟩) before

/-! ## The seeds -/

/-- Every seed is stored. -/
theorem seedAll_stored {locations seeds : List String}
    (returned : Returns (seedAll job locations) before seeds after) :
    ∀ key ∈ seeds, (after.store.at? key).isSome := by
  induction locations generalizing before seeds with
  | nil =>
      obtain ⟨rfl, _⟩ := returned.of_pure
      simp
  | cons location rest ih =>
      obtain ⟨key, store, later, loaded, seeded, listed⟩ := seedAll_cons_returns returned
      obtain ⟨_, _, steps, _⟩ := seedAll_returns seeded
      have stored : (after.store.at? key).isSome :=
        Store.isSome_at?_of_steps steps (Store.load_stored loaded)
      have known := ih seeded
      rcases listed with rfl | rfl
      · exact List.forall_mem_cons.mpr ⟨stored, known⟩
      · exact known

/-- What a run translates from. -/
structure Prepared (seeds : List String) (conversion : Conversion) : Prop where
  bench : conversion.bench = .empty
  dequeued : conversion.dequeued = []
  orderly : conversion.Orderly
  nameable : conversion.store.Nameable
  stored : ∀ key ∈ seeds, (conversion.store.at? key).isSome

theorem bench_of_start (started : start job = .ok begun) :
    begun.bench = .empty ∧ begun.dequeued = [] ∧ begun.started = false := by
  unfold start at started
  split at started
  · cases started
  · cases started
    exact ⟨rfl, rfl, rfl⟩

/-- However seeding ends, nothing has been written and no document been taken out; and if it ends
well, its seeds can be translated. -/
theorem seed_ends (civil : job.source.Civil) (started : start job = .ok begun)
    (journal : List Notice) :
    let outcome := (seed job).run ⟨{ begun with started := true }, journal⟩
    Proper outcome.1 ∧ outcome.2.state.bench = .empty ∧ outcome.2.state.dequeued = [] ∧
      ∀ seeds, outcome.1 = .ok seeds → Prepared seeds outcome.2.state := by
  intro outcome
  obtain ⟨empty, none, _⟩ := bench_of_start started
  have untouched : Untouched { begun with started := true } outcome.2.state :=
    untouched_of_steps (seed_untouched _ journal)
  have bench : outcome.2.state.bench = .empty := untouched.bench.trans empty
  have dequeued : outcome.2.state.dequeued = [] := untouched.dequeued.trans none
  refine ⟨seed_fails civil.failsAs _, bench, dequeued, fun seeds answered => ?_⟩
  have returned : Returns (seed job) { begun with started := true } seeds outcome.2.state :=
    ⟨journal, outcome.2.journal, Prod.ext answered rfl⟩
  obtain ⟨_, seeded⟩ := seed_returns started returned
  refine ⟨bench, dequeued, seeded.orderly, seeded.sound.nameable civil, ?_⟩
  obtain ⟨_, _, _, loading⟩ := returned.of_bind
  exact seedAll_stored loading

theorem Prepared.stems {seeds : List String} (prepared : Prepared seeds before) :
    ∃ stems, seeds.mapM Location.stem = .ok stems := by
  have each : ∀ key ∈ seeds, ∃ stem, Location.stem key = .ok stem := by
    intro key member
    obtain ⟨entry, found⟩ := Option.isSome_iff_exists.mp (prepared.stored key member)
    have place : entry.location = key := by simpa using List.find?_some found
    exact place ▸ prepared.nameable entry (List.mem_of_find?_eq_some found)
  clear prepared
  induction seeds with
  | nil => exact ⟨[], rfl⟩
  | cons key rest ih =>
      obtain ⟨stem, named⟩ := each key (by simp)
      obtain ⟨stems, others⟩ := ih fun other member => each other (List.mem_cons_of_mem _ member)
      exact ⟨stem :: stems, by rw [List.mapM_cons, named, others]; rfl⟩

/-! ## The run -/

/-- A run ends in this way and leaves this state. -/
def Ends (job : Job) (begun : Conversion) (result : Except Failure Unit) (after : Conversion) :
    Prop :=
  ((run job).perform begun).1.map (fun _ => ()) = result ∧
    ((run job).perform begun).2.state = after

theorem run_answers_written {paths : List String}
    (returned : ((run job).perform begun).1 = .ok paths) :
    paths = ((run job).perform begun).2.state.written := by
  have returned := Task.returns_of_perform returned
  obtain ⟨_, _, _, rest⟩ := returned.of_bind
  obtain ⟨_, _, _, rest⟩ := rest.of_bind
  obtain ⟨_, _, _, ending⟩ := rest.of_bind
  obtain ⟨answered, same⟩ := ending.of_current_bind.of_say_bind.of_pure
  exact same ▸ answered

theorem Ends.outcome {result : Except Failure Unit} (ends : Ends job begun result after) :
    ((run job).perform begun).1 = result.map fun _ => after.written := by
  obtain ⟨ended, left⟩ := ends
  cases ran : ((run job).perform begun).1 with
  | error failure =>
      rw [ran] at ended
      rw [← ended]
      rfl
  | ok paths =>
      rw [ran] at ended
      rw [← ended, run_answers_written ran, left]
      rfl

theorem run_begin (idle : before.started = false) (journal : List Notice) :
    begin.run ⟨before, journal⟩ = (.ok (), ⟨{ before with started := true }, journal⟩) := by
  change (if before.started then throw .alreadyStarted else Task.change fun conversion =>
    { conversion with started := true } : Work Unit).run ⟨before, journal⟩ = _
  rw [idle]
  rfl

theorem ends_of_seed {failure : Failure} {last : Logged Conversion}
    (idle : before.started = false)
    (seeding : (seed job).run ⟨{ before with started := true }, []⟩ = (.error failure, last)) :
    Ends job before (.error failure) last.state := by
  unfold Ends run Task.perform
  rw [Task.run_bind, run_begin idle]
  dsimp only
  rw [Task.run_bind, seeding]
  exact ⟨rfl, rfl⟩

theorem ends_of_translate {seeds : List String} {result : Except Failure Unit}
    {middle last : Logged Conversion} (idle : before.started = false)
    (seeding : (seed job).run ⟨{ before with started := true }, []⟩ = (.ok seeds, middle))
    (translating : (translateFrom job seeds).run middle = (result, last)) :
    Ends job before result last.state := by
  unfold Ends run Task.perform
  rw [Task.run_bind, run_begin idle]
  dsimp only
  rw [Task.run_bind, seeding]
  dsimp only
  rw [Task.run_bind, translating]
  cases result <;> exact ⟨rfl, rfl⟩

/-- What is translated from prepared seeds, in both modes and with any options. -/
theorem translateFrom_runs {seeds : List String} (prepared : Prepared seeds before) :
    ∃ result after drafts path, sharedPath job seeds = .ok path ∧
      Drafted before after result drafts ∧ ∀ options,
        Runs (fun _ => True) (translateFrom ((job.withOptions options).inMode true) seeds)
          before result after
          (Bench.publish (job.withOptions options) path (drafts.flatMap Draft.calls)) ∧
        Runs (fun _ => True) (translateFrom ((job.withOptions options).inMode false) seeds)
          before result after (Bench.publishEach (job.withOptions options) drafts) := by
  obtain ⟨result, after, drafts, drafted, together, apart⟩ := drainWithin_runs job
    (before.queue.length + before.store.entries.length) prepared.orderly prepared.nameable
  obtain ⟨stems, named⟩ := prepared.stems
  let path := ((FilePath.ofString job.settings.outputDirectory).child
    ("_".intercalate stems.eraseDups ++ ".cs")).toText
  have shared : sharedPath job seeds = .ok path := by
    unfold sharedPath
    rw [named]
    rfl
  refine ⟨result, after, drafts, path, shared, drafted, fun options => ?_⟩
  constructor
  · have drained : Runs (Bench.Ready .namespaceBody)
        (drain ((job.withOptions options).inMode true)) before result after
          (Bench.write (drafts.flatMap Draft.calls)) :=
      (together options).current_bind fun _ => rfl
    change Runs _ (Task.outcome (orFail .host (sharedPath job seeds)) >>= fun path =>
      withArtifact ((job.withOptions options).inMode true) path
        (drain ((job.withOptions options).inMode true))) _ _ _ _
    rw [shared]
    exact runs_withArtifact path drained
  · have draining : Runs (fun _ => True) (drain ((job.withOptions options).inMode false))
        before result after (Bench.publishEach (job.withOptions options) drafts) :=
      (apart options).current_bind fun _ => rfl
    exact draining

/-- A run fails while its inputs are loaded, before anything is written; or drafts are made of the
documents it takes out, into one artifact or into one for each. How it ends and which drafts it
makes is the same in both modes and with any options. -/
theorem run_course (civil : job.source.Civil) (started : start job = .ok begun) :
    let seeding := (seed job).run ⟨{ begun with started := true }, []⟩
    (∃ failure, seeding.1 = .error failure ∧ failure.isWriting = false ∧
      seeding.2.state.bench = .empty ∧ seeding.2.state.dequeued = [] ∧
        ∀ options single, Ends ((job.withOptions options).inMode single) begun (.error failure)
          seeding.2.state) ∨
    ∃ seeds result drafts path, ∃ after : Conversion, seeding.1 = .ok seeds ∧
      sharedPath job seeds = .ok path ∧ Drafted seeding.2.state after result drafts ∧
        List.Forall₂ Draft.IsFor after.dequeued drafts ∧ ∀ options,
          Ends ((job.withOptions options).inMode true) begun result (after.on
            (Bench.empty.publish (job.withOptions options) path (drafts.flatMap Draft.calls))) ∧
          Ends ((job.withOptions options).inMode false) begun result (after.on
            (Bench.empty.publishEach (job.withOptions options) drafts)) := by
  intro seeding
  obtain ⟨proper, empty, none, prepared⟩ := seed_ends civil started []
  have idle := (bench_of_start started).2.2
  -- the inputs are loaded without a look at the mode or the options
  have same : ∀ options single, (seed ((job.withOptions options).inMode single)).run
      ⟨{ begun with started := true }, []⟩ = seeding :=
    fun options single => by rw [seed_restyled]
  cases found : seeding.1 with
  | error failure =>
      refine .inl ⟨failure, rfl, proper failure found, empty, none, fun options single => ?_⟩
      exact ends_of_seed idle ((same options single).trans (Prod.ext found rfl))
  | ok seeds =>
      have ready := prepared seeds found
      obtain ⟨result, after, drafts, path, shared, drafted, styled⟩ :=
        @translateFrom_runs job _ _ ready
      obtain ⟨locations, taken, drawn⟩ := drafted.taken
      rw [ready.dequeued, List.nil_append] at taken
      have ends : ∀ {options single effect}, Runs (fun _ => True)
          (translateFrom ((job.withOptions options).inMode single) seeds) seeding.2.state result
            after effect →
          Ends ((job.withOptions options).inMode single) begun result
            (after.on (effect .empty)) := by
        intro options single effect runs
        obtain ⟨said, ran⟩ := runs seeding.2.state.bench trivial seeding.2.journal
        rw [← ready.bench]
        exact ends_of_translate idle ((same options single).trans (Prod.ext found rfl)) ran
      exact .inr ⟨seeds, result, drafts, path, after, rfl, shared, drafted, taken ▸ drawn,
        fun options => ⟨ends (styled options).1, ends (styled options).2⟩⟩

end SchemaSharp.Conversion
