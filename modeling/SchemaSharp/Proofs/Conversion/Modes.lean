import SchemaSharp.Proofs.Conversion.Filing
import SchemaSharp.Proofs.Conversion.Offline

/-!
The modes and the options of output. The mode decides when artifacts are begun and ended, the
options how a class is written down, and neither has to do with anything else. So all runs of a job
make the same drafts in the same order: one after the other in a single artifact, or each in one of
its own.
-/

namespace SchemaSharp

open Schema (ComplexType SimpleType Variety)

/-- The job with one artifact for all documents, or with one for each. -/
def Job.inMode (single : Bool) (job : Job) : Job :=
  { job with settings := { job.settings with singleFile := single } }

theorem Job.inMode_eq {single : Bool} {job : Job} (mode : job.settings.singleFile = single) :
    job.inMode single = job := by
  subst mode
  rfl

/-- The job with these options of output in place of its own. -/
def Job.withOptions (options : EmitOptions) (job : Job) : Job :=
  { job with settings := { job.settings with
      dataContracts := options.dataContracts
      notifyProperties := options.notifyProperties
      dependencyProperties := options.dependencyProperties } }

/-- Jobs that make the same identifiers. -/
structure Job.NamesAlike (job other : Job) : Prop where
  clean : job.settings.cleanNames = other.settings.cleanNames
  pattern : job.settings.renamingPattern = other.settings.renamingPattern

namespace Conversion

/-! ## What classes are made with -/

section NamesAlike

variable {job other : Job} (alike : job.NamesAlike other)
include alike

theorem identifier_congr (name : Option String) : identifier job name = identifier other name := by
  simp only [identifier, alike.clean]

theorem spelled_congr (name : TypeName) : spelled job name = spelled other name := by
  cases name with
  | own name => exact identifier_congr alike name
  | known name => rfl

theorem ofVariety_congr (variety : Variety) (name : TypeName) :
    ofVariety job variety name = ofVariety other variety name := by
  cases variety with
  | list => simp only [ofVariety, spelled_congr alike]
  | restriction => rfl
  | union => rfl

theorem simpleTypeName_congr : (type : SimpleType) →
    simpleTypeName job type = simpleTypeName other type
  | ⟨_, variety, base, inlineBase, _, home⟩ => by
      unfold simpleTypeName
      cases inlineBase with
      | some inner => simp only [simpleTypeName_congr inner, ofVariety_congr alike]
      | none => cases base <;> simp only [ofVariety_congr alike]

/-- A class is written from the declarations and the settings for names. -/
theorem translateComplexType_congr (type : ComplexType) (name className : Option String) :
    translateComplexType job type name className =
      translateComplexType other type name className := by
  simp only [translateComplexType, translateNew, writeClass, translateMember, typeOfMember,
    memberType, simpleTypeName_congr alike, spelled_congr alike, classIdentifier, baseClass,
    identifier_congr alike, alike.clean, alike.pattern]

theorem flushAnonymous_congr : flushAnonymous job = flushAnonymous other := by
  have within : ∀ budget, flushWithin job budget = flushWithin other budget := by
    intro budget
    induction budget with
    | zero => rfl
    | succ budget ih => simp only [flushWithin, translateComplexType_congr alike, ih]
  simp only [flushAnonymous, within]

theorem translateStored_congr (location : String) :
    translateStored job location = translateStored other location := by
  have element : ∀ element, translateElement job element = translateElement other element := by
    intro element
    simp only [translateElement, translateComplexType_congr alike]
  have type : ∀ decl, translateType job decl = translateType other decl := by
    intro decl
    cases decl with
    | simple type => rfl
    | complex type => exact translateComplexType_congr alike type none none
  simp only [translateStored, translateDocument, element, type, flushAnonymous_congr alike]

end NamesAlike

/-! ## What neither has to do with -/

variable {job : Job} {single : Bool} {options : EmitOptions}

theorem restyled_alike : ((job.withOptions options).inMode single).NamesAlike job := ⟨rfl, rfl⟩

theorem translateStored_restyled (location : String) :
    translateStored ((job.withOptions options).inMode single) location =
      translateStored job location :=
  translateStored_congr restyled_alike location

theorem translateStored_inMode (location : String) :
    translateStored (job.inMode single) location = translateStored job location :=
  @translateStored_restyled job single job.settings.emitOptions location

theorem translateStored_withOptions (location : String) :
    translateStored (job.withOptions options) location = translateStored job location :=
  @translateStored_restyled job job.settings.singleFile options location

/-- Inputs are loaded from the source without a look at the settings. -/
theorem seedAll_congr {other : Job} (same : job.source = other.source) (locations : List String) :
    seedAll job locations = seedAll other locations := by
  induction locations with
  | nil => rfl
  | cons location rest ih => simp only [seedAll, same, ih]

theorem seed_restyled : seed ((job.withOptions options).inMode single) = seed job := by
  have alike : ((job.withOptions options).inMode single).source = job.source := rfl
  simp only [seed, seedAll_congr alike]
  rfl

theorem seed_inMode : seed (job.inMode single) = seed job :=
  @seed_restyled job single job.settings.emitOptions

/-! ## Drafts -/

/-- What is written for one document, and the stem that its artifact is named for. -/
structure Draft where
  stem : String
  classes : List ClassOutline
  cut : Option ClassOutline

namespace Draft

def calls (draft : Draft) : List Writer.Call := draftCalls draft.classes draft.cut

/-- The classes, also one that is cut off. -/
def outlines (draft : Draft) : List ClassOutline := draft.classes ++ draft.cut.toList

/-- The draft is named for the document at the location. -/
def IsFor (location : String) (draft : Draft) : Prop := Location.stem location = .ok draft.stem

end Draft

/-- Only the last draft may have a class cut off, and only if the drain failed there. -/
inductive Series : Bool → List Draft → Prop where
  | done {ended : Bool} : Series ended []
  | next {ended : Bool} {draft : Draft} {rest : List Draft} (whole : draft.cut = none)
      (others : Series ended rest) : Series ended (draft :: rest)
  | broken {draft : Draft} : Series false [draft]

/-- The drafts one after the other are one draft of all their classes. -/
theorem Series.joined {ended : Bool} {drafts : List Draft} (series : Series ended drafts) :
    ∃ draft : Draft, drafts.flatMap Draft.calls = draft.calls ∧
      drafts.flatMap Draft.outlines = draft.outlines := by
  induction series with
  | done => exact ⟨⟨"", [], none⟩, rfl, rfl⟩
  | @next ended draft rest whole others ih =>
      obtain ⟨joined, calls, outlines⟩ := ih
      refine ⟨⟨draft.stem, draft.classes ++ joined.classes, joined.cut⟩, ?_, ?_⟩
      · rw [List.flatMap_cons, calls, Draft.calls, whole]
        simp [Draft.calls, draftCalls]
      · rw [List.flatMap_cons, outlines, Draft.outlines, whole]
        simp [Draft.outlines]
  | @broken draft => exact ⟨draft, by simp, by simp⟩

/-- An artifact for each draft, named for it and apart from those before. -/
def Bench.publishEach (job : Job) : List Draft → Bench → Bench
  | [], bench => bench
  | draft :: rest, bench =>
      let directory := FilePath.ofString job.settings.outputDirectory
      Bench.publishEach job rest
        (bench.publish job (Artifact.freshPath directory draft.stem bench.written) draft.calls)

/-! ## The queue -/

theorem runs_dequeue {fits : Bench → Prop} {before : Conversion} {location : String}
    {rest : List String} (waiting : before.queue = location :: rest) :
    Runs fits dequeue before (.ok (some location))
      { before with queue := rest, dequeued := before.dequeued ++ [location] } id := by
  refine Runs.current_bind (fun _ => rfl) ?_
  rw [waiting]
  exact fun _ _ journal => ⟨journal, rfl⟩

theorem runs_dequeue_nil {fits : Bench → Prop} {before : Conversion} (idle : before.queue = []) :
    Runs fits dequeue before (.ok none) before id := by
  refine Runs.current_bind (fun _ => rfl) ?_
  rw [idle]
  exact runs_pure none before

theorem run_artifactPath {location stem : String} (named : Location.stem location = .ok stem)
    (conversion : Conversion) (journal : List Notice) :
    (artifactPath job location).run ⟨conversion, journal⟩ =
      (.ok (Artifact.freshPath (FilePath.ofString job.settings.outputDirectory) stem
        conversion.written), ⟨conversion, journal⟩) := by
  unfold artifactPath
  rw [named]
  rfl

/-- With an artifact for each document, what is written for one ends up in its own. -/
theorem runs_translateQueued {location stem : String} {before after : Conversion}
    {result : Except Failure Unit} {calls : List Writer.Call}
    (named : Location.stem location = .ok stem)
    (runs : Runs (Bench.Ready .namespaceBody) (translateStored job location) before result after
      (Bench.write calls)) :
    Runs (fun _ => True) (translateQueued (job.inMode false) location) before result after
      fun bench => bench.publish job (Artifact.freshPath
        (FilePath.ofString job.settings.outputDirectory) stem bench.written) calls := by
  intro bench fit journal
  have inside : Runs (Bench.Ready .namespaceBody) (translateStored (job.inMode false) location)
      before result after (Bench.write calls) := by
    rw [translateStored_inMode]
    exact runs
  obtain ⟨said, ran⟩ := runs_withArtifact (Artifact.freshPath
    (FilePath.ofString job.settings.outputDirectory) stem bench.written) inside bench fit journal
  refine ⟨said, ?_⟩
  change (artifactPath (job.inMode false) location >>= fun path =>
    withArtifact (job.inMode false) path
      (translateStored (job.inMode false) location)).run ⟨before.on bench, journal⟩ = _
  rw [Task.run_bind, run_artifactPath named]
  exact ran

/-- A bench with a fresh artifact on it. -/
def Bench.fresh (job : Job) : Bench :=
  (Bench.place job "" .empty).write (headerCalls job)

/-- Translating a document keeps the queue in order. -/
theorem orderly_of_translated {location : String} {before after : Conversion}
    {result : Except Failure Unit} {effect : Bench → Bench} (orderly : before.Orderly)
    (runs : Runs (Bench.Ready .namespaceBody) (translateStored job location) before result after
      effect) : after.Orderly := by
  have ready : (Bench.fresh job).Ready .namespaceBody := ready_headed job "" _
  obtain ⟨said, ran⟩ := runs (Bench.fresh job) ready []
  have steps := @translateStored_follows job location (before.on (Bench.fresh job)) []
  rw [ran] at steps
  have kept := orderly_of_steps steps ⟨orderly.processed, orderly.nodup, orderly.stored⟩
  exact ⟨kept.processed, kept.nodup, kept.stored⟩

theorem nameable_of_waiting {conversion : Conversion} {location : String} {rest : List String}
    (orderly : conversion.Orderly) (nameable : conversion.store.Nameable)
    (waiting : conversion.queue = location :: rest) :
    ∃ stem, Location.stem location = .ok stem := by
  have met : location ∈ conversion.met := by simp [Conversion.met, waiting]
  obtain ⟨entry, found⟩ := Option.isSome_iff_exists.mp (orderly.stored location met)
  have place : entry.location = location := by simpa using List.find?_some found
  exact place ▸ nameable entry (List.mem_of_find?_eq_some found)

/-- A drain takes the first document out and goes on. -/
theorem runs_drainWithin_cons {fits : Bench → Prop} {effect : Bench → Bench} {budget : Nat}
    {before after : Conversion} {location : String} {rest : List String}
    {result : Except Failure Unit} (waiting : before.queue = location :: rest)
    (back : Runs fits (do
        translateQueued job location
        drainWithin job budget)
      { before with queue := rest, dequeued := before.dequeued ++ [location] } result after
        effect) :
    Runs fits (drainWithin job (budget + 1)) before result after effect :=
  (runs_dequeue waiting).bind back fun _ fit => fit

theorem runs_drainWithin_nil {fits : Bench → Prop} {budget : Nat} {before : Conversion}
    (idle : before.queue = []) :
    Runs fits (drainWithin job (budget + 1)) before (.ok ()) before id :=
  (runs_dequeue_nil idle).bind (runs_pure () before) fun _ fit => fit

/-- Translating a document takes none out of the queue. -/
theorem dequeued_of_translated {location : String} {before after : Conversion}
    {result : Except Failure Unit} {effect : Bench → Bench}
    (runs : Runs (Bench.Ready .namespaceBody) (translateStored job location) before result after
      effect) : after.dequeued = before.dequeued := by
  have ready : (Bench.fresh job).Ready .namespaceBody := ready_headed job "" _
  obtain ⟨said, ran⟩ := runs (Bench.fresh job) ready []
  have kept :=
    (@translateStored_offline job location ⟨before.on (Bench.fresh job), []⟩).dequeued
  rw [ran] at kept
  exact kept

/-- A document that waits is translated alike in both modes and with any options, and what is
written for it is the draft. -/
structure Sketched (job : Job) (location : String) (before : Conversion)
    (result : Except Failure Unit) (after : Conversion) (draft : Draft) : Prop where
  named : draft.IsFor location
  proper : Proper result
  whole : result.toBool = true → draft.cut = none
  runs : Runs (Bench.Ready .namespaceBody) (translateStored job location) before result after
    (Bench.write draft.calls)

theorem sketched_of_stem {location stem : String} (named : Location.stem location = .ok stem)
    (before : Conversion) :
    ∃ result after draft, Sketched job location before result after draft ∧
      after.store = before.store := by
  have scripted : Scripted classScript (translateStored job location) before :=
    translateStored_scripted location before
  obtain ⟨result, after, _, proper, store, ⟨classes, cut, rfl, whole⟩, runs⟩ := scripted
  exact ⟨result, after, ⟨stem, classes, cut⟩, ⟨named, proper, whole, runs⟩, store⟩

section Sketched

variable {location : String} {before after : Conversion} {result : Except Failure Unit}
  {draft : Draft} (sketched : Sketched job location before result after draft)
include sketched

theorem Sketched.together (options : EmitOptions) :
    Runs (Bench.Ready .namespaceBody)
      (translateQueued ((job.withOptions options).inMode true) location) before result after
      (Bench.write draft.calls) := by
  change Runs _ (translateStored ((job.withOptions options).inMode true) location) _ _ _ _
  rw [translateStored_restyled]
  exact sketched.runs

theorem Sketched.apart (options : EmitOptions) :
    Runs (fun _ => True) (translateQueued ((job.withOptions options).inMode false) location) before
      result after (Bench.publishEach (job.withOptions options) [draft]) := by
  have stored : Runs (Bench.Ready .namespaceBody)
      (translateStored (job.withOptions options) location) before result after
      (Bench.write draft.calls) := by
    rw [translateStored_withOptions]
    exact sketched.runs
  exact runs_translateQueued sketched.named stored

theorem Sketched.ready (ended : result.toBool = true) {bench : Bench}
    (ready : bench.Ready .namespaceBody) : (bench.write draft.calls).Ready .namespaceBody :=
  ready.write (classScript.returns ⟨draft.classes, none, by rw [Draft.calls, sketched.whole ended],
    fun _ => rfl⟩)

end Sketched

/-- What a drain comes to: a draft for each document that it takes out, in the same order. -/
structure Drafted (before after : Conversion) (result : Except Failure Unit)
    (drafts : List Draft) : Prop where
  proper : Proper result
  series : Series result.toBool drafts
  taken : ∃ locations, after.dequeued = before.dequeued ++ locations ∧
    List.Forall₂ Draft.IsFor locations drafts

/-- A drain ends alike in both modes and with any options and makes these drafts, into the artifact
at hand or into one for each. -/
structure DrainsInto (job : Job) (budget : Nat) (before : Conversion)
    (result : Except Failure Unit) (after : Conversion) (drafts : List Draft) : Prop where
  drafted : Drafted before after result drafts
  together : ∀ options, Runs (Bench.Ready .namespaceBody)
    (drainWithin ((job.withOptions options).inMode true) budget) before result after
    (Bench.write (drafts.flatMap Draft.calls))
  apart : ∀ options, Runs (fun _ => True)
    (drainWithin ((job.withOptions options).inMode false) budget) before result after
    (Bench.publishEach (job.withOptions options) drafts)

theorem drainsInto_nothing {budget : Nat} {before : Conversion}
    (idle : budget = 0 ∨ before.queue = []) :
    DrainsInto job budget before (.ok ()) before [] := by
  have ends (fits : Bench → Prop) (job : Job) :
      Runs fits (drainWithin job budget) before (.ok ()) before id := by
    cases budget with
    | zero => exact runs_pure () before
    | succ budget => exact runs_drainWithin_nil (idle.resolve_left nofun)
  exact {
    drafted := ⟨failsOnly_ok (), .done, [], (List.append_nil _).symm, .nil⟩
    together := fun _ => by
      rw [List.flatMap_nil, Bench.write_nil]
      exact ends _ _
    apart := fun _ => ends _ _ }

section Drains

variable {budget : Nat} {before middle after : Conversion} {location : String} {rest : List String}
  {draft : Draft} (waiting : before.queue = location :: rest)
include waiting

/-- The drain ends with the document that fails, and with what has been written of it. -/
theorem Sketched.drainsInto {failure : Failure}
    (sketched : Sketched job location
      { before with queue := rest, dequeued := before.dequeued ++ [location] } (.error failure) after
      draft) (dequeued : after.dequeued = before.dequeued ++ [location]) :
    DrainsInto job (budget + 1) before (.error failure) after [draft] where
  drafted :=
    { proper := failsOnly_error (sketched.proper failure rfl)
      series := .broken
      taken := ⟨[location], dequeued, .cons sketched.named .nil⟩ }
  together options := by
    rw [List.flatMap_singleton]
    exact runs_drainWithin_cons waiting (sketched.together options).bind_error
  apart options := runs_drainWithin_cons waiting (sketched.apart options).bind_error

/-- The draft of the first document comes before those of the others. -/
theorem DrainsInto.cons {value : Unit} {result : Except Failure Unit} {drafts : List Draft}
    (others : DrainsInto job budget middle result after drafts)
    (sketched : Sketched job location
      { before with queue := rest, dequeued := before.dequeued ++ [location] } (.ok value) middle
      draft) (dequeued : middle.dequeued = before.dequeued ++ [location]) :
    DrainsInto job (budget + 1) before result after (draft :: drafts) where
  drafted := by
    obtain ⟨locations, taken, drawn⟩ := others.drafted.taken
    have all : after.dequeued = before.dequeued ++ (location :: locations) := by
      rw [taken, dequeued, List.append_assoc, List.singleton_append]
    exact ⟨others.drafted.proper, .next (sketched.whole rfl) others.drafted.series,
      location :: locations, all, .cons sketched.named drawn⟩
  together options := by
    have joined := (sketched.together options).seq (others.together options) fun _ ready =>
      sketched.ready rfl ready
    simp only [Bench.write_write] at joined
    exact runs_drainWithin_cons waiting joined
  apart options := runs_drainWithin_cons waiting
    ((sketched.apart options).seq (others.apart options) fun _ fit => fit)

end Drains

/-- How a drain ends and which drafts it makes is the same in both modes and with any options. -/
theorem drainWithin_runs (job : Job) (budget : Nat) {before : Conversion}
    (orderly : before.Orderly) (nameable : before.store.Nameable) :
    ∃ result after drafts, DrainsInto job budget before result after drafts := by
  induction budget generalizing before with
  | zero => exact ⟨_, _, _, drainsInto_nothing (.inl rfl)⟩
  | succ budget ih =>
      cases waiting : before.queue with
      | nil => exact ⟨_, _, _, drainsInto_nothing (.inr waiting)⟩
      | cons location rest =>
          let begun : Conversion :=
            { before with queue := rest, dequeued := before.dequeued ++ [location] }
          have step : Step job before begun := .dequeue waiting
          have ordered : begun.Orderly := step.orderly orderly
          obtain ⟨stem, named⟩ := nameable_of_waiting orderly nameable waiting
          obtain ⟨result, middle, draft, sketched, store⟩ := @sketched_of_stem job _ _ named begun
          have dequeued : middle.dequeued = before.dequeued ++ [location] :=
            dequeued_of_translated sketched.runs
          cases result with
          | error failure => exact ⟨_, _, _, sketched.drainsInto waiting dequeued⟩
          | ok value =>
              -- translating keeps the queue in order and stores nothing, so the rest can go on
              obtain ⟨result, last, drafts, others⟩ :=
                ih (orderly_of_translated ordered sketched.runs) (store ▸ nameable)
              exact ⟨result, last, _, others.cons waiting sketched dequeued⟩

end Conversion

end SchemaSharp
