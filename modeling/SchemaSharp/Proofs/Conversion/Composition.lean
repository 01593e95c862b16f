import SchemaSharp.Conversion.Run
import SchemaSharp.Proofs.Store.Steps
import SchemaSharp.Proofs.Task.Keeping

/-!
How something is shown of all that a conversion does. Its operations are put together from a few
tasks: they answer, fail, report, look at the conversion and change it in small ways. A judgement
of tasks that holds of these, and of a whole if it holds of its parts, holds of the operations; the
way through them is gone here once, for any judgement.
-/

namespace SchemaSharp

/-- All that can go wrong while something is named is of a kind. -/
structure Job.NamesAs (kind : Failure → Prop) (job : Job) : Prop where
  load : ∀ fault location, kind (.load fault location)
  identifier : ∀ fault, kind (.identifier fault)
  unfilled : ∀ name fault, Text.fillTemplate job.settings.renamingPattern name = .error fault →
    kind (.pattern fault)

theorem Job.namesAs_any (job : Job) : job.NamesAs fun _ => True :=
  ⟨fun _ _ => trivial, fun _ => trivial, fun _ _ _ => trivial⟩

namespace Conversion

open Schema (ComplexType ElementDecl TypeDecl SimpleType QName Home Document Variety)
open SchemaSharp.Task (Returns Follows Keeps KeepsFrom FailsFrom)

/-! ## Benches -/

structure Bench where
  desk : List Artifact
  attached : Bool
  closed : List Artifact
  written : List String
  files : Files

def Bench.empty : Bench := ⟨[], false, [], [], []⟩

def bench (conversion : Conversion) : Bench :=
  ⟨conversion.desk, conversion.attached, conversion.closed, conversion.written, conversion.files⟩

/-- The conversion with another bench. -/
def on (conversion : Conversion) (bench : Bench) : Conversion :=
  { conversion with
    desk := bench.desk
    attached := bench.attached
    closed := bench.closed
    written := bench.written
    files := bench.files }

/-! ## Judgements -/

/-- Reported by the conversion or the writer: nothing was asked for or loaded. -/
def OwnNotice (notice : Notice) : Prop :=
  notice.speaker = .conversion ∨ notice.speaker = .writer

section

variable (kind : Failure → Prop) (holds : ∀ {α : Type}, Work α → Conversion → Prop)

/-- A judgement of tasks, each with the conversion that it is started in. It holds of a whole if it
holds of the parts, as long as they fail in ways of a kind, report what is their own, look at
nothing on the bench, and change the queue only. -/
structure Composes : Prop where
  answer : ∀ {α : Type} (value : α) (before : Conversion), holds (pure value) before
  fail : ∀ {α : Type} {failure : Failure} (before : Conversion), kind failure →
    holds (throw failure : Work α) before
  report : ∀ {notice : Notice} (before : Conversion), OwnNotice notice →
    holds (Task.say notice) before
  chain : ∀ {α β : Type} {task : Work α} {next : α → Work β} {before : Conversion},
    holds task before → (∀ value middle, holds (next value) middle) → holds (task >>= next) before
  look : ∀ {β : Type} {next : Conversion → Work β} {before : Conversion},
    (∀ bench, next (before.on bench) = next before) → holds (next before) before →
      holds (Task.current >>= next) before
  queued : ∀ {before : Conversion} {location : String}, (before.store.at? location).isSome →
    location ∉ before.processed → holds (Task.change (enqueue location)) before

/-- One that allows to mark types, to let types wait and to take them up again. -/
structure Translates : Prop extends Composes kind holds where
  waits : ∀ (type : ComplexType) (identifier : String) (before : Conversion),
    holds (Task.change (await type identifier)) before
  marked : ∀ {before : Conversion} {type : ComplexType}, type.identity ∉ before.translated →
    holds (Task.change (markTranslated type)) before
  taken : ∀ {before : Conversion} {first : ComplexType × String}
    {rest : List (ComplexType × String)}, before.anonymous = first :: rest →
      holds (Task.change fun conversion => { conversion with anonymous := rest }) before

/-- One that allows to look at the bench. -/
structure Looks : Prop extends Composes kind holds where
  read : ∀ {β : Type} {next : Conversion → Work β} {before : Conversion},
    holds (next before) before → holds (Task.current >>= next) before

/-- One that allows to open artifacts, to write to them and to close them. -/
structure Writes (job : Job) : Prop extends Translates kind holds, Looks kind holds where
  detached : kind .noArtifact
  written : ∀ (call : Writer.Call) (before : Conversion), holds (write call) before
  placed : ∀ (path : String) (before : Conversion), holds (Task.change (place job path)) before
  shelved : ∀ {task : Work Unit} {before : Conversion}, holds task before →
    holds (Task.concludedBy task closeArtifact) before

/-- One that allows to take documents from the queue. -/
structure Dequeues : Prop extends Looks kind holds where
  dequeued : ∀ {before : Conversion} {location : String} {rest : List String},
    before.queue = location :: rest →
      holds (Task.change fun conversion =>
        { conversion with queue := rest, dequeued := conversion.dequeued ++ [location] }) before

/-- One that allows to ask for the inputs and to load them, and that may go on from what was
returned. -/
structure Seeds (job : Job) : Prop extends Composes kind holds where
  onward : ∀ {α β : Type} {task : Work α} {next : α → Work β} {before : Conversion},
    holds task before →
      (∀ value middle, Returns task before value middle → holds (next value) middle) →
        holds (task >>= next) before
  faults : Location.FaultsAre kind
  missing : ∀ location, kind (.load .inputMissing location)
  probed : ∀ (key : String) (before : Conversion), holds (Task.ask (job.source.probe key)) before
  loaded : ∀ (location : String) (before : Conversion),
    holds (inStore (Store.load job.source location)) before

end

variable {job : Job} {kind : Failure → Prop} {holds : ∀ {α : Type}, Work α → Conversion → Prop}

/-! ## Scheduling -/

section Composes

variable (composes : Composes kind holds)

include composes

theorem outcome_composed {α : Type} {result : Except Failure α} (fails : FailsOnly kind result)
    (before : Conversion) : holds (Task.outcome result) before := by
  cases result with
  | ok value => exact composes.answer value before
  | error failure => exact composes.fail before (fails failure rfl)

theorem forM_composed {α : Type} {items : List α} {work : α → Work PUnit} (before : Conversion)
    (each : ∀ item state, holds (work item) state) : holds (items.forM work) before := by
  induction items generalizing before with
  | nil => exact composes.answer _ before
  | cons item rest ih => exact composes.chain (each item before) fun _ middle => ih middle

theorem schedule_composed {location : String} {before : Conversion}
    (queued : location ∉ before.processed → holds (Task.change (enqueue location)) before) :
    holds (schedule location) before := by
  refine composes.look (fun _ => rfl) ?_
  split
  · exact composes.answer _ _
  · next unmet =>
      refine composes.chain (queued (by simpa using unmet)) fun _ _ => ?_
      exact composes.chain (composes.report _ (.inl rfl)) fun _ _ => composes.answer _ _

theorem scheduleOwner_composed (home : Home) (declaration : Option String) (before : Conversion) :
    holds (scheduleOwner home declaration) before := by
  refine composes.look (fun _ => rfl) ?_
  split
  · exact composes.answer _ _
  · next owner owned =>
      have found := (Option.filter_eq_some_iff.mp owned).1
      have place : owner.location = home.location := by simpa using List.find?_some found
      have stored : (before.store.at? owner.location).isSome := by rw [place, found]; rfl
      refine composes.chain (schedule_composed composes (composes.queued stored)) fun isNew _ => ?_
      split
      · exact composes.report _ (.inl rfl)
      · exact composes.answer _ _

/-! ## Types -/

variable (names : job.NamesAs kind)

include names

theorem resolveType_composed (name : QName) (home : Home) (before : Conversion) :
    holds (resolveType name home) before := by
  refine composes.look (fun _ => rfl) ?_
  split
  · exact composes.answer _ _
  · exact composes.fail _ (names.load _ _)

theorem resolveElement_composed (name : QName) (home : Home) (before : Conversion) :
    holds (resolveElement name home) before := by
  refine composes.look (fun _ => rfl) ?_
  split
  · exact composes.answer _ _
  · exact composes.fail _ (names.load _ _)

theorem identifier_composed (name : Option String) (before : Conversion) :
    holds (identifier job name) before :=
  outcome_composed composes (failsOnly_orFail names.identifier) before

theorem spelled_composed (name : TypeName) (before : Conversion) :
    holds (spelled job name) before := by
  cases name with
  | own name => exact identifier_composed composes names name before
  | known text => exact composes.answer text before

theorem namedType_composed (name : QName) (home : Home) (before : Conversion) :
    holds (namedType name home) before := by
  unfold namedType
  split
  · exact composes.answer _ _
  · refine composes.chain (resolveType_composed composes names _ _ _) fun _ _ => ?_
    exact composes.chain (scheduleOwner_composed composes _ _ _) fun _ _ => composes.answer _ _

theorem ofVariety_composed (variety : Variety) (name : TypeName) (before : Conversion) :
    holds (ofVariety job variety name) before := by
  unfold ofVariety
  split
  · exact composes.chain (spelled_composed composes names _ _) fun _ _ => composes.answer _ _
  · exact composes.answer _ _

theorem simpleTypeName_composed : (type : SimpleType) → (before : Conversion) →
    holds (simpleTypeName job type) before
  | ⟨_, variety, base, inlineBase, _, home⟩, before => by
      have varied := ofVariety_composed composes names variety
      unfold simpleTypeName
      split
      · exact composes.answer _ _
      · split
        · next inner =>
            -- the base is written inside the type, and may have a base inside again
            exact composes.chain (simpleTypeName_composed inner before) fun _ _ => varied _ _
        · exact composes.chain (namedType_composed composes names _ _ _) fun _ _ => varied _ _
        · exact varied _ _

theorem memberType_composed (element : ElementDecl) (before : Conversion) :
    holds (memberType job element) before := by
  unfold memberType
  split
  · exact composes.answer _ _
  · exact simpleTypeName_composed composes names _ _
  · exact composes.answer _ _
  · exact namedType_composed composes names _ _ _

/-! ## Before a class is written -/

theorem targetOf_composed (element : ElementDecl) (before : Conversion) :
    holds (targetOf element) before := by
  unfold targetOf
  split
  · exact composes.answer _ _
  · refine composes.chain (resolveElement_composed composes names _ _ _) fun _ _ => ?_
    exact composes.chain (scheduleOwner_composed composes _ _ _) fun _ _ => composes.answer _ _

theorem classIdentifier_composed (rawName className : Option String) (before : Conversion) :
    holds (classIdentifier job rawName className) before := by
  unfold classIdentifier
  split
  · exact composes.answer _ _
  · exact identifier_composed composes names _ _

theorem baseClass_composed (refused : ∀ part place, kind (.unsupported part place))
    (type : ComplexType) (place : String) (before : Conversion) :
    holds (baseClass job type place) before := by
  unfold baseClass
  split
  · exact composes.answer _ _
  · split
    · exact composes.fail _ (refused _ _)
    · refine composes.chain (resolveType_composed composes names _ _ _) fun decl _ => ?_
      cases decl with
      | simple decl => exact composes.fail _ (refused _ _)
      | complex decl =>
          refine composes.chain (identifier_composed composes names _ _) fun _ _ => ?_
          exact composes.chain (scheduleOwner_composed composes _ _ _) fun _ _ =>
            composes.answer _ _

omit names

theorem requireSupported_composed {type : ComplexType} {place : String}
    (refused : ∀ part, kind (.unsupported part (some place))) (before : Conversion) :
    holds (requireSupported type place) before := by
  unfold requireSupported
  split
  · exact composes.answer _ _
  · exact composes.fail _ (refused _)

theorem requireMembers_composed {type : ComplexType} {place : String}
    (refused : ∀ part, kind (.unsupported part (some place))) (before : Conversion) :
    holds (requireMembers type place) before := by
  unfold requireMembers
  split
  · exact composes.answer _ _
  · exact composes.fail _ (refused _)

end Composes

/-- The name of a member is none, or the pattern cannot be filled with the name of its class. -/
theorem ofMember_fails (names : job.NamesAs kind) (name : Option String) (scope : String) :
    FailsOnly kind (orFail Failure.ofMember
      (Identifier.ofMember name scope job.settings.renamingPattern job.settings.cleanNames)) := by
  unfold Identifier.ofMember
  split
  · exact failsOnly_error (names.identifier _)
  · split
    · split
      · next unfilled => exact failsOnly_error (names.unfilled _ _ unfilled)
      · exact failsOnly_ok _
    · exact failsOnly_ok _

theorem typeOfMember_composed (translates : Translates kind holds) (names : job.NamesAs kind)
    (element target : ElementDecl) (memberName : String) (before : Conversion) :
    holds (typeOfMember job element target memberName) before := by
  have composes := translates.toComposes
  unfold typeOfMember
  split
  · exact composes.chain (translates.waits _ _ _) fun _ _ => composes.answer _ _
  · exact composes.chain (memberType_composed composes names _ _) fun _ _ =>
      spelled_composed composes names _ _

/-! ## Classes -/

theorem openArtifact?_composed (looks : Looks kind holds) (detached : kind .noArtifact)
    (before : Conversion) : holds openArtifact? before := by
  refine looks.read ?_
  split
  · exact looks.fail _ detached
  · exact looks.answer _ _

section Writes

variable (writes : Writes kind holds job)

include writes

theorem openArtifact_composed (path : String) (before : Conversion) :
    holds (openArtifact job path) before := by
  refine writes.chain (writes.report _ (.inl rfl)) fun _ _ => ?_
  refine writes.chain (writes.placed _ _) fun _ _ => ?_
  refine writes.chain (writes.written _ _) fun _ _ => ?_
  refine writes.chain ?_ fun _ _ => writes.written _ _
  exact forM_composed writes.toComposes _ fun _ _ => writes.written _ _

theorem withArtifact_composed {path : String} {work : Work Unit} {before : Conversion}
    (inside : ∀ state, holds work state) : holds (withArtifact job path work) before :=
  writes.shelved (writes.chain (openArtifact_composed writes _ _) fun _ middle => inside middle)

theorem openClass_composed (className : String) (base : Option String) (isAbstract : Bool)
    (before : Conversion) : holds (openClass className base isAbstract) before := by
  refine writes.chain (openArtifact?_composed writes.toLooks writes.detached _) fun _ _ => ?_
  refine writes.chain (writes.written _ _) fun _ _ => ?_
  split
  -- a class declared twice is reported by the writer
  · exact writes.report _ (.inr rfl)
  · exact writes.answer _ _

variable (names : job.NamesAs kind)

include names

theorem translateMember_composed (element : ElementDecl) (scope : String) (before : Conversion) :
    holds (translateMember job element scope) before := by
  have composes := writes.toComposes
  refine composes.chain (targetOf_composed composes names _ _) fun _ _ => ?_
  refine composes.chain (outcome_composed composes (ofMember_fails names _ _) _) fun _ _ => ?_
  refine composes.chain (typeOfMember_composed writes.toTranslates names _ _ _ _) fun _ _ => ?_
  exact writes.written _ _

theorem writeClass_composed (type : ComplexType) (marker : Arguments) (className : String)
    (base : Option String) (members : List ElementDecl) (before : Conversion) :
    holds (writeClass job type marker className base members) before := by
  refine writes.chain (writes.written _ _) fun _ _ => ?_
  refine writes.chain (openClass_composed writes _ _ _ _) fun _ _ => ?_
  refine writes.chain (writes.report _ (.inl rfl)) fun _ _ => ?_
  refine writes.chain ?_ fun _ _ => writes.written _ _
  exact forM_composed writes.toComposes _ fun _ _ => translateMember_composed writes names _ _ _

variable (refused : ∀ part place, kind (.unsupported part place))

include refused

theorem translateNew_composed (type : ComplexType) (name className : Option String)
    (before : Conversion) : holds (translateNew job type name className) before := by
  have composes := writes.toComposes
  refine composes.chain (requireSupported_composed composes (refused · _) _) fun _ _ => ?_
  refine composes.chain (classIdentifier_composed composes names _ _ _) fun _ _ => ?_
  refine composes.chain (baseClass_composed composes names refused _ _ _) fun _ _ => ?_
  refine composes.chain (requireMembers_composed composes (refused · _) _) fun _ _ => ?_
  refine composes.chain (openArtifact?_composed writes.toLooks writes.detached _) fun _ _ => ?_
  exact composes.look (fun _ => rfl) (writeClass_composed writes names _ _ _ _ _ _)

theorem translateComplexType_composed (type : ComplexType) (name className : Option String)
    (before : Conversion) : holds (translateComplexType job type name className) before := by
  refine writes.look (fun _ => rfl) ?_
  split
  · exact writes.report _ (.inl rfl)
  · next unmarked =>
      refine writes.chain (writes.marked (by simpa using unmarked)) fun _ _ => ?_
      exact translateNew_composed writes names refused _ _ _ _

end Writes

/-! ## Documents -/

theorem translateType_composed (composes : Composes kind holds)
    (refused : ∀ part place, kind (.unsupported part place))
    (classes : ∀ type name className before,
      holds (translateComplexType job type name className) before)
    (decl : TypeDecl) (before : Conversion) : holds (translateType job decl) before := by
  cases decl with
  | simple type => exact composes.fail _ (refused _ _)
  | complex type => exact classes _ _ _ _

section Translates

variable (translates : Translates kind holds)

include translates

theorem takeWaiting_composed (before : Conversion) : holds takeWaiting before := by
  refine translates.look (fun _ => rfl) ?_
  split
  · exact translates.answer _ _
  · next waiting =>
      exact translates.chain (translates.taken waiting) fun _ _ => translates.answer _ _

variable (classes : ∀ type name className before,
  holds (translateComplexType job type name className) before)

include classes

theorem flushWithin_composed (budget : Nat) (before : Conversion) :
    holds (flushWithin job budget) before := by
  induction budget generalizing before with
  | zero => exact translates.answer _ _
  | succ budget ih =>
      refine translates.chain (takeWaiting_composed translates _) fun taken _ => ?_
      cases taken with
      | none => exact translates.answer _ _
      | some waiting => exact translates.chain (classes _ _ _ _) fun _ middle => ih middle

theorem flushAnonymous_composed (before : Conversion) : holds (flushAnonymous job) before :=
  translates.look (fun _ => rfl) (flushWithin_composed translates classes _ _)

variable (names : job.NamesAs kind) (refused : ∀ part place, kind (.unsupported part place))

include names refused

theorem translateElement_composed (element : ElementDecl) (before : Conversion) :
    holds (translateElement job element) before := by
  have composes := translates.toComposes
  unfold translateElement
  split
  · exact classes _ _ _ _
  · exact composes.fail _ (refused _ _)
  · exact composes.fail _ (refused _ _)
  · split
    · exact composes.fail _ (refused _ _)
    · refine composes.chain (resolveType_composed composes names _ _ _) fun decl _ => ?_
      cases decl with
      | simple decl => exact composes.fail _ (refused _ _)
      | complex decl =>
          refine composes.chain (composes.report _ (.inl rfl)) fun _ _ => ?_
          exact scheduleOwner_composed composes _ _ _

theorem translateDocument_composed (document : Document) (before : Conversion) :
    holds (translateDocument job document) before := by
  have composes := translates.toComposes
  have flushed := flushAnonymous_composed translates classes
  refine composes.chain (composes.report _ (.inl rfl)) fun _ _ => ?_
  refine composes.chain (forM_composed composes _ fun element state => ?_) fun _ _ =>
    forM_composed composes _ fun decl state => ?_
  · exact composes.chain (translateElement_composed translates classes names refused _ _)
      fun _ _ => flushed _
  · exact composes.chain (translateType_composed composes refused classes _ _) fun _ _ => flushed _

theorem translateStored_composed (location : String) (before : Conversion) :
    holds (translateStored job location) before := by
  refine translates.look (fun _ => rfl) ?_
  split
  · exact translates.answer _ _
  · exact translateDocument_composed translates classes names refused _ _

end Translates

/-! ## The queue -/

theorem artifactPath_composed (looks : Looks kind holds) {location : String}
    (located : FailsOnly kind (orFail .host (Location.stem location))) (before : Conversion) :
    holds (artifactPath job location) before := by
  refine looks.chain (outcome_composed looks.toComposes located _) fun _ _ => ?_
  exact looks.read (looks.answer _ _)

theorem translateQueued_composed (looks : Looks kind holds) {location : String}
    (located : FailsOnly kind (orFail .host (Location.stem location)))
    (stored : ∀ before, holds (translateStored job location) before)
    (filed : ∀ path before, holds (withArtifact job path (translateStored job location)) before)
    (before : Conversion) : holds (translateQueued job location) before := by
  unfold translateQueued
  split
  · exact stored before
  · exact looks.chain (artifactPath_composed looks located _) fun _ _ => filed _ _

section Dequeues

variable (dequeues : Dequeues kind holds)

include dequeues

theorem dequeue_composed (before : Conversion) : holds dequeue before := by
  refine dequeues.look (fun _ => rfl) ?_
  split
  · exact dequeues.answer _ _
  · next waiting => exact dequeues.chain (dequeues.dequeued waiting) fun _ _ => dequeues.answer _ _

theorem drain_composed (each : ∀ location before, holds (translateQueued job location) before)
    (before : Conversion) : holds (drain job) before := by
  refine dequeues.look (fun _ => rfl) ?_
  generalize before.queue.length + before.store.entries.length = budget
  induction budget generalizing before with
  | zero => exact dequeues.answer _ _
  | succ budget ih =>
      refine dequeues.chain (dequeue_composed dequeues _) fun taken _ => ?_
      cases taken with
      | none => exact dequeues.answer _ _
      | some location => exact dequeues.chain (each _ _) fun _ middle => ih middle

end Dequeues

/-! ## Runs -/

section Seeds

variable (seeds : Seeds kind holds job)

include seeds

theorem probeInput_composed (location : String) (before : Conversion) :
    holds (probeInput job location) before := by
  have located := Location.canonical_fails seeds.faults job.source.directory location none
  refine seeds.chain (outcome_composed seeds.toComposes located _) fun key _ => ?_
  refine seeds.chain (seeds.probed key _) fun there _ => ?_
  split
  · exact seeds.answer _ _
  · exact seeds.fail _ (seeds.missing location)

theorem seedAll_composed (locations : List String) (before : Conversion) :
    holds (seedAll job locations) before := by
  induction locations generalizing before with
  | nil => exact seeds.answer _ _
  | cons location rest ih =>
      refine seeds.onward (seeds.loaded location _) fun key middle loaded => ?_
      obtain ⟨store, returned, rfl⟩ := loaded.of_within
      have stored : (store.at? key).isSome := Store.load_stored returned
      refine seeds.chain (schedule_composed seeds.toComposes (seeds.queued stored)) fun _ _ => ?_
      exact seeds.chain (ih _) fun _ _ => seeds.answer _ _

theorem seed_composed (before : Conversion) : holds (seed job) before := by
  refine seeds.chain ?_ fun _ _ => seedAll_composed seeds _ _
  exact forM_composed seeds.toComposes _ (probeInput_composed seeds)

end Seeds

theorem translateFrom_composed (composes : Composes kind holds) {seeds : List String}
    (shared : FailsOnly kind (orFail .host (sharedPath job seeds)))
    (drained : ∀ before, holds (drain job) before)
    (filed : ∀ path before, holds (withArtifact job path (drain job)) before)
    (before : Conversion) : holds (translateFrom job seeds) before := by
  unfold translateFrom
  split
  · exact composes.chain (outcome_composed composes shared _) fun _ _ => filed _ _
  · exact drained before

/-! ## What is stepped through and kept, and how tasks fail -/

theorem follows_composes {step : Conversion → Conversion → Prop}
    (queued : ∀ {before : Conversion} {location : String}, (before.store.at? location).isSome →
      location ∉ before.processed → step before (before.enqueue location)) :
    Composes (fun _ => True) fun task before => Follows step task before where
  answer := Task.follows_pure
  fail before _ := Task.follows_throw _ before
  report before _ := Task.follows_say _ before
  chain first rest := Task.follows_bind first fun value middle _ => rest value middle
  look _ rest := Task.follows_current_bind rest
  queued stored unmet := Task.follows_change _ _ (queued stored unmet)

theorem follows_seeds {step : Conversion → Conversion → Prop}
    (composes : Composes (fun _ => True) fun task before => Follows step task before)
    (loads : ∀ {before : Conversion} {store : Store},
      Store.Step job.source before.store store → step before { before with store := store }) :
    Seeds (fun _ => True) (fun task before => Follows step task before) job where
  toComposes := composes
  onward := Task.follows_bind
  faults _ _ _ _ := trivial
  missing _ := trivial
  probed _ before := Task.follows_ask _ before
  loaded location before :=
    Task.follows_within (Store.load_follows job.source location before.store)
      (fun _ _ step => loads step) rfl

/-- What a report and a document more in the queue leave as it is. -/
theorem keepsFrom_composes {kept : Logged Conversion → Logged Conversion → Prop}
    [IsPreorder (Logged Conversion) kept]
    (report : ∀ {notice}, OwnNotice notice → Keeps kept (Task.say notice))
    (queued : ∀ location, Keeps kept (Task.change (enqueue location))) :
    Composes (fun _ => True) fun task before => KeepsFrom kind kept task before where
  answer value before := (Task.keeps_pure value).from before
  fail before _ := (Task.keeps_throw _).from before
  report before own := (report own).from before
  chain first rest := Task.keepsFrom_bind first fun value middle _ => rest value middle
  look _ rest := Task.keepsFrom_current_bind rest
  queued _ _ := (queued _).from _

theorem failsFrom_looks : Looks kind fun task before => FailsFrom kind task before where
  answer value before := (Task.failsOnly_pure value).from before
  fail before allowed := (Task.failsOnly_throw allowed).from before
  report before _ := (Task.failsOnly_say _).from before
  chain first rest := Task.failsFrom_bind first fun value middle _ => rest value middle
  look _ rest := Task.failsFrom_current_bind rest
  queued _ _ := (Task.failsOnly_change _).from _
  read := Task.failsFrom_current_bind

/-- Scheduling does not fail, also where nobody owns the declaration. -/
theorem scheduleOwner_sure (home : Home) (declaration : Option String) :
    Task.FailsOnly kind (scheduleOwner home declaration) :=
  Task.failsOnly_of_from (scheduleOwner_composed failsFrom_looks.toComposes home declaration)

end Conversion

end SchemaSharp
