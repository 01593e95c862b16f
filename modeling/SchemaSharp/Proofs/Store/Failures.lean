import SchemaSharp.Proofs.Location.Faults
import SchemaSharp.Proofs.Schema.Failures
import SchemaSharp.Proofs.Store.Sound
import SchemaSharp.World

/-!
How loading fails. Nothing is written while documents are loaded, so that whatever goes wrong there
is no failure of the writing; and every document that a world holds can give its name to an
artifact.
-/

namespace SchemaSharp

/-- Failures of the writing itself, in contrast to those of the schemas. -/
def Failure.isWriting : Failure → Bool
  | .writer _ => true
  | .noArtifact => true
  | _ => false

/-- An outcome that is no failure of the writing. -/
abbrev Proper {α : Type} (result : Except Failure α) : Prop :=
  FailsOnly (fun failure => failure.isWriting = false) result

theorem Failure.Concerns.mild {failure : Failure} {location : String}
    (concerns : failure.Concerns location) : failure.isWriting = false := by
  cases failure with
  | writer fault => exact concerns.elim
  | noArtifact => exact concerns.elim
  | _ => rfl

/-! ## Sources -/

/-- A source that fails for its own reasons only, and whose documents can name an artifact. -/
structure Source.Civil (source : Source) : Prop where
  probe : ∀ location, Proper (source.probe location).2
  fetch : ∀ location, Proper (source.fetch location).2
  named : ∀ location content, (source.fetch location).2 = .ok content →
    ∃ stem, Location.stem location = .ok stem

namespace World

variable {kind : Failure → Prop}

theorem probe_fails (faults : Location.FaultsAre kind) (world : World) (location : String) :
    FailsOnly kind (world.probe location).2 := by
  unfold probe
  split
  · next failed => exact failsOnly_error ((Location.isRemote_fails faults _).of_orFail failed)
  · unfold probeWeb
    split
    · exact failsOnly_ok _
    · split <;> exact failsOnly_ok _
  · unfold probeFile
    split
    · next failed => exact failsOnly_error ((Location.localPath_fails faults _).of_orFail failed)
    · exact failsOnly_ok _

theorem readFile_fails (faults : Location.FaultsAre kind)
    (absent : ∀ fault location, kind (.fetch fault location)) (world : World) (location : String) :
    FailsOnly kind (world.readFile location) := by
  unfold readFile
  split
  · next failed => exact failsOnly_error ((Location.localPath_fails faults _).of_orFail failed)
  · split
    · exact failsOnly_ok _
    · split <;> exact failsOnly_error (absent _ _)

theorem readWeb_fails (absent : ∀ fault location, kind (.fetch fault location)) (world : World)
    (address : String) : FailsOnly kind (world.readWeb address) := by
  unfold readWeb
  split
  · exact failsOnly_error (absent _ _)
  · split
    · exact failsOnly_error (absent _ _)
    · split
      · exact failsOnly_ok _
      · exact failsOnly_error (absent _ _)

theorem fetch_fails (faults : Location.FaultsAre kind)
    (absent : ∀ fault location, kind (.fetch fault location))
    (refused : ∀ location, kind (.unsupported .remoteLoading (some location))) (world : World)
    (allowRemote : Bool) (location : String) :
    FailsOnly kind (world.fetch allowRemote location).2 := by
  unfold fetch
  split
  · next failed => exact failsOnly_error ((Location.isRemote_fails faults _).of_orFail failed)
  · split
    · exact readWeb_fails absent world location
    · exact failsOnly_error (refused _)
  · exact readFile_fails faults absent world location

/-- What cannot be taken apart is not looked for. -/
theorem stem_of_fetch {world : World} {allowRemote : Bool} {location : String}
    {content : List UInt8} (fetched : (world.fetch allowRemote location).2 = .ok content) :
    ∃ stem, Location.stem location = .ok stem := by
  cases read : Location.Reference.read location.toList [] with
  | error fault =>
      have refused : Location.isRemote location = .error fault := by
        simp [Location.isRemote, Location.schemeOf, read, Except.map]
      rw [fetch, refused] at fetched
      cases fetched
  | ok reference =>
      unfold Location.stem
      rw [read]
      exact ⟨_, rfl⟩

theorem source_civil (world : World) (allowRemote : Bool) : (world.source allowRemote).Civil where
  probe location := world.probe_fails (fun _ _ _ _ => rfl) location
  fetch location :=
    world.fetch_fails (fun _ _ _ _ => rfl) (fun _ _ => rfl) (fun _ => rfl) allowRemote location
  named _ _ fetched := stem_of_fetch fetched

end World

/-! ## Kinds of failures -/

/-- All that can go wrong in loading from a source is of a kind: what the source answers, what is
found in its documents, locations that cannot be taken apart, and what loading has to say itself. -/
structure Source.FailsAs (kind : Failure → Prop) (source : Source) : Prop where
  probe : ∀ location, FailsOnly kind (source.probe location).2
  fetch : ∀ location, FailsOnly kind (source.fetch location).2
  read : ∀ location content edition, (source.fetch location).2 = .ok content →
    FailsOnly kind (Schema.Document.ofBytes ⟨location, edition⟩ content)
  faults : Location.FaultsAre kind
  repeated : ∀ location, kind (.load .alreadyLoaded location)
  missing : ∀ location, kind (.load .inputMissing location)
  tired : kind .outOfPatience

theorem Source.Civil.failsAs {source : Source} (civil : source.Civil) :
    source.FailsAs (·.isWriting = false) where
  probe := civil.probe
  fetch := civil.fetch
  read location content edition _ :=
    (Schema.ofBytes_fails ⟨location, edition⟩ content).of_imp fun _ concerns => concerns.mild
  faults _ _ _ _ := rfl
  repeated _ := rfl
  missing _ := rfl
  tired := rfl

namespace Store

open Schema (Document)

variable {source : Source} {kind : Failure → Prop}

/-! ## Loading -/

theorem searchBase_fails (faults : Location.FaultsAre kind) (directory : FilePath) (path : String) :
    FailsOnly kind (orFail .host (searchBase directory path)) := by
  unfold searchBase
  rw [orFail_bind]
  exact failsOnly_bind (Location.canonical_fails faults _ _ _) fun _ => failsOnly_ok _

theorem start_fails (faults : Location.FaultsAre kind) (directory : FilePath) (edition : Nat)
    (paths : List String) : FailsOnly kind (orFail .host (start directory edition paths)) := by
  unfold start
  rw [orFail_bind]
  exact failsOnly_bind (failsOnly_mapM fun path => searchBase_fails faults directory path)
    fun _ => failsOnly_ok _

theorem register_fails (fails : source.FailsAs kind) (document : Document)
    (inherited : Option String) : Task.FailsOnly kind (register document inherited) := by
  refine Task.failsOnly_bind Task.failsOnly_current fun store => ?_
  split
  · exact Task.failsOnly_throw (fails.repeated _)
  · exact Task.failsOnly_bind (Task.failsOnly_change _) fun _ =>
      Task.failsOnly_forM Task.failsOnly_say

theorem loadOne_fails (fails : source.FailsAs kind) (location : String)
    (inherited : Option String) : Task.FailsOnly kind (loadOne source location inherited) := by
  refine Task.failsOnly_bind_returns (Task.failsOnly_ask (fails.fetch location)) ?_
  intro content before after asked
  refine Task.failsOnly_bind Task.failsOnly_current fun store => ?_
  have read := fails.read location content store.edition asked.of_ask.1
  refine Task.failsOnly_bind (Task.failsOnly_outcome read) fun document => ?_
  refine Task.failsOnly_bind (register_fails fails document inherited) fun _ => ?_
  exact Task.failsOnly_bind (Task.failsOnly_say _) fun _ => Task.failsOnly_pure _

/-- Loading fails because of the locations, the source or the schemas. -/
theorem load_fails (fails : source.FailsAs kind) (location : String) :
    Task.FailsOnly kind (load source location) := by
  have loads := failsFrom_loads fails.faults fails.probe fun inherited _ =>
    (loadOne_fails fails _ inherited).from _
  exact Task.failsOnly_of_from (load_composed loads (fun _ => trivial) fails.tired location)

/-! ## Names for artifacts -/

/-- Every stored document can give its name to an artifact. -/
def Nameable (store : Store) : Prop :=
  ∀ entry ∈ store.entries, ∃ stem, Location.stem entry.location = .ok stem

theorem Sound.nameable {store : Store} (sound : store.Sound source) (civil : source.Civil) :
    store.Nameable := by
  intro entry member
  obtain ⟨content, fetched, _⟩ := sound.read entry member
  exact civil.named _ content fetched

end Store

end SchemaSharp
