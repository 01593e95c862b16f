import SchemaSharp.Proofs.Location.Faults
import SchemaSharp.Proofs.Schema.Reading
import SchemaSharp.Store

/-!
How something is shown of all loading. A load asks its source, opens documents, marks references and
reports; a judgement of tasks that holds of these, and of a whole if it holds of its parts, holds of
the load. The way there is gone here once, for any judgement.
-/

namespace SchemaSharp.Store

open Schema (Document Home QName)
open SchemaSharp.Task (Returns Follows FailsFrom)

/-! ## Opening a document -/

theorem mem_locations_iff (store : Store) (location : String) :
    location ∈ store.entries.map Entry.location ↔ (store.at? location).isSome := by
  rw [at?, List.find?_isSome]
  simp

theorem entries_add (document : Document) (inherited : Option String) (store : Store) :
    (store.add document inherited).1.entries =
      store.entries ++ [⟨document, effectiveSpace document inherited⟩] := rfl

theorem enter_speaker {α : Type} (kind : String) (space : Option String)
    (nameOf : α → Option String) (decls : List α) (index : List (QName × α)) :
    ∀ notice ∈ (enter kind space nameOf decls index).2, notice.speaker = .store := by
  induction decls generalizing index with
  | nil => simp [enter]
  | cons decl rest ih =>
      unfold enter
      split
      · exact ih index
      · next text _ =>
          dsimp only
          split
          · exact ih _
          · -- the name is taken, and the store reports the duplicate
            intro notice member
            rcases List.mem_cons.mp member with rfl | later
            · rfl
            · exact ih index notice later

theorem add_speaker (document : Document) (inherited : Option String) (store : Store) :
    ∀ notice ∈ (store.add document inherited).2, notice.speaker = .store := by
  intro notice member
  rcases List.mem_append.mp member with type | element
  · exact enter_speaker _ _ _ _ _ notice type
  · exact enter_speaker _ _ _ _ _ notice element

theorem loadOne_returns {source : Source} {location : String} {inherited : Option String}
    {before after : Store} {document : Document}
    (returned : Returns (loadOne source location inherited) before document after) :
    before.at? location = none ∧
      (∃ content, (source.fetch location).2 = .ok content ∧
        Document.ofBytes ⟨location, before.edition⟩ content = .ok document) ∧
      after = (before.add document inherited).1 := by
  unfold loadOne at returned
  obtain ⟨content, _, asked, rest⟩ := returned.of_bind
  obtain ⟨fetched, rfl⟩ := asked.of_ask
  obtain ⟨read, parsed, rest⟩ := rest.of_current_bind.of_outcome_bind
  obtain ⟨_, middle, registered, rest⟩ := rest.of_bind
  obtain ⟨rfl, rfl⟩ := rest.of_say_bind.of_pure
  unfold register at registered
  have registered := registered.of_current_bind
  split at registered
  · exact absurd registered Returns.of_throw
  · next absent =>
      have place : document.location = location :=
        congrArg Home.location (Schema.ofBytes_fresh parsed).home_eq
      refine ⟨by simpa [place] using absent, ⟨content, fetched, parsed⟩, ?_⟩
      exact registered.of_change_bind.of_notices

/-- A document that was opened is there. -/
theorem loadOne_stored {source : Source} {location : String} {inherited : Option String}
    {before after : Store} {document : Document}
    (returned : Returns (loadOne source location inherited) before document after) :
    (after.at? location).isSome := by
  obtain ⟨_, ⟨content, _, read⟩, rfl⟩ := loadOne_returns returned
  have place : document.location = location :=
    congrArg Home.location (Schema.ofBytes_fresh read).home_eq
  rw [← mem_locations_iff, entries_add]
  simp [Entry.location, place]

/-! ## Judgements -/

/-- A judgement of tasks, each with the store that it is started in. It holds of a whole if it holds
of the parts, and of what a load does: only what is not stored is opened, references are marked with
what is stored, and the references that are marked may be limited. -/
structure Loads (source : Source) (kind : Failure → Prop) (allowed : Pending → Prop)
    (holds : ∀ {α : Type}, Task Store α → Store → Prop) : Prop where
  answer : ∀ {α : Type} (value : α) (before : Store), holds (pure value) before
  fail : ∀ {α : Type} {failure : Failure} (before : Store), kind failure →
    holds (throw failure : Task Store α) before
  report : ∀ {notice : Notice} (before : Store), notice.speaker = .store →
    holds (Task.say notice) before
  chain : ∀ {α β : Type} {task : Task Store α} {next : α → Task Store β} {before : Store},
    holds task before →
      (∀ value middle, Returns task before value middle → holds (next value) middle) →
        holds (task >>= next) before
  look : ∀ {β : Type} {next : Store → Task Store β} {before : Store}, holds (next before) before →
    holds (Task.current >>= next) before
  faults : Location.FaultsAre kind
  probed : ∀ (location : String) (before : Store), holds (Task.ask (source.probe location)) before
  opened : ∀ {location : String} {before : Store} (inherited : Option String),
    before.at? location = none → holds (loadOne source location inherited) before
  marked : ∀ {pending : Pending} {target : String} {before : Store}, allowed pending →
    (before.at? target).isSome → holds (Task.change (markResolved pending target)) before

theorem candidates_fails {kind : Failure → Prop} (faults : Location.FaultsAre kind)
    (directory : FilePath) (store : Store) (referrer schemaLocation : String) :
    FailsOnly kind (orFail .host (candidates directory store referrer schemaLocation)) := by
  unfold candidates
  rw [orFail_bind]
  refine failsOnly_bind (Location.canonical_fails faults _ _ _) fun beside => ?_
  rw [orFail_bind]
  refine failsOnly_bind (failsOnly_mapM fun base => ?_) fun below => failsOnly_ok _
  rw [orFail_bind]
  refine failsOnly_bind (Location.canonical_fails faults _ _ _) fun whole => ?_
  rw [orFail_bind]
  exact failsOnly_bind (Location.canonical_fails faults _ _ _) fun bare => failsOnly_ok _

section Loads

variable {source : Source} {kind : Failure → Prop} {allowed : Pending → Prop}
  {holds : ∀ {α : Type}, Task Store α → Store → Prop} (loads : Loads source kind allowed holds)

include loads

theorem outcome_composed {α : Type} {result : Except Failure α} (fails : FailsOnly kind result)
    (before : Store) : holds (Task.outcome result) before := by
  cases result with
  | ok value => exact loads.answer value before
  | error failure => exact loads.fail before (fails failure rfl)

theorem tryCandidates_composed {pending : Pending} (may : allowed pending)
    (schemaLocation : String) (found : List String) (before : Store) :
    holds (tryCandidates source pending schemaLocation found) before := by
  induction found generalizing before with
  | nil => exact loads.chain (loads.report _ rfl) fun _ _ _ => loads.answer _ _
  | cons candidate rest ih =>
      have marking : ∀ (answer : Option Document) {state : Store}, (state.at? candidate).isSome →
          holds (do Task.change (markResolved pending candidate); return answer : Task Store _)
            state :=
        fun _ _ stored => loads.chain (loads.marked may stored) fun _ _ _ => loads.answer _ _
      refine loads.look ?_
      split
      · next stored => exact marking none stored
      · next absent =>
          refine loads.chain (loads.probed _ _) fun there middle asked => ?_
          obtain ⟨_, rfl⟩ := asked.of_ask
          split
          · have missing : middle.at? candidate = none := by simpa using absent
            refine loads.chain (loads.opened _ missing) fun document last opened => ?_
            exact marking (some document) (loadOne_stored opened)
          · exact ih middle

theorem resolve_composed {pending : Pending} (may : allowed pending) (before : Store) :
    holds (resolve source pending) before := by
  unfold resolve
  split
  · exact loads.chain (loads.report _ rfl) fun _ _ _ => loads.answer _ _
  · refine loads.look ?_
    have located := candidates_fails loads.faults source.directory before
    refine loads.chain (outcome_composed loads (located _ _) _) fun found middle _ => ?_
    exact tryCandidates_composed loads may _ _ _

theorem advance_composed {work : List Pending} (may : ∀ pending ∈ work, allowed pending)
    (before : Store) : holds (advance source work) before := by
  induction work generalizing before with
  | nil => exact loads.answer _ _
  | cons pending rest ih =>
      have first : allowed pending := may pending (by simp)
      refine loads.chain (resolve_composed loads first _) fun answer middle _ => ?_
      cases answer with
      | none => exact ih (fun other member => may other (List.mem_cons_of_mem _ member)) middle
      | some document => exact loads.answer _ _

variable (all : ∀ pending, allowed pending) (tired : kind .outOfPatience)

include all tired

theorem follow_composed (patience : Nat) (work : List Pending) (before : Store) :
    holds (follow source patience work) before := by
  induction patience generalizing work before with
  | zero =>
      cases work with
      | nil => exact loads.answer _ _
      | cons pending rest => exact loads.fail _ tired
  | succ patience ih =>
      cases work with
      | nil => exact loads.answer _ _
      | cons pending rest =>
          refine loads.chain (advance_composed loads (fun other _ => all other) _)
            fun reached middle _ => ?_
          cases reached with
          | none => exact loads.answer _ _
          | some found => exact ih _ middle

theorem load_composed (location : String) (before : Store) :
    holds (load source location) before := by
  have located := Location.canonical_fails loads.faults source.directory location none
  refine loads.chain (outcome_composed loads located _) fun key middle _ => loads.look ?_
  split
  · exact loads.answer _ _
  · next absent =>
      have missing : middle.at? key = none := by simpa using absent
      refine loads.chain (loads.opened _ missing) fun document _ _ => ?_
      exact loads.chain (follow_composed loads all tired _ _ _) fun _ _ _ => loads.answer _ _

end Loads

/-! ## What is stepped through, and how tasks fail -/

variable {source : Source} {allowed : Pending → Prop}

theorem follows_loads {step : Store → Store → Prop}
    (opened : ∀ location inherited before, Follows step (loadOne source location inherited) before)
    (marked : ∀ {pending target before}, allowed pending → (before.at? target).isSome →
      step before (markResolved pending target before)) :
    Loads source (fun _ => True) allowed fun task before => Follows step task before where
  answer := Task.follows_pure
  fail before _ := Task.follows_throw _ before
  report before _ := Task.follows_say _ before
  chain := Task.follows_bind
  look := Task.follows_current_bind
  faults _ _ _ _ := trivial
  probed _ before := Task.follows_ask _ before
  opened inherited _ := opened _ inherited _
  marked may stored := Task.follows_change _ _ (marked may stored)

theorem failsFrom_loads {kind : Failure → Prop} (faults : Location.FaultsAre kind)
    (probed : ∀ location, FailsOnly kind (source.probe location).2)
    (opened : ∀ {location before} inherited, before.at? location = none →
      FailsFrom kind (loadOne source location inherited) before) :
    Loads source kind (fun _ => True) fun task before => FailsFrom kind task before where
  answer value := (Task.failsOnly_pure value).from
  fail before allowed := (Task.failsOnly_throw allowed).from before
  report before _ := (Task.failsOnly_say _).from before
  chain := Task.failsFrom_bind
  look := Task.failsFrom_current_bind
  faults := faults
  probed location := (Task.failsOnly_ask (probed location)).from
  opened := opened
  marked _ _ := (Task.failsOnly_change _).from _

end SchemaSharp.Store
