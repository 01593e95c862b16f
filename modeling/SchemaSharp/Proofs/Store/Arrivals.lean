import Mathlib.Data.Set.Card
import SchemaSharp.Proofs.Schema.Failures
import SchemaSharp.Proofs.Store.Closure

/-!
What becomes of one reference. Following it fails and leaves the store as it was, or brings in one
document that was not there, or changes nothing but the mark of the reference itself. A load fails
for the reasons of others: a location that cannot be read, an answer of the source, the contents of
a document. Only its patience is its own, and it runs out only where the source has as many
documents left.
-/

namespace SchemaSharp

/-- A failure that the source itself gives as an answer. -/
def Source.Answers (source : Source) (failure : Failure) : Prop :=
  ∃ location, (source.probe location).2 = .error failure ∨
    (source.fetch location).2 = .error failure

namespace Store

open Schema (Document Reference Home)
open SchemaSharp.Task (Returns Follows FailsFrom Unharmed)
open Relation (ReflTransGen)

variable {source : Source} {before after : Store}

/-! ## One reference -/

/-- A document that newly came in through a reference. -/
structure Arrival (source : Source) (pending : Pending) (before : Store) (document : Document)
    (after : Store) : Prop where
  absent : before.at? document.location = none
  there : source.has document.location
  read : ∃ content, (source.fetch document.location).2 = .ok content ∧
    Document.ofBytes ⟨document.location, before.edition⟩ content = .ok document
  after_eq :
    after = markResolved pending document.location (before.add document pending.inherited).1

theorem resolve_resolution {pending : Pending} {answer : Option Document}
    (returned : Returns (resolve source pending) before answer after) :
    (answer = none ∧ after = before) ∨
      ∃ found, Resolution source pending found before answer after := by
  unfold resolve at returned
  split at returned
  · obtain ⟨rfl, rfl⟩ := returned.of_say_bind.of_pure
    exact .inl ⟨rfl, rfl⟩
  · obtain ⟨found, _, tried⟩ := returned.of_current_bind.of_outcome_bind
    exact .inr ⟨found, tryCandidates_resolution tried⟩

theorem resolve_arrival {pending : Pending} {document : Document}
    (returned : Returns (resolve source pending) before (some document) after) :
    Arrival source pending before document after := by
  rcases resolve_resolution returned with ⟨nothing, _⟩ | ⟨found, resolution⟩
  · cases nothing
  · cases resolution with
    | @loaded target _ middle first brought =>
        obtain ⟨absent, ⟨content, fetched, read⟩, rfl⟩ := loadOne_returns brought
        have place : document.location = target :=
          congrArg Home.location (Schema.ofBytes_fresh read).home_eq
        subst place
        have offered : before.offers source document.location = true := List.find?_some first
        have there : source.has document.location = true := by simpa [offers, absent] using offered
        exact ⟨absent, there, ⟨content, fetched, read⟩, rfl⟩

theorem resolve_nothing {pending : Pending}
    (returned : Returns (resolve source pending) before none after) :
    after = before ∨ ∃ target, after = markResolved pending target before := by
  rcases resolve_resolution returned with ⟨_, same⟩ | ⟨found, resolution⟩
  · exact .inl same
  · cases resolution with
    | nowhere missing => exact .inl rfl
    | known first stored => exact .inr ⟨_, rfl⟩

/-- Registering fails only before anything is entered, and all that can fail in loading comes before
that. -/
theorem loadOne_unharmed (source : Source) (location : String) (inherited : Option String) :
    Unharmed (loadOne source location inherited) := by
  refine Task.unharmed_bind_of_still (Task.follows_ask _) fun content => ?_
  refine Task.unharmed_bind_of_still (fun _ _ => .refl) fun store => ?_
  refine Task.unharmed_bind_of_still (Task.follows_outcome _) fun document => ?_
  refine Task.unharmed_bind_of_sure ?_ fun _ =>
    Task.failsOnly_bind (Task.failsOnly_say _) fun _ => Task.failsOnly_pure _
  refine Task.unharmed_bind_of_still (fun _ _ => .refl) fun store => ?_
  split
  · exact Task.unharmed_throw _
  · exact Task.unharmed_of_sure (Task.failsOnly_bind (Task.failsOnly_change _) fun _ =>
      Task.failsOnly_forM Task.failsOnly_say)

theorem tryCandidates_unharmed (source : Source) (pending : Pending) (schemaLocation : String)
    (found : List String) : Unharmed (tryCandidates source pending schemaLocation found) := by
  induction found with
  | nil =>
      exact Task.unharmed_of_sure
        (Task.failsOnly_bind (Task.failsOnly_say _) fun _ => Task.failsOnly_pure _)
  | cons candidate rest ih =>
      refine Task.unharmed_bind_of_still (fun _ _ => .refl) fun store => ?_
      have marking : ∀ answer : Option Document, Task.FailsOnly (fun _ => False)
          (do Task.change (markResolved pending candidate); return answer : Task Store _) :=
        fun _ => Task.failsOnly_bind (Task.failsOnly_change _) fun _ => Task.failsOnly_pure _
      split
      · exact Task.unharmed_of_sure (marking none)
      · refine Task.unharmed_bind_of_still (Task.follows_ask _) fun there => ?_
        split
        · exact Task.unharmed_bind_of_sure (loadOne_unharmed _ _ _) fun document =>
            marking (some document)
        · exact ih

theorem resolve_unharmed (source : Source) (pending : Pending) :
    Unharmed (resolve source pending) := by
  unfold resolve
  split
  · exact Task.unharmed_of_sure
      (Task.failsOnly_bind (Task.failsOnly_say _) fun _ => Task.failsOnly_pure _)
  · refine Task.unharmed_bind_of_still (fun _ _ => .refl) fun store => ?_
    exact Task.unharmed_bind_of_still (Task.follows_outcome _) fun found =>
      tryCandidates_unharmed _ _ _ _

/-- The first reference that brings in a document leaves those behind it to be followed. -/
theorem advance_arrival {work rest : List Pending} {document : Document}
    (returned : Returns (advance source work) before (some (document, rest)) after) :
    ∃ passed pending middle, work = passed ++ pending :: rest ∧
      ReflTransGen (Step source) before middle ∧ Arrival source pending middle document after := by
  induction work generalizing before with
  | nil =>
      obtain ⟨never, _⟩ := returned.of_pure
      cases never
  | cons pending others ih =>
      obtain ⟨answer, middle, resolved, further⟩ := returned.of_bind
      cases answer with
      | some brought =>
          obtain ⟨same, rfl⟩ := further.of_pure
          cases same
          exact ⟨[], pending, before, rfl, .refl, resolve_arrival resolved⟩
      | none =>
          have steps := (resolve_follows source pending before).steps_of_returns resolved
          obtain ⟨passed, last, inner, rfl, more, arrival⟩ := ih further
          exact ⟨pending :: passed, last, inner, rfl, steps.trans more, arrival⟩

/-! ## Failures -/

/-- What can make a load fail, its patience apart. -/
inductive Trouble (source : Source) : Failure → Prop where
  | place (fault : Location.HostFault) : Trouble source (.host fault)
  | answered {failure : Failure} (answers : source.Answers failure) : Trouble source failure
  | contents {failure : Failure} {location : String} (concerns : failure.Concerns location) :
      Trouble source failure

theorem loadOne_troubles {location : String} (inherited : Option String)
    (absent : before.at? location = none) :
    FailsFrom (Trouble source) (loadOne source location inherited) before := by
  refine Task.failsFrom_bind ?_ fun content middle asked => ?_
  · refine (Task.failsOnly_ask fun failure failed => ?_).from before
    exact .answered ⟨location, .inr failed⟩
  · obtain ⟨_, rfl⟩ := asked.of_ask
    refine Task.failsFrom_current_bind (Task.failsFrom_bind ?_ fun document _ read => ?_)
    · refine (Task.failsOnly_outcome ?_).from middle
      exact (Schema.ofBytes_fails _ content).of_imp fun _ => .contents
    · obtain ⟨read, rfl⟩ := read.of_outcome
      have place : document.location = location :=
        congrArg Home.location (Schema.ofBytes_fresh read).home_eq
      refine Task.failsFrom_bind (Task.failsFrom_current_bind ?_) fun _ last _ => ?_
      · simp only [place, absent]
        exact (Task.failsOnly_bind (Task.failsOnly_change _) fun _ =>
          Task.failsOnly_forM Task.failsOnly_say).from _
      · exact (Task.failsOnly_bind (Task.failsOnly_say _) fun _ => Task.failsOnly_pure _).from last

theorem advance_troubles (work : List Pending) (before : Store) :
    FailsFrom (Trouble source) (advance source work) before := by
  refine advance_composed (failsFrom_loads ?_ ?_ ?_) (fun _ _ => trivial) before
  · exact fun _ _ fault _ => .place fault
  · exact fun location failure failed => .answered ⟨location, .inl failed⟩
  · exact fun inherited absent => loadOne_troubles inherited absent

/-! ## Patience -/

/-- The locations where a document is said to be that is not stored yet. -/
def unseen (source : Source) (store : Store) : Set String :=
  {location | source.has location ∧ store.at? location = none}

theorem unseen_subset_of_steps (steps : ReflTransGen (Step source) before after) :
    unseen source after ⊆ unseen source before := by
  rintro location ⟨there, absent⟩
  refine ⟨there, ?_⟩
  by_contra stored
  have kept := isSome_at?_of_steps steps (Option.isSome_iff_ne_none.mpr stored)
  simp [absent] at kept

theorem encard_unseen_of_follows {α : Type} {task : Task Store α} {value : α}
    (follows : Follows (Step source) task before) (returned : Returns task before value after) :
    (unseen source after).encard ≤ (unseen source before).encard :=
  Set.encard_le_encard (unseen_subset_of_steps (follows.steps_of_returns returned))

/-- A bound on what is unseen can go down by one with what is unseen. -/
theorem unseen_lt {bound : Nat}
    (fewer : (unseen source after).encard + 1 ≤ (unseen source before).encard)
    (enough : (unseen source before).encard < (bound + 1 : Nat)) :
    (unseen source after).encard < bound := by
  rw [Nat.cast_add, Nat.cast_one] at enough
  exact lt_of_add_lt_add_right (fewer.trans_lt enough)

/-- What came in was unseen and is so no longer. -/
theorem Arrival.encard_unseen {pending : Pending} {document : Document}
    (arrival : Arrival source pending before document after) :
    (unseen source after).encard + 1 ≤ (unseen source before).encard := by
  have stored : (after.at? document.location).isSome := by
    rw [arrival.after_eq, ← mem_locations_iff, locations_markResolved, entries_add]
    simp [Entry.location]
  have gone : document.location ∉ unseen source after := fun still => by
    rw [still.2] at stored
    cases stored
  -- the new location was unseen, and nothing that was seen becomes unseen
  have inside : insert document.location (unseen source after) ⊆ unseen source before := by
    obtain ⟨content, fetched, read⟩ := arrival.read
    have added : Step source before (before.add document pending.inherited).1 :=
      .add _ arrival.absent fetched read
    have marked : Step source (before.add document pending.inherited).1 after := by
      rw [arrival.after_eq]
      refine .mark pending ?_
      rw [← mem_locations_iff, entries_add]
      simp [Entry.location]
    refine Set.insert_subset ⟨arrival.there, arrival.absent⟩ ?_
    exact unseen_subset_of_steps (.head added (.single marked))
  rw [← Set.encard_insert_of_notMem gone]
  exact Set.encard_le_encard inside

theorem advance_encard_unseen {work rest : List Pending} {document : Document}
    (returned : Returns (advance source work) before (some (document, rest)) after) :
    (unseen source after).encard + 1 ≤ (unseen source before).encard := by
  obtain ⟨_, _, _, _, steps, arrival⟩ := advance_arrival returned
  exact arrival.encard_unseen.trans (Set.encard_le_encard (unseen_subset_of_steps steps))

/-- Following references runs out of patience only if as many documents were unseen. -/
theorem follow_troubles (patience : Nat) (work : List Pending) (before : Store) :
    FailsFrom (fun failure => Trouble source failure ∨
      failure = .outOfPatience ∧ (patience : ℕ∞) ≤ (unseen source before).encard)
      (follow source patience work) before := by
  induction patience generalizing work before with
  | zero =>
      cases work with
      | nil => exact (Task.failsOnly_pure _).from before
      | cons pending rest => exact (Task.failsOnly_throw (.inr ⟨rfl, by simp⟩)).from before
  | succ patience ih =>
      cases work with
      | nil => exact (Task.failsOnly_pure _).from before
      | cons pending rest =>
          refine Task.failsFrom_bind (fun journal => ?_) fun reached middle advanced => ?_
          · exact (advance_troubles _ before journal).of_imp fun _ => .inl
          · cases reached with
            | none => exact (Task.failsOnly_pure _).from middle
            | some pair =>
                obtain ⟨document, others⟩ := pair
                have fewer := advance_encard_unseen advanced
                refine fun journal => (ih _ middle journal).of_imp ?_
                rintro failure (trouble | ⟨tired, enough⟩)
                · exact .inl trouble
                · refine .inr ⟨tired, ?_⟩
                  rw [Nat.cast_add, Nat.cast_one]
                  exact (add_le_add_left enough 1).trans fewer

/-- A load fails for a reason of others, or it has less patience than there are documents unseen. -/
theorem load_troubles (source : Source) (location : String) (before : Store) :
    FailsFrom (fun failure => Trouble source failure ∨
      failure = .outOfPatience ∧ (source.patience : ℕ∞) ≤ (unseen source before).encard)
      (load source location) before := by
  refine Task.failsFrom_bind ?_ fun key middle named => ?_
  · exact (Task.failsOnly_outcome (failsOnly_orFail fun fault => .inl (.place fault))).from before
  · obtain ⟨_, rfl⟩ := named.of_outcome
    refine Task.failsFrom_current_bind ?_
    split
    · exact (Task.failsOnly_pure _).from middle
    · next absent =>
        have missing : middle.at? key = none := by simpa using absent
        refine Task.failsFrom_bind (fun journal => ?_) fun document last loaded => ?_
        · exact (loadOne_troubles none missing journal).of_imp fun _ => .inl
        · have fewer := encard_unseen_of_follows (loadOne_follows source key none middle) loaded
          refine Task.failsFrom_bind (fun journal => ?_) fun _ ending _ => ?_
          · refine (follow_troubles _ _ last journal).of_imp ?_
            rintro failure (trouble | ⟨tired, enough⟩)
            · exact .inl trouble
            · exact .inr ⟨tired, enough.trans fewer⟩
          · exact (Task.failsOnly_pure _).from ending

end Store

end SchemaSharp
