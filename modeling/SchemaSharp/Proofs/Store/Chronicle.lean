import SchemaSharp.Proofs.Store.Appending

/-!
A load that keeps a record. A chronicle is a store together with the references that were followed
in it, each with the document that came in through it; the loader below notes them and does
otherwise what the loader of the store does, as is shown first. What holds of a new store and is
kept by opening a document and by following one reference holds after any loads. A source can be
made to report each document that it is asked for, without any influence on what is loaded.
-/

namespace SchemaSharp

open SchemaSharp.Task (Mirrors Returns Follows Unharmed)
open Relation (ReflTransGen)

/-! ## Sources that agree -/

/-- The two sources give the same answers, whatever they report. -/
structure Source.Agrees (source other : Source) : Prop where
  directory : source.directory = other.directory
  patience : source.patience = other.patience
  probe : ∀ location, (source.probe location).2 = (other.probe location).2
  fetch : ∀ location, (source.fetch location).2 = (other.fetch location).2

theorem Source.Agrees.refl (source : Source) : source.Agrees source :=
  ⟨rfl, rfl, fun _ => rfl, fun _ => rfl⟩

/-- The source, reporting that it is asked for a document and nothing else. -/
def Source.audited (source : Source) : Source :=
  { source with
    probe := fun location => ([], (source.probe location).2)
    fetch := fun location => ([.fetching location], (source.fetch location).2) }

theorem Source.audited_agrees (source : Source) : source.audited.Agrees source :=
  ⟨rfl, rfl, fun _ => rfl, fun _ => rfl⟩

/-- The documents that were asked for, by what was reported. -/
def fetches (journal : List Notice) : List String :=
  journal.filterMap fun notice =>
    match notice with
    | .fetching location => some location
    | _ => none

namespace Store

open Schema (Document Reference Home)

section Agreement

variable {source other : Source} (agrees : source.Agrees other)
include agrees

theorem loadOne_mirrors (location : String) (inherited : Option String) :
    Mirrors id (loadOne source location inherited) (loadOne other location inherited) := by
  refine Task.mirrors_bind (Task.mirrors_ask (agrees.fetch location)) fun content => ?_
  refine Task.mirrors_current_bind fun store => ?_
  refine Task.mirrors_bind (Task.mirrors_outcome _) fun document => ?_
  refine Task.mirrors_bind ?_ fun _ =>
    Task.mirrors_bind (Task.mirrors_say _ _) fun _ => Task.mirrors_pure _
  refine Task.mirrors_current_bind fun store => ?_
  dsimp only [id]
  split
  · exact Task.mirrors_throw _
  · exact Task.mirrors_bind (Task.mirrors_change fun _ => rfl) fun _ => Task.mirrors_notices _ _

theorem tryCandidates_mirrors (pending : Pending) (schemaLocation : String) (found : List String) :
    Mirrors id (tryCandidates source pending schemaLocation found)
      (tryCandidates other pending schemaLocation found) := by
  have marking : ∀ candidate (answer : Option Document), Mirrors id
      (do Task.change (markResolved pending candidate); return answer : Task Store _)
      (do Task.change (markResolved pending candidate); return answer) :=
    fun _ _ => Task.mirrors_bind (Task.mirrors_change fun _ => rfl) fun _ => Task.mirrors_pure _
  induction found with
  | nil => exact Task.mirrors_bind (Task.mirrors_say _ _) fun _ => Task.mirrors_pure _
  | cons candidate rest ih =>
      refine Task.mirrors_current_bind fun store => ?_
      dsimp only [id]
      split
      · exact marking candidate none
      · refine Task.mirrors_bind (Task.mirrors_ask (agrees.probe candidate)) fun there => ?_
        split
        · exact Task.mirrors_bind (loadOne_mirrors agrees _ _) fun document =>
            marking candidate (some document)
        · exact ih

theorem resolve_mirrors (pending : Pending) :
    Mirrors id (resolve source pending) (resolve other pending) := by
  unfold resolve
  split
  · exact Task.mirrors_bind (Task.mirrors_say _ _) fun _ => Task.mirrors_pure _
  · refine Task.mirrors_current_bind fun store => ?_
    rw [agrees.directory]
    exact Task.mirrors_bind (Task.mirrors_outcome _) fun found =>
      tryCandidates_mirrors agrees pending _ found

end Agreement

/-! ## Documents as they came in -/

def documents (store : Store) : List Document :=
  store.entries.map fun entry => entry.document.unmarked

theorem documents_add (document : Document) (inherited : Option String) (store : Store) :
    (store.add document inherited).1.documents = store.documents ++ [document.unmarked] := by
  simp [documents, entries_add]

theorem documents_markResolved (pending : Pending) (target : String) (store : Store) :
    (markResolved pending target store).documents = store.documents := by
  simp [documents, markResolved, Function.comp_def, unmarked_markEntry]

theorem documents_of_steps {source : Source} {before after : Store}
    (steps : ReflTransGen (Step source) before after) : before.documents <+: after.documents := by
  induction steps with
  | refl => exact List.prefix_rfl
  | tail _ step ih =>
      cases step with
      | add inherited absent fetched read =>
          rw [documents_add]
          exact ih.trans (List.prefix_append _ _)
      | mark pending stored => rwa [documents_markResolved]

/-- The reference is one of a stored document. -/
def Owns (store : Store) (pending : Pending) : Prop :=
  ∃ document ∈ store.documents, pending ∈ pendingOf document

theorem Owns.of_steps {source : Source} {before after : Store} {pending : Pending}
    (owned : before.Owns pending) (steps : ReflTransGen (Step source) before after) :
    after.Owns pending := by
  obtain ⟨document, stored, own⟩ := owned
  exact ⟨document, (documents_of_steps steps).subset stored, own⟩

theorem loadOne_documents {source : Source} {location : String} {inherited : Option String}
    {before after : Store} {document : Document}
    (returned : Returns (loadOne source location inherited) before document after) :
    after.documents = before.documents ++ [document] := by
  obtain ⟨_, ⟨content, _, read⟩, rfl⟩ := loadOne_returns returned
  rw [documents_add, Schema.unmarked_of_fresh (Schema.ofBytes_fresh read)]

theorem Arrival.documents_eq {source : Source} {pending : Pending} {document : Document}
    {before after : Store} (arrival : Arrival source pending before document after) :
    after.documents = before.documents ++ [document] := by
  obtain ⟨content, _, read⟩ := arrival.read
  rw [arrival.after_eq, documents_markResolved, documents_add,
    Schema.unmarked_of_fresh (Schema.ofBytes_fresh read)]

/-! ## Chronicles -/

/-- A reference that was followed, and the document that newly came in through it. -/
structure Visit where
  pending : Pending
  brought : Option Document

structure Chronicle where
  store : Store
  visits : List Visit

namespace Chronicle

def keep (chronicle : Chronicle) (store : Store) : Chronicle := { chronicle with store := store }

def note (visit : Visit) (chronicle : Chronicle) : Chronicle :=
  { chronicle with visits := chronicle.visits ++ [visit] }

def visit (source : Source) (pending : Pending) : Task Chronicle (Option Document) := do
  let brought ← Task.within Chronicle.store keep (resolve source pending)
  Task.change (note ⟨pending, brought⟩)
  return brought

def advance (source : Source) : List Pending → Task Chronicle (Option (Document × List Pending))
  | [] => return none
  | pending :: rest => do
      match ← visit source pending with
      | some document => return some (document, rest)
      | none => advance source rest

def follow (source : Source) : Nat → List Pending → Task Chronicle Unit
  | _, [] => return
  | 0, _ :: _ => throw .outOfPatience
  | patience + 1, work => do
      match ← advance source work with
      | none => return
      | some (document, rest) => follow source patience (pendingOf document ++ rest)

def load (source : Source) (location : String) : Task Chronicle String := do
  let key ← Task.outcome (orFail .host (Location.canonical source.directory location none))
  if ((← Task.current).store.at? key).isSome then return key
  else
    let document ← Task.within Chronicle.store keep (loadOne source key none)
    follow source source.patience (pendingOf document)
    return key

def loadEach (source : Source) : List String → Task Chronicle Unit
  | [] => return
  | location :: rest => do
      let _ ← load source location
      loadEach source rest

/-! ## The record changes nothing -/

section Agreement

variable {source other : Source} (agrees : source.Agrees other)
include agrees

theorem visit_mirrors (pending : Pending) :
    Mirrors Chronicle.store (visit source pending) (resolve other pending) := by
  intro chronicle journal said
  have inner : Mirrors Chronicle.store (Task.within Chronicle.store keep (resolve source pending))
      (resolve other pending) :=
    Task.mirrors_within (resolve_mirrors agrees pending) fun _ _ => rfl
  obtain ⟨answered, left⟩ := inner chronicle journal said
  unfold visit
  rw [Task.run_bind]
  cases ran : (Task.within Chronicle.store keep (resolve source pending)).run
      ⟨chronicle, journal⟩ with
  | mk result middle =>
    rw [ran] at answered left
    cases result with
    | error failure => exact ⟨answered, left⟩
    | ok brought => exact ⟨answered, left⟩

theorem advance_mirrors (work : List Pending) :
    Mirrors Chronicle.store (advance source work) (Store.advance other work) := by
  induction work with
  | nil => exact Task.mirrors_pure none
  | cons pending rest ih =>
      refine Task.mirrors_bind (visit_mirrors agrees pending) fun brought => ?_
      cases brought with
      | none => exact ih
      | some document => exact Task.mirrors_pure _

theorem follow_mirrors (patience : Nat) (work : List Pending) :
    Mirrors Chronicle.store (follow source patience work) (Store.follow other patience work) := by
  induction patience generalizing work with
  | zero =>
      cases work with
      | nil => exact Task.mirrors_pure ()
      | cons pending rest => exact Task.mirrors_throw _
  | succ patience ih =>
      cases work with
      | nil => exact Task.mirrors_pure ()
      | cons pending rest =>
          refine Task.mirrors_bind (advance_mirrors agrees _) fun reached => ?_
          cases reached with
          | none => exact Task.mirrors_pure ()
          | some pair => exact ih _

/-- Apart from the record, loading into a chronicle is loading. -/
theorem load_mirrors (location : String) :
    Mirrors Chronicle.store (load source location) (Store.load other location) := by
  unfold load Store.load
  rw [agrees.directory, agrees.patience]
  refine Task.mirrors_bind (Task.mirrors_outcome _) fun key => ?_
  refine Task.mirrors_current_bind fun chronicle => ?_
  split
  · exact Task.mirrors_pure key
  · refine Task.mirrors_bind (Task.mirrors_within (loadOne_mirrors agrees key none) fun _ _ => rfl)
      fun document => ?_
    exact Task.mirrors_bind (follow_mirrors agrees _ _) fun _ => Task.mirrors_pure key

theorem loadEach_mirrors (locations : List String) :
    Mirrors Chronicle.store (loadEach source locations) (Store.loadEach other locations) := by
  induction locations with
  | nil => exact Task.mirrors_pure ()
  | cons location rest ih => exact Task.mirrors_bind (load_mirrors agrees location) fun _ => ih

end Agreement

/-- What was reported before has no influence on loading. -/
theorem load_silent (source : Source) (location : String) :
    Mirrors id (Store.load source location) (Store.load source location) :=
  (load_mirrors (.refl source) location).image_of_onto fun store => ⟨⟨store, []⟩, rfl⟩

/-! ## Rounds -/

/-- A document is opened by its location, or one reference of a stored document is followed. -/
inductive Round (source : Source) : Chronicle → Chronicle → Prop where
  | opened {chronicle : Chronicle} {location : String} {document : Document} {store : Store}
      (loaded : Returns (loadOne source location none) chronicle.store document store) :
      Round source chronicle (chronicle.keep store)
  | visited {chronicle : Chronicle} {pending : Pending} {brought : Option Document} {store : Store}
      (owned : chronicle.store.Owns pending)
      (resolved : Returns (resolve source pending) chronicle.store brought store) :
      Round source chronicle (note ⟨pending, brought⟩ (chronicle.keep store))

section Rounds

variable {source : Source} {before after : Chronicle}

theorem visit_returns {pending : Pending} {brought : Option Document}
    (returned : Returns (visit source pending) before brought after) :
    ∃ store, Returns (resolve source pending) before.store brought store ∧
      after = note ⟨pending, brought⟩ (before.keep store) := by
  obtain ⟨answer, middle, resolved, noted⟩ := returned.of_bind
  obtain ⟨store, inner, rfl⟩ := resolved.of_within
  obtain ⟨rfl, rfl⟩ := noted.of_change_bind.of_pure
  exact ⟨store, inner, rfl⟩

theorem visit_unharmed (source : Source) (pending : Pending) : Unharmed (visit source pending) :=
  Task.unharmed_bind_of_sure (Task.unharmed_within (resolve_unharmed source pending) fun _ => rfl)
    fun _ => Task.failsOnly_bind (Task.failsOnly_change _) fun _ => Task.failsOnly_pure _

theorem visit_rounds {pending : Pending} (owned : before.store.Owns pending) :
    Follows (Round source) (visit source pending) before := by
  refine (visit_unharmed source pending).follows fun brought last returned => ?_
  obtain ⟨store, resolved, rfl⟩ := visit_returns returned
  exact .single (.visited owned resolved)

theorem advance_rounds {work : List Pending} (owned : ∀ pending ∈ work, before.store.Owns pending) :
    Follows (Round source) (advance source work) before := by
  induction work generalizing before with
  | nil => exact Task.follows_pure _ _
  | cons pending rest ih =>
      refine Task.follows_bind (visit_rounds (owned pending (by simp)))
        fun brought middle visited => ?_
      cases brought with
      | some document => exact Task.follows_pure _ _
      | none =>
          obtain ⟨store, resolved, rfl⟩ := visit_returns visited
          have steps := (resolve_follows source pending before.store).steps_of_returns resolved
          exact ih fun other member => (owned other (by simp [member])).of_steps steps

theorem follow_rounds {work : List Pending} (patience : Nat)
    (owned : ∀ pending ∈ work, before.store.Owns pending) :
    Follows (Round source) (follow source patience work) before := by
  induction patience generalizing work before with
  | zero =>
      cases work with
      | nil => exact Task.follows_pure _ _
      | cons pending rest => exact Task.follows_throw _ _
  | succ patience ih =>
      cases work with
      | nil => exact Task.follows_pure _ _
      | cons pending rest =>
          refine Task.follows_bind (advance_rounds owned) fun reached middle advanced => ?_
          cases reached with
          | none => exact Task.follows_pure _ _
          | some pair =>
              obtain ⟨document, others⟩ := pair
              have inner := (advance_mirrors (.refl source) _).of_returns advanced
              obtain ⟨passed, first, last, split, steps, arrival⟩ := advance_arrival inner
              have whole := (advance_follows source _ before.store).steps_of_returns inner
              refine ih fun other member => ?_
              -- what is followed next refers from the new document, or was owned before already
              rcases List.mem_append.mp member with own | left
              · exact ⟨document, by simp [arrival.documents_eq], own⟩
              · exact (owned other (by rw [split]; simp [left])).of_steps whole

theorem load_rounds (source : Source) (location : String) (before : Chronicle) :
    Follows (Round source) (load source location) before := by
  refine Task.follows_outcome_bind fun key _ => Task.follows_current_bind ?_
  split
  · exact Task.follows_pure _ _
  · have unharmed : Unharmed (Task.within Chronicle.store keep (loadOne source key none)) :=
      Task.unharmed_within (loadOne_unharmed source key none) fun _ => rfl
    refine Task.follows_bind (unharmed.follows fun document last returned => ?_)
      fun document middle returned => ?_
    · obtain ⟨store, loaded, rfl⟩ := returned.of_within
      exact .single (.opened loaded)
    · obtain ⟨store, loaded, rfl⟩ := returned.of_within
      refine Task.follows_bind (follow_rounds _ fun pending member => ?_) fun _ last _ =>
        Task.follows_pure _ _
      exact ⟨document, by simp [keep, (loadOne_documents loaded)], member⟩

/-! ## Any loads -/

/-- What is on record after loads into a new store, one after the other, also when some of them
fail. From one load to the next the source may have changed. -/
inductive Recorded : Chronicle → Prop where
  | start {directory : FilePath} {edition : Nat} {paths : List String} {begun : Store}
      (started : start directory edition paths = .ok begun) : Recorded ⟨begun, []⟩
  | load {before : Chronicle} (recorded : Recorded before) (source : Source) (location : String) :
      Recorded ((load source location).perform before).2.state

theorem load_store (source : Source) (location : String) (before : Chronicle) :
    ((load source location).perform before).2.state.store =
      ((Store.load source location).perform before.store).2.state :=
  (load_mirrors (.refl source) location before [] []).2

theorem Recorded.reachable {chronicle : Chronicle} (recorded : Recorded chronicle) :
    Reachable chronicle.store := by
  induction recorded with
  | start started => exact .start started
  | @load before _ source location ih =>
      rw [load_store]
      exact ih.load source location

/-- Every store that loads lead to has its record. -/
theorem reachable_iff_recorded (store : Store) :
    Reachable store ↔ ∃ visits, Recorded ⟨store, visits⟩ := by
  constructor
  · intro reached
    induction reached with
    | start started => exact ⟨[], .start started⟩
    | @load before _ source location ih =>
        obtain ⟨visits, recorded⟩ := ih
        rw [← load_store source location ⟨before, visits⟩]
        exact ⟨_, recorded.load source location⟩
  · rintro ⟨visits, recorded⟩
    exact recorded.reachable

/-- What holds at the start and is kept by each round holds after any loads. -/
theorem Recorded.invariant {holds : Chronicle → Prop}
    (begins : ∀ {directory edition paths begun}, Store.start directory edition paths = .ok begun →
      holds ⟨begun, []⟩)
    (kept : ∀ {source before after}, Round source before after → holds before → holds after)
    {chronicle : Chronicle} (recorded : Recorded chronicle) : holds chronicle := by
  induction recorded with
  | start started => exact begins started
  | @load before _ source location ih =>
      have lasting : ∀ after, ReflTransGen (Round source) before after → holds after := by
        intro after rounds
        induction rounds with
        | refl => exact ih
        | tail _ round inner => exact kept round inner
      exact lasting _ (load_rounds source location before [])

end Rounds

end Chronicle

end Store

end SchemaSharp
