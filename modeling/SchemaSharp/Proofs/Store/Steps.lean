import SchemaSharp.Proofs.Store.Composition

/-!
How a store changes. Whatever is asked of it, a store takes in documents that were read from its
source, each location once, and marks where references lead; no document leaves it and none is
changed otherwise. The invariants of stores are proved here for these two steps.
-/

namespace SchemaSharp.Store

open Schema (Document Reference TypeDecl ElementDecl QName Home)
open SchemaSharp.Task (Returns Follows)
open Relation (ReflTransGen)

/-! ## Steps -/

inductive Step (source : Source) : Store → Store → Prop where
  | add {store : Store} {location : String} {content : List UInt8} {document : Document}
      (inherited : Option String) (absent : store.at? location = none)
      (fetched : (source.fetch location).2 = .ok content)
      (read : Document.ofBytes ⟨location, store.edition⟩ content = .ok document) :
      Step source store (store.add document inherited).1
  | mark {store : Store} (pending : Pending) {target : String}
      (stored : (store.at? target).isSome) :
      Step source store (markResolved pending target store)

theorem register_follows {source : Source} {document : Document} {content : List UInt8}
    {inherited : Option String} {before : Store}
    (fetched : (source.fetch document.location).2 = .ok content)
    (read : Document.ofBytes ⟨document.location, before.edition⟩ content = .ok document) :
    Follows (Step source) (register document inherited) before := by
  unfold register
  apply Task.follows_current_bind
  split
  · exact Task.follows_throw _ _
  · next absent =>
      apply Task.follows_change_bind
      · exact .add inherited (by simpa using absent) fetched read
      · exact Task.follows_notices _ _

theorem loadOne_follows (source : Source) (location : String) (inherited : Option String)
    (before : Store) : Follows (Step source) (loadOne source location inherited) before := by
  unfold loadOne
  apply Task.follows_bind (Task.follows_ask _ _)
  intro content middle asked
  obtain ⟨fetched, rfl⟩ := asked.of_ask
  apply Task.follows_current_bind
  apply Task.follows_outcome_bind
  intro document read
  have place : document.location = location :=
    congrArg Home.location (Schema.ofBytes_fresh read).home_eq
  apply Task.follows_bind (register_follows (by rwa [place]) (by rwa [place]))
  intro _ _ _
  exact Task.follows_say_bind (Task.follows_pure _ _)

/-! ## What steps keep -/

@[simp]
theorem location_markEntry (pending : Pending) (target : String) (entry : Entry) :
    (markEntry pending target entry).location = entry.location := by
  unfold markEntry
  split <;> rfl

theorem locations_markResolved (pending : Pending) (target : String) (store : Store) :
    (markResolved pending target store).entries.map Entry.location =
      store.entries.map Entry.location := by
  simp [markResolved, Function.comp_def]

theorem Step.bases_eq {source : Source} {before after : Store} (step : Step source before after) :
    after.bases = before.bases := by
  cases step <;> rfl

theorem Step.edition_eq {source : Source} {before after : Store}
    (step : Step source before after) : after.edition = before.edition := by
  cases step <;> rfl

theorem Step.locations {source : Source} {before after : Store} (step : Step source before after) :
    before.entries.map Entry.location <+: after.entries.map Entry.location := by
  cases step with
  | add inherited absent fetched read =>
      rw [entries_add, List.map_append]
      exact List.prefix_append _ _
  | @mark pending target stored =>
      exact (locations_markResolved pending target before).symm ▸ List.prefix_rfl

theorem Step.isSome_at? {source : Source} {before after : Store} {location : String}
    (step : Step source before after) (stored : (before.at? location).isSome) :
    (after.at? location).isSome := by
  rw [← mem_locations_iff] at stored ⊢
  exact step.locations.subset stored

theorem isSome_at?_of_steps {source : Source} {before after : Store} {location : String}
    (steps : ReflTransGen (Step source) before after) (stored : (before.at? location).isSome) :
    (after.at? location).isSome := by
  induction steps with
  | refl => exact stored
  | tail _ step ih => exact step.isSome_at? ih

theorem edition_eq_of_steps {source : Source} {before after : Store}
    (steps : ReflTransGen (Step source) before after) : after.edition = before.edition := by
  induction steps with
  | refl => rfl
  | tail _ step ih => rw [step.edition_eq, ih]

theorem bases_eq_of_steps {source : Source} {before after : Store}
    (steps : ReflTransGen (Step source) before after) : after.bases = before.bases := by
  induction steps with
  | refl => rfl
  | tail _ step ih => rw [step.bases_eq, ih]

/-! ## Every store task -/

theorem steps_loads (source : Source) :
    Loads source (fun _ => True) (fun _ => True) fun task before =>
      Follows (Step source) task before :=
  follows_loads (loadOne_follows source) fun _ stored => .mark _ stored

theorem resolve_follows (source : Source) (pending : Pending) (before : Store) :
    Follows (Step source) (resolve source pending) before :=
  resolve_composed (steps_loads source) trivial before

theorem advance_follows (source : Source) (work : List Pending) (before : Store) :
    Follows (Step source) (advance source work) before :=
  advance_composed (steps_loads source) (fun _ _ => trivial) before

theorem follow_follows (source : Source) (patience : Nat) (work : List Pending) (before : Store) :
    Follows (Step source) (follow source patience work) before :=
  follow_composed (steps_loads source) (fun _ => trivial) trivial patience work before

theorem load_follows (source : Source) (location : String) (before : Store) :
    Follows (Step source) (load source location) before :=
  load_composed (steps_loads source) (fun _ => trivial) trivial location before

/-- A load ends where it began if the document is there; otherwise it opens the document and
follows what that refers to. -/
theorem load_returns {source : Source} {location key : String} {before after : Store}
    (returned : Returns (load source location) before key after) :
    Location.canonical source.directory location none = .ok key ∧
      ((before.at? key).isSome ∧ after = before ∨
        ∃ document middle, Returns (loadOne source key none) before document middle ∧
          Returns (follow source source.patience (pendingOf document)) middle () after) := by
  unfold load at returned
  obtain ⟨place, named, returned⟩ := returned.of_outcome_bind
  have canonical := ok_of_orFail named
  have returned := returned.of_current_bind
  split at returned
  · next stored =>
      obtain ⟨rfl, rfl⟩ := returned.of_pure
      exact ⟨canonical, .inl ⟨stored, rfl⟩⟩
  · obtain ⟨document, middle, loaded, rest⟩ := returned.of_bind
    obtain ⟨_, last, followed, ending⟩ := rest.of_bind
    obtain ⟨rfl, rfl⟩ := ending.of_pure
    exact ⟨canonical, .inr ⟨document, middle, loaded, followed⟩⟩

theorem load_key {source : Source} {location key : String} {before after : Store}
    (returned : Returns (load source location) before key after) :
    Location.canonical source.directory location none = .ok key :=
  (load_returns returned).1

/-- The answer of a load is the location of a document that is there now. -/
theorem load_stored {source : Source} {location key : String} {before after : Store}
    (returned : Returns (load source location) before key after) : (after.at? key).isSome := by
  obtain ⟨stored, rfl⟩ | ⟨document, middle, loaded, followed⟩ := (load_returns returned).2
  · exact stored
  · have steps := (follow_follows _ _ _ _).steps_of_returns followed
    exact isSome_at?_of_steps steps (loadOne_stored loaded)

/-- Loading a document again does nothing at all. -/
theorem load_of_stored {source : Source} {location key : String} {store : Store}
    (named : Location.canonical source.directory location none = .ok key)
    (stored : (store.at? key).isSome) (journal : List Notice) :
    (load source location).run ⟨store, journal⟩ = (.ok key, ⟨store, journal⟩) := by
  unfold load
  rw [named]
  change (if (store.at? key).isSome then pure key else _ : Task Store String).run _ = _
  rw [if_pos stored]
  rfl

theorem load_congr {source : Source} {location other : String}
    (same : Location.canonical source.directory location none =
      Location.canonical source.directory other none) :
    load source location = load source other := by
  rw [load, load, same]

end SchemaSharp.Store
