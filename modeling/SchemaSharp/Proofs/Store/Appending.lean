import SchemaSharp.Proofs.Store.Arrivals
import SchemaSharp.Proofs.Store.Index

/-!
A store is only added to. Each location is stored once, and a load, however it ends, leaves all that
was there in its place: the documents with their effective namespaces and their references, and what
is indexed. The references that a load marks are those of documents that it brought in itself. So
what a load answers stays the answer, and the error of a location that is stored twice never arises.
-/

namespace SchemaSharp.Store

open Schema (Document Home QName)
open SchemaSharp.Task (Returns Follows)
open Relation (ReflTransGen)

variable {source : Source} {base store before after : Store}

/-! ## Extensions -/

/-- All that the earlier store holds stands in the same place in the later one. -/
structure Extends (earlier later : Store) : Prop where
  entries : earlier.entries <+: later.entries
  types : earlier.types <+: later.types
  elements : earlier.elements <+: later.elements

theorem Extends.refl (store : Store) : store.Extends store :=
  ⟨List.prefix_rfl, List.prefix_rfl, List.prefix_rfl⟩

theorem Extends.trans (first : base.Extends before) (second : before.Extends after) :
    base.Extends after :=
  ⟨first.entries.trans second.entries, first.types.trans second.types,
    first.elements.trans second.elements⟩

theorem Extends.at? {location : String} {entry : Entry} (extended : before.Extends after)
    (found : before.at? location = some entry) : after.at? location = some entry := by
  obtain ⟨added, whole⟩ := extended.entries
  unfold Store.at? at found ⊢
  rw [← whole, List.find?_append, found]
  rfl

theorem Extends.absent {location : String} (extended : before.Extends after)
    (absent : after.at? location = none) : before.at? location = none := by
  cases found : before.at? location with
  | none => rfl
  | some entry =>
      rw [extended.at? found] at absent
      cases absent

theorem lookup_of_prefix {α : Type} {index longer : List (QName × α)} {name : QName} {decl : α}
    (begins : index <+: longer) (found : index.lookup name = some decl) :
    longer.lookup name = some decl := by
  obtain ⟨added, rfl⟩ := begins
  rw [List.lookup_append, found]
  rfl

/-! ## Steps that extend -/

theorem enter_begins {α : Type} (kind : String) (space : Option String)
    (nameOf : α → Option String) (decls : List α) (index : List (QName × α)) :
    index <+: (enter kind space nameOf decls index).1 := by
  induction decls generalizing index with
  | nil => exact List.prefix_rfl
  | cons decl rest ih =>
      rw [enter]
      cases Schema.given? (nameOf decl) with
      | none => exact ih index
      | some text =>
          cases taken : index.lookup (⟨space, text⟩ : QName) with
          | some kept =>
              simp only [taken]
              exact ih index
          | none =>
              simp only [taken]
              exact (List.prefix_append _ _).trans (ih _)

theorem extends_add (document : Document) (inherited : Option String) (store : Store) :
    store.Extends (store.add document inherited).1 :=
  ⟨List.prefix_append _ _, enter_begins _ _ _ _ _, enter_begins _ _ _ _ _⟩

theorem markEntry_elsewhere {pending : Pending} {entry : Entry} (target : String)
    (elsewhere : entry.location ≠ pending.referrer.location) :
    markEntry pending target entry = entry := by
  simp [markEntry, elsewhere]

/-- Marks are seen only in the document that they are made in. -/
theorem Extends.mark {pending : Pending} (target : String) (extended : base.Extends store)
    (new : base.at? pending.referrer.location = none) :
    base.Extends (markResolved pending target store) := by
  obtain ⟨added, whole⟩ := extended.entries
  have untouched : base.entries.map (markEntry pending target) = base.entries := by
    refine (List.map_congr_left fun entry stored => ?_).trans (List.map_id _)
    refine markEntry_elsewhere target fun same => ?_
    have present := (mem_locations_iff base entry.location).mp (List.mem_map_of_mem stored)
    rw [same, new] at present
    cases present
  refine ⟨⟨added.map (markEntry pending target), ?_⟩, extended.types, extended.elements⟩
  rw [markResolved, ← whole, List.map_append, untouched]

/-- The step keeps whatever `base` holds. -/
def Keeps (base before after : Store) : Prop := base.Extends before → base.Extends after

theorem extends_of_steps (begun : base.Extends before)
    (steps : ReflTransGen (Keeps base) before after) : base.Extends after := by
  induction steps with
  | refl => exact begun
  | tail _ step ih => exact step ih

/-! ## Loading extends -/

theorem loadOne_keeps (source : Source) (location : String) (inherited : Option String)
    (before : Store) : Follows (Keeps base) (loadOne source location inherited) before := by
  refine Task.follows_bind (Task.follows_ask _ _) fun content middle _ => ?_
  refine Task.follows_current_bind (Task.follows_outcome_bind fun document _ => ?_)
  refine Task.follows_bind (Task.follows_current_bind ?_) fun _ _ _ =>
    Task.follows_say_bind (Task.follows_pure _ _)
  split
  · exact Task.follows_throw _ _
  · refine Task.follows_change_bind (fun extended => ?_) (Task.follows_notices _ _)
    exact extended.trans (extends_add document inherited middle)

theorem advance_keeps {work : List Pending}
    (new : ∀ pending ∈ work, base.at? pending.referrer.location = none) (before : Store) :
    Follows (Keeps base) (advance source work) before := by
  refine advance_composed (follows_loads (loadOne_keeps source) ?_) new before
  exact fun fresh _ extended => extended.mark _ fresh

/-- Only references of documents that `base` did not have are followed, and so it stays. -/
theorem follow_keeps {work : List Pending} (patience : Nat) (begun : base.Extends before)
    (new : ∀ pending ∈ work, base.at? pending.referrer.location = none) :
    Follows (Keeps base) (follow source patience work) before := by
  induction patience generalizing work before with
  | zero =>
      cases work with
      | nil => exact Task.follows_pure _ _
      | cons pending rest => exact Task.follows_throw _ _
  | succ patience ih =>
      cases work with
      | nil => exact Task.follows_pure _ _
      | cons pending rest =>
          have advancing : Follows (Keeps base) (advance source (pending :: rest)) before :=
            advance_keeps new before
          refine Task.follows_bind advancing fun reached middle advanced => ?_
          cases reached with
          | none => exact Task.follows_pure _ _
          | some pair =>
              obtain ⟨document, others⟩ := pair
              obtain ⟨passed, first, inner, split, steps, arrival⟩ := advance_arrival advanced
              have kept := extends_of_steps begun (advancing.steps_of_returns advanced)
              refine ih kept fun other member => ?_
              rcases List.mem_append.mp member with own | left
              · -- a document that comes in now was not in the store when the load began
                rw [(mem_pendingOf_iff.mp own).1]
                cases found : base.at? document.location with
                | none => rfl
                | some entry =>
                    have stored := isSome_at?_of_steps steps
                      (Option.isSome_of_eq_some (begun.at? found))
                    rw [arrival.absent] at stored
                    cases stored
              · exact new other (by rw [split]; simp [left])

theorem load_keeps (source : Source) (location : String) (before : Store) :
    Follows (Keeps before) (load source location) before := by
  refine Task.follows_outcome_bind fun key _ => Task.follows_current_bind ?_
  split
  · exact Task.follows_pure _ _
  · next absent =>
      have loading : Follows (Keeps before) (loadOne source key none) before :=
        loadOne_keeps source key none before
      refine Task.follows_bind loading fun document middle loaded => ?_
      obtain ⟨missing, ⟨content, _, read⟩, _⟩ := loadOne_returns loaded
      have place : document.location = key :=
        congrArg Home.location (Schema.ofBytes_fresh read).home_eq
      have kept := extends_of_steps (.refl before) (loading.steps_of_returns loaded)
      refine Task.follows_bind (follow_keeps _ kept fun pending member => ?_) fun _ _ _ =>
        Task.follows_pure _ _
      rw [(mem_pendingOf_iff.mp member).1, place, missing]

/-- However a load ends, it has only added to the store. -/
theorem load_extends (source : Source) (location : String) (before : Store) :
    before.Extends ((load source location).perform before).2.state :=
  extends_of_steps (.refl before) (load_keeps source location before [])

/-! ## Loads in a row -/

/-- Loads lead from one store to the other, whether they returned or failed. -/
def LeadsTo : Store → Store → Prop :=
  ReflTransGen fun before after => ∃ (source : Source) (location : String),
    after = ((load source location).perform before).2.state

theorem LeadsTo.extends (leads : LeadsTo before after) : before.Extends after := by
  induction leads with
  | refl => exact .refl before
  | tail _ loaded ih =>
      obtain ⟨source, location, rfl⟩ := loaded
      exact ih.trans (load_extends source location _)

/-- A load of what is stored already is over at once. -/
theorem load_again {location key : String}
    (named : Location.canonical source.directory location none = .ok key)
    (stored : (store.at? key).isSome) :
    (load source location).perform store = (.ok key, ⟨store, []⟩) := by
  have begun : load source location =
      (Task.current >>= fun found =>
        if (found.at? key).isSome then pure key
        else loadOne source key none >>= fun document =>
          follow source source.patience (pendingOf document) >>= fun _ => pure key) := by
    unfold load
    rw [named]
    rfl
  rw [begun]
  change (if (store.at? key).isSome then _ else _ : Task Store String).run ⟨store, []⟩ = _
  rw [if_pos stored]
  rfl

theorem Trouble.not_duplicate {place : String}
    (trouble : Trouble source (.load .alreadyLoaded place)) :
    source.Answers (.load .alreadyLoaded place) := by
  cases trouble with
  | answered answers => exact answers
  | contents concerns => cases concerns.1

/-- Whatever was loaded before, no location is stored twice and each leads to its own document. A
load, returning or failing, keeps all documents, namespaces, references and index entries as they
were, and never finds a location taken; a location that is stored already it leaves at that. What
it answers, every later load of the same canonical location answers again, with the same
document. -/
theorem loads_only_append {store : Store} (reached : Reachable store) :
    (store.entries.map Entry.location).Nodup ∧
      (∀ entry ∈ store.entries, store.at? entry.location = some entry) ∧
      ∀ (source : Source) (location : String),
        let ended := (load source location).perform store
        let after := ended.2.state
        store.Extends after ∧
          (∀ name decl, store.lookupType? name = some decl → after.lookupType? name = some decl) ∧
          (∀ name decl, store.lookupElement? name = some decl →
            after.lookupElement? name = some decl) ∧
          (∀ place, ended.1 = .error (.load .alreadyLoaded place) →
            source.Answers (.load .alreadyLoaded place)) ∧
          (∀ key, Location.canonical source.directory location none = .ok key →
            (store.at? key).isSome → ended = (.ok key, ⟨store, []⟩)) ∧
          ∀ key, ended.1 = .ok key → ∃ entry, after.at? key = some entry ∧
            ∀ later, LeadsTo after later → later.at? key = some entry ∧
              ∀ (other : Source) (again : String),
                Location.canonical other.directory again none =
                  Location.canonical source.directory location none →
                (load other again).perform later = (.ok key, ⟨later, []⟩) := by
  have catalogued := reached.catalogued
  refine ⟨catalogued.nodup, fun entry => at?_eq_of_nodup catalogued.nodup,
    fun source location => ?_⟩
  intro ended after
  have extended : store.Extends after := load_extends source location store
  refine ⟨extended, fun name decl => lookup_of_prefix extended.types,
    fun name decl => lookup_of_prefix extended.elements, fun place failed => ?_,
    fun key => load_again, fun key answered => ?_⟩
  · rcases load_troubles source location store [] _ failed with trouble | ⟨tired, _⟩
    · exact trouble.not_duplicate
    · cases tired
  · have returned : Returns (load source location) store key after :=
      Task.returns_of_perform answered
    have named := load_key returned
    obtain ⟨entry, found⟩ := Option.isSome_iff_exists.mp (load_stored returned)
    refine ⟨entry, found, fun later leads => ?_⟩
    have kept : later.at? key = some entry := leads.extends.at? found
    refine ⟨kept, fun other again same => ?_⟩
    exact load_again (same.trans named) (Option.isSome_of_eq_some kept)

set_option maxRecDepth 100000 in
/-- A load that is broken off leaves two documents behind. Loaded again, the first of them is the
answer at once, under either spelling, although one of its references was never resolved. -/
theorem brokenShelf_only_appends :
    ∃ begun, start brokenShelf.directory 0 [] = .ok begun ∧
      let broken := (load (brokenShelf.source false) "a").perform begun
      let store := broken.2.state
      Reachable store ∧ broken.1.toOption = none ∧
        store.entries.map Entry.location = ["file:///a", "file:///b"] ∧
        (store.entries.map Entry.location).Nodup ∧
        ∃ entry, store.at? "file:///a" = some entry ∧
          ∀ later, LeadsTo store later → later.at? "file:///a" = some entry ∧
            (load (brokenShelf.source false) "x/../a").perform later =
              (.ok "file:///a", ⟨later, []⟩) := by
  have ran : ((start brokenShelf.directory 0 []).toOption.map fun begun =>
      let broken := (load (brokenShelf.source false) "a").perform begun
      (broken.1.toOption, broken.2.state.entries.map Entry.location,
        ((load (brokenShelf.source false) "a").perform broken.2.state).1.toOption,
        (Location.canonical brokenShelf.directory "a" none).toOption,
        (Location.canonical brokenShelf.directory "x/../a" none).toOption)) =
      some (none, ["file:///a", "file:///b"], some "file:///a", some "file:///a",
        some "file:///a") := by
    simp only [brokenShelf, Text.Utf8.encode_toList]
    decide +kernel
  obtain ⟨begun, made, loaded⟩ := Option.map_eq_some_iff.mp ran
  simp only [Prod.mk.injEq] at loaded
  obtain ⟨failed, places, answered, direct, dotted⟩ := loaded
  have started := ok_of_toOption made
  have reached := (Reachable.start started).load (brokenShelf.source false) "a"
  obtain ⟨nodup, _, loads⟩ := loads_only_append reached
  obtain ⟨_, _, _, _, settled, lasting⟩ := loads (brokenShelf.source false) "a"
  have present : (Store.at? _ "file:///a").isSome :=
    (mem_locations_iff _ _).mp (by rw [places]; simp)
  have unchanged := settled "file:///a" (ok_of_toOption direct) present
  obtain ⟨entry, found, lasts⟩ := lasting "file:///a" (ok_of_toOption answered)
  rw [unchanged] at found lasts
  refine ⟨begun, started, reached, failed, places, nodup, entry, found, fun later leads => ?_⟩
  obtain ⟨kept, again⟩ := lasts later leads
  exact ⟨kept, again (brokenShelf.source false) "x/../a"
    ((ok_of_toOption dotted).trans (ok_of_toOption direct).symm)⟩

end SchemaSharp.Store
