import SchemaSharp.Proofs.Store.Sound
import SchemaSharp.World

/-!
Loading is closed under references. Where a document is loaded only if it is said to be there, each
reference of a stored document leads, once its load has returned, to the first of its candidates
that is there, and to nothing if none is. While documents come in depth first, what is not settled
yet is still to be followed.
-/

namespace SchemaSharp

open Schema (Document Reference Home)
open SchemaSharp.Task (Returns)

/-! ## Honest sources -/

/-- Whether a document is said to be at a location; a question that fails is answered no. -/
def Source.has (source : Source) (location : String) : Bool :=
  match (source.probe location).2 with
  | .ok there => there
  | .error _ => false

/-- Only what is there can be fetched. -/
def Source.Honest (source : Source) : Prop :=
  ∀ location content, (source.fetch location).2 = .ok content → source.has location

theorem has_of_probe {source : Source} {location : String} {there : Bool}
    (answered : (source.probe location).2 = .ok there) : source.has location = there := by
  rw [Source.has, answered]

/-- Files are there if they can be read. -/
theorem World.source_honest (world : World) : (world.source false).Honest := by
  intro location content fetched
  change (world.fetch false location).2 = .ok content at fetched
  change (match (world.probe location).2 with | .ok there => there | .error _ => false) = true
  unfold World.fetch at fetched
  unfold World.probe
  cases remote : Location.isRemote location with
  | error fault =>
      rw [remote] at fetched
      cases fetched
  | ok isRemote =>
      rw [remote] at fetched
      cases isRemote with
      | true => cases fetched
      | false =>
          change world.readFile location = .ok content at fetched
          unfold World.readFile at fetched
          simp only [World.probeFile]
          split at fetched
          · cases fetched
          · next path _ =>
              cases stored : world.content? path with
              | none =>
                  rw [stored] at fetched
                  simp only at fetched
                  split at fetched <;> cases fetched
              | some text => simp [World.isFile, stored]

namespace Store

/-! ## Settled references -/

/-- The first of the candidates that is there. -/
def Settled (source : Source) (store : Store) (location : String) (reference : Reference) : Prop :=
  match Schema.given? reference.schemaLocation with
  | none => reference.resolved = none
  | some text =>
      ∃ found, store.candidates source.directory location text = .ok found ∧
        reference.resolved = found.find? source.has

/-- What is stored need not be looked for. -/
def offers (source : Source) (store : Store) (location : String) : Bool :=
  (store.at? location).isSome || source.has location

theorem offers_eq {source : Source} {store : Store}
    (present : ∀ entry ∈ store.entries, source.has entry.location) :
    store.offers source = source.has := by
  funext location
  cases stored : store.at? location with
  | none => simp [offers, stored]
  | some entry =>
      obtain ⟨member, place⟩ := mem_of_at? stored
      have there := present entry member
      rw [place] at there
      simp [offers, stored, there]

theorem candidates_eq {store other : Store} (same : store.bases = other.bases)
    (directory : FilePath) (referrer schemaLocation : String) :
    store.candidates directory referrer schemaLocation =
      other.candidates directory referrer schemaLocation := by
  rw [candidates, candidates, same]

theorem settled_iff {store other : Store} (same : store.bases = other.bases) (source : Source)
    (location : String) (reference : Reference) :
    store.Settled source location reference ↔ other.Settled source location reference := by
  unfold Settled
  split
  · rfl
  · simp only [candidates_eq same]

/-! ## Following one reference -/

/-- What becomes of a reference with these candidates. -/
inductive Resolution (source : Source) (pending : Pending) (found : List String) (before : Store) :
    Option Document → Store → Prop where
  | nowhere (missing : found.find? (before.offers source) = none) :
      Resolution source pending found before none before
  | known {target : String} (first : found.find? (before.offers source) = some target)
      (stored : (before.at? target).isSome) :
      Resolution source pending found before none (markResolved pending target before)
  | loaded {target : String} {document : Document} {middle : Store}
      (first : found.find? (before.offers source) = some target)
      (returned : Returns (loadOne source target pending.inherited) before document middle) :
      Resolution source pending found before (some document) (markResolved pending target middle)

theorem tryCandidates_resolution {source : Source} {pending : Pending} {schemaLocation : String}
    {found : List String} {before after : Store} {answer : Option Document}
    (returned :
      Returns (tryCandidates source pending schemaLocation found) before answer after) :
    Resolution source pending found before answer after := by
  induction found with
  | nil =>
      obtain ⟨rfl, rfl⟩ := returned.of_say_bind.of_pure
      exact .nowhere rfl
  | cons candidate rest ih =>
      unfold tryCandidates at returned
      have returned := returned.of_current_bind
      split at returned
      · next stored =>
          obtain ⟨rfl, rfl⟩ := returned.of_change_bind.of_pure
          exact .known (by simp [offers, stored]) stored
      · next absent =>
          obtain ⟨there, middle, asked, tried⟩ := returned.of_bind
          obtain ⟨answered, rfl⟩ := asked.of_ask
          have said := has_of_probe answered
          split at tried
          · next yes =>
              obtain ⟨document, loaded, brought, marked⟩ := tried.of_bind
              obtain ⟨rfl, rfl⟩ := marked.of_change_bind.of_pure
              exact .loaded (by simp [offers, said, yes]) brought
          · next no =>
              -- a candidate that is not there is not the first one that is
              have skipped : (candidate :: rest).find? (middle.offers source) =
                  rest.find? (middle.offers source) := by
                simp [offers, said, no, absent]
              cases ih tried with
              | nowhere missing => exact .nowhere (skipped.trans missing)
              | known first stored => exact .known (skipped.trans first) stored
              | loaded first brought => exact .loaded (skipped.trans first) brought

/-! ## What is left to follow -/

def Awaited (work : List Pending) (location : String) (position : Nat) : Prop :=
  ∃ pending ∈ work, pending.referrer.location = location ∧ pending.position = position

/-- While references are followed, each is settled or still to be followed, what is to be followed
is a reference of a stored document, and what is stored is there. -/
structure Closing (source : Source) (store : Store) (work : List Pending) : Prop where
  present : ∀ entry ∈ store.entries, source.has entry.location
  settled : ∀ entry ∈ store.entries, ∀ position reference,
    entry.document.references[position]? = some reference →
      store.Settled source entry.location reference ∨
        reference.resolved = none ∧ Awaited work entry.location position
  genuine : ∀ pending ∈ work, ∃ entry ∈ store.entries, ∃ reference,
    entry.location = pending.referrer.location ∧
      entry.document.references[pending.position]? = some reference ∧
        reference.schemaLocation = pending.reference.schemaLocation

theorem Closing.of_mem {source : Source} {store : Store} {work other : List Pending}
    (closing : Closing source store work) (same : ∀ pending, pending ∈ work ↔ pending ∈ other) :
    Closing source store other := by
  refine ⟨closing.present, fun entry stored position reference listed => ?_,
    fun pending member => ?_⟩
  · rcases closing.settled entry stored position reference listed with done | ⟨unresolved, left⟩
    · exact .inl done
    · obtain ⟨pending, member, here⟩ := left
      exact .inr ⟨unresolved, pending, (same pending).mp member, here⟩
  · exact closing.genuine pending ((same pending).mpr member)

theorem mem_pendingOf_iff {document : Document} {pending : Pending} :
    pending ∈ pendingOf document ↔
      pending.referrer = document ∧
        document.references[pending.position]? = some pending.reference := by
  rw [pendingOf, List.mem_map]
  constructor
  · rintro ⟨⟨reference, position⟩, listed, rfl⟩
    exact ⟨rfl, List.mem_zipIdx_iff_getElem?.mp listed⟩
  · rintro ⟨rfl, listed⟩
    exact ⟨(pending.reference, pending.position), List.mem_zipIdx_iff_getElem?.mpr listed, rfl⟩

/-- A document that comes in brings all of its references, none of which leads anywhere yet. -/
theorem Closing.add {source : Source} {store : Store} {work : List Pending} {document : Document}
    {inherited : Option String} (closing : Closing source store work)
    (there : source.has document.location)
    (unresolved : ∀ reference ∈ document.references, reference.resolved = none) :
    Closing source (store.add document inherited).1 (pendingOf document ++ work) := by
  constructor
  · intro entry member
    rw [entries_add] at member
    rcases List.mem_append.mp member with earlier | new
    · exact closing.present entry earlier
    · rw [List.mem_singleton.mp new]
      exact there
  · intro entry member position reference listed
    rw [entries_add] at member
    rcases List.mem_append.mp member with earlier | new
    · rcases closing.settled entry earlier position reference listed with done | ⟨unmet, left⟩
      · exact .inl ((settled_iff rfl source entry.location reference).mpr done)
      · obtain ⟨pending, waiting, here⟩ := left
        exact .inr ⟨unmet, pending, List.mem_append_right _ waiting, here⟩
    · rw [List.mem_singleton.mp new] at listed ⊢
      -- a reference of the new document leads nowhere yet, and is to be followed
      refine .inr ⟨unresolved reference (List.mem_of_getElem? listed), ?_⟩
      refine ⟨⟨document, reference, position⟩, List.mem_append_left _ ?_, rfl, rfl⟩
      exact mem_pendingOf_iff.mpr ⟨rfl, listed⟩
  · intro pending member
    rw [entries_add]
    rcases List.mem_append.mp member with own | waiting
    · obtain ⟨rfl, listed⟩ := mem_pendingOf_iff.mp own
      exact ⟨_, List.mem_append_right _ (List.mem_singleton.mpr rfl), pending.reference, rfl,
        listed, rfl⟩
    · obtain ⟨entry, stored, rest⟩ := closing.genuine pending waiting
      exact ⟨entry, List.mem_append_left _ stored, rest⟩

/-- The reference that is awaited first need not be awaited if it may stay as it is. -/
theorem Closing.skip {source : Source} {store : Store} {pending : Pending} {rest : List Pending}
    (closing : Closing source store (pending :: rest)) (sound : store.Sound source)
    (done : ∀ reference : Reference,
      reference.schemaLocation = pending.reference.schemaLocation → reference.resolved = none →
        store.Settled source pending.referrer.location reference) :
    Closing source store rest := by
  refine ⟨closing.present, ?_, ?_⟩
  · intro entry stored position reference listed
    rcases closing.settled entry stored position reference listed with
      settled | ⟨unresolved, waiting, member, place, same⟩
    · exact .inl settled
    · rcases List.mem_cons.mp member with rfl | later
      · obtain ⟨home, present, known, found, here, text⟩ := closing.genuine waiting member
        have own : home = entry :=
          List.inj_on_of_nodup_map sound.nodup present stored (found.trans place)
        rw [own, same, listed] at here
        cases here
        rw [← place]
        exact .inl (done reference text unresolved)
      · exact .inr ⟨unresolved, waiting, later, place, same⟩
  · intro waiting member
    exact closing.genuine waiting (List.mem_cons_of_mem _ member)

/-- Marking a reference with the first candidate that is there settles it. -/
theorem Closing.mark {source : Source} {store : Store} {pending : Pending} {rest : List Pending}
    {schemaLocation target : String} {found : List String}
    (closing : Closing source store (pending :: rest))
    (text : Schema.given? pending.reference.schemaLocation = some schemaLocation)
    (searched : store.candidates source.directory pending.referrer.location schemaLocation =
      .ok found)
    (first : found.find? source.has = some target) (sound : store.Sound source) :
    Closing source (markResolved pending target store) rest := by
  obtain ⟨home, present, known, place, here, same⟩ := closing.genuine pending (by simp)
  constructor
  · intro entry member
    obtain ⟨old, stored, rfl⟩ := List.mem_map.mp member
    rw [location_markEntry]
    exact closing.present old stored
  · intro entry member position reference listed
    obtain ⟨old, stored, rfl⟩ := List.mem_map.mp member
    rw [getElem?_markEntry] at listed
    rw [location_markEntry]
    obtain ⟨earlier, before, now⟩ := Option.map_eq_some_iff.mp listed
    split at now
    · next marked =>
        -- no two documents are at one location, so this is the reference that was followed
        have own : home = old :=
          List.inj_on_of_nodup_map sound.nodup present stored (place.trans marked.1.symm)
        rw [← own, ← marked.2, here] at before
        cases before
        subst now
        refine .inl ?_
        rw [Settled, same, text]
        exact ⟨found, by rwa [marked.1], first.symm⟩
    · next others =>
        subst now
        rcases closing.settled old stored position earlier before with
          done | ⟨unresolved, waiting, left, there, index⟩
        · exact .inl ((settled_iff rfl source _ _).mpr done)
        · rcases List.mem_cons.mp left with rfl | later
          · exact absurd ⟨there.symm, index⟩ others
          · exact .inr ⟨unresolved, waiting, later, there, index⟩
  · intro waiting member
    obtain ⟨entry, stored, reference, whose, index, called⟩ :=
      closing.genuine waiting (List.mem_cons_of_mem _ member)
    refine ⟨markEntry pending target entry, List.mem_map_of_mem stored, _, ?_,
      by rw [getElem?_markEntry, index]; rfl, ?_⟩
    · rwa [location_markEntry]
    · split <;> exact called

/-! ## Following all of them -/

/-- Following the first reference leaves the others and those of a new document. -/
theorem resolve_closing {source : Source} {pending : Pending} {rest : List Pending}
    {before after : Store} {answer : Option Document} (sound : before.Sound source)
    (closing : Closing source before (pending :: rest))
    (returned : Returns (resolve source pending) before answer after) :
    Closing source after ((answer.map pendingOf).getD [] ++ rest) := by
  unfold resolve at returned
  cases text : Schema.given? pending.reference.schemaLocation with
  | none =>
      rw [text] at returned
      obtain ⟨rfl, rfl⟩ := returned.of_say_bind.of_pure
      -- without a location there is nothing to lead to
      refine closing.skip sound fun reference same unresolved => ?_
      rw [Settled, same, text]
      exact unresolved
  | some schemaLocation =>
      rw [text] at returned
      obtain ⟨found, searched, returned⟩ := returned.of_current_bind.of_outcome_bind
      have searched := ok_of_orFail searched
      have offered := offers_eq closing.present
      cases tryCandidates_resolution returned with
      | nowhere missing =>
          rw [offered] at missing
          refine closing.skip sound fun reference same unresolved => ?_
          rw [Settled, same, text]
          exact ⟨found, searched, unresolved.trans missing.symm⟩
      | known first stored =>
          rw [offered] at first
          exact closing.mark text searched first sound
      | @loaded target document middle first brought =>
          -- the new document brings references of its own, which come before the others
          rw [offered] at first
          obtain ⟨absent, ⟨content, fetched, read⟩, rfl⟩ := loadOne_returns brought
          have fresh := Schema.ofBytes_fresh read
          have there : source.has document.location := by
            have place : document.location = target := congrArg Home.location fresh.home_eq
            rw [place]
            exact List.find?_some first
          have larger : Closing source (before.add document pending.inherited).1
              (pendingOf document ++ pending :: rest) := closing.add there fresh.unresolved
          have reordered : Closing source (before.add document pending.inherited).1
              (pending :: (pendingOf document ++ rest)) :=
            larger.of_mem fun _ => by
              simp only [List.mem_append, List.mem_cons]
              tauto
          exact reordered.mark text searched first
            (Step.sound (.add _ absent fetched read) sound)

theorem advance_closing {source : Source} {work : List Pending} {before after : Store}
    {answer : Option (Document × List Pending)} (sound : before.Sound source)
    (closing : Closing source before work)
    (returned : Returns (advance source work) before answer after) :
    Closing source after
      ((answer.map fun (document, rest) => pendingOf document ++ rest).getD []) := by
  induction work generalizing before with
  | nil =>
      obtain ⟨rfl, rfl⟩ := returned.of_pure
      exact closing
  | cons pending rest ih =>
      obtain ⟨loaded, middle, resolved, further⟩ := returned.of_bind
      have left := resolve_closing sound closing resolved
      have steps := (resolve_follows source pending before).steps_of_returns resolved
      cases loaded with
      | none => exact ih (sound_of_steps steps sound) left further
      | some document =>
          obtain ⟨rfl, rfl⟩ := further.of_pure
          exact left

theorem follow_closing {source : Source} {patience : Nat} {work : List Pending}
    {before after : Store} (sound : before.Sound source) (closing : Closing source before work)
    (returned : Returns (follow source patience work) before () after) :
    Closing source after [] := by
  induction patience generalizing work before with
  | zero =>
      cases work with
      | nil =>
          obtain ⟨_, rfl⟩ := returned.of_pure
          exact closing
      | cons pending rest => exact absurd returned Returns.of_throw
  | succ patience ih =>
      cases work with
      | nil =>
          obtain ⟨_, rfl⟩ := returned.of_pure
          exact closing
      | cons pending rest =>
          obtain ⟨reached, middle, advanced, further⟩ := returned.of_bind
          have left := advance_closing sound closing advanced
          have steps := (advance_follows source _ before).steps_of_returns advanced
          -- a round without a new document followed all that was left
          cases reached with
          | none =>
              obtain ⟨_, rfl⟩ := further.of_pure
              exact left
          | some pair => exact ih (sound_of_steps steps sound) left further

theorem load_closing {source : Source} {location key : String} {before after : Store}
    (sound : before.Sound source) (closing : Closing source before [])
    (returned : Returns (load source location) before key after) (there : source.has key) :
    Closing source after [] := by
  obtain ⟨_, rfl⟩ | ⟨document, middle, loaded, followed⟩ := (load_returns returned).2
  · exact closing
  · obtain ⟨absent, ⟨content, fetched, read⟩, rfl⟩ := loadOne_returns loaded
    have fresh := Schema.ofBytes_fresh read
    have own : document.location = key := congrArg Home.location fresh.home_eq
    have begun : Closing source (before.add document none).1 (pendingOf document ++ []) :=
      closing.add (own ▸ there) fresh.unresolved
    rw [List.append_nil] at begun
    exact follow_closing (Step.sound (.add _ absent fetched read) sound) begun followed

/-! ## Sequences of loads -/

def loadEach (source : Source) : List String → Task Store Unit
  | [] => return
  | location :: rest => do
      let _ ← load source location
      loadEach source rest

theorem loadEach_closing {source : Source} {locations : List String} {before after : Store}
    (honest : source.Honest) (sound : before.Sound source) (closing : Closing source before [])
    (returned : Returns (loadEach source locations) before () after) :
    after.Sound source ∧ Closing source after [] ∧ after.bases = before.bases ∧
      after.edition = before.edition := by
  induction locations generalizing before with
  | nil =>
      obtain ⟨_, rfl⟩ := returned.of_pure
      exact ⟨sound, closing, rfl, rfl⟩
  | cons location rest ih =>
      obtain ⟨key, middle, loaded, further⟩ := returned.of_bind
      have steps := (load_follows source location before).steps_of_returns loaded
      have kept := sound_of_steps steps sound
      have there : source.has key := by
        obtain ⟨entry, stored⟩ := Option.isSome_iff_exists.mp (load_stored loaded)
        obtain ⟨member, place⟩ := mem_of_at? stored
        obtain ⟨content, fetched, _⟩ := kept.read entry member
        rw [← Entry.location, place] at fetched
        exact honest key content fetched
      obtain ⟨last, closed, bases, edition⟩ :=
        ih kept (load_closing sound closing loaded there) further
      exact ⟨last, closed, bases.trans (bases_eq_of_steps steps),
        edition.trans (edition_eq_of_steps steps)⟩

theorem start_closing {source : Source} {edition : Nat} {paths : List String} {begun : Store}
    (started : start source.directory edition paths = .ok begun) : Closing source begun [] := by
  obtain ⟨empty, _, _⟩ := @start_sound source _ _ _ _ started
  exact ⟨by simp [empty], by simp [empty], by simp⟩

theorem Closing.all_settled {source : Source} {store : Store} (closing : Closing source store [])
    {entry : Entry} (stored : entry ∈ store.entries) {reference : Reference}
    (listed : reference ∈ entry.document.references) :
    store.Settled source entry.location reference := by
  obtain ⟨position, found⟩ := List.mem_iff_getElem?.mp listed
  rcases closing.settled entry stored position reference found with done | ⟨_, _, member, _⟩
  · exact done
  · cases member

theorem settled_unique {source : Source} {store : Store} {location : String}
    {first second : Reference} (left : store.Settled source location first)
    (right : store.Settled source location second) (same : first.unmarked = second.unmarked) :
    first = second := by
  obtain ⟨kind, schemaLocation, uri, resolved⟩ := first
  obtain ⟨_, _, _, other⟩ := second
  cases same
  suffices resolved = other by rw [this]
  unfold Settled at left right
  cases text : Schema.given? schemaLocation with
  | none =>
      simp only [text] at left right
      exact left.trans right.symm
  | some text =>
      simp only [text] at left right
      obtain ⟨found, searched, leads⟩ := left
      obtain ⟨again, searchedAgain, leadsAgain⟩ := right
      cases searched.symm.trans searchedAgain
      exact leads.trans leadsAgain.symm

/-- What two closed stores make of the same references at one location is the same. -/
theorem references_unique {source : Source} {store other : Store}
    (closing : Closing source store []) (otherClosing : Closing source other [])
    (bases : store.bases = other.bases) {entry twin : Entry}
    (stored : entry ∈ store.entries) (storedTwin : twin ∈ other.entries)
    (place : entry.location = twin.location)
    (listed : entry.document.references.map Reference.unmarked =
      twin.document.references.map Reference.unmarked) :
    entry.document.references = twin.document.references := by
  apply List.ext_getElem?
  intro index
  have unmarked := congrArg (·[index]?) listed
  simp only [List.getElem?_map] at unmarked
  cases left : entry.document.references[index]? with
  | none =>
      cases right : twin.document.references[index]? with
      | none => rfl
      | some reference => simp [left, right] at unmarked
  | some first =>
      cases right : twin.document.references[index]? with
      | none => simp [left, right] at unmarked
      | some second =>
          simp only [left, right, Option.map_some, Option.some.injEq] at unmarked
          have settled := closing.all_settled stored (List.mem_of_getElem? left)
          have settledTwin := otherClosing.all_settled storedTwin (List.mem_of_getElem? right)
          rw [place] at settled
          rw [settled_unique ((settled_iff bases source _ _).mp settled) settledTwin unmarked]

/-- Documents at one location are the same in any two stores that are closed. -/
theorem document_unique {source : Source} {store other : Store} (sound : store.Sound source)
    (closing : Closing source store []) (otherSound : other.Sound source)
    (otherClosing : Closing source other []) (bases : store.bases = other.bases)
    (edition : store.edition = other.edition) {entry twin : Entry}
    (stored : entry ∈ store.entries) (storedTwin : twin ∈ other.entries)
    (place : entry.location = twin.location) : entry.document = twin.document := by
  obtain ⟨content, fetched, read⟩ := sound.read entry stored
  obtain ⟨again, fetchedAgain, readAgain⟩ := otherSound.read twin storedTwin
  rw [← Entry.location] at fetched fetchedAgain read readAgain
  rw [place] at fetched read
  cases fetched.symm.trans fetchedAgain
  rw [edition] at read
  have same : entry.document.unmarked = twin.document.unmarked :=
    Except.ok.inj (read.symm.trans readAgain)
  have listed : entry.document.references.map Reference.unmarked =
      twin.document.references.map Reference.unmarked := congrArg Document.references same
  have references :=
    references_unique closing otherClosing bases stored storedTwin place listed
  obtain ⟨⟨home, space, elements, types, _⟩, _⟩ := entry
  obtain ⟨⟨_, _, _, _, _⟩, _⟩ := twin
  cases references
  simp only [Document.unmarked, Document.mk.injEq] at same ⊢
  exact ⟨same.1, same.2.1, same.2.2.1, same.2.2.2.1, trivial⟩

/-- After any loads that returned, each reference with a location leads to the document stored at
the first of its candidates that is there, and to nothing exactly if none is; a reference without a
location leads nowhere. Which loads there were, and in what order, does not matter to it. -/
theorem loaded_references_lead_to_first_candidate {source : Source} (honest : source.Honest)
    {edition : Nat} {paths : List String} {begun : Store}
    (started : start source.directory edition paths = .ok begun) :
    (∀ locations after, Returns (loadEach source locations) begun () after →
      ∀ entry ∈ after.entries, ∀ reference ∈ entry.document.references,
        (Schema.given? reference.schemaLocation = none → reference.resolved = none) ∧
        ∀ text, Schema.given? reference.schemaLocation = some text →
          ∃ found, after.candidates source.directory entry.location text = .ok found ∧
            (reference.resolved = none ↔ ∀ candidate ∈ found, source.has candidate = false) ∧
            ∀ target, reference.resolved = some target →
              found.find? source.has = some target ∧
                ∃ goal ∈ after.entries, goal.location = target) ∧
    ∀ locations others after afterOthers, Returns (loadEach source locations) begun () after →
      Returns (loadEach source others) begun () afterOthers →
        ∀ entry ∈ after.entries, ∀ twin ∈ afterOthers.entries,
          entry.location = twin.location → entry.document = twin.document := by
  obtain ⟨_, _, fresh⟩ := @start_sound source _ _ _ _ started
  have empty := start_closing started
  constructor
  · intro locations after returned entry stored reference listed
    obtain ⟨sound, closing, _, _⟩ := loadEach_closing honest fresh empty returned
    have settled := closing.all_settled stored listed
    unfold Settled at settled
    refine ⟨fun without => by simpa [without] using settled, fun text given => ?_⟩
    rw [given] at settled
    obtain ⟨found, searched, leads⟩ := settled
    refine ⟨found, searched, ?_, fun target known => ⟨leads.symm.trans known, ?_⟩⟩
    · rw [leads, List.find?_eq_none]
      simp
    · have present := sound.targets entry stored reference listed target known
      rw [← mem_locations_iff] at present
      obtain ⟨goal, member, place⟩ := List.mem_map.mp present
      exact ⟨goal, member, place⟩
  · intro locations others after afterOthers returned returnedOthers entry stored twin storedTwin
    obtain ⟨sound, closing, bases, edition⟩ := loadEach_closing honest fresh empty returned
    obtain ⟨otherSound, otherClosing, otherBases, otherEdition⟩ :=
      loadEach_closing honest fresh empty returnedOthers
    exact document_unique sound closing otherSound otherClosing (bases.trans otherBases.symm)
      (edition.trans otherEdition.symm) stored storedTwin

/-- Two files that refer to each other, one of them found below the base only, and a third that is
missing. -/
def shelf : World :=
  let schema (references : String) : List UInt8 :=
    Text.Utf8.encode ("<s:schema xmlns:s='http://www.w3.org/2001/XMLSchema'>" ++ references
      ++ "</s:schema>").toList
  { directory := ⟨['/'], ["w".toList]⟩
    files :=
      [(["w".toList, "a.xsd".toList],
          schema "<s:include schemaLocation='b.xsd'/><s:include schemaLocation='c.xsd'/>"),
        (["w".toList, "i".toList, "b.xsd".toList],
          schema "<s:import schemaLocation='../a.xsd'/>")]
    web := [] }

set_option maxRecDepth 100000 in
theorem shelf_references_lead_to_first_candidate :
    ∃ begun after, start shelf.directory 0 ["i"] = .ok begun ∧
      Returns (loadEach (shelf.source false) ["a.xsd"]) begun () after ∧
        ∀ entry ∈ after.entries, ∀ reference ∈ entry.document.references,
          ∀ text, Schema.given? reference.schemaLocation = some text →
            ∃ found, after.candidates shelf.directory entry.location text = .ok found ∧
              (reference.resolved = none ↔
                ∀ candidate ∈ found, (shelf.source false).has candidate = false) := by
  have ran : ((start shelf.directory 0 ["i"]).toOption.bind fun begun =>
      ((loadEach (shelf.source false) ["a.xsd"]).perform begun).1.toOption) = some () := by
    simp only [shelf, Text.Utf8.encode_toList]
    decide +kernel
  obtain ⟨begun, made, answered⟩ := Option.bind_eq_some_iff.mp ran
  have started := ok_of_toOption made
  have returned := Task.returns_of_perform (ok_of_toOption answered)
  refine ⟨begun, _, started, returned, fun entry stored reference listed text given => ?_⟩
  have led := (loaded_references_lead_to_first_candidate (World.source_honest shelf) started).1
    _ _ returned entry stored reference listed
  obtain ⟨found, searched, unresolved, _⟩ := led.2 text given
  exact ⟨found, searched, unresolved⟩

end Store

end SchemaSharp
