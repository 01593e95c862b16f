import SchemaSharp.Proofs.Store.Steps

/-!
What stands in a store. Every stored document is what was read at its location, but for the marks
that say where its references lead, and everything in the indexes was declared in a stored
document, which is the one found as its owner.
-/

namespace SchemaSharp

namespace Schema

def Reference.unmarked (reference : Reference) : Reference := { reference with resolved := none }

/-- The document as it was before any of its references was followed. -/
def Document.unmarked (document : Document) : Document :=
  { document with references := document.references.map Reference.unmarked }

theorem unmarked_of_fresh {home : Home} {document : Document} (fresh : document.Fresh home) :
    document.unmarked = document := by
  have same : document.references.map Reference.unmarked = document.references := by
    refine (List.map_congr_left fun reference member => ?_).trans (List.map_id _)
    have unresolved := fresh.unresolved reference member
    cases reference
    simpa [Reference.unmarked] using unresolved.symm
  simp only [Document.unmarked, same]

end Schema

namespace Store

open Schema (Document Reference TypeDecl ElementDecl QName Home)
open Relation (ReflTransGen)

/-! ## Marks -/

@[simp]
theorem space_markEntry (pending : Pending) (target : String) (entry : Entry) :
    (markEntry pending target entry).space = entry.space := by
  unfold markEntry
  split <;> rfl

@[simp]
theorem home_markEntry (pending : Pending) (target : String) (entry : Entry) :
    (markEntry pending target entry).document.home = entry.document.home := by
  unfold markEntry
  split <;> rfl

@[simp]
theorem types_markEntry (pending : Pending) (target : String) (entry : Entry) :
    (markEntry pending target entry).document.types = entry.document.types := by
  unfold markEntry
  split <;> rfl

@[simp]
theorem elements_markEntry (pending : Pending) (target : String) (entry : Entry) :
    (markEntry pending target entry).document.elements = entry.document.elements := by
  unfold markEntry
  split <;> rfl

/-- Of all references only the one at the place that is marked changes. -/
theorem getElem?_markEntry (pending : Pending) (target : String) (entry : Entry) (index : Nat) :
    (markEntry pending target entry).document.references[index]? =
      entry.document.references[index]?.map fun reference =>
        if entry.location = pending.referrer.location ∧ pending.position = index then
          { reference with resolved := some target }
        else reference := by
  unfold markEntry
  by_cases referring : entry.location = pending.referrer.location
  · rw [if_pos (by simpa using referring), markReference, List.getElem?_modify]
    by_cases marked : pending.position = index
    · simp [referring, marked]
    · simp [marked]
  · rw [if_neg (by simpa using referring)]
    simp [referring]

theorem unmarked_markEntry (pending : Pending) (target : String) (entry : Entry) :
    (markEntry pending target entry).document.unmarked = entry.document.unmarked := by
  have same : (markEntry pending target entry).document.references.map Reference.unmarked =
      entry.document.references.map Reference.unmarked := by
    apply List.ext_getElem?
    intro index
    rw [List.getElem?_map, List.getElem?_map, getElem?_markEntry]
    cases entry.document.references[index]? with
    | none => rfl
    | some reference =>
        simp only [Option.map_some]
        split <;> rfl
  rw [Document.unmarked, same]
  unfold markEntry
  split <;> rfl

theorem mem_references_markEntry {pending : Pending} {target : String} {entry : Entry}
    {reference : Reference}
    (member : reference ∈ (markEntry pending target entry).document.references) :
    reference ∈ entry.document.references ∨ reference.resolved = some target := by
  obtain ⟨index, found⟩ := List.mem_iff_getElem?.mp member
  rw [getElem?_markEntry] at found
  obtain ⟨earlier, old, same⟩ := Option.map_eq_some_iff.mp found
  split at same
  · exact .inr (same ▸ rfl)
  · exact .inl (same ▸ List.mem_of_getElem? old)

/-! ## Soundness -/

/-- The document stands at its location, apart from its marks. -/
def ReadFrom (source : Source) (edition : Nat) (document : Document) : Prop :=
  ∃ content, (source.fetch document.location).2 = .ok content ∧
    Document.ofBytes ⟨document.location, edition⟩ content = .ok document.unmarked

/-- What is indexed was declared under that name in a stored document, in its effective
namespace. -/
def Indexed {α : Type} (store : Store) (declarations : Document → List α)
    (nameOf : α → Option String) (index : List (QName × α)) : Prop :=
  ∀ name decl, (name, decl) ∈ index →
    ∃ entry ∈ store.entries, decl ∈ declarations entry.document ∧
      Schema.given? (nameOf decl) = some name.name ∧ name.uri = entry.space

structure Sound (source : Source) (store : Store) : Prop where
  nodup : (store.entries.map Entry.location).Nodup
  read : ∀ entry ∈ store.entries, ReadFrom source store.edition entry.document
  types : store.Indexed Document.types TypeDecl.name store.types
  elements : store.Indexed Document.elements ElementDecl.name store.elements
  targets : ∀ entry ∈ store.entries, ∀ reference ∈ entry.document.references,
    ∀ target, reference.resolved = some target → (store.at? target).isSome

theorem start_sound {source : Source} {directory : FilePath} {edition : Nat} {paths : List String}
    {store : Store} (started : start directory edition paths = .ok store) :
    store.entries = [] ∧ store.edition = edition ∧ store.Sound source := by
  obtain ⟨bases, _, made⟩ := ok_of_bind started
  cases made
  exact ⟨rfl, rfl, by simp, by simp, fun _ _ member => by simp at member,
    fun _ _ member => by simp at member, by simp⟩

/-! ## Entering -/

theorem mem_enter {α : Type} {kind : String} {space : Option String} {nameOf : α → Option String}
    {decls : List α} {index : List (QName × α)} {name : QName} {decl : α}
    (member : (name, decl) ∈ (enter kind space nameOf decls index).1) :
    (name, decl) ∈ index ∨
      decl ∈ decls ∧ Schema.given? (nameOf decl) = some name.name ∧ name.uri = space := by
  induction decls generalizing index with
  | nil => exact .inl member
  | cons first rest ih =>
      rw [enter] at member
      split at member
      · rcases ih member with old | ⟨later, called⟩
        · exact .inl old
        · exact .inr ⟨List.mem_cons_of_mem _ later, called⟩
      · next text called =>
          cases taken : index.lookup (⟨space, text⟩ : QName) with
          | none =>
              simp only [taken] at member
              rcases ih member with old | ⟨later, named⟩
              · rcases List.mem_append.mp old with older | new
                · exact .inl older
                · cases List.mem_singleton.mp new
                  exact .inr ⟨by simp, called, rfl⟩
              · exact .inr ⟨List.mem_cons_of_mem _ later, named⟩
          | some kept =>
              simp only [taken] at member
              rcases ih member with old | ⟨later, named⟩
              · exact .inl old
              · exact .inr ⟨List.mem_cons_of_mem _ later, named⟩

theorem indexed_add {α : Type} {store : Store} {document : Document} {inherited : Option String}
    {kind : String} {declarations : Document → List α} {nameOf : α → Option String}
    {index : List (QName × α)} (indexed : store.Indexed declarations nameOf index) :
    (store.add document inherited).1.Indexed declarations nameOf
      (enter kind (effectiveSpace document inherited) nameOf (declarations document) index).1 := by
  intro name decl member
  rcases mem_enter member with old | ⟨declared, called, space⟩
  · obtain ⟨entry, stored, found⟩ := indexed name decl old
    exact ⟨entry, by rw [entries_add]; simp [stored], found⟩
  · exact ⟨⟨document, effectiveSpace document inherited⟩, by rw [entries_add]; simp, declared,
      called, space⟩

theorem indexed_markResolved {α : Type} {store : Store} {pending : Pending} {target : String}
    {declarations : Document → List α} {nameOf : α → Option String} {index : List (QName × α)}
    (same : ∀ entry, declarations (markEntry pending target entry).document =
      declarations entry.document)
    (indexed : store.Indexed declarations nameOf index) :
    (markResolved pending target store).Indexed declarations nameOf index := by
  intro name decl member
  obtain ⟨entry, stored, declared, called, space⟩ := indexed name decl member
  exact ⟨markEntry pending target entry, List.mem_map_of_mem stored, by rwa [same], called,
    by rwa [space_markEntry]⟩

theorem nodup_add {store : Store} {document : Document} (inherited : Option String)
    (nodup : (store.entries.map Entry.location).Nodup)
    (absent : store.at? document.location = none) :
    ((store.add document inherited).1.entries.map Entry.location).Nodup := by
  rw [entries_add, List.map_append]
  refine List.Nodup.append nodup (List.nodup_singleton _) ?_
  apply List.disjoint_singleton.mpr
  intro taken
  rw [mem_locations_iff, Entry.location, absent] at taken
  cases taken

theorem Sound.add {source : Source} {store : Store} {location : String} {content : List UInt8}
    {document : Document} (inherited : Option String) (sound : store.Sound source)
    (absent : store.at? location = none) (fetched : (source.fetch location).2 = .ok content)
    (read : Document.ofBytes ⟨location, store.edition⟩ content = .ok document) :
    (store.add document inherited).1.Sound source := by
  have fresh := Schema.ofBytes_fresh read
  have place : document.location = location := congrArg Home.location fresh.home_eq
  refine ⟨?_, ?_, indexed_add sound.types, indexed_add sound.elements, ?_⟩
  · exact nodup_add inherited sound.nodup (by rw [place, absent])
  · intro entry member
    rw [entries_add] at member
    rcases List.mem_append.mp member with earlier | new
    · exact sound.read entry earlier
    · rw [List.mem_singleton.mp new]
      refine ⟨content, by rwa [place], ?_⟩
      change Document.ofBytes ⟨document.location, store.edition⟩ content = .ok document.unmarked
      rwa [Schema.unmarked_of_fresh fresh, place]
  · intro entry member reference listed target leads
    rw [entries_add] at member
    rcases List.mem_append.mp member with earlier | new
    · have stored := sound.targets entry earlier reference listed target leads
      exact Step.isSome_at? (.add inherited absent fetched read) stored
    · rw [List.mem_singleton.mp new] at listed
      rw [fresh.unresolved reference listed] at leads
      cases leads

theorem Sound.mark {source : Source} {store : Store} {pending : Pending} {target : String}
    (sound : store.Sound source) (stored : (store.at? target).isSome) :
    (markResolved pending target store).Sound source := by
  refine ⟨?_, ?_, indexed_markResolved (types_markEntry pending target) sound.types,
    indexed_markResolved (elements_markEntry pending target) sound.elements, ?_⟩
  · rw [locations_markResolved]
    exact sound.nodup
  · intro entry member
    obtain ⟨old, present, rfl⟩ := List.mem_map.mp member
    obtain ⟨content, fetched, read⟩ := sound.read old present
    refine ⟨content, ?_, ?_⟩
    · rwa [← Entry.location, location_markEntry]
    · rwa [← Entry.location, location_markEntry, unmarked_markEntry]
  · intro entry member reference listed goal leads
    refine @Step.isSome_at? source _ _ _ (.mark pending stored) ?_
    obtain ⟨old, present, rfl⟩ := List.mem_map.mp member
    rcases mem_references_markEntry listed with earlier | new
    · exact sound.targets old present reference earlier goal leads
    · cases new.symm.trans leads
      exact stored

theorem Step.sound {source : Source} {before after : Store} (step : Step source before after)
    (sound : before.Sound source) : after.Sound source := by
  cases step with
  | add inherited absent fetched read => exact sound.add inherited absent fetched read
  | mark pending stored => exact sound.mark stored

theorem sound_of_steps {source : Source} {before after : Store}
    (steps : ReflTransGen (Step source) before after) (sound : before.Sound source) :
    after.Sound source := by
  induction steps with
  | refl => exact sound
  | tail _ step ih => exact step.sound ih

/-! ## Lookups -/

theorem at?_eq_of_nodup {store : Store} {entry : Entry}
    (nodup : (store.entries.map Entry.location).Nodup) (stored : entry ∈ store.entries) :
    store.at? entry.location = some entry := by
  have present := (mem_locations_iff store entry.location).mp (List.mem_map_of_mem stored)
  obtain ⟨found, hit⟩ := Option.isSome_iff_exists.mp present
  have same : found.location = entry.location := by simpa using List.find?_some hit
  rw [hit, List.inj_on_of_nodup_map nodup (List.mem_of_find?_eq_some hit) stored same]

theorem Sound.at?_eq {source : Source} {store : Store} {entry : Entry}
    (sound : store.Sound source) (stored : entry ∈ store.entries) :
    store.at? entry.location = some entry :=
  at?_eq_of_nodup sound.nodup stored

theorem mem_of_lookup {α : Type} {index : List (QName × α)} {name : QName} {decl : α}
    (found : index.lookup name = some decl) : (name, decl) ∈ index := by
  obtain ⟨_, _, split, _⟩ := List.lookup_eq_some_iff.mp found
  simp [split]

theorem mem_of_at? {store : Store} {location : String} {entry : Entry}
    (found : store.at? location = some entry) :
    entry ∈ store.entries ∧ entry.location = location :=
  ⟨List.mem_of_find?_eq_some found, by simpa using List.find?_some found⟩

/-- A stored document has all that holds of what was just read. -/
theorem Sound.fresh {source : Source} {store : Store} {entry : Entry} (sound : store.Sound source)
    (stored : entry ∈ store.entries) :
    entry.document.unmarked.Fresh ⟨entry.location, store.edition⟩ := by
  obtain ⟨content, _, read⟩ := sound.read entry stored
  exact Schema.ofBytes_fresh read

theorem Sound.owner?_eq {source : Source} {store : Store} {entry : Entry}
    (sound : store.Sound source) (stored : entry ∈ store.entries) :
    store.owner? ⟨entry.location, store.edition⟩ = some entry := by
  have own : entry.document.home = ⟨entry.location, store.edition⟩ :=
    (sound.fresh stored).home_eq
  simp [owner?, sound.at?_eq stored, own]

theorem Sound.type_owner? {source : Source} {store : Store} {name : QName} {decl : TypeDecl}
    (sound : store.Sound source) (found : store.lookupType? name = some decl) :
    ∃ entry ∈ store.entries, decl ∈ entry.document.types ∧
      Schema.given? decl.name = some name.name ∧ store.owner? decl.home = some entry := by
  obtain ⟨entry, stored, declared, called, _⟩ :=
    sound.types name decl (mem_of_lookup found)
  refine ⟨entry, stored, declared, called, ?_⟩
  rw [(sound.fresh stored).types decl declared]
  exact sound.owner?_eq stored

theorem Sound.element_owner? {source : Source} {store : Store} {name : QName} {decl : ElementDecl}
    (sound : store.Sound source) (found : store.lookupElement? name = some decl) :
    ∃ entry ∈ store.entries, decl ∈ entry.document.elements ∧
      Schema.given? decl.name = some name.name ∧ store.owner? decl.home = some entry := by
  obtain ⟨entry, stored, declared, called, _⟩ :=
    sound.elements name decl (mem_of_lookup found)
  refine ⟨entry, stored, declared, called, ?_⟩
  rw [(sound.fresh stored).elements decl declared]
  exact sound.owner?_eq stored

end Store

end SchemaSharp
