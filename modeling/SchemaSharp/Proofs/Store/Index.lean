import SchemaSharp.Proofs.Store.Sound
import SchemaSharp.World

/-!
The indexes of a store. However loads went, and whatever the source answered from one to the next,
looking up a name finds the first declaration of that name among the stored documents, in the order
in which they were loaded and then in the order of declaration; and the owner of what was found is
the one stored document that declares it.
-/

namespace SchemaSharp.Store

open Schema (Document TypeDecl ElementDecl QName Home)
open Relation (ReflTransGen)

variable {α : Type}

/-! ## First declarations -/

/-- In the namespace `space` the declaration has this name; without a name, or with an empty one, it
has none at all. -/
def bears (nameOf : α → Option String) (name : QName) (space : Option String) (decl : α) : Bool :=
  space == name.uri && nameOf decl == some name.name && !name.name.isEmpty

/-- The first declaration of a name, going through the documents in the order of loading and
through each document in the order of declaration. -/
def firstDeclared? (declarations : Document → List α) (nameOf : α → Option String) (store : Store)
    (name : QName) : Option α :=
  store.entries.findSome? fun entry =>
    (declarations entry.document).find? (bears nameOf name (store.spaceOf entry.location))

/-- The same, with the namespace of each document read off its entry. -/
def firstIn? (declarations : Document → List α) (nameOf : α → Option String)
    (entries : List Entry) (name : QName) : Option α :=
  entries.findSome? fun entry =>
    (declarations entry.document).find? (bears nameOf name entry.space)

theorem bears_iff {nameOf : α → Option String} {name : QName} {space : Option String} {decl : α} :
    bears nameOf name space decl ↔
      space = name.uri ∧ Schema.given? (nameOf decl) = some name.name := by
  simp [bears, Schema.given?, Option.filter_eq_some_iff, and_assoc]

theorem bears_of_given {nameOf : α → Option String} {name : QName} {space : Option String}
    {decl : α} {text : String} (given : Schema.given? (nameOf decl) = some text) :
    bears nameOf name space decl = (name == ⟨space, text⟩) := by
  rw [Bool.eq_iff_iff, bears_iff, given, beq_iff_eq]
  cases name
  simp [eq_comm]

theorem not_bears_of_nameless {nameOf : α → Option String} {name : QName} {space : Option String}
    {decl : α} (nameless : Schema.given? (nameOf decl) = none) :
    bears nameOf name space decl = false := by
  rw [Bool.eq_false_iff, Ne, bears_iff, nameless]
  simp

/-- A name that is taken keeps its declaration; any other gets the first that bears it. -/
theorem lookup_enter (kind : String) (space : Option String) (nameOf : α → Option String)
    (decls : List α) (index : List (QName × α)) (name : QName) :
    (enter kind space nameOf decls index).1.lookup name =
      (index.lookup name).or (decls.find? (bears nameOf name space)) := by
  induction decls generalizing index with
  | nil => simp [enter]
  | cons decl rest ih =>
      rw [enter]
      cases given : Schema.given? (nameOf decl) with
      | none => simp [ih, not_bears_of_nameless given]
      | some text =>
          have borne : bears nameOf name space decl = (name == ⟨space, text⟩) :=
            bears_of_given given
          by_cases same : name = ⟨space, text⟩
          · subst same
            cases taken : index.lookup (⟨space, text⟩ : QName) with
            | none => simp [taken, ih, List.lookup_append, borne]
            | some kept => simp [taken, ih]
          · have passed : (name == (⟨space, text⟩ : QName)) = false := by simpa using same
            cases taken : index.lookup (⟨space, text⟩ : QName) with
            | none => simp [taken, ih, List.lookup_append, List.lookup_cons, borne, passed]
            | some kept => simp [taken, ih, borne, passed]

/-! ## The invariant -/

/-- The indexes hold the first declarations, and every declaration says in which reading of which
document it was made. -/
structure Catalogued (store : Store) : Prop where
  nodup : (store.entries.map Entry.location).Nodup
  homes : ∀ entry ∈ store.entries, entry.document.home = ⟨entry.location, store.edition⟩
  typeHomes : ∀ entry ∈ store.entries, ∀ decl ∈ entry.document.types,
    decl.home = entry.document.home
  elementHomes : ∀ entry ∈ store.entries, ∀ decl ∈ entry.document.elements,
    decl.home = entry.document.home
  types : ∀ name, store.types.lookup name =
    firstIn? Document.types TypeDecl.name store.entries name
  elements : ∀ name, store.elements.lookup name =
    firstIn? Document.elements ElementDecl.name store.entries name

theorem firstIn?_markEntry {declarations : Document → List α} {nameOf : α → Option String}
    {pending : Pending} {target : String} (entries : List Entry) (name : QName)
    (same : ∀ entry, declarations (markEntry pending target entry).document =
      declarations entry.document) :
    firstIn? declarations nameOf (entries.map (markEntry pending target)) name =
      firstIn? declarations nameOf entries name := by
  simp [firstIn?, List.findSome?_map, Function.comp_def, same]

theorem firstIn?_append {declarations : Document → List α} {nameOf : α → Option String}
    (entries : List Entry) (document : Document) (space : Option String) (name : QName) :
    firstIn? declarations nameOf (entries ++ [⟨document, space⟩]) name =
      (firstIn? declarations nameOf entries name).or
        ((declarations document).find? (bears nameOf name space)) := by
  simp [firstIn?, List.findSome?_append]

theorem start_catalogued {directory : FilePath} {edition : Nat} {paths : List String}
    {store : Store} (started : start directory edition paths = .ok store) : store.Catalogued := by
  obtain ⟨bases, _, made⟩ := ok_of_bind started
  cases made
  constructor <;> simp [firstIn?]

theorem Catalogued.add {store : Store} {document : Document} (inherited : Option String)
    (catalogued : store.Catalogued) (absent : store.at? document.location = none)
    (fresh : document.Fresh ⟨document.location, store.edition⟩) :
    (store.add document inherited).1.Catalogued := by
  have each : ∀ {holds : Entry → Prop}, (∀ entry ∈ store.entries, holds entry) →
      holds ⟨document, effectiveSpace document inherited⟩ →
        ∀ entry ∈ (store.add document inherited).1.entries, holds entry := by
    intro holds old new entry member
    rw [entries_add] at member
    rcases List.mem_append.mp member with earlier | last
    · exact old entry earlier
    · exact List.mem_singleton.mp last ▸ new
  constructor
  · exact nodup_add inherited catalogued.nodup absent
  · exact each catalogued.homes fresh.home_eq
  · exact each catalogued.typeHomes fun decl declared => by
      rw [fresh.types decl declared, fresh.home_eq]
  · exact each catalogued.elementHomes fun decl declared => by
      rw [fresh.elements decl declared, fresh.home_eq]
  · intro name
    rw [entries_add, firstIn?_append, ← catalogued.types]
    exact lookup_enter "type" _ TypeDecl.name document.types store.types name
  · intro name
    rw [entries_add, firstIn?_append, ← catalogued.elements]
    exact lookup_enter "element" _ ElementDecl.name document.elements store.elements name

theorem Catalogued.mark {store : Store} {pending : Pending} {target : String}
    (catalogued : store.Catalogued) : (markResolved pending target store).Catalogued := by
  constructor
  · rw [locations_markResolved]
    exact catalogued.nodup
  · intro entry member
    obtain ⟨old, stored, rfl⟩ := List.mem_map.mp member
    rw [home_markEntry, location_markEntry]
    exact catalogued.homes old stored
  · intro entry member decl declared
    obtain ⟨old, stored, rfl⟩ := List.mem_map.mp member
    rw [types_markEntry] at declared
    rw [home_markEntry]
    exact catalogued.typeHomes old stored decl declared
  · intro entry member decl declared
    obtain ⟨old, stored, rfl⟩ := List.mem_map.mp member
    rw [elements_markEntry] at declared
    rw [home_markEntry]
    exact catalogued.elementHomes old stored decl declared
  · intro name
    exact (catalogued.types name).trans
      (firstIn?_markEntry store.entries name (types_markEntry pending target)).symm
  · intro name
    exact (catalogued.elements name).trans
      (firstIn?_markEntry store.entries name (elements_markEntry pending target)).symm

theorem Step.catalogued {source : Source} {before after : Store}
    (step : Step source before after) (catalogued : before.Catalogued) : after.Catalogued := by
  cases step with
  | @add location content document inherited absent fetched read =>
      have fresh := Schema.ofBytes_fresh read
      have place : document.location = location := congrArg Home.location fresh.home_eq
      rw [← place] at absent fresh
      exact catalogued.add inherited absent fresh
  | mark pending stored => exact catalogued.mark

theorem catalogued_of_steps {source : Source} {before after : Store}
    (steps : ReflTransGen (Step source) before after) (catalogued : before.Catalogued) :
    after.Catalogued := by
  induction steps with
  | refl => exact catalogued
  | tail _ step ih => exact step.catalogued ih

/-! ## Any loads -/

/-- The stores that loads lead to, one after the other, also when some of them fail. From one load
to the next the source may have changed. -/
inductive Reachable : Store → Prop where
  | start {directory : FilePath} {edition : Nat} {paths : List String} {begun : Store}
      (started : start directory edition paths = .ok begun) : Reachable begun
  | load {before : Store} (reached : Reachable before) (source : Source) (location : String) :
      Reachable ((load source location).perform before).2.state

theorem Reachable.catalogued {store : Store} (reached : Reachable store) : store.Catalogued := by
  induction reached with
  | start started => exact start_catalogued started
  | @load before _ source location ih =>
      exact catalogued_of_steps (load_follows source location before []) ih

theorem Catalogued.spaceOf_eq {store : Store} {entry : Entry} (catalogued : store.Catalogued)
    (stored : entry ∈ store.entries) : store.spaceOf entry.location = entry.space := by
  rw [spaceOf, at?_eq_of_nodup catalogued.nodup stored]
  rfl

theorem findSome?_congr {β : Type} {entries : List Entry} {first second : Entry → Option β}
    (same : ∀ entry ∈ entries, first entry = second entry) :
    entries.findSome? first = entries.findSome? second := by
  induction entries with
  | nil => rfl
  | cons entry rest ih =>
      rw [List.findSome?_cons, List.findSome?_cons, same entry (by simp),
        ih fun other member => same other (List.mem_cons_of_mem _ member)]

theorem Catalogued.firstDeclared?_eq {store : Store} (catalogued : store.Catalogued)
    (declarations : Document → List α) (nameOf : α → Option String) (name : QName) :
    store.firstDeclared? declarations nameOf name =
      firstIn? declarations nameOf store.entries name :=
  findSome?_congr fun entry stored => by rw [catalogued.spaceOf_eq stored]

theorem mem_of_firstIn? {declarations : Document → List α} {nameOf : α → Option String}
    {entries : List Entry} {name : QName} {decl : α}
    (found : firstIn? declarations nameOf entries name = some decl) :
    ∃ entry ∈ entries, decl ∈ declarations entry.document := by
  obtain ⟨entry, stored, here⟩ := List.exists_of_findSome?_eq_some found
  exact ⟨entry, stored, List.mem_of_find?_eq_some here⟩

/-- Where each declaration names its document as its home, the owner of one is the only stored
document that declares it. -/
theorem Catalogued.owner?_iff {store : Store} {declarations : Document → List α} {homeOf : α → Home}
    (catalogued : store.Catalogued)
    (homes : ∀ entry ∈ store.entries, ∀ decl ∈ declarations entry.document,
      homeOf decl = entry.document.home)
    {decl : α} (declared : ∃ entry ∈ store.entries, decl ∈ declarations entry.document) :
    (store.owner? (homeOf decl)).isSome ∧ ∀ entry, store.owner? (homeOf decl) = some entry ↔
      entry ∈ store.entries ∧ decl ∈ declarations entry.document := by
  have owned : ∀ entry ∈ store.entries, decl ∈ declarations entry.document →
      store.owner? (homeOf decl) = some entry := by
    intro entry stored here
    have home := catalogued.homes entry stored
    rw [homes entry stored decl here, home, owner?, at?_eq_of_nodup catalogued.nodup stored]
    simp [home]
  obtain ⟨holder, stored, here⟩ := declared
  have known := owned holder stored here
  refine ⟨by rw [known]; rfl, fun entry =>
    ⟨fun found => ?_, fun holds => owned entry holds.1 holds.2⟩⟩
  rw [known] at found
  cases found
  exact ⟨stored, here⟩

/-- After any loads, a lookup by qualified name finds what was declared first under that name, and
nothing if there is no such declaration; what is found has an owner, which is exactly the stored
document that declares it. -/
theorem lookups_find_first_declared {store : Store} (reached : Reachable store) (name : QName) :
    store.lookupType? name = store.firstDeclared? Document.types TypeDecl.name name ∧
      store.lookupElement? name =
        store.firstDeclared? Document.elements ElementDecl.name name ∧
      (∀ decl, store.lookupType? name = some decl →
        (store.owner? decl.home).isSome ∧ ∀ entry, store.owner? decl.home = some entry ↔
          entry ∈ store.entries ∧ decl ∈ entry.document.types) ∧
      ∀ decl, store.lookupElement? name = some decl →
        (store.owner? decl.home).isSome ∧ ∀ entry, store.owner? decl.home = some entry ↔
          entry ∈ store.entries ∧ decl ∈ entry.document.elements := by
  have catalogued := reached.catalogued
  have types := catalogued.types name
  have elements := catalogued.elements name
  refine ⟨?_, ?_, fun decl found => ?_, fun decl found => ?_⟩
  · rw [catalogued.firstDeclared?_eq, ← types]
    rfl
  · rw [catalogued.firstDeclared?_eq, ← elements]
    rfl
  · exact catalogued.owner?_iff catalogued.typeHomes (mem_of_firstIn? (types.symm.trans found))
  · exact catalogued.owner?_iff catalogued.elementHomes
      (mem_of_firstIn? (elements.symm.trans found))

/-- A file that includes two others: the first takes over its namespace and repeats one of its
names, the second is broken off. -/
def brokenShelf : World :=
  let opening := "<s:schema xmlns:s='http://www.w3.org/2001/XMLSchema'"
  let file (name text : String) : List (List Char) × List UInt8 :=
    ([name.toList], Text.Utf8.encode (opening ++ text).toList)
  { directory := ⟨['/'], []⟩
    files :=
      [file "a" (" targetNamespace='urn:m'><s:include schemaLocation='b'/>"
          ++ "<s:include schemaLocation='c'/><s:complexType name='T'/></s:schema>"),
        file "b" "><s:complexType name='T'/><s:complexType name='S'/></s:schema>",
        file "c" "><s:complexType name='T'/>"]
    web := [] }

set_option maxRecDepth 100000 in
/-- The load of that file fails, and both names are found all the same: the repeated one in the
first document, the other in the second. -/
theorem brokenShelf_lookups_find_first_declared :
    ∃ begun, start brokenShelf.directory 0 [] = .ok begun ∧
      let outcome := (load (brokenShelf.source false) "a").perform begun
      let after := outcome.2.state
      Reachable after ∧ outcome.1.toOption = none ∧
        ∃ repeated other, after.lookupType? ⟨some "urn:m", "T"⟩ = some repeated ∧
          after.lookupType? ⟨some "urn:m", "S"⟩ = some other ∧
            (after.owner? repeated.home).map Entry.location = some "file:///a" ∧
              (after.owner? other.home).map Entry.location = some "file:///b" ∧
                after.firstDeclared? Document.types TypeDecl.name ⟨some "urn:m", "S"⟩ =
                  some other := by
  have ran : ((start brokenShelf.directory 0 []).toOption.map fun begun =>
      let outcome := (load (brokenShelf.source false) "a").perform begun
      let after := outcome.2.state
      (outcome.1.toOption,
        (after.lookupType? ⟨some "urn:m", "T"⟩).map fun decl =>
          (after.owner? decl.home).map Entry.location,
        (after.lookupType? ⟨some "urn:m", "S"⟩).map fun decl =>
          (after.owner? decl.home).map Entry.location)) =
      some (none, some (some "file:///a"), some (some "file:///b")) := by
    simp only [brokenShelf, Text.Utf8.encode_toList]
    decide +kernel
  obtain ⟨begun, made, loaded⟩ := Option.map_eq_some_iff.mp ran
  simp only [Prod.mk.injEq, Option.map_eq_some_iff] at loaded
  obtain ⟨failed, ⟨repeated, first, firstOwner⟩, other, second, secondOwner⟩ := loaded
  have started := ok_of_toOption made
  have reached := (Reachable.start started).load (brokenShelf.source false) "a"
  exact ⟨begun, started, reached, failed, repeated, other, first, second,
    Option.map_eq_some_iff.mpr firstOwner, Option.map_eq_some_iff.mpr secondOwner,
    (lookups_find_first_declared reached ⟨some "urn:m", "S"⟩).1.symm.trans second⟩

end SchemaSharp.Store
