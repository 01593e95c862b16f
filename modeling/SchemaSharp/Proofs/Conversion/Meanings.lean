import SchemaSharp.Conversion.TypeName
import SchemaSharp.Proofs.Result
import SchemaSharp.Proofs.Store.Namespaces

/-!
What a name without a namespace means in a document. It is looked for in no namespace at first, and
then in the effective namespace of the document. So it means what is declared under it in that
namespace exactly if no document that is in no namespace declares it too, wherever that document came
from; in particular in a document that has taken over the namespace of the one that includes it.
-/

namespace SchemaSharp.Conversion

open SchemaSharp.Store (Catalogued firstIn? firstDeclared?)
open Schema (Document TypeDecl ElementDecl QName Home)

section Fallback

variable {α : Type} {store : Store} {declarations : Document → List α}
  {nameOf : α → Option String} {find : QName → Option α}

theorem withFallback_unqualified (store : Store) (find : QName → Option α) (text location : String) :
    withFallback store find ⟨none, text⟩ location =
      (find ⟨none, text⟩).or (find ⟨store.spaceOf location, text⟩) := by
  unfold withFallback
  cases find ⟨none, text⟩ <;> rfl

/-- A stored document that is in no namespace declares the name. -/
def DeclaredOutside (declarations : Document → List α) (nameOf : α → Option String) (store : Store)
    (text : String) : Prop :=
  ∃ entry ∈ store.entries, entry.space = none ∧
    ∃ decl ∈ declarations entry.document, Schema.given? (nameOf decl) = some text

/-- Exactly if a document in no namespace declares the name, it is found in no namespace. -/
theorem firstIn?_none_isSome_iff (text : String) :
    (firstIn? declarations nameOf store.entries ⟨none, text⟩).isSome ↔
      DeclaredOutside declarations nameOf store text := by
  constructor
  · intro found
    obtain ⟨decl, found⟩ := Option.isSome_iff_exists.mp found
    obtain ⟨entry, stored, here⟩ := List.exists_of_findSome?_eq_some found
    have borne := Store.bears_iff.mp (List.find?_some here)
    exact ⟨entry, stored, borne.1, decl, List.mem_of_find?_eq_some here, borne.2⟩
  · rintro ⟨entry, stored, outside, decl, declared, named⟩
    obtain ⟨kept, first⟩ := Store.exists_firstIn? stored declared named
    rw [← outside, first]
    rfl

/-- What is found in different namespaces is different. -/
theorem ne_of_spaces {homeOf : α → Home}
    (homes : ∀ name decl, find name = some decl → store.spaceOf (homeOf decl).location = name.uri)
    {first second : QName} {decl other : α} (found : find first = some decl)
    (foundOther : find second = some other) (apart : first.uri ≠ second.uri) : decl ≠ other := by
  rintro rfl
  exact apart ((homes first decl found).symm.trans (homes second decl foundOther))

theorem withFallback_eq_iff {homeOf : α → Home}
    (index : ∀ name, find name = firstIn? declarations nameOf store.entries name)
    (homes : ∀ name decl, find name = some decl → store.spaceOf (homeOf decl).location = name.uri)
    {location space text : String} {decl : α} (own : store.spaceOf location = some space)
    (found : find ⟨some space, text⟩ = some decl) :
    withFallback store find ⟨none, text⟩ location = some decl ↔
      ¬ DeclaredOutside declarations nameOf store text := by
  rw [withFallback_unqualified, own, found, ← firstIn?_none_isSome_iff, ← index]
  cases outside : find ⟨none, text⟩ with
  | none => simp
  | some other => simpa using ne_of_spaces homes outside found (by simp)

/-- Otherwise it means the first declaration of the name in no namespace, which is another one. -/
theorem withFallback_outside {homeOf : α → Home} (catalogued : store.Catalogued)
    (index : ∀ name, find name = firstIn? declarations nameOf store.entries name)
    (homes : ∀ name decl, find name = some decl → store.spaceOf (homeOf decl).location = name.uri)
    {space text : String} {decl : α} (found : find ⟨some space, text⟩ = some decl)
    (outside : DeclaredOutside declarations nameOf store text) (location : String) :
    ∃ other, other ≠ decl ∧ store.spaceOf (homeOf other).location = none ∧
      store.firstDeclared? declarations nameOf ⟨none, text⟩ = some other ∧
      withFallback store find ⟨none, text⟩ location = some other := by
  obtain ⟨other, first⟩ := Option.isSome_iff_exists.mp ((firstIn?_none_isSome_iff text).mpr outside)
  have foundOther : find ⟨none, text⟩ = some other := (index _).trans first
  refine ⟨other, ne_of_spaces homes foundOther found (by simp), homes _ other foundOther, ?_, ?_⟩
  · rw [catalogued.firstDeclared?_eq, first]
  · rw [withFallback_unqualified, foundOther, Option.some_or]

end Fallback

/-! ## Types and elements -/

theorem resolveType_perform_iff (conversion : Conversion) (name : QName) (home : Home)
    (decl : TypeDecl) :
    (resolveType name home).perform conversion = (.ok decl, ⟨conversion, []⟩) ↔
      typeMeant? conversion.store name home.location = some decl := by
  rw [Task.perform, resolveType, Task.run_current_bind]
  cases typeMeant? conversion.store name home.location with
  | none => exact ⟨nofun, nofun⟩
  | some meant =>
      change ((.ok meant, ⟨conversion, []⟩) : Except Failure TypeDecl × Logged Conversion) = _ ↔ _
      simp

theorem resolveElement_perform_iff (conversion : Conversion) (name : QName) (home : Home)
    (decl : ElementDecl) :
    (resolveElement name home).perform conversion = (.ok decl, ⟨conversion, []⟩) ↔
      elementMeant? conversion.store name home.location = some decl := by
  rw [Task.perform, resolveElement, Task.run_current_bind]
  cases elementMeant? conversion.store name home.location with
  | none => exact ⟨nofun, nofun⟩
  | some meant =>
      change ((.ok meant, ⟨conversion, []⟩) : Except Failure ElementDecl × Logged Conversion) = _ ↔ _
      simp

/-- After any loads, a name without a namespace is resolved from a stored document whose effective
namespace is `space`, its own or one that was handed down to it. What is found under the name in
`space` is the answer exactly if no stored document that is in no namespace declares the name. If one
does, the first of those declarations is the answer. -/
theorem unqualified_means_own_namespace_iff {conversion : Conversion}
    (reached : Store.Reachable conversion.store) {entry : Entry}
    (stored : entry ∈ conversion.store.entries) {space : String} (own : entry.space = some space)
    (text : String) :
    (∀ decl, conversion.store.lookupType? ⟨some space, text⟩ = some decl →
      ((resolveType ⟨none, text⟩ entry.document.home).perform conversion =
          (.ok decl, ⟨conversion, []⟩) ↔
        ¬ DeclaredOutside Document.types TypeDecl.name conversion.store text) ∧
      (DeclaredOutside Document.types TypeDecl.name conversion.store text →
        ∃ other, other ≠ decl ∧ conversion.store.spaceOf other.home.location = none ∧
          conversion.store.firstDeclared? Document.types TypeDecl.name ⟨none, text⟩ = some other ∧
          (resolveType ⟨none, text⟩ entry.document.home).perform conversion =
            (.ok other, ⟨conversion, []⟩))) ∧
    ∀ decl, conversion.store.lookupElement? ⟨some space, text⟩ = some decl →
      ((resolveElement ⟨none, text⟩ entry.document.home).perform conversion =
          (.ok decl, ⟨conversion, []⟩) ↔
        ¬ DeclaredOutside Document.elements ElementDecl.name conversion.store text) ∧
      (DeclaredOutside Document.elements ElementDecl.name conversion.store text →
        ∃ other, other ≠ decl ∧ conversion.store.spaceOf other.home.location = none ∧
          conversion.store.firstDeclared? Document.elements ElementDecl.name ⟨none, text⟩ =
            some other ∧
          (resolveElement ⟨none, text⟩ entry.document.home).perform conversion =
            (.ok other, ⟨conversion, []⟩)) := by
  have catalogued := reached.catalogued
  have inside : conversion.store.spaceOf entry.document.home.location = some space :=
    (catalogued.spaceOf_eq stored).trans own
  constructor
  · intro decl found
    simp only [resolveType_perform_iff, typeMeant?]
    have homes : ∀ name decl, conversion.store.lookupType? name = some decl →
        conversion.store.spaceOf (TypeDecl.home decl).location = name.uri :=
      fun _ _ => catalogued.spaceOf_type
    exact ⟨withFallback_eq_iff catalogued.types homes inside found,
      fun outside => withFallback_outside catalogued catalogued.types homes found outside _⟩
  · intro decl found
    simp only [resolveElement_perform_iff, elementMeant?]
    have homes : ∀ name decl, conversion.store.lookupElement? name = some decl →
        conversion.store.spaceOf (ElementDecl.home decl).location = name.uri :=
      fun _ _ => catalogued.spaceOf_element
    exact ⟨withFallback_eq_iff catalogued.elements homes inside found,
      fun outside => withFallback_outside catalogued catalogued.elements homes found outside _⟩

/-- A file with a namespace includes a file without one, which declares two types, and imports
another file without one, which declares one of them too. -/
def lenderShelf : World :=
  let file (name text : String) : List (List Char) × List UInt8 :=
    ([name.toList], Text.Utf8.encode
      ("<s:schema xmlns:s='http://www.w3.org/2001/XMLSchema'" ++ text ++ "</s:schema>").toList)
  { directory := ⟨['/'], []⟩
    files :=
      [file "a" (" targetNamespace='urn:m'><s:include schemaLocation='b'/>"
          ++ "<s:import schemaLocation='c'/>"),
        file "b" "><s:complexType name='T'/><s:complexType name='S'/>",
        file "c" "><s:complexType name='T'/>"]
    web := [] }

/-- A conversion in which nothing was done but to load these files. -/
def lenderRun (begun : Store) : Conversion :=
  ⟨((Store.load (lenderShelf.source false) "a").perform begun).2.state, [], [], [], [], [], [], [],
    false, [], [], false⟩

set_option maxRecDepth 100000 in
set_option synthInstance.maxSize 1000 in
theorem lenderShelf_computed :
    ((Store.start lenderShelf.directory 0 []).toOption.map fun begun =>
      let store := (lenderRun begun).store
      ((store.at? "file:///b").map fun entry => (entry.document.targetNamespace, entry.space),
        store.entries.map fun entry => (entry.space, entry.document.types.map TypeDecl.name),
        ["T", "S"].map fun text =>
          ((store.lookupType? ⟨some "urn:m", text⟩).map fun decl => decl.home.location,
            (typeMeant? store ⟨none, text⟩ "file:///b").map fun decl => decl.home.location))) =
      some (some (none, some "urn:m"),
        [(some "urn:m", []), (some "urn:m", [some "T", some "S"]), (none, [some "T"])],
        [(some "file:///b", some "file:///c"), (some "file:///b", some "file:///b")]) := by
  simp only [lenderRun, lenderShelf, Text.Utf8.encode_toList]
  decide +kernel

/-- The run on these files: the included one has taken over the namespace, both of its types are
found there, and only the imported one is in no namespace. -/
theorem lenderShelf_ran :
    ∃ begun, Store.start lenderShelf.directory 0 [] = .ok begun ∧
      Store.Reachable (lenderRun begun).store ∧
      (∃ entry ∈ (lenderRun begun).store.entries, entry.location = "file:///b" ∧
        entry.document.targetNamespace = none ∧ entry.space = some "urn:m") ∧
      (∀ entry ∈ (lenderRun begun).store.entries, entry.space = none →
        entry.document.types.map TypeDecl.name = [some "T"]) ∧
      (∃ decl other, (lenderRun begun).store.lookupType? ⟨some "urn:m", "T"⟩ = some decl ∧
        decl.home.location = "file:///b" ∧
        typeMeant? (lenderRun begun).store ⟨none, "T"⟩ "file:///b" = some other ∧
        other.home.location = "file:///c") ∧
      ∃ decl, (lenderRun begun).store.lookupType? ⟨some "urn:m", "S"⟩ = some decl := by
  obtain ⟨begun, made, computed⟩ := Option.map_eq_some_iff.mp lenderShelf_computed
  obtain ⟨lent, rest⟩ := Prod.mk.inj computed
  obtain ⟨spaces, found⟩ := Prod.mk.inj rest
  have started := ok_of_toOption made
  refine ⟨begun, started, .load (.start started) _ _, ?_, fun entry stored outside => ?_, ?_⟩
  · obtain ⟨entry, held, same⟩ := Option.map_eq_some_iff.mp lent
    have place := List.find?_some held
    exact ⟨entry, List.mem_of_find?_eq_some held, by simpa using place, Prod.mk.inj same⟩
  · have listed := List.mem_map_of_mem (f := fun entry : Entry =>
      (entry.space, entry.document.types.map TypeDecl.name)) stored
    rw [spaces, outside] at listed
    simpa using listed
  · simp only [List.map_cons, List.map_nil, List.cons.injEq, Prod.mk.injEq,
      Option.map_eq_some_iff] at found
    obtain ⟨⟨⟨decl, own, home⟩, other, meant, homeOther⟩, ⟨⟨second, ownSecond, _⟩, _⟩, _⟩ := found
    exact ⟨⟨decl, other, own, home, meant, homeOther⟩, second, ownSecond⟩

/-- From the included file the name that the imported one declares too means the type of the imported
one, though the included file declares it itself and is in another namespace. -/
theorem lender_means_imported :
    ∃ begun, Store.start lenderShelf.directory 0 [] = .ok begun ∧
      Store.Reachable (lenderRun begun).store ∧
      ∃ entry ∈ (lenderRun begun).store.entries, entry.document.targetNamespace = none ∧
        entry.space = some "urn:m" ∧
        ∃ decl other, (lenderRun begun).store.lookupType? ⟨some "urn:m", "T"⟩ = some decl ∧
          decl.home.location = entry.location ∧ other ≠ decl ∧
          (resolveType ⟨none, "T"⟩ entry.document.home).perform (lenderRun begun) =
            (.ok other, ⟨lenderRun begun, []⟩) := by
  obtain ⟨begun, started, reached, ⟨entry, stored, place, nameless, own⟩, _,
    ⟨decl, other, found, home, meant, homeOther⟩, _⟩ := lenderShelf_ran
  refine ⟨begun, started, reached, entry, stored, nameless, own, decl, other, found,
    home.trans place.symm, ?_, ?_⟩
  · rintro rfl
    rw [home] at homeOther
    exact absurd homeOther (by decide)
  · rw [resolveType_perform_iff]
    rwa [← place] at meant

/-- The other name means the type that the included file declares. -/
theorem lender_means_own :
    ∃ begun, Store.start lenderShelf.directory 0 [] = .ok begun ∧
      Store.Reachable (lenderRun begun).store ∧
      ∃ entry ∈ (lenderRun begun).store.entries, entry.document.targetNamespace = none ∧
        entry.space = some "urn:m" ∧
        ∃ decl, (lenderRun begun).store.lookupType? ⟨some "urn:m", "S"⟩ = some decl ∧
          (resolveType ⟨none, "S"⟩ entry.document.home).perform (lenderRun begun) =
            (.ok decl, ⟨lenderRun begun, []⟩) := by
  obtain ⟨begun, started, reached, ⟨entry, stored, _, nameless, own⟩, outside, _, decl, found⟩ :=
    lenderShelf_ran
  refine ⟨begun, started, reached, entry, stored, nameless, own, decl, found, ?_⟩
  refine (((unqualified_means_own_namespace_iff reached stored own "S").1 decl found).1).mpr ?_
  rintro ⟨other, storedOther, spaceless, twin, declared, named⟩
  have listed := List.mem_map_of_mem (f := TypeDecl.name) declared
  rw [outside other storedOther spaceless, List.mem_singleton] at listed
  rw [listed] at named
  exact absurd named (by decide)

end SchemaSharp.Conversion
