import SchemaSharp.Proofs.Store.Chronicle

/-!
Namespaces handed down. A document without a target namespace that comes in by an include or a
redefinition takes the namespace that its referrer declares. That is the effective namespace of the
referrer where the referrer declares one, and so a chain of includes hands a namespace down for one
link and no further: what is behind the first link is found in no namespace at all.
-/

namespace SchemaSharp.Store

open Schema (Document Reference TypeDecl ElementDecl QName Home)
open SchemaSharp.Task (Returns)
open Relation (ReflTransGen)

/-! ## Entries -/

/-- The document is stored, with this effective namespace. -/
def Holds (store : Store) (document : Document) (space : Option String) : Prop :=
  ∃ entry ∈ store.entries, entry.document.unmarked = document ∧ entry.space = space

section Holds

variable {source : Source} {before after store : Store} {document : Document}
  {space : Option String}

theorem holds_add (document : Document) (inherited : Option String) (store : Store) :
    (store.add document inherited).1.Holds document.unmarked (effectiveSpace document inherited) :=
  ⟨⟨document, effectiveSpace document inherited⟩, by simp [entries_add], rfl, rfl⟩

theorem Holds.mark (holds : store.Holds document space) (pending : Pending) (target : String) :
    (markResolved pending target store).Holds document space := by
  obtain ⟨entry, stored, rfl, rfl⟩ := holds
  exact ⟨markEntry pending target entry, List.mem_map_of_mem stored, unmarked_markEntry _ _ _,
    space_markEntry _ _ _⟩

theorem Holds.of_steps (holds : before.Holds document space)
    (steps : ReflTransGen (Step source) before after) : after.Holds document space := by
  induction steps with
  | refl => exact holds
  | tail _ step ih =>
      cases step with
      | mark pending stored => exact ih.mark pending _
      | add inherited absent fetched read =>
          obtain ⟨entry, stored, own⟩ := ih
          exact ⟨entry, by rw [entries_add]; simp [stored], own⟩

theorem Arrival.holds {pending : Pending} (arrival : Arrival source pending before document after) :
    after.Holds document (effectiveSpace document pending.inherited) := by
  obtain ⟨content, _, read⟩ := arrival.read
  have added := holds_add document pending.inherited before
  rw [Schema.unmarked_of_fresh (Schema.ofBytes_fresh read)] at added
  rw [arrival.after_eq]
  exact added.mark pending document.location

theorem Catalogued.spaceOf_holds (catalogued : store.Catalogued)
    (holds : store.Holds document space) : store.spaceOf document.location = space := by
  obtain ⟨entry, stored, rfl, rfl⟩ := holds
  exact catalogued.spaceOf_eq stored

end Holds

/-! ## Declared namespaces -/

@[simp]
theorem targetNamespace_markEntry (pending : Pending) (target : String) (entry : Entry) :
    (markEntry pending target entry).document.targetNamespace = entry.document.targetNamespace := by
  unfold markEntry
  split <;> rfl

/-- A document that declares a namespace is in that one. -/
def Declared (store : Store) : Prop :=
  ∀ entry ∈ store.entries, ∀ text, Schema.given? entry.document.targetNamespace = some text →
    entry.space = some text

theorem declared_of_steps {source : Source} {before after : Store}
    (steps : ReflTransGen (Step source) before after) (declared : before.Declared) :
    after.Declared := by
  induction steps with
  | refl => exact declared
  | tail _ step ih =>
      intro entry member text given
      cases step with
      | add inherited absent fetched read =>
          rw [entries_add] at member
          rcases List.mem_append.mp member with earlier | new
          · exact ih entry earlier text given
          · rw [List.mem_singleton.mp new] at given ⊢
            simp [effectiveSpace, given]
      | @mark pending target stored =>
          obtain ⟨old, present, rfl⟩ := List.mem_map.mp member
          rw [targetNamespace_markEntry] at given
          rw [space_markEntry]
          exact ih old present text given

theorem Reachable.declared {store : Store} (reached : Reachable store) : store.Declared := by
  induction reached with
  | start started =>
      obtain ⟨bases, _, made⟩ := ok_of_bind started
      cases made
      intro entry member
      cases member
  | @load before _ source location ih =>
      exact declared_of_steps (load_follows source location before []) ih

/-! ## Accounts -/

namespace Chronicle

/-- What the record says of each visit: whose reference it was, and with which effective namespace
the document came in. -/
structure Accounted (chronicle : Chronicle) : Prop where
  owned : ∀ visit ∈ chronicle.visits, chronicle.store.Owns visit.pending
  brought : ∀ visit ∈ chronicle.visits, ∀ document, visit.brought = some document →
    chronicle.store.Holds document (effectiveSpace document visit.pending.inherited)

theorem Round.steps {source : Source} {before after : Chronicle}
    (round : Round source before after) :
    ReflTransGen (Step source) before.store after.store := by
  cases round with
  | opened loaded => exact (loadOne_follows _ _ _ _).steps_of_returns loaded
  | visited owned resolved => exact (resolve_follows _ _ _).steps_of_returns resolved

theorem Round.accounted {source : Source} {before after : Chronicle}
    (round : Round source before after) (accounted : before.Accounted) : after.Accounted := by
  have steps := round.steps
  have old : ∀ visit ∈ before.visits, after.store.Owns visit.pending ∧
      ∀ document, visit.brought = some document →
        after.store.Holds document (effectiveSpace document visit.pending.inherited) :=
    fun visit member => ⟨(accounted.owned visit member).of_steps steps,
      fun document came => (accounted.brought visit member document came).of_steps steps⟩
  cases round with
  | opened loaded => exact ⟨fun visit member => (old visit member).1,
      fun visit member => (old visit member).2⟩
  | @visited pending brought store owned resolved =>
      have new : ∀ document, brought = some document →
          store.Holds document (effectiveSpace document pending.inherited) := by
        rintro document rfl
        exact (resolve_arrival resolved).holds
      constructor
      · intro visit member
        rcases List.mem_append.mp member with earlier | last
        · exact (old visit earlier).1
        · rw [List.mem_singleton.mp last]
          exact owned.of_steps steps
      · intro visit member
        rcases List.mem_append.mp member with earlier | last
        · exact (old visit earlier).2
        · rw [List.mem_singleton.mp last]
          exact new

theorem Recorded.accounted {chronicle : Chronicle} (recorded : Recorded chronicle) :
    chronicle.Accounted :=
  recorded.invariant (fun _ => ⟨by simp, by simp⟩) fun round => round.accounted

end Chronicle

/-! ## Chains of includes -/

/-- The document came in by an include or a redefinition and has no namespace of its own. -/
def Visit.Adopts (visit : Visit) (document : Document) : Prop :=
  visit.pending.reference.kind ≠ .imported ∧ visit.brought = some document ∧
    Schema.given? document.targetNamespace = none

/-- From the first document to the last so many references lead, each of which brought in a document
without a namespace of its own. -/
inductive Chain (visits : List Visit) (first : Document) : Nat → Document → Prop where
  | here : Chain visits first 0 first
  | link {length : Nat} {visit : Visit} {document : Document}
      (before : Chain visits first length visit.pending.referrer) (visited : visit ∈ visits)
      (adopts : visit.Adopts document) : Chain visits first (length + 1) document

theorem effectiveSpace_of_adopts {visit : Visit} {document : Document}
    (adopts : visit.Adopts document) :
    effectiveSpace document visit.pending.inherited = visit.pending.referrer.targetNamespace := by
  obtain ⟨kind, _, nameless⟩ := adopts
  rw [effectiveSpace, nameless, Option.none_or, Pending.inherited]
  cases same : visit.pending.reference.kind with
  | imported => exact absurd same kind
  | included => rfl
  | redefined => rfl

section Chain

variable {visits : List Visit} {first last : Document} {length : Nat}

theorem Chain.eq_first (chain : Chain visits first 0 last) : last = first := by
  cases chain
  rfl

theorem Chain.nameless (chain : Chain visits first length last) (proper : 0 < length) :
    Schema.given? last.targetNamespace = none := by
  cases chain with
  | here => omega
  | link before visited adopts => exact adopts.2.2

/-- The last link of a chain: its referrer is the first document itself or came in without a
namespace. -/
theorem Chain.last_link (chain : Chain visits first length last) (proper : 0 < length) :
    ∃ visit ∈ visits, visit.Adopts last ∧
      (length = 1 ∧ visit.pending.referrer = first ∨
        1 < length ∧ Schema.given? visit.pending.referrer.targetNamespace = none) := by
  cases chain with
  | here => omega
  | @link shorter visit _ before visited adopts =>
      refine ⟨visit, visited, adopts, ?_⟩
      rcases Nat.eq_zero_or_pos shorter with rfl | more
      · exact .inl ⟨rfl, before.eq_first⟩
      · exact .inr ⟨by omega, before.nameless more⟩

theorem Chain.first_referring (chain : Chain visits first length last) (proper : 0 < length) :
    ∃ visit ∈ visits, visit.pending.referrer = first := by
  induction chain with
  | here => omega
  | @link shorter visit document before visited adopts ih =>
      rcases Nat.eq_zero_or_pos shorter with rfl | more
      · exact ⟨visit, visited, before.eq_first⟩
      · exact ih more

end Chain

/-! ## Lookups -/

section Lookups

variable {α : Type} {store : Store} {declarations : Document → List α}
  {nameOf : α → Option String}

theorem exists_firstIn? {entries : List Entry} {entry : Entry} {decl : α} {text : String}
    (stored : entry ∈ entries) (declared : decl ∈ declarations entry.document)
    (named : Schema.given? (nameOf decl) = some text) :
    ∃ kept, firstIn? declarations nameOf entries ⟨entry.space, text⟩ = some kept := by
  rw [← Option.isSome_iff_exists, firstIn?, List.findSome?_isSome_iff]
  refine ⟨entry, stored, ?_⟩
  rw [List.find?_isSome]
  exact ⟨decl, declared, bears_iff.mpr ⟨rfl, named⟩⟩

/-- What is found in a namespace was declared in a document of that namespace. -/
theorem space_of_firstIn? {entries : List Entry} {name : QName} {decl : α}
    (found : firstIn? declarations nameOf entries name = some decl) :
    ∃ entry ∈ entries, decl ∈ declarations entry.document ∧ entry.space = name.uri := by
  obtain ⟨entry, stored, here⟩ := List.exists_of_findSome?_eq_some found
  refine ⟨entry, stored, List.mem_of_find?_eq_some here, ?_⟩
  exact (bears_iff.mp (List.find?_some here)).1

/-- Each declaration of the document that has a name is found in this namespace, or else an earlier
one of that name is. -/
def Finds (store : Store) (space : Option String) (document : Document) : Prop :=
  (∀ decl ∈ document.types, ∀ text, Schema.given? decl.name = some text →
      ∃ kept, store.lookupType? ⟨space, text⟩ = some kept ∧
        store.firstDeclared? Document.types TypeDecl.name ⟨space, text⟩ = some kept) ∧
    ∀ decl ∈ document.elements, ∀ text, Schema.given? decl.name = some text →
      ∃ kept, store.lookupElement? ⟨space, text⟩ = some kept ∧
        store.firstDeclared? Document.elements ElementDecl.name ⟨space, text⟩ = some kept

theorem Catalogued.finds (catalogued : store.Catalogued) {document : Document}
    {space : Option String} (holds : store.Holds document space) : store.Finds space document := by
  obtain ⟨entry, stored, rfl, rfl⟩ := holds
  constructor
  · intro decl (declared : decl ∈ entry.document.types) text named
    obtain ⟨kept, first⟩ := exists_firstIn? stored declared named
    exact ⟨kept, (catalogued.types _).trans first,
      (catalogued.firstDeclared?_eq _ _ _).trans first⟩
  · intro decl (declared : decl ∈ entry.document.elements) text named
    obtain ⟨kept, first⟩ := exists_firstIn? stored declared named
    exact ⟨kept, (catalogued.elements _).trans first,
      (catalogued.firstDeclared?_eq _ _ _).trans first⟩

theorem Catalogued.spaceOf_type (catalogued : store.Catalogued) {name : QName} {decl : TypeDecl}
    (found : store.lookupType? name = some decl) :
    store.spaceOf decl.home.location = name.uri := by
  obtain ⟨entry, stored, declared, space⟩ :=
    space_of_firstIn? ((catalogued.types name).symm.trans found)
  rw [catalogued.typeHomes entry stored decl declared, ← space]
  exact catalogued.spaceOf_eq stored

theorem Catalogued.spaceOf_element (catalogued : store.Catalogued) {name : QName}
    {decl : ElementDecl} (found : store.lookupElement? name = some decl) :
    store.spaceOf decl.home.location = name.uri := by
  obtain ⟨entry, stored, declared, space⟩ :=
    space_of_firstIn? ((catalogued.elements name).symm.trans found)
  rw [catalogued.elementHomes entry stored decl declared, ← space]
  exact catalogued.spaceOf_eq stored

end Lookups

/-! ## What an include hands down -/

section Handed

variable {chronicle : Chronicle}

theorem spaceOf_adopted (recorded : chronicle.Recorded) {visit : Visit} {document : Document}
    (visited : visit ∈ chronicle.visits) (adopts : visit.Adopts document) :
    chronicle.store.Holds document visit.pending.referrer.targetNamespace := by
  have holds := recorded.accounted.brought visit visited document adopts.2.1
  rwa [effectiveSpace_of_adopts adopts] at holds

theorem spaceOf_referrer (recorded : chronicle.Recorded) {visit : Visit} {text : String}
    (visited : visit ∈ chronicle.visits)
    (given : Schema.given? visit.pending.referrer.targetNamespace = some text) :
    chronicle.store.spaceOf visit.pending.referrer.location = some text := by
  obtain ⟨document, stored, own⟩ := recorded.accounted.owned visit visited
  obtain ⟨entry, present, rfl⟩ := List.mem_map.mp stored
  rw [(mem_pendingOf_iff.mp own).1] at given ⊢
  have space := recorded.reachable.declared entry present text given
  exact (recorded.reachable.catalogued.spaceOf_eq present).trans space

theorem eq_of_given? {text : Option String} {given : String}
    (same : Schema.given? text = some given) : text = some given :=
  (Option.filter_eq_some_iff.mp same).1

/-- After any loads, a document without a target namespace that came in by an include or a
redefinition is in the namespace that its referrer declares, and what it declares is found there.
So a document that declares a namespace hands it down to the first document of a chain of includes,
and to no later one: those are in no namespace, and nothing that they declare is found in the
namespace that the chain began with. -/
theorem includes_hand_down_declared_namespace (recorded : chronicle.Recorded) :
    (∀ visit ∈ chronicle.visits, ∀ document, visit.Adopts document →
      chronicle.store.spaceOf document.location = visit.pending.referrer.targetNamespace ∧
        chronicle.store.Finds visit.pending.referrer.targetNamespace document ∧
        (Schema.given? visit.pending.referrer.targetNamespace ≠ none →
          chronicle.store.spaceOf document.location =
            chronicle.store.spaceOf visit.pending.referrer.location)) ∧
      ∀ first last length, Chain chronicle.visits first length last →
        Schema.given? first.targetNamespace ≠ none →
          (chronicle.store.spaceOf last.location = chronicle.store.spaceOf first.location ↔
            length ≤ 1) ∧
          (1 < length → Schema.given? (chronicle.store.spaceOf last.location) = none ∧
            ∀ text,
              (∀ decl,
                chronicle.store.lookupType?
                    ⟨chronicle.store.spaceOf first.location, text⟩ = some decl →
                  decl.home.location ≠ last.location) ∧
              ∀ decl,
                chronicle.store.lookupElement?
                    ⟨chronicle.store.spaceOf first.location, text⟩ = some decl →
                  decl.home.location ≠ last.location) := by
  have catalogued := recorded.reachable.catalogued
  have handed : ∀ visit ∈ chronicle.visits, ∀ document, visit.Adopts document →
      chronicle.store.spaceOf document.location = visit.pending.referrer.targetNamespace :=
    fun visit visited document adopts =>
      catalogued.spaceOf_holds (spaceOf_adopted recorded visited adopts)
  have declared : ∀ visit ∈ chronicle.visits, ∀ text,
      Schema.given? visit.pending.referrer.targetNamespace = some text →
        visit.pending.referrer.targetNamespace =
          chronicle.store.spaceOf visit.pending.referrer.location :=
    fun visit visited text given =>
      (eq_of_given? given).trans (spaceOf_referrer recorded visited given).symm
  constructor
  · intro visit visited document adopts
    refine ⟨handed visit visited document adopts,
      catalogued.finds (spaceOf_adopted recorded visited adopts), fun declares => ?_⟩
    obtain ⟨text, given⟩ := Option.ne_none_iff_exists'.mp declares
    exact (handed visit visited document adopts).trans (declared visit visited text given)
  · intro first last length chain declares
    obtain ⟨text, given⟩ := Option.ne_none_iff_exists'.mp declares
    rcases Nat.eq_zero_or_pos length with rfl | proper
    · rw [chain.eq_first]
      simp
    · obtain ⟨visit, visited, adopts, link⟩ := chain.last_link proper
      have own := handed visit visited last adopts
      rcases link with ⟨rfl, rfl⟩ | ⟨far, nameless⟩
      · simp [own, declared visit visited text given]
      · -- the last referrer came in without a namespace, and that is what it hands on
        obtain ⟨begin, begun, rfl⟩ := chain.first_referring proper
        have started := spaceOf_referrer recorded begun given
        have apart : chronicle.store.spaceOf last.location ≠
            chronicle.store.spaceOf begin.pending.referrer.location := by
          rw [own, started]
          rintro same
          rw [same, ← eq_of_given? given, given] at nameless
          cases nameless
        refine ⟨⟨fun same => absurd same apart, fun short => by omega⟩, fun _ => ?_⟩
        rw [own]
        refine ⟨nameless, fun name => ⟨fun decl found same => ?_, fun decl found same => ?_⟩⟩
        · exact apart (same ▸ catalogued.spaceOf_type found)
        · exact apart (same ▸ catalogued.spaceOf_element found)

end Handed

/-- Three files in a row, each including the next; only the first declares a namespace. -/
def threeShelf : World :=
  let file (name text : String) : List (List Char) × List UInt8 :=
    ([name.toList], Text.Utf8.encode
      ("<s:schema xmlns:s='http://www.w3.org/2001/XMLSchema'" ++ text ++ "</s:schema>").toList)
  { directory := ⟨['/'], []⟩
    files :=
      [file "a" " targetNamespace='urn:m'><s:include schemaLocation='b'/>",
        file "b" "><s:include schemaLocation='c'/><s:complexType name='B'/>",
        file "c" "><s:complexType name='C'/>"]
    web := [] }

def threeShelfRun (begun : Store) : Chronicle :=
  ((Chronicle.load (threeShelf.source false) "a").perform ⟨begun, []⟩).2.state

set_option maxRecDepth 100000 in
set_option synthInstance.maxSize 1000 in
theorem threeShelf_computed :
    ((start threeShelf.directory 0 []).toOption.map fun begun =>
      ((threeShelfRun begun).visits.map fun visit =>
          (visit.pending.reference.kind, visit.pending.referrer.location,
            visit.brought.map fun document => (document.location, document.targetNamespace)),
        ["file:///a", "file:///b", "file:///c"].map (threeShelfRun begun).store.spaceOf,
        ["B", "C"].map fun name =>
          ((threeShelfRun begun).store.lookupType? ⟨some "urn:m", name⟩).isSome)) =
      some ([(.included, "file:///a", some ("file:///b", none)),
          (.included, "file:///b", some ("file:///c", none))],
        [some "urn:m", some "urn:m", none], [true, false]) := by
  simp only [threeShelfRun, threeShelf, Text.Utf8.encode_toList]
  decide +kernel

/-- The run on the three files: two visits, each of which brings in the next file. -/
theorem threeShelf_ran :
    ∃ begun, start threeShelf.directory 0 [] = .ok begun ∧ (threeShelfRun begun).Recorded ∧
      (∃ opening visit second third, (threeShelfRun begun).visits = [opening, visit] ∧
        opening.pending.referrer.location = "file:///a" ∧ opening.Adopts second ∧
          second.location = "file:///b" ∧ visit.pending.referrer.location = "file:///b" ∧
          visit.Adopts third ∧ third.location = "file:///c") ∧
      (threeShelfRun begun).store.spaceOf "file:///a" = some "urn:m" ∧
      (threeShelfRun begun).store.spaceOf "file:///b" = some "urn:m" ∧
      (threeShelfRun begun).store.spaceOf "file:///c" = none ∧
      ((threeShelfRun begun).store.lookupType? ⟨some "urn:m", "B"⟩).isSome ∧
      (threeShelfRun begun).store.lookupType? ⟨some "urn:m", "C"⟩ = none := by
  obtain ⟨begun, made, computed⟩ := Option.map_eq_some_iff.mp threeShelf_computed
  obtain ⟨visits, spaces⟩ := Prod.mk.inj computed
  have started := ok_of_toOption made
  refine ⟨begun, started, .load (.start started) _ _, ?_, ?_⟩
  · obtain ⟨opening, later, whole, shown, visits⟩ := List.map_eq_cons_iff.mp visits
    obtain ⟨visit, others, split, shownNext, done⟩ := List.map_eq_cons_iff.mp visits
    rw [List.map_eq_nil_iff.mp done] at split
    simp only [Prod.mk.injEq, Option.map_eq_some_iff] at shown shownNext
    obtain ⟨kind, start, second, brought, place, nameless⟩ := shown
    obtain ⟨kindNext, startNext, third, broughtNext, placeNext, namelessNext⟩ := shownNext
    refine ⟨opening, visit, second, third, by rw [whole, split], start,
      ⟨by simp [kind], brought, by rw [nameless]; rfl⟩, place, startNext,
      ⟨by simp [kindNext], broughtNext, by rw [namelessNext]; rfl⟩, placeNext⟩
  · simpa [and_assoc] using spaces

/-- The second of the includes does not hand down the namespace that its own document is in, and the
type of the third file is not found there. -/
theorem threeShelf_namespace_lost :
    ∃ begun, start threeShelf.directory 0 [] = .ok begun ∧ (threeShelfRun begun).Recorded ∧
      ∃ visit ∈ (threeShelfRun begun).visits, ∃ document, visit.Adopts document ∧
        (threeShelfRun begun).store.spaceOf visit.pending.referrer.location = some "urn:m" ∧
          (threeShelfRun begun).store.spaceOf document.location = none ∧
          (threeShelfRun begun).store.lookupType? ⟨some "urn:m", "C"⟩ = none := by
  obtain ⟨begun, started, recorded, ⟨opening, visit, second, third, visits, _, _, _, place, adopts,
    placed⟩, _, inside, outside, _, lost⟩ := threeShelf_ran
  exact ⟨begun, started, recorded, visit, by simp [visits], third, adopts, by rw [place, inside],
    by rw [placed, outside], lost⟩

/-- The first of them does, and what the second file declares is found in that namespace. -/
theorem threeShelf_handed_down_once :
    ∃ begun, start threeShelf.directory 0 [] = .ok begun ∧ (threeShelfRun begun).Recorded ∧
      ∃ visit ∈ (threeShelfRun begun).visits, ∃ document, visit.Adopts document ∧
        (threeShelfRun begun).store.spaceOf document.location = some "urn:m" ∧
          (threeShelfRun begun).store.Finds (some "urn:m") document := by
  obtain ⟨begun, started, recorded, ⟨opening, visit, second, third, visits, _, adopts, placed, _⟩,
    _, inside, _⟩ := threeShelf_ran
  have first : opening ∈ (threeShelfRun begun).visits := by simp [visits]
  obtain ⟨same, finds, _⟩ :=
    (includes_hand_down_declared_namespace recorded).1 opening first second adopts
  rw [← same, placed, inside] at finds
  exact ⟨begun, started, recorded, opening, first, second, adopts, by rw [placed, inside], finds⟩

end SchemaSharp.Store
