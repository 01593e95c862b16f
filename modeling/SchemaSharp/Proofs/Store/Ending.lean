import SchemaSharp.Proofs.Store.Chronicle

/-!
Loads come to an end. Where a source has finitely many documents, a load with more patience than
that runs out of it never, and more patience makes no difference to it: each round but the last
brings in a document that was there and unseen. In loads that return, each document is asked for
once, and each reference of each new document is followed once.
-/

namespace SchemaSharp

open SchemaSharp.Task (Returns Reports)
open Relation (ReflTransGen)

/-! ## Patience -/

def Source.patient (source : Source) (patience : Nat) : Source :=
  { source with patience := patience }

namespace Store

open Schema (Document Reference Home)

section Patience

variable {source : Source}

theorem tryCandidates_patient (patience : Nat) (pending : Pending) (schemaLocation : String)
    (found : List String) :
    tryCandidates (source.patient patience) pending schemaLocation found =
      tryCandidates source pending schemaLocation found := by
  induction found with
  | nil => rfl
  | cons candidate rest ih =>
      unfold tryCandidates
      rw [ih]
      rfl

theorem resolve_patient (patience : Nat) (pending : Pending) :
    resolve (source.patient patience) pending = resolve source pending := by
  unfold resolve
  simp only [tryCandidates_patient]
  rfl

theorem advance_patient (patience : Nat) (work : List Pending) :
    advance (source.patient patience) work = advance source work := by
  induction work with
  | nil => rfl
  | cons pending rest ih =>
      unfold advance
      rw [resolve_patient, ih]

theorem follow_patient (own patience : Nat) (work : List Pending) :
    follow (source.patient own) patience work = follow source patience work := by
  induction patience generalizing work with
  | zero => cases work <;> rfl
  | succ patience ih =>
      cases work with
      | nil => rfl
      | cons pending rest =>
          unfold follow
          simp only [advance_patient, ih]

/-- What is left unseen decides how much patience is enough, and beyond that more makes no
difference. -/
theorem follow_enough {patience other : Nat} {before : Store} (work : List Pending)
    (enough : (unseen source before).encard < patience)
    (enoughToo : (unseen source before).encard < other) (journal : List Notice) :
    (follow source patience work).run ⟨before, journal⟩ =
      (follow source other work).run ⟨before, journal⟩ := by
  induction patience generalizing other work before journal with
  | zero => simp at enough
  | succ patience ih =>
      cases other with
      | zero => simp at enoughToo
      | succ other =>
          cases work with
          | nil => rfl
          | cons pending rest =>
              refine Task.run_bind_congr fun reached middle ran => ?_
              cases reached with
              | none => rfl
              | some pair =>
                  obtain ⟨document, others⟩ := pair
                  have fewer := advance_encard_unseen ⟨journal, middle.journal, ran⟩
                  exact ih _ (unseen_lt fewer enough) (unseen_lt fewer enoughToo) middle.journal

/-- With more patience than there are documents unseen a load does the same whatever its
patience. -/
theorem load_enough {patience other : Nat} {before : Store} (location : String)
    (enough : (unseen source before).encard < patience)
    (enoughToo : (unseen source before).encard < other) :
    (load (source.patient patience) location).perform before =
      (load (source.patient other) location).perform before := by
  refine Task.run_bind_congr fun key named ran => ?_
  obtain ⟨_, same⟩ := Task.Returns.of_outcome ⟨[], named.journal, ran⟩
  refine Task.run_bind_congr fun store middle read => ?_
  cases read
  split
  · rfl
  · refine Task.run_bind_congr fun document opened loaded => ?_
    have fewer : (unseen source opened.state).encard ≤ (unseen source before).encard :=
      same ▸ encard_unseen_of_follows (loadOne_follows source key none named.state)
        ⟨named.journal, opened.journal, loaded⟩
    rw [follow_patient, follow_patient, Task.run_bind, Task.run_bind]
    have alike : (follow source patience (pendingOf document)).run opened =
        (follow source other (pendingOf document)).run opened :=
      follow_enough _ (fewer.trans_lt enough) (fewer.trans_lt enoughToo) opened.journal
    rw [Source.patient, Source.patient, alike]

end Patience

/-! ## What is asked for -/

/-- Each document that came in was asked for, in order, and nothing else was. -/
def Asked (before : Store) (said : List Notice) (after : Store) : Prop :=
  after.entries.map Entry.location = before.entries.map Entry.location ++ fetches said

section Asked

variable {source : Source} {before middle after : Store} {said later : List Notice}

theorem fetches_append (said later : List Notice) :
    fetches (said ++ later) = fetches said ++ fetches later :=
  List.filterMap_append

theorem Asked.trans (first : Asked before said middle) (second : Asked middle later after) :
    Asked before (said ++ later) after := by
  rw [Asked, second, first, fetches_append, List.append_assoc]

theorem asked_quiet (same : after.entries.map Entry.location = before.entries.map Entry.location)
    (quiet : fetches said = []) : Asked before said after := by
  rw [Asked, same, quiet, List.append_nil]

/-- Notices of the store are about what was asked for already. -/
theorem fetches_own (own : ∀ notice ∈ said, notice.speaker = .store) : fetches said = [] := by
  refine List.filterMap_eq_nil_iff.mpr fun notice member => ?_
  have spoken := own notice member
  cases notice <;> first | rfl | cases spoken

/-- From the state a task is started in on. -/
def Asks {α : Type} (task : Task Store α) : Prop := ∀ before, Reports (Asked before) task before

theorem Asks.bind {α β : Type} {task : Task Store α} {next : α → Task Store β} (first : Asks task)
    (rest : ∀ value, Asks (next value)) : Asks (task >>= next) := by
  intro before
  refine Task.reports_bind (first before) fun value said middle told => ?_
  exact (rest value middle).of_imp fun later after toldLater => told.trans toldLater

theorem asks_pure {α : Type} (value : α) : Asks (pure value) :=
  fun _ => Task.reports_pure (asked_quiet rfl rfl)

theorem asks_change {update : Store → Store}
    (same : ∀ store, (update store).entries.map Entry.location = store.entries.map Entry.location) :
    Asks (Task.change update) :=
  fun _ => Task.reports_change (asked_quiet (same _) rfl)

theorem asks_say {notice : Notice} (quiet : fetches [notice] = []) : Asks (Task.say notice) :=
  fun _ => Task.reports_say (asked_quiet rfl quiet)

theorem register_reports (document : Document) (inherited : Option String) (before : Store) :
    Reports (fun said after => fetches said = [] ∧
        after.entries.map Entry.location = before.entries.map Entry.location ++ [document.location])
      (register document inherited) before := by
  refine Task.reports_current_bind ?_
  split
  · exact Task.reports_throw
  · have changing : Reports
        (fun said after => said = [] ∧ after = (before.add document inherited).1)
        (Task.change fun _ => (before.add document inherited).1) before :=
      Task.reports_change ⟨rfl, rfl⟩
    refine Task.reports_bind changing ?_
    rintro _ _ _ ⟨rfl, rfl⟩
    have quiet := fetches_own (add_speaker document inherited before)
    exact Task.reports_notices ⟨quiet, by rw [entries_add, List.map_append]; rfl⟩

theorem loadOne_asks (location : String) (inherited : Option String) :
    Asks (loadOne source.audited location inherited) := by
  intro before
  have asking : Reports (fun said after => said = [.fetching location] ∧ after = before)
      (Task.ask (source.audited.fetch location)) before := Task.reports_ask ⟨rfl, rfl⟩
  refine Task.reports_bind asking ?_
  rintro content _ store ⟨rfl, rfl⟩
  refine Task.reports_current_bind (Task.reports_outcome_bind fun document read => ?_)
  have place : document.location = location :=
    congrArg Home.location (Schema.ofBytes_fresh read).home_eq
  refine Task.reports_bind (register_reports document inherited store) ?_
  rintro _ said after ⟨quiet, grown⟩
  refine Task.reports_bind (asks_say rfl after) fun _ later last same => Task.reports_pure ?_
  rw [Asked, same, grown, place, fetches_append, fetches_append, quiet]
  simp [fetches]

theorem asks_loads :
    Loads source.audited (fun _ => True) (fun _ => True) fun task before =>
      Reports (Asked before) task before where
  answer value before := asks_pure value before
  fail _ _ := Task.reports_throw
  report before own := asks_say (fetches_own (by simpa using own)) before
  chain first rest := Task.reports_bind_returns first fun value _ middle told returned =>
    (rest value middle returned).of_imp fun _ _ toldLater => told.trans toldLater
  look := Task.reports_current_bind
  faults _ _ _ _ := trivial
  probed _ _ := Task.reports_ask (asked_quiet rfl rfl)
  opened inherited _ := loadOne_asks _ inherited _
  marked _ _ := asks_change (fun _ => locations_markResolved _ _ _) _

theorem load_asks (location : String) : Asks (load source.audited location) :=
  load_composed asks_loads (fun _ => trivial) trivial location

theorem loadEach_asks (locations : List String) : Asks (loadEach source.audited locations) := by
  induction locations with
  | nil => exact asks_pure ()
  | cons location rest ih => exact (load_asks location).bind fun _ => ih

end Asked

/-! ## What is followed -/

/-- The documents that came in through the visits. -/
def broughtBy (visits : List Visit) : List Document := visits.filterMap Visit.brought

/-- These visits lead from one chronicle to the other: what was to be followed before, and what the
new documents refer to, either was followed by one of them or is still to be followed. -/
structure Tour (before : Chronicle) (work : List Pending) (visits : List Visit) (after : Chronicle)
    (left : List Pending) : Prop where
  visits_eq : after.visits = before.visits ++ visits
  documents_eq : after.store.documents = before.store.documents ++ broughtBy visits
  followed :
    (visits.map Visit.pending ++ left).Perm (work ++ (broughtBy visits).flatMap pendingOf)

theorem Tour.refl (chronicle : Chronicle) (work : List Pending) :
    Tour chronicle work [] chronicle work :=
  ⟨by simp, by simp [broughtBy], by simp [broughtBy]⟩

theorem Tour.trans {before middle after : Chronicle} {work left rest : List Pending}
    {visits more : List Visit} (first : Tour before work visits middle left)
    (second : Tour middle left more after rest) : Tour before work (visits ++ more) after rest := by
  have joined : broughtBy (visits ++ more) = broughtBy visits ++ broughtBy more :=
    List.filterMap_append
  refine ⟨by rw [second.visits_eq, first.visits_eq, List.append_assoc],
    by rw [second.documents_eq, first.documents_eq, joined, List.append_assoc], ?_⟩
  rw [List.map_append, joined, List.flatMap_append, List.append_assoc, ← List.append_assoc work]
  refine (second.followed.append_left _).trans ?_
  rw [← List.append_assoc]
  exact first.followed.append_right _

/-- The work that an answer of `advance` leaves. -/
def remaining (answer : Option (Document × List Pending)) : List Pending :=
  (answer.map fun (document, rest) => pendingOf document ++ rest).getD []

section Tour

variable {source : Source} {before after : Chronicle}

theorem resolve_documents {pending : Pending} {brought : Option Document} {store later : Store}
    (returned : Returns (resolve source pending) store brought later) :
    later.documents = store.documents ++ brought.toList := by
  cases brought with
  | some document => exact (resolve_arrival returned).documents_eq
  | none =>
      rcases resolve_nothing returned with rfl | ⟨target, rfl⟩
      · simp
      · simp [documents_markResolved]

theorem visit_tour {pending : Pending} {brought : Option Document} (rest : List Pending)
    (returned : Returns (Chronicle.visit source pending) before brought after) :
    Tour before (pending :: rest) [⟨pending, brought⟩] after
      ((brought.map pendingOf).getD [] ++ rest) := by
  obtain ⟨store, resolved, rfl⟩ := Chronicle.visit_returns returned
  have grown := resolve_documents resolved
  cases brought with
  | none => exact ⟨rfl, by simpa [broughtBy, Chronicle.note, Chronicle.keep] using grown,
      by simp [broughtBy]⟩
  | some document =>
      refine ⟨rfl, by simpa [broughtBy, Chronicle.note, Chronicle.keep] using grown, ?_⟩
      simpa [broughtBy] using List.perm_append_comm

theorem advance_tour {work : List Pending} {answer : Option (Document × List Pending)}
    (returned : Returns (Chronicle.advance source work) before answer after) :
    ∃ visits, Tour before work visits after (remaining answer) := by
  induction work generalizing before with
  | nil =>
      obtain ⟨rfl, rfl⟩ := returned.of_pure
      exact ⟨[], .refl after []⟩
  | cons pending rest ih =>
      obtain ⟨brought, middle, visited, further⟩ := returned.of_bind
      have first := visit_tour rest visited
      cases brought with
      | some document =>
          obtain ⟨rfl, rfl⟩ := further.of_pure
          exact ⟨_, first⟩
      | none =>
          obtain ⟨visits, tour⟩ := ih further
          exact ⟨_, first.trans tour⟩

theorem follow_tour {patience : Nat} {work : List Pending}
    (returned : Returns (Chronicle.follow source patience work) before () after) :
    ∃ visits, Tour before work visits after [] := by
  induction patience generalizing work before with
  | zero =>
      cases work with
      | nil =>
          obtain ⟨_, rfl⟩ := returned.of_pure
          exact ⟨[], .refl after []⟩
      | cons pending rest => exact absurd returned Returns.of_throw
  | succ patience ih =>
      cases work with
      | nil =>
          obtain ⟨_, rfl⟩ := returned.of_pure
          exact ⟨[], .refl after []⟩
      | cons pending rest =>
          obtain ⟨answer, middle, advanced, further⟩ := returned.of_bind
          obtain ⟨visits, tour⟩ := advance_tour advanced
          cases answer with
          | none =>
              obtain ⟨_, rfl⟩ := further.of_pure
              exact ⟨visits, tour⟩
          | some pair =>
              obtain ⟨more, others⟩ := ih further
              exact ⟨visits ++ more, tour.trans others⟩

/-- The references that were followed are those of the new documents, each as often as it is one. -/
def Followed (before after : Chronicle) : Prop :=
  ∃ visits documents, after.visits = before.visits ++ visits ∧
    after.store.documents = before.store.documents ++ documents ∧
    (visits.map Visit.pending).Perm (documents.flatMap pendingOf)

theorem Followed.refl (chronicle : Chronicle) : Followed chronicle chronicle :=
  ⟨[], [], by simp, by simp, .refl _⟩

theorem Followed.trans {middle : Chronicle} (first : Followed before middle)
    (second : Followed middle after) : Followed before after := by
  obtain ⟨visits, documents, recorded, grown, followed⟩ := first
  obtain ⟨more, others, recordedMore, grownMore, followedMore⟩ := second
  refine ⟨visits ++ more, documents ++ others, by rw [recordedMore, recorded, List.append_assoc],
    by rw [grownMore, grown, List.append_assoc], ?_⟩
  rw [List.map_append, List.flatMap_append]
  exact followed.append followedMore

theorem load_followed {location key : String}
    (returned : Returns (Chronicle.load source location) before key after) :
    Followed before after := by
  unfold Chronicle.load at returned
  obtain ⟨place, _, returned⟩ := returned.of_outcome_bind
  have returned := returned.of_current_bind
  split at returned
  · obtain ⟨_, rfl⟩ := returned.of_pure
    exact .refl after
  · obtain ⟨document, middle, opened, rest⟩ := returned.of_bind
    obtain ⟨_, last, followed, rest⟩ := rest.of_bind
    obtain ⟨_, rfl⟩ := rest.of_pure
    obtain ⟨store, loaded, rfl⟩ := opened.of_within
    obtain ⟨visits, tour⟩ := follow_tour followed
    refine ⟨visits, document :: broughtBy visits, tour.visits_eq, ?_, ?_⟩
    · rw [tour.documents_eq, Chronicle.keep, loadOne_documents loaded, List.append_assoc]
      rfl
    · simpa using tour.followed

theorem loadEach_followed {locations : List String}
    (returned : Returns (Chronicle.loadEach source locations) before () after) :
    Followed before after := by
  induction locations generalizing before with
  | nil =>
      obtain ⟨_, rfl⟩ := returned.of_pure
      exact .refl after
  | cons location rest ih =>
      obtain ⟨key, middle, loaded, further⟩ := returned.of_bind
      exact (load_followed loaded).trans (ih further)

end Tour

/-- The references of documents at different locations are at different places. -/
theorem nodup_places {documents : List Document} (nodup : (documents.map Document.location).Nodup) :
    ((documents.flatMap pendingOf).map fun pending =>
      (pending.referrer.location, pending.position)).Nodup := by
  induction documents with
  | nil => simp
  | cons document rest ih =>
      rw [List.map_cons, List.nodup_cons] at nodup
      rw [List.flatMap_cons, List.map_append]
      refine List.Nodup.append ?_ (ih nodup.2) ?_
      · -- references of one document differ in position, those of two in the referrer
        have positions : ((pendingOf document).map fun pending =>
            (pending.referrer.location, pending.position)) =
              (document.references.zipIdx.map Prod.snd).map (Prod.mk document.location) := by
          rw [pendingOf, List.map_map, List.map_map]
          rfl
        rw [positions, List.zipIdx_map_snd]
        exact List.Nodup.map (Prod.mk_right_injective _) List.nodup_range'
      · intro place here later
        obtain ⟨own, member, rfl⟩ := List.mem_map.mp here
        obtain ⟨other, memberOther, same⟩ := List.mem_map.mp later
        obtain ⟨twin, listed, memberTwin⟩ := List.mem_flatMap.mp memberOther
        refine nodup.1 (List.mem_map.mpr ⟨twin, listed, ?_⟩)
        rw [← (mem_pendingOf_iff.mp memberTwin).1, ← (mem_pendingOf_iff.mp member).1]
        exact congrArg Prod.fst same

/-! ## Loads end -/

theorem encard_unseen_lt {source : Source} (finite : {location | source.has location}.Finite)
    {patience : Nat} (enough : {location | source.has location}.ncard < patience) (store : Store) :
    (unseen source store).encard < patience := by
  have inside : unseen source store ⊆ {location | source.has location} := fun _ unmet => unmet.1
  calc (unseen source store).encard
      ≤ {location | source.has location}.encard := Set.encard_le_encard inside
    _ = ({location | source.has location}.ncard : ℕ∞) := finite.cast_ncard_eq.symm
    _ < patience := Nat.cast_lt.mpr enough

theorem Trouble.answers_outOfPatience {source : Source} (trouble : Trouble source .outOfPatience) :
    source.Answers .outOfPatience := by
  cases trouble with
  | answered answers => exact answers
  | contents concerns => cases concerns

theorem loadEach_steps {source : Source} {locations : List String} {before after : Store}
    (returned : Returns (loadEach source locations) before () after) :
    ReflTransGen (Step source) before after := by
  induction locations generalizing before with
  | nil =>
      obtain ⟨_, rfl⟩ := returned.of_pure
      exact .refl
  | cons location rest ih =>
      obtain ⟨key, middle, loaded, further⟩ := returned.of_bind
      exact ((load_follows source location before).steps_of_returns loaded).trans (ih further)

/-- A source that reports what it is asked for is loaded from like any other. -/
theorem audited_perform {source : Source} {locations : List String} {before after : Store}
    (returned : Returns (loadEach source locations) before () after) :
    ((loadEach source.audited locations).perform before).1 = .ok () ∧
      ((loadEach source.audited locations).perform before).2.state = after := by
  have plain := (Chronicle.loadEach_mirrors source.audited_agrees locations).perform_of_returns
    ⟨before, []⟩ returned
  obtain ⟨answered, left⟩ := Chronicle.loadEach_mirrors (.refl source.audited) locations
    ⟨before, []⟩ [] []
  exact ⟨answered.symm.trans plain.1, left.symm.trans plain.2⟩

theorem documents_locations (store : Store) :
    store.documents.map Document.location = store.entries.map Entry.location := by
  rw [documents, List.map_map]
  rfl

/-- A source that has finitely many documents: a load whose patience is greater than their number
does the same whatever its patience is, so it never runs out of it. In loads that return, documents
are asked for one by one as they come in, none of them twice and none that was there before; and
the references that are followed are those of the documents that came in, each of them once. -/
theorem loads_end_and_follow_once {source : Source}
    (finite : {location | source.has location}.Finite) :
    (∀ store location patience, {location | source.has location}.ncard < patience →
      (∀ other, {location | source.has location}.ncard < other →
        (load (source.patient other) location).perform store =
          (load (source.patient patience) location).perform store) ∧
      (((load (source.patient patience) location).perform store).1 = .error .outOfPatience →
        source.Answers .outOfPatience)) ∧
    ∀ before locations after, Reachable before →
      Returns (loadEach source locations) before () after →
        let audit := (loadEach source.audited locations).perform before
        let chronicle := (Chronicle.loadEach source locations).perform ⟨before, []⟩
        (audit.1 = .ok () ∧ audit.2.state = after ∧
          after.entries.map Entry.location =
            before.entries.map Entry.location ++ fetches audit.2.journal ∧
          (fetches audit.2.journal).Nodup ∧
          ∀ location ∈ fetches audit.2.journal, before.at? location = none) ∧
        chronicle.1 = .ok () ∧ chronicle.2.state.store = after ∧
          ∃ documents, after.documents = before.documents ++ documents ∧
            (chronicle.2.state.visits.map Visit.pending).Perm (documents.flatMap pendingOf) ∧
            (chronicle.2.state.visits.map fun visit =>
              (visit.pending.referrer.location, visit.pending.position)).Nodup := by
  constructor
  · intro store location patience enough
    have few := encard_unseen_lt finite enough store
    refine ⟨fun other enoughToo => ?_, fun failed => ?_⟩
    · exact load_enough location (encard_unseen_lt finite enoughToo store) few
    · rcases load_troubles (source.patient patience) location store [] _ failed with
        trouble | ⟨_, short⟩
      · exact trouble.answers_outOfPatience
      · exact absurd short (not_le.mpr few)
  · intro before locations after reached returned audit chronicle
    have nodup := (catalogued_of_steps (loadEach_steps returned) reached.catalogued).nodup
    obtain ⟨answered, left⟩ := audited_perform returned
    have asked : after.entries.map Entry.location =
        before.entries.map Entry.location ++ fetches audit.2.journal :=
      left ▸ (loadEach_asks locations before).said_of_perform answered
    obtain ⟨returnedToo, leftToo⟩ :=
      (Chronicle.loadEach_mirrors (.refl source) locations).perform_of_returns ⟨before, []⟩ returned
    obtain ⟨visits, documents, recorded, grown, followed⟩ :=
      loadEach_followed (Task.returns_of_perform returnedToo)
    rw [List.nil_append] at recorded
    refine ⟨⟨answered, left, asked, ?_⟩, returnedToo, leftToo, documents, ?_, ?_, ?_⟩
    · rw [asked, List.nodup_append'] at nodup
      refine ⟨nodup.2.1, fun location member => ?_⟩
      by_contra stored
      have earlier := (mem_locations_iff before location).mpr (Option.isSome_iff_ne_none.mpr stored)
      exact nodup.2.2 earlier member
    · exact leftToo ▸ grown
    · rw [recorded]
      exact followed
    · have apart : (documents.map Document.location).Nodup := by
        rw [← documents_locations, ← leftToo, grown, List.map_append, List.nodup_append'] at nodup
        exact nodup.2.1
      have places := followed.map fun pending => (pending.referrer.location, pending.position)
      rw [List.map_map] at places
      rw [recorded]
      exact places.symm.nodup (nodup_places apart)

/-- Three documents: the first includes itself and both others, the second includes the third, and
the third includes the first again. -/
def roundTable : List (String × List UInt8) :=
  let schema (names : List String) : List UInt8 :=
    Text.Utf8.encode ("<s:schema xmlns:s='http://www.w3.org/2001/XMLSchema'>"
      ++ String.join (names.map fun name => "<s:include schemaLocation='" ++ name ++ "'/>")
      ++ "</s:schema>").toList
  [("file:///a", schema ["a", "b", "c"]), ("file:///b", schema ["c"]), ("file:///c", schema ["a"])]

def roundSource : Source where
  directory := ⟨['/'], []⟩
  probe := fun location => ([], .ok (roundTable.lookup location).isSome)
  fetch := fun location =>
    match roundTable.lookup location with
    | some content => ([], .ok content)
    | none => ([], .error (.fetch .unreachable location))
  patience := 4

theorem roundSource_finite : {location | roundSource.has location}.Finite := by
  refine (List.finite_toSet (roundTable.map Prod.fst)).subset fun location there => ?_
  obtain ⟨content, found⟩ := Option.isSome_iff_exists.mp there
  obtain ⟨before, after, split, _⟩ := List.lookup_eq_some_iff.mp found
  simp [split]

set_option maxRecDepth 100000 in
theorem roundSource_computed :
    ((start roundSource.directory 0 []).toOption.map fun begun =>
      (((loadEach roundSource ["a", "b"]).perform begun).1.toOption,
        ((loadEach roundSource ["a", "b"]).perform begun).2.state.entries.map Entry.location)) =
      some (some (), ["file:///a", "file:///b", "file:///c"]) := by
  simp only [roundSource, roundTable, Text.Utf8.encode_toList]
  decide +kernel

/-- Two loads on these documents, the second of one that is there by then: each document is asked
for once, depth first, and no reference is followed twice. -/
theorem roundSource_ends :
    {location | roundSource.has location}.Finite ∧
      ∃ begun after, start roundSource.directory 0 [] = .ok begun ∧
        Returns (loadEach roundSource ["a", "b"]) begun () after ∧
        fetches ((loadEach roundSource.audited ["a", "b"]).perform begun).2.journal =
          ["file:///a", "file:///b", "file:///c"] ∧
        (((Chronicle.loadEach roundSource ["a", "b"]).perform ⟨begun, []⟩).2.state.visits.map
          fun visit => (visit.pending.referrer.location, visit.pending.position)).Nodup := by
  obtain ⟨begun, made, computed⟩ := Option.map_eq_some_iff.mp roundSource_computed
  obtain ⟨answered, stored⟩ := Prod.mk.inj computed
  have started := ok_of_toOption made
  have returned := Task.returns_of_perform (ok_of_toOption answered)
  obtain ⟨⟨_, _, asked, _⟩, _, _, documents, _, _, places⟩ :=
    (loads_end_and_follow_once roundSource_finite).2 begun ["a", "b"] _ (.start started) returned
  obtain ⟨empty, _, _⟩ := @start_sound roundSource _ _ _ _ started
  rw [empty, List.map_nil, List.nil_append, stored] at asked
  exact ⟨roundSource_finite, begun, _, started, returned, asked.symm, places⟩

end Store

end SchemaSharp
