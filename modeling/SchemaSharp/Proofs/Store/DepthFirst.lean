import SchemaSharp.Proofs.Result
import SchemaSharp.Proofs.Store.Ending
import SchemaSharp.Proofs.Task.Loop

/-!
Documents come in depth first. What a load does is written down in two more ways: as a recursion, in
which the references of a document that newly came in are followed before the next one of its
referrer, and as a loop over a stack of the documents being read, each with the references that are
left of it. On a source that has finitely many documents all three do the same, wherever they fail.
-/

namespace SchemaSharp

namespace Store

open Schema (Document)
open SchemaSharp.Task (Loop Returns Follows)

/-! ## The recursion -/

/-- Follows a reference; if it brings in a document, the references of that one are followed in the
same way, one after the other. Documents that brought in each other are `depth` deep at most. -/
def explore (source : Source) : Nat → Pending → Task Store Unit
  | 0, _ => throw .outOfPatience
  | depth + 1, pending => do
      match ← resolve source pending with
      | none => return
      | some document => (pendingOf document).forM (explore source depth)

def loadRecursively (source : Source) (depth : Nat) (location : String) : Task Store String := do
  let key ← Task.outcome (orFail .host (Location.canonical source.directory location none))
  if ((← Task.current).at? key).isSome then return key
  else
    let document ← loadOne source key none
    (pendingOf document).forM (explore source depth)
    return key

section Recursion

variable {source : Source} {before after : Store}

theorem explore_follows (source : Source) (depth : Nat) (pending : Pending) (before : Store) :
    Follows (Step source) (explore source depth pending) before := by
  induction depth generalizing pending before with
  | zero => exact Task.follows_throw _ before
  | succ depth ih =>
      refine Task.follows_bind (resolve_follows source pending before) fun brought middle _ => ?_
      cases brought with
      | none => exact Task.follows_pure _ middle
      | some document => exact Task.follows_forM middle fun other _ => ih other

theorem follow_succ (source : Source) (patience : Nat) (work : List Pending) :
    follow source (patience + 1) work = (do
      match ← advance source work with
      | none => return
      | some (document, rest) => follow source patience (pendingOf document ++ rest)) := by
  cases work with
  | nil => rw [follow, advance, pure_bind]
  | cons pending rest => rfl

/-- The first reference is followed, and then what it brought in comes before the others. -/
theorem follow_cons (source : Source) (patience : Nat) (pending : Pending) (rest : List Pending) :
    follow source (patience + 1) (pending :: rest) = (do
      match ← resolve source pending with
      | none => follow source (patience + 1) rest
      | some document => follow source patience (pendingOf document ++ rest)) := by
  rw [follow_succ, advance, bind_assoc]
  congr 1
  funext brought
  cases brought with
  | none => exact (follow_succ source patience rest).symm
  | some document => simp only [pure_bind]

/-- As long as neither runs out of its bound, following a list of references is exploring each. -/
theorem follow_eq_explore {patience depth : Nat} (work : List Pending)
    (enough : (unseen source before).encard < patience)
    (deep : (unseen source before).encard < depth) (journal : List Notice) :
    (follow source patience work).run ⟨before, journal⟩ =
      (work.forM (explore source depth)).run ⟨before, journal⟩ := by
  -- a new document lowers the bound, any other reference only makes the list shorter
  induction patience generalizing depth before work journal with
  | zero => simp at enough
  | succ patience ihPatience =>
    induction work generalizing before journal with
    | nil => rfl
    | cons pending rest ihWork =>
      cases depth with
      | zero => simp at deep
      | succ depth =>
        rw [follow_cons, List.forM_eq_forM, List.forM_cons, explore, bind_assoc]
        refine Task.run_bind_congr fun brought middle ran => ?_
        have resolved : Returns (resolve source pending) before brought middle.state :=
          ⟨journal, middle.journal, ran⟩
        cases brought with
        | none =>
            have fewer := encard_unseen_of_follows (resolve_follows source pending _) resolved
            rw [pure_bind]
            exact ihWork (fewer.trans_lt enough) (fewer.trans_lt deep) middle.journal
        | some document =>
            have one := (resolve_arrival resolved).encard_unseen
            have enoughLeft := unseen_lt one enough
            have deepLeft := unseen_lt one deep
            rw [ihPatience _ enoughLeft deepLeft middle.journal, List.forM_eq_forM,
              List.forM_append]
            -- the others are explored one deeper than the new ones, which makes no difference
            refine Task.run_bind_congr fun _ last explored => ?_
            have fewer := encard_unseen_of_follows
              (Task.follows_forM middle.state fun other _ => explore_follows source depth other)
              ⟨middle.journal, last.journal, explored⟩
            have less := fewer.trans_lt deepLeft
            calc (rest.forM (explore source depth)).run last
                = (follow source patience rest).run last :=
                  (ihPatience rest (fewer.trans_lt enoughLeft) less last.journal).symm
              _ = (rest.forM (explore source (depth + 1))).run last :=
                  ihPatience rest (fewer.trans_lt enoughLeft)
                    (less.trans (Nat.cast_lt.mpr depth.lt_succ_self)) last.journal

end Recursion

/-! ## The stack -/

/-- A store, and the references that are left of each document being read, the last one on top. -/
structure Stacked where
  store : Store
  stack : List (List Pending)

namespace Stacked

def keep (stacked : Stacked) (store : Store) : Stacked := { stacked with store := store }

def restack (stack : List (List Pending)) (stacked : Stacked) : Stacked :=
  { stacked with stack := stack }

def push (document : Document) (stacked : Stacked) : Stacked :=
  { stacked with stack := pendingOf document :: stacked.stack }

/-- Looks at the document on top of the stack: takes it off if none of its references is left, and
follows the next one otherwise. A document that newly came in goes on top. -/
def round (source : Source) : Task Stacked Bool := do
  match (← Task.current).stack with
  | [] => return false
  | [] :: outer =>
      Task.change (restack outer)
      return true
  | (pending :: rest) :: outer =>
      Task.change (restack (rest :: outer))
      match ← Task.within Stacked.store keep (resolve source pending) with
      | none => return true
      | some document =>
          Task.change (push document)
          return true

def load (source : Source) (budget : Nat) (location : String) : Task Stacked String := do
  let key ← Task.outcome (orFail .host (Location.canonical source.directory location none))
  if ((← Task.current).store.at? key).isSome then return key
  else
    let document ← Task.within Stacked.store keep (loadOne source key none)
    Task.change (push document)
    Task.repeatWithin (round source) budget
    return key

section Course

variable {source : Source} {store : Store} {journal : List Notice}

/-- The stack over a store that something was done to. -/
def withStack {α : Type} (stack : List (List Pending)) (outcome : Except Failure α × Logged Store) :
    Except Failure α × Logged Stacked :=
  (outcome.1, ⟨⟨outcome.2.state, stack⟩, outcome.2.journal⟩)

theorem run_keep {α : Type} (task : Task Store α) (stack : List (List Pending)) :
    (Task.within Stacked.store keep task).run ⟨⟨store, stack⟩, journal⟩ =
      withStack stack (task.run ⟨store, journal⟩) := rfl

theorem round_empty :
    (round source).run ⟨⟨store, []⟩, journal⟩ = (.ok false, ⟨⟨store, []⟩, journal⟩) := rfl

theorem round_pop (outer : List (List Pending)) :
    (round source).run ⟨⟨store, [] :: outer⟩, journal⟩ =
      (.ok true, ⟨⟨store, outer⟩, journal⟩) := rfl

theorem round_follow (pending : Pending) (rest : List Pending) (outer : List (List Pending)) :
    (round source).run ⟨⟨store, (pending :: rest) :: outer⟩, journal⟩ =
      match (resolve source pending).run ⟨store, journal⟩ with
      | (.error failure, after) => (.error failure, ⟨⟨after.state, rest :: outer⟩, after.journal⟩)
      | (.ok none, after) => (.ok true, ⟨⟨after.state, rest :: outer⟩, after.journal⟩)
      | (.ok (some document), after) =>
          (.ok true, ⟨⟨after.state, pendingOf document :: rest :: outer⟩, after.journal⟩) := by
  rw [round, Task.run_current_bind]
  change (Task.within Stacked.store keep (resolve source pending) >>= _).run
    ⟨⟨store, rest :: outer⟩, journal⟩ = _
  rw [Task.run_bind, run_keep]
  cases (resolve source pending).run ⟨store, journal⟩ with
  | mk result after =>
    cases result with
    | error failure => rfl
    | ok brought => cases brought <;> rfl

/-- The loop over a stack does what following the references on it does, from the top down. -/
theorem round_loop {patience : Nat} (stack : List (List Pending))
    (enough : (unseen source store).encard < patience) (journal : List Notice) :
    let outcome := (follow source patience stack.flatten).run ⟨store, journal⟩
    ∃ rounds left, (outcome.1 = .ok () → left = []) ∧
      Loop (round source) rounds ⟨⟨store, stack⟩, journal⟩ (withStack left outcome) := by
  -- a new document lowers the bound, any other reference shortens the list on top of the stack,
  -- and an empty list is taken off
  induction patience generalizing store stack journal with
  | zero => simp at enough
  | succ patience ihPatience =>
    induction stack generalizing store journal with
    | nil => exact ⟨0, [], fun _ => rfl, .idle round_empty⟩
    | cons items outer ihStack =>
      induction items generalizing store journal with
      | nil =>
          obtain ⟨rounds, left, emptied, loop⟩ := ihStack enough journal
          exact ⟨rounds + 1, left, emptied, .round (round_pop outer) loop⟩
      | cons pending rest ihItems =>
          have looked := @round_follow source store journal pending rest outer
          rw [List.flatten_cons, List.cons_append, follow_cons, Task.run_bind]
          cases ran : (resolve source pending).run ⟨store, journal⟩ with
          | mk result middle =>
            rw [ran] at looked
            cases result with
            | error failure =>
                exact ⟨1, rest :: outer, nofun, .broken looked⟩
            | ok brought =>
                have resolved : Returns (resolve source pending) store brought middle.state :=
                  ⟨journal, middle.journal, ran⟩
                cases brought with
                | none =>
                    have fewer :=
                      encard_unseen_of_follows (resolve_follows source pending _) resolved
                    obtain ⟨rounds, left, emptied, loop⟩ :=
                      ihItems (fewer.trans_lt enough) middle.journal
                    exact ⟨rounds + 1, left, emptied, .round looked loop⟩
                | some document =>
                    have fewer := unseen_lt (resolve_arrival resolved).encard_unseen enough
                    obtain ⟨rounds, left, emptied, loop⟩ :=
                      ihPatience (pendingOf document :: rest :: outer) fewer middle.journal
                    exact ⟨rounds + 1, left, emptied, .round looked loop⟩

end Course

end Stacked

/-! ## The three agree -/

section Loads

variable {source : Source} {patience : Nat} {before : Store}

/-- The outcome of a task that is followed by an answer. -/
def answering {σ : Type} (answer : String) (outcome : Except Failure Unit × Logged σ) :
    Except Failure String × Logged σ :=
  (outcome.1.map fun _ => answer, outcome.2)

theorem run_answering {σ : Type} (task : Task σ Unit) (answer : String) (logged : Logged σ) :
    (task >>= fun _ => pure answer).run logged = answering answer (task.run logged) := by
  rw [Task.run_bind]
  cases task.run logged with
  | mk result after => cases result <;> rfl

/-- What a load begins with: the location it is about, and the document there if that newly comes
in. -/
def opening (source : Source) (location : String) : Task Store (String × Option Document) := do
  let key ← Task.outcome (orFail .host (Location.canonical source.directory location none))
  if ((← Task.current).at? key).isSome then return (key, none)
  else
    let document ← loadOne source key none
    return (key, some document)

theorem opening_follows (source : Source) (location : String) (before : Store) :
    Follows (Step source) (opening source location) before := by
  refine Task.follows_outcome_bind fun key _ => Task.follows_current_bind ?_
  split
  · exact Task.follows_pure _ before
  · exact Task.follows_bind (loadOne_follows source key none before) fun _ _ _ =>
      Task.follows_pure _ _

theorem load_opening (source : Source) (patience : Nat) (location : String) :
    load (source.patient patience) location = (do
      let (key, brought) ← opening source location
      follow source patience (brought.elim [] pendingOf)
      return key) := by
  rw [opening, bind_assoc]
  refine bind_congr fun key => ?_
  rw [bind_assoc]
  refine bind_congr fun store => ?_
  split
  · cases patience <;> rfl
  · rw [bind_assoc]
    simp only [pure_bind, follow_patient]
    rfl

theorem loadRecursively_opening (source : Source) (depth : Nat) (location : String) :
    loadRecursively source depth location = (do
      let (key, brought) ← opening source location
      (brought.elim [] pendingOf).forM (explore source depth)
      return key) := by
  rw [loadRecursively, opening, bind_assoc]
  refine bind_congr fun key => ?_
  rw [bind_assoc]
  refine bind_congr fun store => ?_
  split
  · rfl
  · rw [bind_assoc]
    rfl

/-- The loop takes place only if a document newly came in. -/
theorem Stacked.load_opening (source : Source) (budget : Nat) (location : String)
    (before : Store) :
    (Stacked.load source budget location).perform ⟨before, []⟩ =
      match (opening source location).run ⟨before, []⟩ with
      | (.error failure, after) => withStack [] (.error failure, after)
      | (.ok (key, none), after) => withStack [] (.ok key, after)
      | (.ok (key, some document), after) =>
          answering key ((Task.repeatWithin (round source) budget).run
            ⟨⟨after.state, [pendingOf document]⟩, after.journal⟩) := by
  rw [Stacked.load, opening]
  cases orFail Failure.host (Location.canonical source.directory location none) with
  | error failure => rfl
  | ok key =>
    simp only [Task.perform, Task.outcome, pure_bind, Task.run_current_bind]
    split
    · rfl
    · rw [Task.run_bind, Task.run_bind, Stacked.run_keep]
      cases (loadOne source key none).run ⟨before, []⟩ with
      | mk result after =>
        cases result with
        | error failure => rfl
        | ok document => exact run_answering _ key _

theorem load_eq_loadRecursively {depth : Nat} (location : String)
    (enough : (unseen source before).encard < patience)
    (deep : (unseen source before).encard < depth) :
    (load (source.patient patience) location).perform before =
      (loadRecursively source depth location).perform before := by
  rw [load_opening, loadRecursively_opening]
  refine Task.run_bind_congr fun opened middle ran => ?_
  obtain ⟨key, brought⟩ := opened
  have fewer := encard_unseen_of_follows (opening_follows source location before)
    ⟨[], middle.journal, ran⟩
  have alike := follow_eq_explore (brought.elim [] pendingOf) (fewer.trans_lt enough)
    (fewer.trans_lt deep) middle.journal
  simp only [Task.run_bind, alike]

/-- A document that newly came in is read to its end before the load returns. -/
theorem load_eq_stacked (location : String) (enough : (unseen source before).encard < patience) :
    let outcome := (load (source.patient patience) location).perform before
    ∃ rounds, ∀ budget, rounds < budget →
      ∃ left, (∀ key, outcome.1 = .ok key → left = []) ∧
        (Stacked.load source budget location).perform ⟨before, []⟩ =
          Stacked.withStack left outcome := by
  rw [load_opening, Task.perform, Task.run_bind]
  simp only [Stacked.load_opening]
  cases opened : (opening source location).run ⟨before, []⟩ with
  | mk result after =>
    cases result with
    | error failure => exact ⟨0, fun _ _ => ⟨[], nofun, rfl⟩⟩
    | ok found =>
      obtain ⟨key, brought⟩ := found
      have fewer := encard_unseen_of_follows (opening_follows source location before)
        ⟨[], after.journal, opened⟩
      cases brought with
      | none => exact ⟨0, fun _ _ => ⟨[], fun _ _ => rfl, by cases patience <;> rfl⟩⟩
      | some document =>
          simp only [Option.elim_some, run_answering]
          obtain ⟨rounds, left, emptied, loop⟩ :=
            Stacked.round_loop [pendingOf document] (fewer.trans_lt enough) after.journal
          rw [List.flatten_singleton] at emptied loop
          refine ⟨rounds, fun budget more => ⟨left, fun last returned => ?_, ?_⟩⟩
          · obtain ⟨_, ended, _⟩ := ok_of_map returned
            exact emptied ended
          · rw [loop.run_eq more]
            rfl

/-- A source that has finitely many documents: from every store a load does what the recursion does,
down to the documents that came in, their order, what their references were resolved to and what was
reported, and also where it fails. So does the loop over a stack, which is empty when a load returns.
The bounds are never met: only the source itself can answer that patience ran out. -/
theorem loads_go_depth_first (finite : {location | source.has location}.Finite) (before : Store)
    (location : String) {depth : Nat} (enough : {location | source.has location}.ncard < patience)
    (deep : {location | source.has location}.ncard < depth) :
    let recursion := (loadRecursively source depth location).perform before
    (load (source.patient patience) location).perform before = recursion ∧
      (recursion.1 = .error .outOfPatience → source.Answers .outOfPatience) ∧
      ∃ rounds, ∀ budget, rounds < budget →
        let stacked := (Stacked.load source budget location).perform ⟨before, []⟩
        stacked.1 = recursion.1 ∧ stacked.2.state.store = recursion.2.state ∧
          stacked.2.journal = recursion.2.journal ∧
          ∀ key, recursion.1 = .ok key → stacked.2.state.stack = [] := by
  intro recursion
  have few := encard_unseen_lt finite enough before
  have same : (load (source.patient patience) location).perform before = recursion :=
    load_eq_loadRecursively location few (encard_unseen_lt finite deep before)
  refine ⟨same, fun failed => ?_, ?_⟩
  · rw [← same] at failed
    rcases load_troubles (source.patient patience) location before [] _ failed with
      trouble | ⟨_, short⟩
    · exact trouble.answers_outOfPatience
    · exact absurd short (not_le.mpr few)
  · obtain ⟨rounds, agree⟩ := load_eq_stacked location few
    rw [same] at agree
    clear_value recursion
    refine ⟨rounds, fun budget more => ?_⟩
    obtain ⟨left, emptied, ran⟩ := agree budget more
    rw [ran]
    exact ⟨rfl, rfl, rfl, emptied⟩

end Loads

/-- Four locations. The first document includes the second and then one that is no markup; the second
includes a document that includes the first again. -/
def forkTable : List (String × List UInt8) :=
  let schema (names : List String) : List UInt8 :=
    Text.Utf8.encode ("<s:schema xmlns:s='http://www.w3.org/2001/XMLSchema'>"
      ++ String.join (names.map fun name => "<s:include schemaLocation='" ++ name ++ "'/>")
      ++ "</s:schema>").toList
  [("file:///a", schema ["b", "c"]), ("file:///b", schema ["d"]),
    ("file:///c", Text.Utf8.encode "<".toList), ("file:///d", schema ["a"])]

def forkSource : Source where
  directory := ⟨['/'], []⟩
  probe := fun location => ([], .ok (forkTable.lookup location).isSome)
  fetch := fun location =>
    match forkTable.lookup location with
    | some content => ([], .ok content)
    | none => ([], .error (.fetch .unreachable location))
  patience := 5

theorem forkSource_has_subset :
    {location | forkSource.has location} ⊆ ((forkTable.map Prod.fst).toFinset : Set String) := by
  intro location there
  obtain ⟨content, found⟩ := Option.isSome_iff_exists.mp there
  obtain ⟨before, after, split, _⟩ := List.lookup_eq_some_iff.mp found
  simp [split]

set_option maxRecDepth 100000 in
theorem forkSource_computed :
    ((start forkSource.directory 0 []).toOption.map fun begun =>
      (((load forkSource "a").perform begun).1.toOption,
        ((load forkSource "a").perform begun).2.state.entries.map Entry.location)) =
      some (none, ["file:///a", "file:///b", "file:///d"]) := by
  simp only [forkSource, forkTable, Text.Utf8.encode_toList]
  decide +kernel

/-- The document that cannot be read is come to after all that lies below the second, so that the
load fails with three documents in the store. -/
theorem forkSource_goes_depth_first :
    {location | forkSource.has location}.Finite ∧
      {location | forkSource.has location}.ncard < 5 ∧
      ∃ begun rounds, start forkSource.directory 0 [] = .ok begun ∧
        ((loadRecursively forkSource 5 "a").perform begun).1.toOption = none ∧
        ((loadRecursively forkSource 5 "a").perform begun).2.state.entries.map Entry.location =
          ["file:///a", "file:///b", "file:///d"] ∧
        ∀ budget, rounds < budget →
          ((Stacked.load forkSource budget "a").perform ⟨begun, []⟩).2.state.store.entries.map
            Entry.location = ["file:///a", "file:///b", "file:///d"] := by
  obtain ⟨begun, made, computed⟩ := Option.map_eq_some_iff.mp forkSource_computed
  obtain ⟨answered, stored⟩ := Prod.mk.inj computed
  have finite : {location | forkSource.has location}.Finite :=
    (Finset.finite_toSet _).subset forkSource_has_subset
  have few : {location | forkSource.has location}.ncard < 5 := by
    refine (Set.ncard_le_ncard forkSource_has_subset (Finset.finite_toSet _)).trans_lt ?_
    rw [Set.ncard_coe_finset]
    decide
  obtain ⟨same, _, rounds, stacked⟩ :=
    loads_go_depth_first finite begun "a" few few
  have plain : (load forkSource "a").perform begun = _ := same
  rw [plain] at answered stored
  refine ⟨finite, few, begun, rounds, ok_of_toOption made, answered, stored, fun budget more => ?_⟩
  rw [(stacked budget more).2.1, stored]

end Store

end SchemaSharp
