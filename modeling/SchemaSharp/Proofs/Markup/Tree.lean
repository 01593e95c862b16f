import SchemaSharp.Markup.Element
import SchemaSharp.Proofs.Result

/-!
Documents as trees. A tree is written as a row of events, the declarations of an element just before
its beginning and its content before its end, and one pass over these events gives the tree back as
elements. Every document that can be read is written as a tree.
-/

namespace SchemaSharp.Markup

mutual

/-- An element as it stands in a document, with the namespaces that are declared on it. -/
structure Tree where
  declarations : List (String × String)
  name : ExpandedName
  attributes : List Attribute
  content : List Item

inductive Item where
  | element (tree : Tree)
  | text (characters : String)
  | comment (characters : String)

end

mutual

/-- The events of a document. Neither text nor comments are reported. -/
def Tree.events : Tree → List Event
  | ⟨declarations, name, attributes, content⟩ =>
      declarations.map (fun (label, uri) => .declare label uri) ++
        .opened name attributes :: (eventsOfItems content ++ [.closed])

def eventsOfItems : List Item → List Event
  | [] => []
  | .element tree :: rest => tree.events ++ eventsOfItems rest
  | .text _ :: rest => eventsOfItems rest
  | .comment _ :: rest => eventsOfItems rest

end

mutual

/-- The number of elements in a tree. -/
def Tree.size : Tree → Nat
  | ⟨_, _, _, content⟩ => sizeOfItems content + 1

def sizeOfItems : List Item → Nat
  | [] => 0
  | .element tree :: rest => tree.size + sizeOfItems rest
  | .text _ :: rest => sizeOfItems rest
  | .comment _ :: rest => sizeOfItems rest

end

mutual

/-- The element that a tree stands for, where `scope` is in force around it and `count` elements
began before it. -/
def Tree.element (scope : Scope) (count : Nat) : Tree → Element
  | ⟨declarations, name, attributes, content⟩ =>
      ⟨name, attributes, declarations.reverse ++ scope, count,
        elementsOfItems (declarations.reverse ++ scope) (count + 1) content⟩

def elementsOfItems (scope : Scope) (count : Nat) : List Item → List Element
  | [] => []
  | .element tree :: rest =>
      tree.element scope count :: elementsOfItems scope (count + tree.size) rest
  | .text _ :: rest => elementsOfItems scope count rest
  | .comment _ :: rest => elementsOfItems scope count rest

end

/-! ## Events read back -/

namespace Element

/-- A complete element becomes a child of the innermost open one; without that it is the root. -/
def Building.attach (element : Element) (building : Building) : Building :=
  match building.openElements with
  | [] => { building with root := some element }
  | parent :: outer =>
      { building with
        openElements := { parent with children := element :: parent.children } :: outer }

section Building

variable (outer : List Begun) (count : Nat) (root : Option Element)

theorem step_closed (begun : Begun) :
    (⟨begun :: outer, [], count, root⟩ : Building).step .closed =
      Building.attach begun.finish ⟨outer, [], count, root⟩ := by
  cases outer <;> rfl

theorem foldl_declarations (declarations : List (String × String)) (building : Building) :
    (declarations.map fun (label, uri) => Event.declare label uri).foldl Building.step building =
      { building with waiting := declarations.reverse ++ building.waiting } := by
  induction declarations generalizing building with
  | nil => rfl
  | cons declaration rest ih =>
      rw [List.map_cons, List.foldl_cons, ih]
      simp [Building.step]

/-- Everything that waits goes to the element that begins. -/
theorem step_opened (waiting : Scope) (name : ExpandedName) (attributes : List Attribute) :
    (⟨outer, waiting, count, root⟩ : Building).step (.opened name attributes) =
      ⟨⟨name, attributes, waiting ++ Building.scope ⟨outer, [], count, root⟩, count, []⟩ :: outer, [],
        count + 1, root⟩ := rfl

mutual

/-- Where no declaration waits, the events of a tree add the element that it stands for. -/
theorem foldl_tree : (tree : Tree) → (outer : List Begun) → (count : Nat) →
    (root : Option Element) →
      tree.events.foldl Building.step ⟨outer, [], count, root⟩ =
        Building.attach (tree.element (Building.scope ⟨outer, [], count, root⟩) count)
          ⟨outer, [], count + tree.size, root⟩
  | ⟨declarations, name, attributes, content⟩, outer, count, root => by
      rw [Tree.events, List.foldl_append, foldl_declarations, List.foldl_cons, step_opened,
        List.foldl_append, foldl_items content]
      rw [List.foldl_cons, List.foldl_nil, step_closed, Tree.element, Tree.size]
      have counted : count + (sizeOfItems content + 1) = count + 1 + sizeOfItems content := by omega
      simp only [Begun.finish, List.append_nil, List.reverse_reverse, counted]

theorem foldl_items : (content : List Item) → (begun : Begun) → (outer : List Begun) →
    (count : Nat) → (root : Option Element) →
      (eventsOfItems content).foldl Building.step ⟨begun :: outer, [], count, root⟩ =
        ⟨{ begun with
            children := (elementsOfItems begun.scope count content).reverse ++ begun.children } ::
          outer, [], count + sizeOfItems content, root⟩
  | [], begun, outer, count, root => rfl
  | .element tree :: rest, begun, outer, count, root => by
      rw [eventsOfItems, List.foldl_append, foldl_tree tree]
      simp only [Building.attach, Building.scope]
      rw [foldl_items rest]
      simp [elementsOfItems, sizeOfItems, Nat.add_assoc]
  | .text _ :: rest, begun, outer, count, root => foldl_items rest begun outer count root
  | .comment _ :: rest, begun, outer, count, root => foldl_items rest begun outer count root

end

end Building

/-- The events of a tree are read back as the element that the tree stands for. -/
theorem ofEvents?_events (tree : Tree) :
    ofEvents? tree.events = some (tree.element scopeAtRoot 0) := by
  rw [ofEvents?, Building.start, foldl_tree]
  rfl

end Element

/-! ## Every document is a tree -/

/-- Whatever text it is started on, what the reader answers is of this kind. -/
def Yields {α : Type} (holds : α → Prop) (reading : Reading α) : Prop :=
  ∀ text value rest, reading.run text = .ok (value, rest) → holds value

section Yields

variable {α β : Type} {holds : β → Prop}

theorem yields_pure {value : β} (holding : holds value) : Yields holds (pure value : Reading β) := by
  intro text answer rest ran
  cases ran
  exact holding

theorem yields_malformed : Yields holds (malformed : Reading β) := by
  intro text answer rest ran
  cases ran

theorem yields_bind (first : α → Prop) {reading : Reading α} {next : α → Reading β}
    (before : Yields first reading) (after : ∀ value, first value → Yields holds (next value)) :
    Yields holds (reading >>= next) := by
  intro text answer rest ran
  rw [StateT.run_bind] at ran
  cases head : reading.run text with
  | error fault =>
      rw [head] at ran
      cases ran
  | ok pair =>
      rw [head] at ran
      exact after pair.1 (before text pair.1 pair.2 head) pair.2 answer rest ran

theorem yields_of_bind {reading : Reading α} {next : α → Reading β}
    (after : ∀ value, Yields holds (next value)) : Yields holds (reading >>= next) :=
  yields_bind (fun _ => True) (fun _ _ _ _ => trivial) fun value _ => after value

theorem yields_malformed_bind {next : α → Reading β} :
    Yields holds (malformed >>= next : Reading β) :=
  yields_bind (fun _ => False) yields_malformed fun _ never => never.elim

theorem Yields.of_imp {wider : β → Prop} {reading : Reading β} (yields : Yields holds reading)
    (imp : ∀ value, holds value → wider value) : Yields wider reading :=
  fun text value rest ran => imp value (yields text value rest ran)

end Yields

/-- What is left to come while so many elements are open: the rest of the content of each, and then
its end. -/
def Closes : Nat → List Event → Prop
  | 0, events => events = []
  | depth + 1, events =>
      ∃ content later, events = eventsOfItems content ++ .closed :: later ∧ Closes depth later

theorem closes_closed {depth : Nat} {later : List Event} (closes : Closes depth later) :
    Closes (depth + 1) (.closed :: later) :=
  ⟨[], later, rfl, closes⟩

theorem closes_tree {depth : Nat} {later : List Event} (tree : Tree)
    (closes : Closes (depth + 1) later) : Closes (depth + 1) (tree.events ++ later) := by
  obtain ⟨content, others, rfl, closes⟩ := closes
  exact ⟨.element tree :: content, others, by rw [eventsOfItems, List.append_assoc], closes⟩

/-- An element that begins takes what comes up to its end as its content. -/
theorem closes_opened {depth : Nat} {later : List Event} (declarations : List (String × String))
    (name : ExpandedName) (attributes : List Attribute) (closes : Closes (depth + 2) later) :
    Closes (depth + 1) (declarations.map (fun (label, uri) => .declare label uri) ++
      .opened name attributes :: later) := by
  obtain ⟨content, others, rfl, closes⟩ := closes
  have whole := closes_tree ⟨declarations, name, attributes, content⟩ closes
  simpa [Tree.events] using whole

theorem openingEvents_eq {doctype : Doctype} {bindings inner : Bindings} {tag : RawTag}
    {opening : List Event} (opened : openingEvents doctype bindings tag = some (opening, inner)) :
    ∃ (declarations : List (String × String)) (name : ExpandedName) (attributes : List Attribute),
      opening = declarations.map (fun (label, uri) => .declare label uri) ++
        [.opened name attributes] := by
  unfold openingEvents at opened
  split at opened
  · cases opened
  · dsimp only at opened
    obtain ⟨attributes, _, opened⟩ := Option.bind_eq_some_iff.mp opened
    split at opened
    · cases opened
    · obtain ⟨expanded, _, opened⟩ := Option.bind_eq_some_iff.mp opened
      split at opened
      · cases opened
      · obtain ⟨name, _, opened⟩ := Option.bind_eq_some_iff.mp opened
        cases opened
        exact ⟨_, name, expanded, rfl⟩

theorem contentEvents_closes (doctype : Doctype) (budget : Nat) (elements : List Open)
    (bindings : Bindings) (events : List Event) :
    Yields (fun answer => ∃ later, answer = later.reverse ++ events ∧ Closes elements.length later)
      (contentEvents doctype budget elements bindings events) := by
  induction budget generalizing elements bindings events with
  | zero => exact yields_malformed
  | succ budget ih =>
    cases elements with
    | nil => exact yields_pure ⟨[], rfl, rfl⟩
    | cons innermost outer =>
      have same := ih (innermost :: outer) bindings events
      unfold contentEvents
      refine yields_of_bind fun text => ?_
      split
      · exact yields_malformed
      · refine yields_of_bind fun _ => yields_of_bind fun _ => ?_
        -- the end tag of the innermost element
        refine (ih outer innermost.outside (.closed :: events)).of_imp ?_
        rintro answer ⟨later, rfl, closes⟩
        exact ⟨.closed :: later, by simp, closes_closed closes⟩
      · exact yields_of_bind fun _ => yields_of_bind fun _ => same
      · exact yields_of_bind fun _ => yields_of_bind fun _ => same
      · -- a tag that opens an element, which is closed at once if it is empty
        refine yields_of_bind fun _ => yields_of_bind fun tag => ?_
        split
        · exact yields_malformed
        · next opening inner opened =>
            obtain ⟨declarations, name, attributes, rfl⟩ := openingEvents_eq opened
            split
            · refine (ih (innermost :: outer) bindings _).of_imp ?_
              rintro answer ⟨later, rfl, closes⟩
              refine ⟨(Tree.mk declarations name attributes []).events ++ later, ?_,
                closes_tree _ closes⟩
              simp [Tree.events, eventsOfItems]
            · refine (ih (⟨tag.name, bindings⟩ :: innermost :: outer) inner _).of_imp ?_
              rintro answer ⟨later, rfl, closes⟩
              refine ⟨_, ?_, closes_opened declarations name attributes closes⟩
              simp
      · exact yields_of_bind fun _ => yields_of_bind fun _ => same
      · exact yields_malformed
      · dsimp only
        split
        · exact yields_malformed_bind
        · exact yields_of_bind fun _ => same

theorem rootEvents_tree (doctype : Doctype) :
    Yields (fun events => ∃ tree : Tree, events = tree.events) (rootEvents doctype) := by
  unfold rootEvents
  refine yields_of_bind fun _ => yields_of_bind fun text => yields_of_bind fun tag => ?_
  split
  · exact yields_malformed
  · next opening inner opened =>
      obtain ⟨declarations, name, attributes, rfl⟩ := openingEvents_eq opened
      dsimp only
      split
      · refine yields_pure ⟨⟨declarations, name, attributes, []⟩, ?_⟩
        simp [Tree.events, eventsOfItems]
      · refine yields_bind _ (contentEvents_closes doctype _ _ inner _) ?_
        rintro events ⟨_, rfl, content, _, rfl, rfl⟩
        refine yields_pure ⟨⟨declarations, name, attributes, content⟩, ?_⟩
        simp [Tree.events]

/-- The events of a document are those of a tree, whatever the document looks like. -/
theorem eventsOf_tree {bytes : List UInt8} {events : List Event}
    (read : eventsOf bytes = .ok events) : ∃ tree : Tree, events = tree.events := by
  have document : ∀ standalone, Yields (fun events => ∃ tree : Tree, events = tree.events)
      (documentEvents standalone) := by
    intro standalone
    unfold documentEvents
    refine yields_of_bind fun text => yields_of_bind fun doctype => ?_
    refine yields_bind _ (rootEvents_tree doctype) fun events written => ?_
    exact yields_of_bind fun _ => yields_pure written
  unfold eventsOf at read
  split at read
  · cases read
  · next standalone text decoded =>
      obtain ⟨⟨answer, rest⟩, ran, rfl⟩ := ok_of_map read
      exact document standalone text answer rest ran

theorem ofBytes_tree {bytes : List UInt8} {root : Element} (read : Element.ofBytes bytes = .ok root) :
    ∃ tree : Tree, eventsOf bytes = .ok tree.events ∧ root = tree.element Element.scopeAtRoot 0 := by
  unfold Element.ofBytes at read
  split at read
  · cases read
  · next events found =>
      obtain ⟨tree, rfl⟩ := eventsOf_tree found
      rw [Element.ofEvents?_events] at read
      cases read
      exact ⟨tree, found, rfl⟩

theorem ofBytes_of_events {bytes : List UInt8} {tree : Tree}
    (written : eventsOf bytes = .ok tree.events) :
    Element.ofBytes bytes = .ok (tree.element Element.scopeAtRoot 0) := by
  rw [Element.ofBytes, written]
  simp only [Element.ofEvents?_events]

end SchemaSharp.Markup
