import SchemaSharp.Markup.Event

/-!
Elements as trees. Each keeps the namespace declarations in force on it, since attribute values
may hold names that are resolved by them, and its number in document order.
-/

namespace SchemaSharp.Markup

/-- Labels and their addresses, the innermost declaration first; the empty label is the default
namespace and may have the empty address. -/
abbrev Scope := List (String × String)

structure Element where
  name : ExpandedName
  attributes : List Attribute
  scope : Scope
  ordinal : Nat
  children : List Element

namespace Element

def scopeAtRoot : Scope := [("xml", markupUri)]

/-- The value of the attribute `name` that is in no namespace. -/
def attribute? (element : Element) (name : String) : Option String :=
  (element.attributes.find? fun given => given.name == ⟨none, name⟩).map (·.value)

/-- An element whose end has not been met, with its children newest first. -/
structure Begun where
  name : ExpandedName
  attributes : List Attribute
  scope : Scope
  ordinal : Nat
  children : List Element

def Begun.finish (begun : Begun) : Element :=
  ⟨begun.name, begun.attributes, begun.scope, begun.ordinal, begun.children.reverse⟩

/-- A pass over the events: the open elements, innermost first, the declarations waiting for their
element, the number of elements begun, and the root once it is complete. -/
structure Building where
  openElements : List Begun
  waiting : Scope
  count : Nat
  root : Option Element

def Building.start : Building := ⟨[], [], 0, none⟩

def Building.scope (building : Building) : Scope :=
  match building.openElements with
  | [] => scopeAtRoot
  | innermost :: _ => innermost.scope

-- Declarations wait only for the next element; then they are forgotten, so that none leaks into
-- a sibling.
def Building.step (building : Building) : Event → Building
  | .declare label uri => { building with waiting := (label, uri) :: building.waiting }
  | .opened name attributes =>
      let begun : Begun :=
        ⟨name, attributes, building.waiting ++ building.scope, building.count, []⟩
      { building with
        openElements := begun :: building.openElements
        waiting := []
        count := building.count + 1 }
  | .closed =>
      match building.openElements with
      | [] => building
      | [last] => { building with openElements := [], root := some last.finish }
      | innermost :: parent :: outer =>
          { building with
            openElements :=
              { parent with children := innermost.finish :: parent.children } :: outer }

def ofEvents? (events : List Event) : Option Element :=
  (events.foldl Building.step Building.start).root

/-- The root element of a document. -/
def ofBytes (bytes : List UInt8) : Except Fault Element :=
  match eventsOf bytes with
  | .error fault => .error fault
  | .ok events =>
      match ofEvents? events with
      | some root => .ok root
      | none => .error .malformed

end Element

end SchemaSharp.Markup
