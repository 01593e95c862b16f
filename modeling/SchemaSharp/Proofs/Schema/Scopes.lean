import SchemaSharp.Proofs.Markup.Tree
import SchemaSharp.Proofs.Text.Pieces
import SchemaSharp.Schema.Reader

/-!
Which declaration a label in an attribute value goes by. On every element of a document the nearest
declaration of the label counts, on the element itself or on one that it stands in; `xml` is declared
around the root. What a value means as a name follows from that.
-/

namespace SchemaSharp

namespace Markup

/-- The element at a path, which tells the child to go to on each level. -/
def Element.at? : List Nat → Element → Option Element
  | [], element => some element
  | index :: path, element => element.children[index]?.bind (at? path)

def childTrees : List Item → List Tree
  | [] => []
  | .element tree :: rest => tree :: childTrees rest
  | .text _ :: rest => childTrees rest
  | .comment _ :: rest => childTrees rest

/-- The element at a path and those that it stands in, innermost first. -/
def Tree.lineage? : List Nat → Tree → Option (List Tree)
  | [], tree => some [tree]
  | index :: path, tree =>
      (childTrees tree.content)[index]?.bind fun child => (lineage? path child).map (· ++ [tree])

/-- What an element declares a label to stand for; the last declaration counts. -/
def Tree.declared? (label : String) (tree : Tree) : Option String :=
  tree.declarations.reverse.lookup label

/-- What the nearest of the elements that declare the label declares it to stand for. -/
def nearest? (trees : List Tree) (label : String) : Option String :=
  (trees.findSome? (Tree.declared? label)).or (Element.scopeAtRoot.lookup label)

/-- The element is the first of these trees, and the others are around it. -/
def Stands (trees : List Tree) (element : Element) : Prop :=
  trees.head?.map Tree.name = some element.name ∧
    trees.head?.map Tree.attributes = some element.attributes ∧
    ∀ label, element.scope.lookup label = nearest? trees label

theorem nearest?_cons (tree : Tree) (above : List Tree) (label : String) :
    nearest? (tree :: above) label = (tree.declared? label).or (nearest? above label) := by
  rw [nearest?, List.findSome?_cons]
  cases tree.declared? label <;> rfl

theorem getElem?_elementsOfItems (scope : Scope) (content : List Item) (count index : Nat) :
    ∃ later, (elementsOfItems scope count content)[index]? =
      (childTrees content)[index]?.map (Tree.element scope later) := by
  induction content generalizing count index with
  | nil => exact ⟨0, rfl⟩
  | cons item rest ih =>
      cases item with
      | text characters => exact ih count index
      | comment characters => exact ih count index
      | element tree =>
          cases index with
          | zero => exact ⟨count, rfl⟩
          | succ index => exact ih (count + tree.size) index

/-- Down a path the scopes of the elements follow the declarations of the tree, if the scope around
it does. -/
theorem at?_stands (path : List Nat) (tree : Tree) {above : List Tree} {scope : Scope}
    (around : ∀ label, scope.lookup label = nearest? above label) (count : Nat) :
    Option.Rel (fun lineage element => Stands (lineage ++ above) element) (tree.lineage? path)
      ((tree.element scope count).at? path) := by
  induction path generalizing tree above scope count with
  | nil =>
      refine .some ⟨?_, ?_, fun label => ?_⟩
      · cases tree
        rfl
      · cases tree
        rfl
      · cases tree
        rw [List.singleton_append, nearest?_cons, ← around, Tree.element, List.lookup_append]
        rfl
  | cons index path ih =>
      obtain ⟨declarations, name, attributes, content⟩ := tree
      -- what the element declares comes before what is declared around it
      have inside : ∀ label, (declarations.reverse ++ scope).lookup label =
          nearest? (⟨declarations, name, attributes, content⟩ :: above) label := by
        intro label
        rw [nearest?_cons, ← around, List.lookup_append]
        rfl
      obtain ⟨later, children⟩ := getElem?_elementsOfItems (declarations.reverse ++ scope) content
        (count + 1) index
      rw [Tree.lineage?, Tree.element, Element.at?, children]
      cases (childTrees content)[index]? with
      | none => exact .none
      | some child =>
          have below := ih child inside later
          simp only [Option.bind_some, Option.map_some]
          generalize child.lineage? path = lineage at below ⊢
          generalize (child.element _ later).at? path = node at below ⊢
          cases below with
          | none => exact .none
          | some stands =>
              refine .some ?_
              rwa [List.append_assoc]

end Markup

namespace Schema

open Markup (Element Tree Item eventsOf nearest? Stands)

/-! ## Names in attribute values -/

theorem resolveName_prefixed (location : String) (node : Element) {label : String} (name : String)
    (whole : ':' ∉ label.toList) :
    resolveName location node (some (label ++ ":" ++ name)) =
      match node.scope.lookup label with
      | some uri => .ok (some ⟨some uri, name⟩)
      | none => .error (.load (.undeclaredLabel label) location) := by
  have given : given? (some (label ++ ":" ++ name)) = some (label ++ ":" ++ name) := by
    simp [given?]
  have cut : Text.cutFirst ':' (label ++ ":" ++ name).toList = (label.toList, some name.toList) := by
    rw [String.toList_append, String.toList_append, List.append_assoc]
    exact Text.cutFirst_append whole name.toList
  cases declared : node.scope.lookup label <;>
    simp only [resolveName, given, cut, String.ofList_toList, declared]

theorem resolveName_unprefixed (location : String) (node : Element) {text : String}
    (nonempty : text ≠ "") (whole : ':' ∉ text.toList) :
    resolveName location node (some text) = .ok (some ⟨node.scope.lookup "", text⟩) := by
  have given : given? (some text) = some text := by
    simpa [given?, Option.filter_eq_some_iff] using nonempty
  rw [resolveName, given]
  simp only [Text.cutFirst_of_notMem whole]

/-- On each element of a document a label stands for what the nearest declaration says, on the element
itself or on one that it stands in. So a value with a colon in it is cut at the first one, the label
before it is looked up, and there is a failure exactly if nothing around the element declares it. Any
other value is a name in the nearest default namespace, if there is one; an empty value is no name.
This is so for every tree, and every document that can be read is one. -/
theorem names_go_by_nearest_declaration :
    (∀ bytes root, Element.ofBytes bytes = .ok root →
      ∃ tree : Tree, eventsOf bytes = .ok tree.events ∧
        Element.ofEvents? tree.events = some root) ∧
    ∀ tree : Tree, ∃ root, Element.ofEvents? tree.events = some root ∧ ∀ path,
      Option.Rel Stands (tree.lineage? path) (root.at? path) ∧
      ∀ lineage node, tree.lineage? path = some lineage → root.at? path = some node →
        ∀ location,
          (∀ label name, ':' ∉ label.toList →
            resolveName location node (some (label ++ ":" ++ name)) =
              match nearest? lineage label with
              | some uri => .ok (some ⟨some uri, name⟩)
              | none => .error (.load (.undeclaredLabel label) location)) ∧
          (∀ text, text ≠ "" → ':' ∉ text.toList →
            resolveName location node (some text) = .ok (some ⟨nearest? lineage "", text⟩)) ∧
          resolveName location node (some "") = .ok none ∧
          resolveName location node none = .ok none := by
  refine ⟨fun bytes root read => ?_, fun tree => ?_⟩
  · obtain ⟨tree, written, rfl⟩ := Markup.ofBytes_tree read
    exact ⟨tree, written, Element.ofEvents?_events tree⟩
  · refine ⟨_, Element.ofEvents?_events tree, fun path => ?_⟩
    have around : ∀ label, Element.scopeAtRoot.lookup label = nearest? [] label := fun _ => rfl
    have stands := Markup.at?_stands path tree around 0
    simp only [List.append_nil] at stands
    refine ⟨stands, fun lineage node listed found location => ?_⟩
    rw [listed, found] at stands
    cases stands with
    | some stands =>
        refine ⟨fun label name whole => ?_, fun text nonempty whole => ?_, rfl, rfl⟩
        · rw [resolveName_prefixed location node name whole, stands.2.2]
        · rw [resolveName_unprefixed location node nonempty whole, stands.2.2]

/-- A document in which an inner element declares a label anew and takes the default namespace back,
and another one declares a label of its own. -/
def shadedText : List UInt8 :=
  Text.Utf8.encode ("<a xmlns='urn:d' xmlns:p='urn:p'><b xmlns='' xmlns:p='urn:q'><c/></b>"
    ++ "<d xmlns:r='urn:r'/><e/></a>").toList

def shadedTree : Tree :=
  let named (uri : Option String) (name : String) (declarations : List (String × String))
      (content : List Item) : Tree := ⟨declarations, ⟨uri, name⟩, [], content⟩
  named (some "urn:d") "a" [("", "urn:d"), ("p", "urn:p")] [
    .element (named none "b" [("", ""), ("p", "urn:q")] [.element (named none "c" [] [])]),
    .element (named (some "urn:d") "d" [("r", "urn:r")] []),
    .element (named (some "urn:d") "e" [] [])]

set_option maxRecDepth 100000 in
theorem shadedText_events : (eventsOf shadedText).toOption = some shadedTree.events := by
  simp only [shadedText, Text.Utf8.encode_toList]
  decide +kernel

/-- Inside the one, the new declaration and the empty default namespace count; behind it, those of the
root do again, and the label of the other is unknown. -/
theorem shadedText_names_go_by_nearest :
    ∃ root inner last, Element.ofBytes shadedText = .ok root ∧
      (∃ tree : Tree, eventsOf shadedText = .ok tree.events ∧
        Element.ofEvents? tree.events = some root) ∧
      root.at? [0, 0] = some inner ∧ root.at? [2] = some last ∧
      resolveName "x" inner (some "p:l") = .ok (some ⟨some "urn:q", "l"⟩) ∧
      resolveName "x" inner (some "l") = .ok (some ⟨some "", "l"⟩) ∧
      resolveName "x" last (some "p:l:m") = .ok (some ⟨some "urn:p", "l:m"⟩) ∧
      resolveName "x" last (some "r:l") = .error (.load (.undeclaredLabel "r") "x") ∧
      resolveName "x" last (some "l") = .ok (some ⟨some "urn:d", "l"⟩) := by
  have read := Markup.ofBytes_of_events (ok_of_toOption shadedText_events)
  obtain ⟨documents, trees⟩ := names_go_by_nearest_declaration
  obtain ⟨root, written, paths⟩ := trees shadedTree
  obtain rfl : shadedTree.element Element.scopeAtRoot 0 = root :=
    Option.some_inj.mp ((Element.ofEvents?_events shadedTree).symm.trans written)
  have inside := (paths [0, 0]).2 _ _ rfl rfl "x"
  have behind := (paths [2]).2 _ _ rfl rfl "x"
  refine ⟨_, _, _, read, documents _ _ read, rfl, rfl, ?_, ?_, ?_, ?_, ?_⟩
  · exact inside.1 "p" "l" (by decide)
  · exact inside.2.1 "l" (by decide) (by decide)
  · exact behind.1 "p" "l:m" (by decide)
  · exact behind.1 "r" "l" (by decide)
  · exact behind.2.1 "l" (by decide) (by decide)

/-- A schema with a default namespace and an element of no type, as it says with an empty value. -/
def typelessTree : Tree :=
  ⟨[("xs", schemaUri), ("", "urn:d")], ⟨some schemaUri, "schema"⟩, [],
    [.element ⟨[], ⟨some schemaUri, "element"⟩, [⟨⟨none, "name"⟩, "a"⟩, ⟨⟨none, "type"⟩, ""⟩], []⟩]⟩

/-- There is a default namespace around the element, and still the empty value is no name in it. -/
theorem empty_value_names_nothing :
    ∃ root node lineage, Element.ofEvents? typelessTree.events = some root ∧
      root.at? [0] = some node ∧ typelessTree.lineage? [0] = some lineage ∧
      nearest? lineage "" = some "urn:d" ∧ node.attribute? "type" = some "" ∧
      ':' ∉ "".toList ∧
      resolveName "file:///w/p/sample.xsd" node (some "") ≠
        .ok (some ⟨nearest? lineage "", ""⟩) := by
  refine ⟨_, _, _, Element.ofEvents?_events typelessTree, rfl, rfl, rfl, rfl, by decide, ?_⟩
  intro same
  cases same

end Schema

end SchemaSharp
