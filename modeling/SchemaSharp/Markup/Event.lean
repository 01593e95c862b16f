import SchemaSharp.Markup.Coding
import SchemaSharp.Markup.Doctype

/-!
A document as a row of events: namespace declarations, each just before the tag they stand on, and
the beginnings and ends of elements. Names are resolved against the declarations in force.
-/

namespace SchemaSharp.Markup

open Text

structure ExpandedName where
  uri : Option String
  name : String
  deriving DecidableEq, Repr

structure Attribute where
  name : ExpandedName
  value : String
  deriving DecidableEq, Repr

/-- The empty label declares the default namespace. -/
inductive Event where
  | declare (label uri : String)
  | opened (name : ExpandedName) (attributes : List Attribute)
  | closed
  deriving DecidableEq, Repr

def markupUri : String := "http://www.w3.org/XML/1998/namespace"

def declarationUri : String := "http://www.w3.org/2000/xmlns/"

/-- Declarations in force, the innermost first. An empty address takes the default back. -/
abbrev Bindings := List (String × String)

def Bindings.initial : Bindings := [("xml", markupUri)]

/-! ## Tags -/

structure RawAttribute where
  name : RawName
  items : List ValueItem

structure RawTag where
  name : RawName
  attributes : List RawAttribute
  isEmpty : Bool

def rawAttribute (budget : Nat) : Reading RawAttribute := do
  let name ← rawName
  skipSpaces
  expect "="
  skipSpaces
  return ⟨name, ← quotedItems budget⟩

/-- The attributes of a tag up to its end; each stands behind a blank. Every attribute and every
item of a value takes a character, so that the length of the text is budget enough. -/
def rawAttributes : Nat → Reading (List RawAttribute × Bool)
  | 0 => malformed
  | budget + 1 => do
      let spaced := (← get).head?.any isSpace
      skipSpaces
      if ← lookingAt ">" then return ([], false)
      if ← lookingAt "/>" then return ([], true)
      if !spaced then malformed
      let first ← rawAttribute budget
      let (others, isEmpty) ← rawAttributes budget
      return (first :: others, isEmpty)

def rawTag (budget : Nat) : Reading RawTag := do
  let name ← rawName
  let (attributes, isEmpty) ← rawAttributes budget
  return ⟨name, attributes, isEmpty⟩

def endTagRest (opened : RawName) : Reading Unit := do
  let name ← rawName
  skipSpaces
  expect ">"
  if name != opened then malformed

/-- The label that an attribute declares, if it is a namespace declaration. -/
def declaredLabel? (name : RawName) : Option String :=
  match name with
  | ⟨none, "xmlns"⟩ => some ""
  | ⟨some "xmlns", label⟩ => some label
  | _ => none

/-- What ends the address where address and local name are written together. -/
def nameJoint : Char := '}'

/-- A label other than `xml` may not be bound to its address nor the other way round; the address
of declarations is never bound; only the default may be taken back. -/
def mayDeclare (label uri : String) : Bool :=
  !(uri.isEmpty && !label.isEmpty)
    && label != "xmlns"
    && !uri.toList.contains nameJoint
    && (label == "xml") == (uri == markupUri)
    && uri != declarationUri

def expand (bindings : Bindings) (name : RawName) (useDefault : Bool) : Option ExpandedName :=
  match name.label with
  | some label => (bindings.lookup label).map fun uri => ⟨some uri, name.name⟩
  | none =>
      if !useDefault then some ⟨none, name.name⟩
      else
        match bindings.lookup "" with
        | some uri => some ⟨if uri.isEmpty then none else some uri, name.name⟩
        | none => some ⟨none, name.name⟩

def hasRepeats {α : Type} [BEq α] : List α → Bool
  | [] => false
  | first :: rest => rest.contains first || hasRepeats rest

/-- The attributes with their values, those that the document type supplies last. -/
def completeAttributes (doctype : Doctype) (tag : RawTag) : Option (List (RawName × String)) := do
  let rules := doctype.rulesFor tag.name
  let written ← tag.attributes.mapM fun raw => do
    let verbatim :=
      match rules.find? (·.name == raw.name) with
      | some rule => rule.verbatim
      | none => true
    let value ← normalizeValue verbatim doctype.lenient raw.items
    return (raw.name, String.ofList value)
  let supplied := rules.filterMap fun rule =>
    if tag.attributes.any (·.name == rule.name) then none
    else rule.value.map fun value => (rule.name, String.ofList value)
  return written ++ supplied

/-- The events of a start tag and the declarations in force inside it. -/
def openingEvents (doctype : Doctype) (bindings : Bindings) (tag : RawTag) :
    Option (List Event × Bindings) := do
  if hasRepeats (tag.attributes.map (·.name)) then none
  let attributes ← completeAttributes doctype tag
  let declarations := attributes.filterMap fun (name, uri) =>
    (declaredLabel? name).map fun label => (label, uri)
  if !declarations.all fun (label, uri) => mayDeclare label uri then none
  let inner : Bindings := declarations.reverse ++ bindings
  let expanded ← (attributes.filter fun (name, _) => (declaredLabel? name).isNone).mapM
    fun (name, value) => (expand inner name false).map fun name => Attribute.mk name value
  if hasRepeats (expanded.map (·.name)) then none
  let name ← expand inner tag.name true
  return (declarations.map (fun (label, uri) => .declare label uri) ++ [.opened name expanded], inner)

/-! ## Content -/

/-- An element that is still open: its name as written and the declarations around it. -/
structure Open where
  name : RawName
  outside : Bindings

/-- The rest of a comment or of literal text. -/
def asideRest : Reading Unit := do
  if ← lookingAt "--" then commentRest
  else
    expect "[CDATA["
    let _ ← through "]]>"

/-- A reference to a character or to an entity that every document has. -/
def knownRef : Reading Unit := do
  match ← refRest with
  | .character _ => return
  | .entity name => if (predefined? name).isNone then malformed

-- The events are collected newest first.
def contentEvents (doctype : Doctype) :
    Nat → List Open → Bindings → List Event → Reading (List Event)
  | 0, _, _, _ => malformed
  | _, [], _, events => return events
  | budget + 1, innermost :: outer, bindings, events => do
      match ← get with
      | [] => malformed
      | '<' :: '/' :: rest =>
          set rest
          endTagRest innermost.name
          contentEvents doctype budget outer innermost.outside (.closed :: events)
      | '<' :: '?' :: rest =>
          set rest
          instructionRest
          contentEvents doctype budget (innermost :: outer) bindings events
      | '<' :: '!' :: rest =>
          set rest
          asideRest
          contentEvents doctype budget (innermost :: outer) bindings events
      | '<' :: rest =>
          set rest
          let tag ← rawTag budget
          match openingEvents doctype bindings tag with
          | none => malformed
          | some (opening, inner) =>
              if tag.isEmpty then
                contentEvents doctype budget (innermost :: outer) bindings
                  (.closed :: opening.reverse ++ events)
              else
                contentEvents doctype budget (⟨tag.name, bindings⟩ :: innermost :: outer) inner
                  (opening.reverse ++ events)
      | '&' :: rest =>
          set rest
          knownRef
          contentEvents doctype budget (innermost :: outer) bindings events
      | ']' :: ']' :: '>' :: _ => malformed
      | c :: rest =>
          if c == '\x00' then malformed
          set rest
          contentEvents doctype budget (innermost :: outer) bindings events

/-- The root element's events, oldest first. -/
def rootEvents (doctype : Doctype) : Reading (List Event) := do
  expect "<"
  let budget := (← get).length + 1
  let tag ← rawTag budget
  match openingEvents doctype Bindings.initial tag with
  | none => malformed
  | some (opening, inner) =>
      if tag.isEmpty then return opening ++ [.closed]
      let events ←
        contentEvents doctype budget [⟨tag.name, Bindings.initial⟩] inner opening.reverse
      return events.reverse

/-- What may stand before the root element: one document type, comments and instructions. -/
def prolog (standalone : Bool) : Nat → Option Doctype → Reading Doctype
  | 0, _ => malformed
  | budget + 1, seen => do
      match ← token with
      | .comment => prolog standalone budget seen
      | .instruction => prolog standalone budget seen
      | .declaration "DOCTYPE" =>
          if seen.isSome then malformed
          let doctype ← doctypeRest ⟨standalone, false, false, []⟩
          prolog standalone budget (some doctype)
      | .startTag => return seen.getD ⟨standalone, false, false, []⟩
      | _ => malformed

/-- Behind the root element only comments, instructions and blanks are left. -/
def epilog : Nat → Reading Unit
  | 0 => malformed
  | budget + 1 => do
      skipSpaces
      match ← get with
      | [] => return
      | '<' :: '!' :: '-' :: '-' :: rest =>
          set rest
          commentRest
          epilog budget
      | '<' :: '?' :: rest =>
          set rest
          instructionRest
          epilog budget
      | _ => malformed

def documentEvents (standalone : Bool) : Reading (List Event) := do
  let budget := (← get).length + 1
  let doctype ← prolog standalone budget none
  let events ← rootEvents doctype
  epilog budget
  return events

def eventsOf (bytes : List UInt8) : Except Fault (List Event) :=
  match decode bytes with
  | .error fault => .error fault
  | .ok (standalone, text) => (documentEvents standalone).run' text

end SchemaSharp.Markup
