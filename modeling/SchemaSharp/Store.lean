import SchemaSharp.Location.Canonical
import SchemaSharp.Schema.Reader
import SchemaSharp.Source

/-!
The documents of one run, each loaded once, with everything they refer to. Types and elements are
indexed by qualified name while documents come in; the first declaration of a name is kept.
-/

namespace SchemaSharp

open Schema (Document Reference QName TypeDecl ElementDecl Home)

/-- A document and its effective namespace, which may be that of the document that includes it. -/
structure Entry where
  document : Document
  space : Option String

def Entry.location (entry : Entry) : String := entry.document.location

/-- `edition` tells the documents of one store from those of any other; `bases` are the places
where a document is looked for that is not found beside its referrer. -/
structure Store where
  edition : Nat
  bases : List String
  entries : List Entry
  types : List (QName × TypeDecl)
  elements : List (QName × ElementDecl)

namespace Store

/-! ## Making -/

def searchBase (directory : FilePath) (path : String) : Except Location.HostFault String := do
  let base ← Location.canonical directory path none
  return if base.toList.getLast? == some '/' then base else base ++ "/"

def start (directory : FilePath) (edition : Nat) (paths : List String) :
    Except Location.HostFault Store := do
  let bases ← paths.mapM (searchBase directory)
  return ⟨edition, bases, [], [], []⟩

/-! ## Lookups -/

/-- The entry of the document stored under a canonical location. -/
def at? (store : Store) (location : String) : Option Entry :=
  store.entries.find? fun entry => entry.location == location

def contains (store : Store) (directory : FilePath) (location : String) :
    Except Location.HostFault Bool :=
  (Location.canonical directory location none).map fun key => (store.at? key).isSome

def lookupType? (store : Store) (name : QName) : Option TypeDecl := store.types.lookup name

def lookupElement? (store : Store) (name : QName) : Option ElementDecl := store.elements.lookup name

/-- The stored document that a declaration was made in. The same location read for another store
does not count. -/
def owner? (store : Store) (home : Home) : Option Entry :=
  (store.at? home.location).filter fun entry => entry.document.home == home

/-- The effective namespace of a stored document. -/
def spaceOf (store : Store) (location : String) : Option String :=
  (store.at? location).bind (·.space)

/-! ## Indexing -/

/-- Enters declarations under their names. A name that is taken keeps its first declaration, and a
declaration without a name is not entered. -/
def enter {α : Type} (kind : String) (space : Option String) (nameOf : α → Option String) :
    List α → List (QName × α) → List (QName × α) × List Notice
  | [], index => (index, [])
  | decl :: rest, index =>
      match Schema.given? (nameOf decl) with
      | none => enter kind space nameOf rest index
      | some text =>
          let name : QName := ⟨space, text⟩
          match index.lookup name with
          | none => enter kind space nameOf rest (index ++ [(name, decl)])
          | some _ =>
              let (entered, notices) := enter kind space nameOf rest index
              (entered, .duplicate kind name :: notices)

/-- A document without a target namespace takes the one handed down to it. -/
def effectiveSpace (document : Document) (inherited : Option String) : Option String :=
  (Schema.given? document.targetNamespace).or inherited

def add (document : Document) (inherited : Option String) (store : Store) :
    Store × List Notice :=
  let space := effectiveSpace document inherited
  let (types, typeNotices) := enter "type" space TypeDecl.name document.types store.types
  let (elements, elementNotices) :=
    enter "element" space ElementDecl.name document.elements store.elements
  ({ store with
      entries := store.entries ++ [⟨document, space⟩]
      types := types
      elements := elements },
    typeNotices ++ elementNotices)

def register (document : Document) (inherited : Option String) : Task Store Unit := do
  let store ← Task.current
  if (store.at? document.location).isSome then
    throw (.load .alreadyLoaded document.location)
  else
    Task.change fun _ => (store.add document inherited).1
    (store.add document inherited).2.forM Task.say

/-! ## Candidates -/

/-- What stands behind the last slash; a backslash is a slash here. -/
def fileName (schemaLocation : String) : String :=
  let text := Location.forwardSlashes schemaLocation.toList
  match Text.cutLast? '/' text with
  | none => String.ofList text
  | some (_, name) => String.ofList name

/-- Where a document may be: beside its referrer, then below each base, with its directories and
without them. -/
def candidates (directory : FilePath) (store : Store) (referrer schemaLocation : String) :
    Except Location.HostFault (List String) := do
  let beside ← Location.canonical directory schemaLocation (some referrer)
  let below ← store.bases.mapM fun base => do
    let whole ← Location.canonical directory schemaLocation (some base)
    let bare ← Location.canonical directory (fileName schemaLocation) (some base)
    return [whole, bare]
  return (beside :: below.flatten).eraseDups

/-! ## Loading -/

/-- A reference to be followed, and its place among the references of its document. -/
structure Pending where
  referrer : Document
  reference : Reference
  position : Nat

def pendingOf (document : Document) : List Pending :=
  document.references.zipIdx.map fun (reference, position) => ⟨document, reference, position⟩

def Pending.inherited (pending : Pending) : Option String :=
  match pending.reference.kind with
  | .imported => none
  | _ => pending.referrer.targetNamespace

def markReference (position : Nat) (target : String) (document : Document) : Document :=
  { document with
    references := document.references.modify position fun reference =>
      { reference with resolved := some target } }

/-- Marks the entry of the referrer; any other stays as it is. -/
def markEntry (pending : Pending) (target : String) (entry : Entry) : Entry :=
  if entry.location == pending.referrer.location then
    { entry with document := markReference pending.position target entry.document }
  else entry

def markResolved (pending : Pending) (target : String) (store : Store) : Store :=
  { store with entries := store.entries.map (markEntry pending target) }

def loadOne (source : Source) (location : String) (inherited : Option String) :
    Task Store Document := do
  let content ← Task.ask (source.fetch location)
  let home : Home := ⟨location, (← Task.current).edition⟩
  let document ← Task.outcome (Document.ofBytes home content)
  register document inherited
  Task.say (.loaded location)
  return document

/-- The first candidate that is stored already or can be had. The document is the answer only if
it is newly loaded. -/
def tryCandidates (source : Source) (pending : Pending) (schemaLocation : String) :
    List String → Task Store (Option Document)
  | [] => do
      Task.say (.unresolved pending.reference.kind.text schemaLocation pending.referrer.location)
      return none
  | candidate :: rest => do
      if ((← Task.current).at? candidate).isSome then
        Task.change (markResolved pending candidate)
        return none
      else if ← Task.ask (source.probe candidate) then
        let document ← loadOne source candidate pending.inherited
        Task.change (markResolved pending candidate)
        return some document
      else tryCandidates source pending schemaLocation rest

def resolve (source : Source) (pending : Pending) : Task Store (Option Document) := do
  let referrer := pending.referrer.location
  match Schema.given? pending.reference.schemaLocation with
  | none =>
      Task.say (.withoutLocation pending.reference.kind.text pending.reference.uri referrer)
      return none
  | some schemaLocation =>
      let store ← Task.current
      let found ←
        Task.outcome (orFail .host (store.candidates source.directory referrer schemaLocation))
      tryCandidates source pending schemaLocation found

/-- Follows references up to the first that brings in a document; that document, and the references
not followed yet. -/
def advance (source : Source) : List Pending → Task Store (Option (Document × List Pending))
  | [] => return none
  | pending :: rest => do
      match ← resolve source pending with
      | some document => return some (document, rest)
      | none => advance source rest

/-- Follows references until none is left. Those of a new document come before the others, so
that documents come in depth first. -/
def follow (source : Source) : Nat → List Pending → Task Store Unit
  | _, [] => return
  | 0, _ :: _ => throw .outOfPatience
  | patience + 1, work => do
      match ← advance source work with
      | none => return
      | some (document, rest) => follow source patience (pendingOf document ++ rest)

/-- Loads a document and everything it refers to; the answer is its canonical location. A document
that is stored already is left as it is. -/
def load (source : Source) (location : String) : Task Store String := do
  let key ← Task.outcome (orFail .host (Location.canonical source.directory location none))
  if ((← Task.current).at? key).isSome then return key
  else
    let document ← loadOne source key none
    follow source source.patience (pendingOf document)
    return key

end Store

end SchemaSharp
