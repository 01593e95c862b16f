import SchemaSharp.Conversion.Class
import SchemaSharp.Location.Canonical

/-!
Conversions from start to end: the inputs are loaded and queued, and documents are translated in
the order of their discovery until none is waiting.
-/

namespace SchemaSharp.Conversion

open Schema (ComplexType ElementDecl SimpleType TypeDecl Document)

/-! ## Documents -/

/-- A top-level element with a type of its own becomes a class; one that names a complex type
leaves the class to that type. -/
def translateElement (job : Job) (element : ElementDecl) : Work Unit := do
  let place := "element " ++ element.display ++ " in " ++ element.home.location
  match element.inlineType, element.typeRef with
  | some (.complex type), _ => translateComplexType job type element.name none
  | some (.simple _), _ => throw (.unsupported .elementWithoutComplexContent (some place))
  | none, none => throw (.unsupported .elementWithoutComplexContent (some place))
  | none, some name =>
      if name.isBuiltin then throw (.unsupported (.elementOfBuiltin name.name) (some place))
      else
        match ← resolveType name element.home with
        | .simple _ => throw (.unsupported .elementOfSimpleType (some place))
        | .complex decl =>
            Task.say (.elementOfType element.name name)
            scheduleOwner decl.home decl.name

/-- A simple type has no class. -/
def translateSimpleType (type : SimpleType) : Work Unit :=
  throw (.unsupported (.simpleTypeDeclaration type.name) (some type.home.location))

def translateType (job : Job) : TypeDecl → Work Unit
  | .simple type => translateSimpleType type
  | .complex type => translateComplexType job type none none

def translateDocument (job : Job) (document : Document) : Work Unit := do
  Task.say (.translating document.location)
  document.elements.forM fun element => do
    translateElement job element
    flushAnonymous job
  document.types.forM fun type => do
    translateType job type
    flushAnonymous job

/-! ## The queue -/

def artifactPath (job : Job) (location : String) : Work String := do
  let stem ← Task.outcome (orFail .host (Location.stem location))
  let taken := (← Task.current).written
  return Artifact.freshPath (FilePath.ofString job.settings.outputDirectory) stem taken

def translateStored (job : Job) (location : String) : Work Unit := do
  match (← Task.current).store.at? location with
  | none => return
  | some entry => translateDocument job entry.document

def translateQueued (job : Job) (location : String) : Work Unit :=
  if job.settings.singleFile then translateStored job location
  else do
    let path ← artifactPath job location
    withArtifact job path (translateStored job location)

def dequeue : Work (Option String) := do
  match (← Task.current).queue with
  | [] => return none
  | location :: rest =>
      Task.change fun conversion =>
        { conversion with queue := rest, dequeued := conversion.dequeued ++ [location] }
      return some location

def drainWithin (job : Job) : Nat → Work Unit
  | 0 => return
  | budget + 1 => do
      match ← dequeue with
      | none => return
      | some location =>
          translateQueued job location
          drainWithin job budget

/-- Translates until no document is waiting. Nothing is loaded meanwhile, so the documents of the
store and the queue bound what there is to do. -/
def drain (job : Job) : Work Unit := do
  let conversion ← Task.current
  drainWithin job (conversion.queue.length + conversion.store.entries.length)

/-! ## The run -/

/-- Every input has to be within reach before any is loaded. -/
def probeInput (job : Job) (location : String) : Work Unit := do
  let key ←
    Task.outcome (orFail .host (Location.canonical job.source.directory location none))
  if ← Task.ask (job.source.probe key) then return
  else throw (.load .inputMissing location)

def seedAll (job : Job) : List String → Work (List String)
  | [] => return []
  | location :: rest => do
      let key ← inStore (Store.load job.source location)
      let isNew ← schedule key
      let others ← seedAll job rest
      return if isNew then key :: others else others

/-- Loads the inputs and puts them into the queue; the answer lists those that were new. -/
def seed (job : Job) : Work (List String) := do
  job.settings.inputs.forM (probeInput job)
  seedAll job job.settings.inputs

/-- The one artifact of a run is named for all its seeds. -/
def sharedPath (job : Job) (seeds : List String) : Except Location.HostFault String := do
  let stems ← seeds.mapM Location.stem
  let name := "_".intercalate stems.eraseDups ++ ".cs"
  return ((FilePath.ofString job.settings.outputDirectory).child name).toText

def begin : Work Unit := do
  if (← Task.current).started then throw .alreadyStarted
  else Task.change fun conversion => { conversion with started := true }

/-- Translates what the seeds lead to, into one artifact or into one for each document. -/
def translateFrom (job : Job) (seeds : List String) : Work Unit :=
  if job.settings.singleFile then do
    let path ← Task.outcome (orFail .host (sharedPath job seeds))
    withArtifact job path (drain job)
  else drain job

/-- The whole conversion; the answer lists the artifacts. It can be done once only. -/
def run (job : Job) : Work (List String) := do
  begin
  translateFrom job (← seed job)
  let conversion ← Task.current
  Task.say (.finished conversion.dequeued.length conversion.written.length)
  return conversion.written

end SchemaSharp.Conversion
