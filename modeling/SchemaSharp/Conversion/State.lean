import SchemaSharp.Artifact
import SchemaSharp.Settings
import SchemaSharp.Store

/-!
The state of a conversion: what has been loaded, which documents are waiting and which were met,
which types have their class, and the artifacts being written. Scheduling a document and writing
to the open artifact are the two ways in which translating one thing affects what comes later.
-/

namespace SchemaSharp

open Schema (ComplexType Home)

/-- What stays the same during a conversion. -/
structure Job where
  settings : Settings
  source : Source

/-- Documents go by their canonical locations. `anonymous` holds the types without a name that are
waiting for their class, with its identifier. Of the artifacts on the desk the first was opened
last; nothing can be written while the desk is detached. -/
structure Conversion where
  store : Store
  queue : List String
  processed : List String
  dequeued : List String
  written : List String
  translated : List ComplexType.Identity
  anonymous : List (ComplexType × String)
  desk : List Artifact
  attached : Bool
  closed : List Artifact
  files : Files
  started : Bool

namespace Conversion

def start (job : Job) : Except Failure Conversion :=
  match Store.start job.source.directory 0 job.settings.searchPaths with
  | .error fault => .error (.host fault)
  | .ok store => .ok ⟨store, [], [], [], [], [], [], [], false, [], [], false⟩

abbrev Work := Task Conversion

def inStore {α : Type} (task : Task Store α) : Work α :=
  Task.within (·.store) (fun conversion store => { conversion with store := store }) task

/-! ## The queue -/

def enqueue (location : String) (conversion : Conversion) : Conversion :=
  { conversion with
    processed := conversion.processed ++ [location]
    queue := conversion.queue ++ [location] }

/-- Puts a document into the queue, once and for all; the answer says whether it was new. -/
def schedule (location : String) : Work Bool := do
  if (← Task.current).processed.contains location then return false
  Task.change (enqueue location)
  Task.say (.enqueued location)
  return true

/-- Schedules the document of a declaration that is used. -/
def scheduleOwner (home : Home) (declaration : Option String) : Work Unit := do
  match (← Task.current).store.owner? home with
  | none => return
  | some owner =>
      if ← schedule owner.location then Task.say (.scheduled owner.location declaration)

/-! ## Artifacts -/

/-- The artifact that is written to. -/
def current? (conversion : Conversion) : Option Artifact :=
  if conversion.attached then conversion.desk.head? else none

def openArtifact? : Work Artifact := do
  match (← Task.current).current? with
  | none => throw .noArtifact
  | some artifact => return artifact

def replaceCurrent (artifact : Artifact) (conversion : Conversion) : Conversion :=
  { conversion with desk := artifact :: conversion.desk.tail }

/-- An operation of the writer on the open artifact. -/
def write (call : Writer.Call) : Work Unit := do
  let artifact ← openArtifact?
  let (result, after) := artifact.perform call
  Task.change (replaceCurrent after)
  match result with
  | .ok _ => return
  | .error fault => throw (.writer fault)

def place (job : Job) (path : String) (conversion : Conversion) : Conversion :=
  { conversion with
    written := conversion.written ++ [path]
    desk := .start path job.settings.emitOptions :: conversion.desk
    attached := true
    files := conversion.files.create path }

/-- Begins an artifact: its directives and the line that opens its namespace. -/
def openArtifact (job : Job) (path : String) : Work Unit := do
  Task.say (.writing path)
  Task.change (place job path)
  write (.declareReference "System")
  (Writer.optionSpaces job.settings.emitOptions).forM fun space => write (.declareReference space)
  write (.openNamespace job.settings.targetNamespace)

/-- Ends the artifact opened last. -/
def shelve (conversion : Conversion) : Conversion :=
  match conversion.desk with
  | [] => conversion
  | artifact :: others =>
      let artifact := artifact.finished
      { conversion with
        desk := others
        attached := false
        closed := conversion.closed ++ [artifact]
        files := conversion.files.lay artifact.path artifact.writer.text }

/-- Ends the artifacts opened last, as many as are given. -/
def shelveMany : Nat → Conversion → Conversion
  | 0, conversion => conversion
  | count + 1, conversion => shelveMany count conversion.shelve

def shelveAll (conversion : Conversion) : Conversion :=
  shelveMany conversion.desk.length conversion

def closeArtifact : Work Unit := Task.change shelve

/-- An artifact ends whatever becomes of the work on it. -/
def withArtifact (job : Job) (path : String) (work : Work Unit) : Work Unit :=
  Task.concludedBy (openArtifact job path *> work) closeArtifact

end Conversion

end SchemaSharp
