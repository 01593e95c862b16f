import SchemaSharp.Failure

/-!
What a run reports while it goes on: who says it, how loud, and in which words.
-/

namespace SchemaSharp

open Schema (QName)

inductive Loudness where
  | debug
  | info
  | warning
  | error
  deriving DecidableEq, Repr

def Loudness.rank : Loudness → Nat
  | .debug => 10
  | .info => 20
  | .warning => 30
  | .error => 40

def Loudness.text : Loudness → String
  | .debug => "DEBUG"
  | .info => "INFO"
  | .warning => "WARNING"
  | .error => "ERROR"

inductive Speaker where
  | loader
  | store
  | writer
  | conversion
  | command
  deriving DecidableEq, Repr

/-- The name under which a speaker appears in the log. -/
def Speaker.text : Speaker → String
  | .loader => "xsd_to_class.loader"
  | .store => "xsd_to_class.store"
  | .writer => "xsd_to_class.formatter"
  | .conversion => "xsd_to_class.engine"
  | .command => "xsd_to_class.cli"

inductive Notice where
  | fetching (location : String)
  | probeFailed (location : String)
  | loaded (location : String)
  | withoutLocation (kind : String) (uri : Option String) (location : String)
  | unresolved (kind schemaLocation location : String)
  | duplicate (kind : String) (name : QName)
  | enqueued (location : String)
  | writing (path : String)
  | translating (location : String)
  | elementOfType (element : Option String) (type : QName)
  | alreadyTranslated (display : String)
  | classWritten (name : String) (members : Nat)
  | scheduled (location : String) (declaration : Option String)
  | finished (documents files : Nat)
  | declaredTwice (name : String) (space : Option String)
  | settingsRefused (reason : String)
  | conversionFailed (reason : String)
  deriving DecidableEq, Repr

namespace Notice

def loudness : Notice → Loudness
  | .fetching _ => .debug
  | .probeFailed _ => .debug
  | .loaded _ => .info
  | .withoutLocation _ _ _ => .debug
  | .unresolved _ _ _ => .warning
  | .duplicate _ _ => .warning
  | .enqueued _ => .debug
  | .writing _ => .info
  | .translating _ => .info
  | .elementOfType _ _ => .debug
  | .alreadyTranslated _ => .debug
  | .classWritten _ _ => .debug
  | .scheduled _ _ => .info
  | .finished _ _ => .info
  | .declaredTwice _ _ => .warning
  | .settingsRefused _ => .error
  | .conversionFailed _ => .error

def speaker : Notice → Speaker
  | .fetching _ => .loader
  | .probeFailed _ => .loader
  | .loaded _ => .store
  | .withoutLocation _ _ _ => .store
  | .unresolved _ _ _ => .store
  | .duplicate _ _ => .store
  | .declaredTwice _ _ => .writer
  | .settingsRefused _ => .command
  | .conversionFailed _ => .command
  | _ => .conversion

def text : Notice → String
  | .fetching location => "Resolving " ++ location
  | .probeFailed location => "HEAD " ++ location ++ " failed: unreachable"
  | .loaded location => "Loaded schema " ++ location
  | .withoutLocation kind uri location =>
      kind ++ " of namespace " ++ shownName uri ++ " in " ++ location ++ " has no schemaLocation"
  | .unresolved kind schemaLocation location =>
      "Unresolved " ++ kind ++ " '" ++ schemaLocation ++ "' in " ++ location
  | .duplicate kind name =>
      "Duplicate " ++ kind ++ " " ++ name.text ++ "; keeping the first declaration"
  | .enqueued location => "Enqueued " ++ location
  | .writing path => "Writing " ++ path
  | .translating location => "Translating " ++ location
  | .elementOfType element type => "Element " ++ shownName element ++ " uses type " ++ type.text
  | .alreadyTranslated display => "Type " ++ display ++ " already translated"
  | .classWritten name members =>
      "Class " ++ name ++ " (" ++ toString members ++ " members)"
  | .scheduled location declaration =>
      "Scheduled " ++ location ++ " (declares " ++ shownName declaration ++ ")"
  | .finished documents files =>
      "Translated " ++ toString documents ++ " schema documents into " ++ toString files ++ " files"
  | .declaredTwice name space =>
      "Class " ++ name ++ " is declared twice in namespace " ++ shownName space
  | .settingsRefused reason => reason
  | .conversionFailed reason => "Conversion failed: " ++ reason

end Notice

/-! ## Tasks

A task changes a state, adds to the journal, and may fail; what it did before it failed stays.
-/

structure Logged (σ : Type) where
  state : σ
  journal : List Notice

abbrev Task (σ : Type) := ExceptT Failure (StateM (Logged σ))

namespace Task

variable {σ τ α : Type}

def say (notice : Notice) : Task σ Unit :=
  modify fun logged => { logged with journal := logged.journal ++ [notice] }

def current : Task σ σ := return (← get).state

def change (update : σ → σ) : Task σ Unit :=
  modify fun logged => { logged with state := update logged.state }

/-- The outcome of a pure computation. -/
def outcome (result : Except Failure α) : Task σ α :=
  match result with
  | .ok value => pure value
  | .error failure => throw failure

/-- A task on a part of the state, with the same journal. -/
def within (part : σ → τ) (replace : σ → τ → σ) (task : Task τ α) : Task σ α :=
  fun logged =>
    let (result, after) := task.run ⟨part logged.state, logged.journal⟩
    (result, ⟨replace logged.state after.state, after.journal⟩)

/-- A task and a second one that is done whatever becomes of the first, whose outcome stands. -/
def concludedBy (task : Task σ α) (last : Task σ Unit) : Task σ α :=
  fun logged =>
    let (result, after) := task.run logged
    (result, (last.run after).2)

def perform (task : Task σ α) (state : σ) : Except Failure α × Logged σ :=
  task.run ⟨state, []⟩

end Task

end SchemaSharp
