import SchemaSharp.Command.Execution

/-!
The files that carrying out a command line may ask for. Starting without any and adding those that
exist, again and again, one comes to a world in which the execution is the same as among all files.
-/

namespace SchemaSharp.Command

def located {α : Type} (outcome : Except Location.HostFault (List α)) : List α :=
  match outcome with
  | .ok found => found
  | .error _ => []

/-- The candidates for all references of the documents that a store holds. -/
def storeReach (directory : FilePath) (store : Store) : List String :=
  store.entries.flatMap fun entry =>
    entry.document.references.flatMap fun reference =>
      match Schema.given? reference.schemaLocation with
      | none => []
      | some text => located (store.candidates directory entry.location text)

def inputReach (directory : FilePath) (inputs : List String) : List String :=
  inputs.flatMap fun location =>
    located ((Location.canonical directory location none).map fun key => [key])

/-- The locations that a run asks for, as far as they follow from what it has loaded. -/
def runReach (world : World) (request : Request) : List String :=
  let job : Job := ⟨request.settings, world.source request.settings.allowRemote⟩
  let inputs := inputReach world.directory request.settings.inputs
  match Conversion.start job with
  | .error _ => inputs
  | .ok conversion =>
      let (_, after) := (Conversion.run job).perform conversion
      inputs ++ storeReach world.directory after.state.store

/-- The paths of local files among them. -/
def reach (world : World) (words : List String) : List FilePath :=
  match read words with
  | .error _ => []
  | .ok request =>
      (runReach world request).flatMap fun location =>
        match Location.isRemote location, Location.localPath location with
        | .ok false, .ok path => [path]
        | _, _ => []

end SchemaSharp.Command
