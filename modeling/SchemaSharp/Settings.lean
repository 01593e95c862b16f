import SchemaSharp.Failure

/-!
The settings of one conversion.
-/

namespace SchemaSharp

/-- `timeout` is the number of seconds to wait for a web server, as it was given. -/
structure Settings where
  inputs : List String
  searchPaths : List String := []
  cleanNames : Bool := true
  singleFile : Bool := false
  targetNamespace : String := "Unknown"
  renamingPattern : String := "\x7b0\x7dData"
  dependencyProperties : Bool := false
  notifyProperties : Bool := false
  dataContracts : Bool := false
  outputDirectory : String := "."
  allowRemote : Bool := false
  timeout : String := "30"
  deriving DecidableEq, Repr

namespace Settings

def emitOptions (settings : Settings) : EmitOptions :=
  ⟨settings.dataContracts, settings.notifyProperties, settings.dependencyProperties⟩

/-- There have to be inputs, a namespace, and a pattern that renames. -/
def check (settings : Settings) : Except Failure Unit :=
  if settings.inputs.isEmpty then .error (.settings .noInputs)
  else if settings.targetNamespace.isEmpty then .error (.settings .noNamespace)
  else
    match Identifier.checkPattern settings.renamingPattern with
    | .ok _ => .ok ()
    | .error (.name fault) => .error (.settings (.pattern fault))
    | .error (.pattern fault) => .error (.pattern fault)

end Settings

end SchemaSharp
