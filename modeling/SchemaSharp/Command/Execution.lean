import SchemaSharp.Command.Usage
import SchemaSharp.Conversion.Run
import SchemaSharp.World

/-!
Carrying out a command line: the conversion it asks for, the status it ends with, and what it says
on the way.
-/

namespace SchemaSharp.Command

/-- `status` is the exit status, unless a failure escaped that no command reports. `saved` lists
the artifacts of a run that succeeded. -/
structure Execution where
  status : Except Failure Nat
  saved : List String
  journal : List Notice
  structuredLog : Bool
  files : Files

/-- Without a conversion nothing is saved and nothing said. -/
def Execution.idle (status : Nat) : Execution := ⟨.ok status, [], [], false, []⟩

/-- A failure of the settings belongs to the command line; one that a pattern has in itself
escapes. -/
def refuseSettings (request : Request) (failure : Failure) : Execution :=
  match failure with
  | .settings fault =>
      ⟨.ok 2, [], [.settingsRefused fault.message], request.structuredLog, []⟩
  | _ => ⟨.error failure, [], [], request.structuredLog, []⟩

def concludeRun (request : Request) (result : Except Failure (List String))
    (after : Logged Conversion) : Execution :=
  let files := after.state.files
  match result with
  | .ok saved => ⟨.ok 0, saved, after.journal, request.structuredLog, files⟩
  | .error failure =>
      if failure.isReported then
        ⟨.ok 1, [], after.journal ++ [.conversionFailed failure.message], request.structuredLog, files⟩
      else ⟨.error failure, [], after.journal, request.structuredLog, files⟩

def convert (world : World) (request : Request) : Execution :=
  let job : Job := ⟨request.settings, world.source request.settings.allowRemote⟩
  match Conversion.start job with
  | .error failure => ⟨.error failure, [], [], request.structuredLog, []⟩
  | .ok conversion =>
      let (result, after) := (Conversion.run job).perform conversion
      concludeRun request result after

/-- The notices that are shown: all of them, or those that say what was done. -/
def heard (verbose : Bool) (journal : List Notice) : List Notice :=
  let threshold := if verbose then Loudness.debug else Loudness.info
  journal.filter fun notice => threshold.rank ≤ notice.loudness.rank

def execute (world : World) (words : List String) : Execution :=
  match read words with
  | .error .helpWanted => Execution.idle 0
  | .error .wrongUsage => Execution.idle 2
  | .ok request =>
      let execution :=
        match request.settings.check with
        | .error failure => refuseSettings request failure
        | .ok _ => convert world request
      { execution with journal := heard request.verbose execution.journal }

end SchemaSharp.Command
