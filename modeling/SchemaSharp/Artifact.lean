import SchemaSharp.Location.FilePath
import SchemaSharp.Text.Utf8
import SchemaSharp.Writer

/-!
Artifacts: source files being written, the names they get, and what is on file in the end.
-/

namespace SchemaSharp

/-- `calls` are the operations that made the writer what it is, in order. -/
structure Artifact where
  path : String
  options : EmitOptions
  calls : List Writer.Call
  writer : Writer
  writer_eq : writer = (Writer.start options "\t").afterCalls calls

namespace Artifact

def start (path : String) (options : EmitOptions) : Artifact :=
  ⟨path, options, [], Writer.start options "\t", rfl⟩

/-- A failed call counts as made. -/
def perform (call : Writer.Call) (artifact : Artifact) : Except WriterFault Unit × Artifact :=
  let outcome := artifact.writer.perform call
  (outcome.1,
    { artifact with
      calls := artifact.calls ++ [call]
      writer := outcome.2
      writer_eq := by simp [outcome, Writer.afterCalls, artifact.writer_eq] })

/-- The name of the `count`-th artifact of one stem; the first has no number. -/
def numbered (directory : FilePath) (stem : String) (count : Nat) : String :=
  let name := if count ≤ 1 then stem else stem ++ "_" ++ toString count
  (directory.child (name ++ ".cs")).toText

/-- The first name of a stem that is not taken. One more name than there are taken ones is enough
to find it. -/
def freshPath (directory : FilePath) (stem : String) (taken : List String) : String :=
  let names := (List.range (taken.length + 1)).map fun index => numbered directory stem (index + 1)
  (names.find? fun name => !taken.contains name).getD (numbered directory stem 1)

def finished (artifact : Artifact) : Artifact := (artifact.perform .finish).2

end Artifact

/-! ## Files -/

/-- What is on file, by path. -/
abbrev Files := List (String × String)

namespace Files

def write (path text : String) (files : Files) : Files :=
  if (files.lookup path).isSome then
    files.map fun (known, old) => if known == path then (known, text) else (known, old)
  else files ++ [(path, text)]

/-- Opening a file for writing empties it. -/
def create (path : String) (files : Files) : Files := files.write path ""

/-- A text laid over what is on file, which matters only to a file that was open twice at a time:
of a longer text the end stays. -/
def lay (path text : String) (files : Files) : Files :=
  let written := Text.Utf8.encode text.toList
  let rest := (Text.Utf8.encode ((files.lookup path).getD "").toList).drop written.length
  files.write path (text ++ String.ofList (Text.Utf8.decodeLossy rest))

end Files

end SchemaSharp
