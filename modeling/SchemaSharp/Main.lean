import SchemaSharp.Command.LogLine
import SchemaSharp.Command.Reach

/-!
The program. It reads the files that the command line leads to, carries the command out, and writes
what came of it. Web servers are out of its reach.
-/

namespace SchemaSharp.Program

def usage : String := "usage: xsd-to-class [options] INPUT [INPUT ...]"

def absoluteText (world : World) (path : FilePath) : String :=
  String.ofList (FilePath.absolute (world.segmentsOf path))

def readIfThere (name : String) : IO (Option (List UInt8)) := do
  try
    let content ← IO.FS.readBinFile name
    return some content.toList
  catch _ => return none

def readNew (world : World) (path : FilePath) : IO World := do
  if world.isFile path then return world
  match ← readIfThere (absoluteText world path) with
  | none => return world
  | some content => return world.put path content

/-- Adds files until the command asks for no more. -/
partial def gather (words : List String) (world : World) : IO World := do
  let wider ← (Command.reach world words).foldlM readNew world
  if wider.files.length == world.files.length then return world
  gather words wider

def writeFile (path text : String) : IO Unit := do
  let target := FilePath.ofString path
  IO.FS.createDirAll (FilePath.toText ⟨target.root, target.segments.dropLast⟩)
  IO.FS.writeFile path text

def report (execution : Command.Execution) : IO UInt32 := do
  execution.journal.forM fun notice =>
    IO.eprintln (Command.logLine execution.structuredLog notice)
  execution.files.forM fun (path, text) => writeFile path text
  execution.saved.forM fun path => IO.println ("Saved " ++ path)
  match execution.status with
  | .ok status => return status.toUInt32
  | .error failure =>
      IO.eprintln failure.message
      return 1

end SchemaSharp.Program

def main (words : List String) : IO UInt32 := do
  match SchemaSharp.Command.read words with
  | .error .helpWanted =>
      IO.println SchemaSharp.Program.usage
      return 0
  | .error .wrongUsage =>
      IO.eprintln SchemaSharp.Program.usage
      return 2
  | .ok _ =>
      let directory := SchemaSharp.FilePath.ofString (← IO.currentDir).toString
      let world ← SchemaSharp.Program.gather words ⟨directory, [], []⟩
      SchemaSharp.Program.report (SchemaSharp.Command.execute world words)
