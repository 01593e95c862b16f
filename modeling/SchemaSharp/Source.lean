import SchemaSharp.Location.FilePath
import SchemaSharp.Notice

/-!
Where documents come from. A source answers two questions about a location, whether a document can
be had and what it holds, and its answers do not change during a run.
-/

namespace SchemaSharp

/-- An answer and what was reported on the way to it. -/
abbrev Answer (α : Type) := List Notice × Except Failure α

/-- Relative paths are taken from `directory`. `patience` bounds the documents that one load may
bring in, so that a load ends on every source. -/
structure Source where
  directory : FilePath
  probe : String → Answer Bool
  fetch : String → Answer (List UInt8)
  patience : Nat

/-- A question to a source, as part of a task. -/
def Task.ask {σ α : Type} (answer : Answer α) : Task σ α := do
  answer.1.forM Task.say
  Task.outcome answer.2

end SchemaSharp
