import SchemaSharp.Text.Pieces

/-!
Paths of files, as text cut at slashes. Empty and single-dot segments mean nothing; double dots
are kept until a path is resolved.
-/

namespace SchemaSharp

open Text

/-- The root is empty for a relative path, one slash, or two slashes exactly as written. -/
structure FilePath where
  root : List Char
  segments : List (List Char)
  deriving DecidableEq, Repr

namespace FilePath

def meaningful (segment : List Char) : Bool := !segment.isEmpty && segment != ['.']

def rootOf : List Char → List Char
  | '/' :: '/' :: '/' :: _ => ['/']
  | '/' :: '/' :: _ => ['/', '/']
  | '/' :: _ => ['/']
  | _ => []

def ofChars (text : List Char) : FilePath :=
  ⟨rootOf text, (splitOn '/' text).filter meaningful⟩

def ofString (text : String) : FilePath := ofChars text.toList

def isAbsolute (path : FilePath) : Bool := !path.root.isEmpty

def toChars (path : FilePath) : List Char :=
  match path.root, path.segments with
  | [], [] => ['.']
  | root, segments => root ++ joinWith ['/'] segments

def toText (path : FilePath) : String := String.ofList path.toChars

/-- The file `name` inside the directory `path`. -/
def child (path : FilePath) (name : String) : FilePath :=
  let inner := ofString name
  if inner.isAbsolute then inner else ⟨path.root, path.segments ++ inner.segments⟩

-- Segments are pushed on a stack; double dots pop it and stop at the root.
def climb : List (List Char) → List (List Char) → List (List Char)
  | stack, [] => stack.reverse
  | stack, segment :: rest =>
      if segment == ['.', '.'] then climb stack.tail rest else climb (segment :: stack) rest

/-- The segments below the root, taken from `directory` unless the path is absolute. -/
def resolve (path directory : FilePath) : List (List Char) :=
  climb [] (if path.isAbsolute then path.segments else directory.segments ++ path.segments)

/-- An absolute path from its resolved segments. -/
def absolute (segments : List (List Char)) : List Char := '/' :: joinWith ['/'] segments

def lastSegment (path : FilePath) : List Char := path.segments.getLast?.getD []

/-- The last segment without its extension. A dot at either end begins no extension. -/
def stem (path : FilePath) : List Char :=
  let name := path.lastSegment
  match cutLast? '.' name with
  | none => name
  | some (before, after) => if before.isEmpty || after.isEmpty then name else before

end FilePath

end SchemaSharp
