import SchemaSharp.Location.FilePath
import SchemaSharp.Location.Percent
import SchemaSharp.Location.Reference

/-!
Locations of documents: a local path, a `file:` location or a web address. Each has one canonical
form, by which documents are told apart.
-/

namespace SchemaSharp.Location

open Text

def schemeOf (location : String) : Except HostFault (List Char) :=
  (Reference.read location.toList []).map (·.scheme)

def isRemote (location : String) : Except HostFault Bool :=
  (schemeOf location).map fun scheme => scheme == "http".toList || scheme == "https".toList

/-- One letter before a colon is a drive, not a scheme. -/
def hasScheme (location : String) : Except HostFault Bool :=
  (schemeOf location).map fun scheme => 1 < scheme.length

def isFileLocation (location : String) : Bool :=
  (dropHead location.toList "file:".toList).isSome

/-- The path a `file:` location names. Its escapes are undone twice. -/
def namedPath (location : String) : Except HostFault FilePath :=
  (Reference.read location.toList []).map fun reference =>
    FilePath.ofChars (unescape (unescape reference.path))

def localPath (location : String) : Except HostFault FilePath :=
  if isFileLocation location then namedPath location else .ok (.ofString location)

/-- The `file:` location of a path taken from `directory`. -/
def fileLocation (directory path : FilePath) : String :=
  String.ofList ("file://".toList ++ escape (FilePath.absolute (path.resolve directory)))

def withoutFragment (location : String) : Except HostFault String :=
  (Reference.read location.toList []).map fun reference =>
    String.ofList { reference with fragment := [] }.text

def forwardSlashes (text : List Char) : List Char :=
  text.map fun c => if c == '\\' then '/' else c

/-- A relative reference, seen from its base; anything else unchanged. -/
def relativeTo (base : Option String) (location : String) : Except HostFault String :=
  match base with
  | none => .ok location
  | some base => do
      if (← hasScheme location) || (FilePath.ofString location).isAbsolute then return location
      let resolved ← resolveReference base.toList (forwardSlashes location.toList)
      return String.ofList resolved

def canonical (directory : FilePath) (location : String) (base : Option String) :
    Except HostFault String := do
  let located ← relativeTo base location
  if ← isRemote located then withoutFragment located
  else
    let path ← localPath located
    return fileLocation directory path

/-- The stem of the file a location names, by which artifacts are named. -/
def stem (location : String) : Except HostFault String := do
  let reference ← Reference.read location.toList []
  let path := unescape reference.path
  let path := if path.isEmpty then location.toList else path
  let stem := (FilePath.ofChars path).stem
  return if stem.isEmpty then "schema" else String.ofList stem

end SchemaSharp.Location
