import SchemaSharp.Location.Canonical
import SchemaSharp.Source

/-!
The files and web servers that a run can see, and the source they make.
-/

namespace SchemaSharp

/-- How a web server answers for one address: a status for a probe, a status for a fetch, and the
content. Status zero is no answer at all. -/
structure WebAnswer where
  probeStatus : Nat
  fetchStatus : Nat
  content : List UInt8
  deriving DecidableEq, Repr

def isSuccess (status : Nat) : Bool := 200 ≤ status && status < 300

/-- Files are known by the segments of their resolved paths, web documents by their addresses. -/
structure World where
  directory : FilePath
  files : List (List (List Char) × List UInt8)
  web : List (String × WebAnswer)

namespace World

def segmentsOf (world : World) (path : FilePath) : List (List Char) :=
  path.resolve world.directory

def content? (world : World) (path : FilePath) : Option (List UInt8) :=
  world.files.lookup (world.segmentsOf path)

def isFile (world : World) (path : FilePath) : Bool := (world.content? path).isSome

/-- A directory is there for the sake of some file below it. -/
def isDirectory (world : World) (path : FilePath) : Bool :=
  let segments := world.segmentsOf path
  world.files.any fun (file, _) => segments.isPrefixOf file && segments.length < file.length

def remove (world : World) (path : FilePath) : World :=
  let segments := world.segmentsOf path
  { world with files := world.files.filter fun (file, _) => file != segments }

def put (world : World) (path : FilePath) (content : List UInt8) : World :=
  let others := world.remove path
  { others with files := (world.segmentsOf path, content) :: others.files }

/-! ## Files -/

def probeFile (world : World) (location : String) : Answer Bool :=
  match Location.localPath location with
  | .error fault => ([], .error (.host fault))
  | .ok path => ([], .ok (world.isFile path))

def readFile (world : World) (location : String) : Except Failure (List UInt8) :=
  match Location.localPath location with
  | .error fault => .error (.host fault)
  | .ok path =>
      match world.content? path with
      | some content => .ok content
      | none =>
          if world.isDirectory path then .error (.fetch (.isDirectory path.toText) location)
          else .error (.fetch (.noSuchFile path.toText) location)

/-! ## Web documents -/

def probeWeb (world : World) (address : String) : Answer Bool :=
  match world.web.lookup address with
  | none => ([.probeFailed address], .ok false)
  | some answer =>
      if answer.probeStatus == 0 then ([.probeFailed address], .ok false)
      else ([], .ok (isSuccess answer.probeStatus))

def readWeb (world : World) (address : String) : Except Failure (List UInt8) :=
  match world.web.lookup address with
  | none => .error (.fetch .unreachable address)
  | some answer =>
      if answer.fetchStatus == 0 then .error (.fetch .unreachable address)
      else if isSuccess answer.fetchStatus then .ok answer.content
      else .error (.fetch (.status answer.fetchStatus) address)

/-! ## The source -/

def probe (world : World) (location : String) : Answer Bool :=
  match Location.isRemote location with
  | .error fault => ([], .error (.host fault))
  | .ok true => world.probeWeb location
  | .ok false => world.probeFile location

-- The refusal comes before anything is asked of a server, so that a fetch leaves no trace when
-- web documents are not allowed.
def fetch (allowRemote : Bool) (world : World) (location : String) : Answer (List UInt8) :=
  match Location.isRemote location with
  | .error fault => ([], .error (.host fault))
  | .ok true =>
      if allowRemote then ([.fetching location], world.readWeb location)
      else ([], .error (.unsupported .remoteLoading (some location)))
  | .ok false => ([.fetching location], world.readFile location)

/-- More than all the names that the documents within reach can refer to. -/
def patience (allowRemote : Bool) (world : World) : Nat :=
  let fileSize := world.files.foldl (fun size (_, content) => size + content.length) 0
  let webSize :=
    if allowRemote then world.web.foldl (fun size (_, answer) => size + answer.content.length) 0
    else 0
  1 <<< (64 + fileSize + webSize)

def source (allowRemote : Bool) (world : World) : Source :=
  ⟨world.directory, world.probe, world.fetch allowRemote, world.patience allowRemote⟩

end World

end SchemaSharp
