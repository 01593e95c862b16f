import SchemaSharp.Location.Host

/-!
References: scheme, host, path, parameters, query and fragment of a location, taken apart, put
together, and resolved against a base.
-/

namespace SchemaSharp.Location

open Text

structure Reference where
  scheme : List Char
  host : List Char
  path : List Char
  parameters : List Char
  query : List Char
  fragment : List Char
  deriving DecidableEq, Repr

def schemesResolved : List String := [
  "", "ftp", "http", "gopher", "nntp", "imap", "wais", "file", "https", "shttp", "mms",
  "prospero", "rtsp", "rtsps", "rtspu", "sftp", "svn", "svn+ssh", "ws", "wss"]

def schemesWithHost : List String := [
  "", "ftp", "http", "gopher", "nntp", "telnet", "imap", "wais", "file", "mms", "https", "shttp",
  "snews", "prospero", "rtsp", "rtsps", "rtspu", "rsync", "svn", "svn+ssh", "sftp", "nfs", "git",
  "git+ssh", "ws", "wss"]

def schemesWithParameters : List String := [
  "", "ftp", "hdl", "prospero", "http", "imap", "https", "shttp", "rtsp", "rtsps", "rtspu", "sip",
  "sips", "mms", "sftp", "tel"]

def listed (schemes : List String) (scheme : List Char) : Bool :=
  schemes.any fun known => known.toList == scheme

def isSchemeChar (c : Char) : Bool :=
  c.isAlphanum || c == '+' || c == '-' || c == '.'

/-- The scheme in lower case and what follows its colon, if the text begins with one. -/
def takeScheme (text : List Char) : Option (List Char × List Char) :=
  match cutFirst ':' text with
  | (scheme@(first :: _), some rest) =>
      if first.isAlpha && scheme.all isSchemeChar then some (scheme.map Char.toLower, rest) else none
  | _ => none

/-- Leading controls and blanks are dropped, tabs and line ends anywhere. -/
def tidy (text : List Char) : List Char :=
  (text.dropWhile fun c => c.toNat ≤ 0x20).filter fun c => c != '\t' && c != '\r' && c != '\n'

def endsHost (c : Char) : Bool := c == '/' || c == '?' || c == '#'

/-- Parameters are looked for in the last segment only. -/
def cutParameters (path : List Char) : List Char × List Char :=
  match cutLast? '/' path with
  | none =>
      let (before, after) := cutFirst ';' path
      (before, after.getD [])
  | some (directory, last) =>
      let (before, after) := cutFirst ';' last
      (directory ++ '/' :: before, after.getD [])

def Reference.read (text : List Char) (defaultScheme : List Char) : Except HostFault Reference := do
  let tidied := tidy text
  let (scheme, afterScheme) := (takeScheme tidied).getD (defaultScheme, tidied)
  let (host, afterHost) :=
    match afterScheme with
    | '/' :: '/' :: rest => (rest.takeWhile fun c => !endsHost c, rest.dropWhile fun c => !endsHost c)
    | rest => ([], rest)
  checkBrackets host
  let (beforeFragment, fragment) := cutFirst '#' afterHost
  let (path, query) := cutFirst '?' beforeFragment
  checkFolding host
  let (path, parameters) :=
    if listed schemesWithParameters scheme then cutParameters path else (path, [])
  return ⟨scheme, host, path, parameters, query.getD [], fragment.getD []⟩

def unlessEmpty (mark : Char) (part : List Char) : List Char :=
  if part.isEmpty then [] else mark :: part

def Reference.text (reference : Reference) : List Char :=
  let path := reference.path ++ unlessEmpty ';' reference.parameters
  let hosted :=
    !reference.host.isEmpty
      || (!reference.scheme.isEmpty && listed schemesWithHost reference.scheme)
      || path.take 2 == ['/', '/']
  let rooted := if path.isEmpty || path.head? == some '/' then path else '/' :: path
  let located := if hosted then '/' :: '/' :: reference.host ++ rooted else path
  let schemed := if reference.scheme.isEmpty then located else reference.scheme ++ ':' :: located
  schemed ++ unlessEmpty '?' reference.query ++ unlessEmpty '#' reference.fragment

/-! ## Resolution against a base -/

def isDotted (segment : List Char) : Bool := segment == ['.'] || segment == ['.', '.']

-- The stack holds the segments so far, the last one first.
def walk : List (List Char) → List (List Char) → List (List Char)
  | stack, [] => stack.reverse
  | stack, segment :: rest =>
      if segment == ['.', '.'] then walk stack.tail rest
      else if segment == ['.'] then walk stack rest
      else walk (segment :: stack) rest

/-- A list without its empty members, the first and the last one apart. -/
def dropInnerEmpty : List (List Char) → List (List Char)
  | [] => []
  | [only] => [only]
  | first :: second :: rest =>
      first :: ((second :: rest).dropLast.filter fun segment => !segment.isEmpty)
        ++ ((second :: rest).getLast?).toList

def baseSegments (path : List Char) : List (List Char) :=
  let segments := splitOn '/' path
  if (segments.getLast?.getD []).isEmpty then segments else segments.dropLast

def mergePaths (base path : List Char) : List Char :=
  let segments :=
    if path.head? == some '/' then splitOn '/' path
    else dropInnerEmpty (baseSegments base ++ splitOn '/' path)
  let walked := walk [] segments
  let closed := if isDotted (segments.getLast?.getD []) then walked ++ [[]] else walked
  let merged := joinWith ['/'] closed
  if merged.isEmpty then ['/'] else merged

/-- `text` as seen from `base`. -/
def resolveReference (base text : List Char) : Except HostFault (List Char) :=
  if base.isEmpty then .ok text
  else if text.isEmpty then .ok base
  else do
    let origin ← Reference.read base []
    let target ← Reference.read text origin.scheme
    if target.scheme != origin.scheme || !listed schemesResolved target.scheme then return text
    let withHost := listed schemesWithHost target.scheme
    if withHost && !target.host.isEmpty then return target.text
    let host := if withHost then origin.host else target.host
    if target.path.isEmpty && target.parameters.isEmpty then
      let query := if target.query.isEmpty then origin.query else target.query
      return Reference.text
        { target with host := host, path := origin.path, parameters := origin.parameters, query := query }
    return Reference.text { target with host := host, path := mergePaths origin.path target.path }

end SchemaSharp.Location
