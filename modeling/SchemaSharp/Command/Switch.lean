import SchemaSharp.Text.Numeral
import SchemaSharp.Text.Pieces

/-!
The words of a command line. A word is an operand, a mark after which every word is an operand, or
a switch, which may be shortened as long as it cannot be taken for another one.
-/

namespace SchemaSharp.Command

inductive Switch where
  | help
  | includeDirectory
  | keepNames
  | singleFile
  | targetNamespace
  | renamingPattern
  | dependencyProperties
  | notifyProperties
  | dataContracts
  | outputDirectory
  | allowRemote
  | timeout
  | verbose
  | structuredLog
  deriving DecidableEq, Repr

def Switch.takesValue : Switch → Bool
  | .includeDirectory => true
  | .targetNamespace => true
  | .renamingPattern => true
  | .outputDirectory => true
  | .timeout => true
  | _ => false

/-- The spellings that begin with one dash. -/
def shortSwitches : List (Char × Switch) := [
  ('h', .help),
  ('i', .includeDirectory),
  ('o', .outputDirectory),
  ('v', .verbose)]

/-- The spellings that begin with two dashes. -/
def longSwitches : List (String × Switch) := [
  ("help", .help),
  ("include-dir", .includeDirectory),
  ("no-clean-names", .keepNames),
  ("single-file", .singleFile),
  ("target-namespace", .targetNamespace),
  ("renaming-pattern", .renamingPattern),
  ("dependency-properties", .dependencyProperties),
  ("notify-properties", .notifyProperties),
  ("data-contracts", .dataContracts),
  ("output-dir", .outputDirectory),
  ("allow-remote", .allowRemote),
  ("timeout", .timeout),
  ("verbose", .verbose),
  ("log-json", .structuredLog)]

/-- A text joined to a switch, and whether an equals sign stands between them. -/
structure Joined where
  equals : Bool
  text : List Char
  deriving DecidableEq, Repr

inductive Word where
  | operand
  | mark
  | unknown
  | switch (switch : Switch) (isShort : Bool) (joined : Option Joined)
  deriving DecidableEq, Repr

/-- Why a command line is not carried out. -/
inductive Refusal where
  | helpWanted
  | wrongUsage
  deriving DecidableEq, Repr

/-! ## Recognising words -/

/-- A dash and a number, whole or with a fraction. -/
def isNegativeNumber (word : List Char) : Bool :=
  let isDigit (c : Char) : Bool := (Text.digit? c).isSome
  match word with
  | '-' :: body =>
      let body := if body.getLast? == some '\n' then body.dropLast else body
      match (body.dropWhile isDigit) with
      | [] => !body.isEmpty
      | '.' :: fraction => !fraction.isEmpty && fraction.all isDigit
      | _ => false
  | _ => false

/-- A word that begins with a dash but is no switch. -/
def strayWord (word : List Char) : Word :=
  if isNegativeNumber word || word.contains ' ' then .operand else .unknown

def afterEquals (after : Option (List Char)) : Option Joined := after.map fun text => ⟨true, text⟩

/-- What follows two dashes: a long switch, spelled out or as much of it as only one begins with. -/
def longWord (word body : List Char) : Except Refusal Word :=
  let (name, after) := Text.cutFirst '=' body
  match longSwitches.lookup (String.ofList body), longSwitches.lookup (String.ofList name) with
  | some switch, _ => .ok (.switch switch false none)
  | none, some switch => .ok (.switch switch false (afterEquals after))
  | none, none =>
      match longSwitches.filter fun (spelling, _) => (Text.dropHead spelling.toList name).isSome with
      | [] => .ok (strayWord word)
      | [(_, switch)] => .ok (.switch switch false (afterEquals after))
      | _ => .error .wrongUsage

/-- What follows one dash: a letter and what is joined to it. -/
def shortWord (word : List Char) (letter : Char) (rest : List Char) : Word :=
  match shortSwitches.lookup letter, rest with
  | none, _ => strayWord word
  | some switch, [] => .switch switch true none
  | some switch, '=' :: text => .switch switch true (some ⟨true, text⟩)
  | some switch, text => .switch switch true (some ⟨false, text⟩)

def classify (word : List Char) : Except Refusal Word :=
  match word with
  | '-' :: '-' :: body => longWord word body
  | ['-'] => .ok .operand
  | '-' :: letter :: rest => .ok (shortWord word letter rest)
  | _ => .ok .operand

/-- Every word with its kind. All words are looked at before any takes effect. -/
def classifyAll : List String → Except Refusal (List (String × Word))
  | [] => .ok []
  | "--" :: rest => .ok (("--", .mark) :: rest.map fun word => (word, .operand))
  | word :: rest => do
      let kind ← classify word.toList
      return (word, kind) :: (← classifyAll rest)

end SchemaSharp.Command
