import SchemaSharp.Command.Switch
import SchemaSharp.Settings

/-!
From a command line to the settings of a conversion. Switches take effect from left to right. The
operands stand together; those that come after an interruption are too many.
-/

namespace SchemaSharp.Command

/-- What a command line asks for. -/
structure Request where
  settings : Settings
  verbose : Bool
  structuredLog : Bool
  deriving DecidableEq, Repr

def Request.initial : Request := ⟨{ inputs := [] }, false, false⟩

/-- A switch with the value it takes, if any. -/
abbrev Setting := Switch × Option String

def withSettings (request : Request) (update : Settings → Settings) : Except Refusal Request :=
  .ok { request with settings := update request.settings }

def apply (request : Request) : Setting → Except Refusal Request
  | (.help, _) => .error .helpWanted
  | (.includeDirectory, value) => withSettings request fun settings =>
      { settings with searchPaths := settings.searchPaths ++ value.toList }
  | (.keepNames, _) => withSettings request ({ · with cleanNames := false })
  | (.singleFile, _) => withSettings request ({ · with singleFile := true })
  | (.targetNamespace, value) => withSettings request fun settings =>
      { settings with targetNamespace := value.getD settings.targetNamespace }
  | (.renamingPattern, value) => withSettings request fun settings =>
      { settings with renamingPattern := value.getD settings.renamingPattern }
  | (.dependencyProperties, _) => withSettings request ({ · with dependencyProperties := true })
  | (.notifyProperties, _) => withSettings request ({ · with notifyProperties := true })
  | (.dataContracts, _) => withSettings request ({ · with dataContracts := true })
  | (.outputDirectory, value) => withSettings request fun settings =>
      { settings with outputDirectory := value.getD settings.outputDirectory }
  | (.allowRemote, _) => withSettings request ({ · with allowRemote := true })
  | (.timeout, value) =>
      if value.all fun text => Text.isDecimalNumeral text.toList then
        withSettings request fun settings => { settings with timeout := value.getD settings.timeout }
      else .error .wrongUsage
  | (.verbose, _) => .ok { request with verbose := true }
  | (.structuredLog, _) => .ok { request with structuredLog := true }

/-! ## Switches with their values -/

/-- The settings of one word, whether a part of it is left over, and the words behind. -/
structure Bound where
  settings : List Setting
  isLeftOver : Bool
  rest : List (String × Word)

/-- A switch with nothing joined to it takes its value from the next word. -/
def bindNext (switch : Switch) (rest : List (String × Word)) : Except Refusal Bound :=
  if switch.takesValue then
    match rest with
    | (value, .operand) :: others => .ok ⟨[(switch, some value)], false, others⟩
    | _ => .error .wrongUsage
  else .ok ⟨[(switch, none)], false, rest⟩

def Bound.after (switch : Switch) (bound : Bound) : Bound :=
  { bound with settings := (switch, none) :: bound.settings }

/-- A short switch and the text joined to it, which is its value or more short switches. -/
def bindShort (rest : List (String × Word)) : Switch → Bool → List Char → Except Refusal Bound
  | switch, equals, text =>
      if switch.takesValue then .ok ⟨[(switch, some (String.ofList text))], false, rest⟩
      else
        match text with
        | [] => .error .wrongUsage
        | letter :: more =>
            if equals || letter == '-' then .error .wrongUsage
            else
              match shortSwitches.lookup letter with
              | none => .ok ⟨[(switch, none)], true, rest⟩
              | some next =>
                  let bound :=
                    match more with
                    | [] => bindNext next rest
                    | '=' :: value => bindShort rest next true value
                    | c :: others => bindShort rest next false (c :: others)
                  bound.map (Bound.after switch)

def bindJoined (switch : Switch) (isShort : Bool) (joined : Option Joined)
    (rest : List (String × Word)) : Except Refusal Bound :=
  match joined with
  | none => bindNext switch rest
  | some ⟨equals, text⟩ =>
      if isShort then bindShort rest switch equals text
      else if switch.takesValue then .ok ⟨[(switch, some (String.ofList text))], false, rest⟩
      else .error .wrongUsage

/-! ## The whole line -/

def isPlain : Word → Bool
  | .operand => true
  | .mark => true
  | _ => false

/-- The operands of a run of plain words, unless it has none. The first mark is none. -/
def operandsOf (run : List (String × Word)) : Option (List String) :=
  if run.any fun (_, word) => word == .operand then some ((run.map (·.1)).erase "--") else none

/-- Reads words; the flag says whether some were too many. -/
def readWords : Nat → List (String × Word) → Bool → Request → Except Refusal (Bool × Request)
  | _, [], excess, request => .ok (excess, request)
  | 0, _ :: _, _, _ => .error .wrongUsage
  | budget + 1, (text, word) :: rest, excess, request =>
      match word with
      | .unknown => readWords budget rest true request
      | .switch switch isShort joined => do
          let bound ← bindJoined switch isShort joined rest
          let request ← bound.settings.foldlM apply request
          readWords budget bound.rest (excess || bound.isLeftOver) request
      | _ =>
          let words := (text, word) :: rest
          let run := words.takeWhile fun (_, word) => isPlain word
          let others := words.dropWhile fun (_, word) => isPlain word
          match request.settings.inputs, operandsOf run with
          | [], some operands =>
              readWords budget others excess
                { request with settings := { request.settings with inputs := operands } }
          | _, _ => readWords budget others true request

/-- What a command line asks for. There has to be an input, and nothing may be left over. -/
def read (words : List String) : Except Refusal Request := do
  let classified ← classifyAll words
  let (excess, request) ← readWords classified.length classified false Request.initial
  if excess || request.settings.inputs.isEmpty then .error .wrongUsage
  return request

end SchemaSharp.Command
