import SchemaSharp.Markup.Fault
import SchemaSharp.Markup.Letters
import SchemaSharp.Text.Pieces

/-!
The smallest parts of markup: names, references, literals, comments and instructions. Text arrives
cut at the first character that may not occur; a null character stands there and fits nowhere.
-/

namespace SchemaSharp.Markup

open Text

abbrev Reading := StateT (List Char) (Except Fault)

def malformed {α : Type} : Reading α := throw .malformed

/-- A name with the label in front of its colon, if it has one. -/
structure RawName where
  label : Option String
  name : String
  deriving DecidableEq, Repr

def skipSpaces : Reading Unit := modify (·.dropWhile isSpace)

/-- Consumes `text` if it comes next. -/
def lookingAt (text : String) : Reading Bool := do
  match dropHead (← get) text.toList with
  | some rest => set rest; return true
  | none => return false

def expect (text : String) : Reading Unit := do
  if !(← lookingAt text) then malformed

/-- A name without a colon. -/
def plainName : Reading (List Char) := do
  match ← get with
  | [] => malformed
  | first :: rest =>
      if startsName first then
        set (rest.dropWhile continuesName)
        return first :: rest.takeWhile continuesName
      else malformed

/-- A name with at most one colon, which stands between two names. -/
def rawName : Reading RawName := do
  let first ← plainName
  if ← lookingAt ":" then
    let second ← plainName
    return ⟨some (String.ofList first), String.ofList second⟩
  return ⟨none, String.ofList first⟩

/-- The text before `stop`, which is consumed too. -/
def textUntil (stop : List Char) : List Char → Option (List Char × List Char)
  | [] => none
  | c :: rest =>
      match dropHead (c :: rest) stop with
      | some after => some ([], after)
      | none =>
          if c == '\x00' then none
          else (textUntil stop rest).map fun (text, after) => (c :: text, after)

def through (stop : String) : Reading (List Char) := do
  match textUntil stop.toList (← get) with
  | some (text, rest) => set rest; return text
  | none => malformed

/-- The rest of a comment. Two hyphens may only end it. -/
def commentRest : Reading Unit := do
  let _ ← through "--"
  expect ">"

/-- The rest of an instruction. The name of the declaration is reserved in every case. -/
def instructionRest : Reading Unit := do
  let target ← plainName
  if target.map Char.toLower == "xml".toList then malformed
  if ← lookingAt "?>" then return
  match ← get with
  | c :: _ => if isSpace c then let _ ← through "?>" else malformed
  | [] => malformed

/-! ## References -/

inductive Ref where
  | character (c : Char)
  | entity (name : List Char)

def ofNumber? (base : Nat) (digits : List Nat) : Option Char :=
  let code := digits.foldl (fun total digit => base * total + digit) 0
  if digits.isEmpty || 0x110000 ≤ code || (0xd800 ≤ code && code < 0xe000) then none
  else
    let c := Char.ofNat code
    if isLegal c then some c else none

def decimalDigit? (c : Char) : Option Nat :=
  if c.isDigit then some (c.toNat - 0x30) else none

def hexadecimalDigit? (c : Char) : Option Nat :=
  if c.isDigit then some (c.toNat - 0x30)
  else if 'a' ≤ c ∧ c ≤ 'f' then some (c.toNat - 0x57)
  else if 'A' ≤ c ∧ c ≤ 'F' then some (c.toNat - 0x37)
  else none

def numberRef (base : Nat) (digit? : Char → Option Nat) : Reading Ref := do
  let text ← get
  let digits := (text.takeWhile fun c => (digit? c).isSome).filterMap digit?
  set (text.dropWhile fun c => (digit? c).isSome)
  expect ";"
  match ofNumber? base digits with
  | some c => return .character c
  | none => malformed

/-- The rest of a reference, behind its ampersand. -/
def refRest : Reading Ref := do
  if ← lookingAt "#x" then numberRef 16 hexadecimalDigit?
  else if ← lookingAt "#" then numberRef 10 decimalDigit?
  else
    let name ← plainName
    expect ";"
    return .entity name

/-- The entities every document has. -/
def predefined? (name : List Char) : Option Char :=
  match String.ofList name with
  | "lt" => some '<'
  | "gt" => some '>'
  | "amp" => some '&'
  | "quot" => some '"'
  | "apos" => some '\''
  | _ => none

/-! ## Attribute values -/

/-- `blank` is one written blank or line end. -/
inductive ValueItem where
  | plain (c : Char)
  | blank
  | reference (ref : Ref)

-- A carriage return and the line feed behind it are one line end.
def readItems (stop : Char → Bool) : Nat → List Char → Option (List ValueItem × List Char)
  | 0, _ => none
  | _, [] => some ([], [])
  | budget + 1, c :: rest =>
      let followedBy (item : ValueItem) (rest : List Char) :=
        (readItems stop budget rest).map fun (items, after) => (item :: items, after)
      if stop c then some ([], c :: rest)
      else if c == '<' || c == '\x00' then none
      else if c == '&' then
        match refRest.run rest with
        | .ok (ref, after) => followedBy (.reference ref) after
        | .error _ => none
      else if c == '\r' then
        followedBy .blank (match rest with | '\n' :: after => after | _ => rest)
      else if isSpace c then followedBy .blank rest
      else followedBy (.plain c) rest

def endsBlank (value : List Char) : Bool :=
  match value with
  | [] => true
  | c :: _ => c == ' '

-- The value so far is kept reversed.
def normalizeFrom (verbatim lenient : Bool) :
    List Char → List ValueItem → Option (List Char)
  | value, [] =>
      some (if !verbatim && value.head? == some ' ' then value.tail.reverse else value.reverse)
  | value, .plain c :: rest => normalizeFrom verbatim lenient (c :: value) rest
  | value, .blank :: rest =>
      normalizeFrom verbatim lenient
        (if verbatim || !endsBlank value then ' ' :: value else value) rest
  | value, .reference (.character c) :: rest =>
      normalizeFrom verbatim lenient
        (if !verbatim && c == ' ' && endsBlank value then value else c :: value) rest
  | value, .reference (.entity name) :: rest =>
      match predefined? name with
      | some c => normalizeFrom verbatim lenient (c :: value) rest
      | none => if lenient then normalizeFrom verbatim lenient value rest else none

/-- The value of an attribute. Unless it is taken `verbatim`, blanks at its ends are dropped and
the others collapse. Unknown entities are dropped if `lenient`, and no value otherwise. -/
def normalizeValue (verbatim lenient : Bool) (items : List ValueItem) : Option (List Char) :=
  normalizeFrom verbatim lenient [] items

/-- A quoted value with no more items than `budget`. -/
def quotedItems (budget : Nat) : Reading (List ValueItem) := do
  match ← get with
  | mark :: rest =>
      if mark == '"' || mark == '\'' then
        match readItems (· == mark) budget rest with
        | some (items, _ :: after) => set after; return items
        | _ => malformed
      else malformed
  | [] => malformed

end SchemaSharp.Markup
