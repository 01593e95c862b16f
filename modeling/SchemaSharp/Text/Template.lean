import SchemaSharp.Text.Member
import SchemaSharp.Text.Numeral

/-!
Templates with one argument. A template is literal text with fields in braces; a field selects the
argument by position, may pick one of its characters, may quote it, and may pad or cut it as a
layout says. Doubled braces stand for themselves.
-/

namespace SchemaSharp.Text

inductive TemplateFault where
  | loneOpening
  | loneClosing
  | openingInField
  | conversionMissing
  | conversionNotEnded
  | layoutNotClosed
  | fieldNotClosed
  | unknownConversion (mark : Char)
  | argumentMissing (position : Nat)
  | unknownName (name : String)
  | automaticAfterManual
  | manualAfterAutomatic
  | numberTooLarge
  | strayAfterBracket
  | emptySelector
  | bracketNotClosed
  | positionOutside
  | positionNotNumber
  | attributeMissing
  | memberHasNoPositions
  | memberHasNoLayout
  | nestedTooDeep
  | badLayout (layout : String)
  | precisionMissing
  | groupingClash
  | groupingWithKind (separator kind : Char)
  | unknownKind (kind : Char)
  | signOnText
  | spaceOnText
  | negativeZeroOnText
  | alternateOnText
  | signPaddingOnText
  deriving DecidableEq, Repr

/-- A character in a message: itself if it is visible ASCII, its number otherwise. -/
def showMark (c : Char) : String :=
  if 32 < c.toNat && c.toNat < 127 then String.singleton c
  else "\\x" ++ String.ofList (Nat.toDigits 16 c.toNat)

def TemplateFault.message : TemplateFault → String
  | .loneOpening => "Single '\x7b' encountered in format string"
  | .loneClosing => "Single '\x7d' encountered in format string"
  | .openingInField => "unexpected '\x7b' in field name"
  | .conversionMissing => "end of string while looking for conversion specifier"
  | .conversionNotEnded => "expected ':' after conversion specifier"
  | .layoutNotClosed => "unmatched '\x7b' in format spec"
  | .fieldNotClosed => "expected '\x7d' before end of string"
  | .unknownConversion mark => "Unknown conversion specifier " ++ showMark mark
  | .argumentMissing position =>
      "Replacement index " ++ toString position ++ " out of range for positional args tuple"
  | .unknownName name => quoted name
  | .automaticAfterManual =>
      "cannot switch from manual field specification to automatic field numbering"
  | .manualAfterAutomatic =>
      "cannot switch from automatic field numbering to manual field specification"
  | .numberTooLarge => "Too many decimal digits in format string"
  | .strayAfterBracket => "Only '.' or '[' may follow ']' in format field specifier"
  | .emptySelector => "Empty attribute in format string"
  | .bracketNotClosed => "Missing ']' in format string"
  | .positionOutside => "string index out of range"
  | .positionNotNumber => "string indices must be integers, not 'str'"
  | .attributeMissing => "no such attribute"
  | .memberHasNoPositions => "not subscriptable"
  | .memberHasNoLayout => "unsupported format string"
  | .nestedTooDeep => "Max string recursion exceeded"
  | .badLayout layout => "Invalid format specifier '" ++ layout ++ "' for object of type 'str'"
  | .precisionMissing => "Format specifier missing precision"
  | .groupingClash => "Cannot specify both ',' and '_'."
  | .groupingWithKind separator kind =>
      "Cannot specify '" ++ String.singleton separator ++ "' with '" ++ showMark kind ++ "'."
  | .unknownKind kind => "Unknown format code '" ++ showMark kind ++ "' for object of type 'str'"
  | .signOnText => "Sign not allowed in string format specifier"
  | .spaceOnText => "Space not allowed in string format specifier"
  | .negativeZeroOnText => "Negative zero coercion (z) not allowed in string format specifier"
  | .alternateOnText => "Alternate form (#) not allowed in string format specifier"
  | .signPaddingOnText => "'=' alignment not allowed in string format specifier"

namespace Template

/-! ## Cutting a template into pieces -/

/-- One field as written: what it selects, how the selection is converted, its layout, and whether
the layout holds fields of its own. -/
structure Field where
  selector : List Char
  conversion : Option Char
  layout : List Char
  nested : Bool

inductive Piece where
  | literal (text : List Char)
  | field (field : Field)

/-- The selector of a field and what ends it. Between brackets nothing ends it. -/
def scanSelector : Bool → List Char → Except TemplateFault (List Char × Char × List Char)
  | _, [] => .error .fieldNotClosed
  | true, c :: rest =>
      match scanSelector (c != ']') rest with
      | .error fault => .error fault
      | .ok (selector, mark, after) => .ok (c :: selector, mark, after)
  | false, c :: rest =>
      if c == '{' then .error .openingInField
      else if c == '}' || c == ':' || c == '!' then .ok ([], c, rest)
      else
        match scanSelector (c == '[') rest with
        | .error fault => .error fault
        | .ok (selector, mark, after) => .ok (c :: selector, mark, after)

/-- A layout up to the brace that closes its field; `depth` inner braces are open. -/
def scanLayout : Nat → List Char → Except TemplateFault (List Char × Bool × List Char)
  | _, [] => .error .layoutNotClosed
  | depth, c :: rest =>
      if c == '}' && depth == 0 then .ok ([], false, rest)
      else
        let inner := if c == '{' then depth + 1 else if c == '}' then depth - 1 else depth
        match scanLayout inner rest with
        | .error fault => .error fault
        | .ok (layout, nested, after) => .ok (c :: layout, nested || c == '{', after)

def scanField (text : List Char) : Except TemplateFault (Field × List Char) :=
  let withLayout (selector : List Char) (conversion : Option Char) (rest : List Char) :=
    match scanLayout 0 rest with
    | .error fault => .error fault
    | .ok (layout, nested, after) => .ok (Field.mk selector conversion layout nested, after)
  match scanSelector false text with
  | .error fault => .error fault
  | .ok (selector, '}', rest) => .ok (⟨selector, none, [], false⟩, rest)
  | .ok (selector, ':', rest) => withLayout selector none rest
  | .ok (selector, _, rest) =>
      match rest with
      | [] => .error .conversionMissing
      | [mark] => withLayout selector (some mark) []
      | mark :: '}' :: after => .ok (⟨selector, some mark, [], false⟩, after)
      | mark :: ':' :: after => withLayout selector (some mark) after
      | _ => .error .conversionNotEnded

/-- The pieces in order. The list ends with the first fault, so that the pieces before it are
still put to use first. `budget` bounds the number of pieces. -/
def pieces : Nat → List Char → List (Except TemplateFault Piece)
  | 0, _ => []
  | _, [] => []
  | budget + 1, text =>
      let literal := text.takeWhile fun c => c != '{' && c != '}'
      match text.dropWhile fun c => c != '{' && c != '}' with
      | [] => [.ok (.literal literal)]
      | '{' :: '{' :: rest => .ok (.literal (literal ++ ['{'])) :: pieces budget rest
      | '}' :: '}' :: rest => .ok (.literal (literal ++ ['}'])) :: pieces budget rest
      | ['{'] => [.error .loneOpening]
      | '}' :: _ => [.error .loneClosing]
      | _ :: rest =>
          match scanField rest with
          | .error fault => [.error fault]
          | .ok (field, after) => .ok (.literal literal) :: .ok (.field field) :: pieces budget after

/-! ## Layouts -/

/-- Numbers stay below this bound. -/
def numberBound : Nat := (1 <<< 63) - 1

/-- The number a text begins with, if it begins with a digit. -/
def takeNumber : Option Nat → List Char → Except TemplateFault (Option Nat × List Char)
  | total, [] => .ok (total, [])
  | total, c :: rest =>
      match digit? c with
      | none => .ok (total, c :: rest)
      | some value =>
          let sum := 10 * total.getD 0 + value
          if numberBound < sum then .error .numberTooLarge else takeNumber (some sum) rest

/-- The number a text is, if all of it is digits. -/
def wholeNumber? (text : List Char) : Except TemplateFault (Option Nat) :=
  match takeNumber none text with
  | .error fault => .error fault
  | .ok (number, []) => .ok number
  | .ok (_, _ :: _) => .ok none

structure Layout where
  fill : Char
  align : Char
  sign : Option Char
  noNegativeZero : Bool
  alternate : Bool
  width : Option Nat
  precision : Option Nat
  kind : Char

def isAlign (c : Char) : Bool := c == '<' || c == '>' || c == '=' || c == '^'

def takeIf (test : Char → Bool) : List Char → Option Char × List Char
  | [] => (none, [])
  | c :: rest => if test c then (some c, rest) else (none, c :: rest)

def takeAlign : List Char → Option Char × Option Char × List Char
  | fill :: align :: rest =>
      if isAlign align then (some fill, some align, rest)
      else if isAlign fill then (none, some fill, align :: rest)
      else (none, none, fill :: align :: rest)
  | [align] => if isAlign align then (none, some align, []) else (none, none, [align])
  | [] => (none, none, [])

def takeGrouping (text : List Char) : Except TemplateFault (Option Char × List Char) :=
  let (comma, afterComma) := takeIf (· == ',') text
  let (underscore, rest) := takeIf (· == '_') afterComma
  if underscore.isSome && (comma.isSome || rest.head? == some ',') then .error .groupingClash
  else .ok (comma <|> underscore, rest)

def takePrecision : List Char → Except TemplateFault (Option Nat × List Char)
  | '.' :: rest =>
      match takeNumber none rest with
      | .error fault => .error fault
      | .ok (none, _) => .error .precisionMissing
      | .ok (some number, after) => .ok (some number, after)
  | text => .ok (none, text)

/-- Thousands are grouped in these kinds of number; text is none of them. -/
def allowsGrouping (separator kind : Char) : Bool :=
  "defgEG%F".toList.contains kind || (separator == '_' && "boxX".toList.contains kind)

def Layout.read (text : List Char) : Except TemplateFault Layout := do
  let (fill, align, rest) := takeAlign text
  let (sign, rest) := takeIf (fun c => c == ' ' || c == '+' || c == '-') rest
  let (negativeZero, rest) := takeIf (· == 'z') rest
  let (alternate, rest) := takeIf (· == '#') rest
  let (zeroFill, rest) := if fill.isSome then (none, rest) else takeIf (· == '0') rest
  let (width, rest) ← takeNumber none rest
  let (grouping, rest) ← takeGrouping rest
  let (precision, rest) ← takePrecision rest
  let kind ←
    match rest with
    | [] => pure 's'
    | [kind] => pure kind
    | _ => throw (.badLayout (String.ofList text))
  match grouping with
  | some separator =>
      if !allowsGrouping separator kind then throw (.groupingWithKind separator kind)
  | none => pure ()
  return {
    fill := (fill <|> zeroFill).getD ' '
    align := align.getD '<'
    sign := sign
    noNegativeZero := negativeZero.isSome
    alternate := alternate.isSome
    width := width
    precision := precision
    kind := kind }

def Layout.check (layout : Layout) : Except TemplateFault Unit :=
  if layout.kind != 's' then .error (.unknownKind layout.kind)
  else if layout.sign == some ' ' then .error .spaceOnText
  else if layout.sign.isSome then .error .signOnText
  else if layout.noNegativeZero then .error .negativeZeroOnText
  else if layout.alternate then .error .alternateOnText
  else if layout.align == '=' then .error .signPaddingOnText
  else .ok ()

/-- Cut to the precision, then padded to the width; the odd one of centred padding goes right. -/
def Layout.apply (layout : Layout) (text : List Char) : List Char :=
  let kept :=
    match layout.precision with
    | some precision => text.take precision
    | none => text
  let missing := layout.width.getD 0 - kept.length
  let left :=
    if layout.align == '>' then missing else if layout.align == '^' then missing / 2 else 0
  List.replicate left layout.fill ++ kept ++ List.replicate (missing - left) layout.fill

def layOut (layout text : List Char) : Except TemplateFault (List Char) :=
  if layout.isEmpty then .ok text
  else do
    let layout ← Layout.read layout
    layout.check
    return layout.apply text

/-! ## Selecting from the argument -/

/-- Fields are numbered by hand or in order of appearance, never both. -/
inductive Numbering where
  | undecided
  | manual
  | automatic (next : Nat)

/-- Which argument a field means, and the numbering after it; `none` for a name. -/
def position (name : List Char) (numbering : Numbering) :
    Except TemplateFault (Option Nat × Numbering) := do
  let number ← wholeNumber? name
  match number, numbering with
  | some _, .automatic _ => throw .manualAfterAutomatic
  | some index, _ => return (some index, .manual)
  | none, .manual => if name.isEmpty then throw .automaticAfterManual else return (none, .manual)
  | none, .undecided =>
      return if name.isEmpty then (some 0, .automatic 1) else (none, .undecided)
  | none, .automatic next =>
      return if name.isEmpty then (some next, .automatic (next + 1)) else (none, .automatic next)

/-- What a selector leads to. -/
inductive Selected where
  | text (chars : List Char)
  | member (part : Member)

def Selected.shown : Selected → List Char
  | .text chars => chars
  | .member part => part.text.toList

def Selected.at (selected : Selected) (index : Nat) : Except TemplateFault Selected :=
  match selected with
  | .member _ => .error .memberHasNoPositions
  | .text chars =>
      match chars[index]? with
      | none => .error .positionOutside
      | some c => .ok (.text [c])

def Selected.named (selected : Selected) (name : String) : Except TemplateFault Selected :=
  match selected with
  | .text _ =>
      match textFacts.lookup name, member? name with
      | some fact, _ => .ok (.text fact.toList)
      | none, some part => .ok (.member part)
      | none, none => .error .attributeMissing
  | .member .kind =>
      match kindFacts.lookup name with
      | some fact => .ok (.text fact.toList)
      | none => .error .attributeMissing
  | .member (.operation _) => .error .attributeMissing

/-- The rest of a selector, applied step by step: `[n]` picks a character, `.name` a member. -/
def select : Nat → List Char → Selected → Except TemplateFault Selected
  | 0, _, selected => .ok selected
  | _, [], selected => .ok selected
  | budget + 1, '[' :: rest, selected =>
      match cutFirstBracket rest with
      | none => .error .bracketNotClosed
      | some (name, after) => do
          let number ← wholeNumber? name
          if name.isEmpty then throw .emptySelector
          match number, selected with
          | none, .text _ => throw .positionNotNumber
          | none, .member _ => throw .memberHasNoPositions
          | some index, _ => select budget after (← selected.at index)
  | budget + 1, '.' :: rest, selected => do
      let isPart (c : Char) : Bool := c != '.' && c != '['
      let name := rest.takeWhile isPart
      if name.isEmpty then throw .emptySelector
      select budget (rest.dropWhile isPart) (← selected.named (String.ofList name))
  | _, _ :: _, _ => .error .strayAfterBracket
where
  cutFirstBracket : List Char → Option (List Char × List Char)
    | [] => none
    | ']' :: rest => some ([], rest)
    | c :: rest => (cutFirstBracket rest).map fun (name, after) => (c :: name, after)

/-- A conversion makes a text of what was selected. -/
def convert (mark : Option Char) (selected : Selected) : Except TemplateFault Selected :=
  let shown := selected.shown
  match mark, selected with
  | none, _ => .ok selected
  | some 's', _ => .ok (.text shown)
  | some 'r', .text text => .ok (.text (quoted (String.ofList text)).toList)
  | some 'a', .text text => .ok (.text (quotedAscii (String.ofList text)).toList)
  | some 'r', .member _ => .ok (.text shown)
  | some 'a', .member _ => .ok (.text shown)
  | some other, _ => .error (.unknownConversion other)

def layOutSelected (layout : List Char) : Selected → Except TemplateFault (List Char)
  | .text text => layOut layout text
  | .member member =>
      if layout.isEmpty then .ok member.text.toList else .error .memberHasNoLayout

def selection (argument selector : List Char) (numbering : Numbering) :
    Except TemplateFault (Selected × Numbering) := do
  let name := selector.takeWhile fun c => c != '.' && c != '['
  let (index, numbering) ← position name numbering
  match index with
  | none => throw (.unknownName (String.ofList name))
  | some 0 =>
      let selected ← select selector.length (selector.drop name.length) (.text argument)
      return (selected, numbering)
  | some index => throw (.argumentMissing index)

/-! ## Filling in -/

def fillPieces (fillLayout : Numbering → List Char → Except TemplateFault (List Char × Numbering))
    (argument : List Char) :
    Numbering → List (Except TemplateFault Piece) → Except TemplateFault (List Char × Numbering)
  | numbering, [] => .ok ([], numbering)
  | _, .error fault :: _ => .error fault
  | numbering, .ok (.literal text) :: rest => do
      let (filled, numbering) ← fillPieces fillLayout argument numbering rest
      return (text ++ filled, numbering)
  | numbering, .ok (.field field) :: rest => do
      let (selected, numbering) ← selection argument field.selector numbering
      let selected ← convert field.conversion selected
      let (layout, numbering) ←
        if field.nested then fillLayout numbering field.layout else pure (field.layout, numbering)
      let text ← layOutSelected layout selected
      let (filled, numbering) ← fillPieces fillLayout argument numbering rest
      return (text ++ filled, numbering)

/-- Layouts may hold fields, `depth` levels in all. -/
def fillAt (argument : List Char) :
    Nat → Numbering → List Char → Except TemplateFault (List Char × Numbering)
  | 0, _, _ => .error .nestedTooDeep
  | depth + 1, numbering, template =>
      fillPieces (fillAt argument depth) argument numbering (pieces (template.length + 1) template)

end Template

def fillTemplate (template argument : String) : Except TemplateFault String :=
  match Template.fillAt argument.toList 2 .undecided template.toList with
  | .ok (text, _) => .ok (String.ofList text)
  | .error fault => .error fault

end SchemaSharp.Text
