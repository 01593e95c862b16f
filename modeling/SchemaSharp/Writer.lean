/-!
The writer of one source file. Blocks may only be written in a well-formed order: directives, then
one namespace, in it classes, in them members, in them accessors. Each operation checks its place
before it writes anything.
-/

namespace SchemaSharp

inductive Level where
  | header
  | namespaceBody
  | classBody
  | memberBody
  deriving DecidableEq, Repr

def Level.depth : Level → Nat
  | .header => 0
  | .namespaceBody => 1
  | .classBody => 2
  | .memberBody => 3

def Level.text : Level → String
  | .header => "HEADER"
  | .namespaceBody => "NAMESPACE"
  | .classBody => "TYPE"
  | .memberBody => "MEMBER"

def Level.outer : Level → Level
  | .memberBody => .classBody
  | .classBody => .namespaceBody
  | _ => .header

/-- Styles of output that may be combined. -/
structure EmitOptions where
  dataContracts : Bool
  notifyProperties : Bool
  dependencyProperties : Bool
  deriving DecidableEq, Repr

namespace EmitOptions

def none : EmitOptions := ⟨false, false, false⟩

def includes (options part : EmitOptions) : Bool :=
  (options.dataContracts || !part.dataContracts)
    && (options.notifyProperties || !part.notifyProperties)
    && (options.dependencyProperties || !part.dependencyProperties)

end EmitOptions

inductive WriterFault where
  | wrongLevel (level required : Level)
  | noMarkerHere (level : Level)
  | namespaceOpen (name : String)
  | nothingOpen
  | finished
  deriving DecidableEq, Repr

def WriterFault.message : WriterFault → String
  | .wrongLevel level required =>
      "Writer level is '" ++ level.text ++ "' and does not match required level '"
        ++ required.text ++ "'"
  | .noMarkerHere level =>
      "Writer level is '" ++ level.text ++ "' and is not valid for annotations"
  | .namespaceOpen name => "Namespace '" ++ name ++ "' is already open"
  | .nothingOpen => "No open block to close"
  | .finished => "Formatter is already finalized"

/-! ## Markers -/

/-- A marker, written if all of its options are on. -/
structure Marker where
  space : String
  name : String
  options : EmitOptions
  deriving DecidableEq, Repr

/-- The name without the word every marker class ends in. -/
def Marker.shortName (marker : Marker) : String :=
  let name := marker.name.toList
  let ending := "Attribute".toList
  if ending.isSuffixOf name then String.ofList (name.take (name.length - ending.length))
  else marker.name

def contractSpace : String := "System.Runtime.Serialization"

def notificationSpace : String := "System.ComponentModel"

def dependencySpace : String := "Jupiter"

def dataContract : Marker :=
  ⟨contractSpace, "DataContractAttribute", { EmitOptions.none with dataContracts := true }⟩

def dataMember : Marker :=
  ⟨contractSpace, "DataMemberAttribute", { EmitOptions.none with dataContracts := true }⟩

inductive ArgumentValue where
  | flag (value : Bool)
  | number (value : Int)
  | text (value : String)
  deriving DecidableEq, Repr

def escapeLiteral (text : List Char) : List Char :=
  text.flatMap fun c => if c == '\\' || c == '"' then ['\\', c] else [c]

def textLiteral (text : String) : String :=
  String.ofList ('"' :: escapeLiteral text.toList ++ ['"'])

def ArgumentValue.literal : ArgumentValue → String
  | .flag true => "true"
  | .flag false => "false"
  | .number value => toString value
  | .text value => textLiteral value

abbrev Arguments := List (String × ArgumentValue)

/-- An absent value is written as the word for absence. -/
def ArgumentValue.ofOption : Option String → ArgumentValue
  | some given => .text given
  | none => .text "None"

def renderArguments (arguments : Arguments) : String :=
  ", ".intercalate (arguments.map fun (key, value) => key ++ " = " ++ value.literal)

/-! ## State -/

structure Writer where
  options : EmitOptions
  indent : String
  level : Level
  space : Option String
  types : List String
  references : List String
  currentType : Option String
  finished : Bool
  lines : List String

namespace Writer

/-- An operation: it may fail, and whatever it wrote before stays written. -/
abbrev Step := ExceptT WriterFault (StateM Writer)

def start (options : EmitOptions) (indent : String) : Writer :=
  ⟨options, indent, .header, none, [], [], none, false, []⟩

/-- Every line is ended, the last one too. -/
def text (writer : Writer) : String := String.join (writer.lines.map (· ++ "\n"))

def indentation (unit : String) (depth : Nat) : String := String.join (List.replicate depth unit)

/-- Namespaces that the options need in the header. -/
def optionSpaces (options : EmitOptions) : List String :=
  (if options.dataContracts then [contractSpace] else [])
    ++ (if options.notifyProperties then [notificationSpace] else [])
    ++ (if options.dependencyProperties then [dependencySpace] else [])

/-- A name, with its namespace unless a directive names that. -/
def qualify (writer : Writer) (space name : String) : String :=
  if writer.references.contains space then name else space ++ "." ++ name

def writeText (text : String) : Step Unit :=
  modify fun writer =>
    let line := if text.isEmpty then "" else indentation writer.indent writer.level.depth ++ text
    { writer with lines := writer.lines ++ [line] }

def requireOpen : Step Unit := do
  if (← get).finished then throw .finished

def requireLevel (required : Level) : Step Unit := do
  requireOpen
  let level := (← get).level
  if level != required then throw (.wrongLevel level required)

def setLevel (level : Level) : Step Unit := modify fun writer => { writer with level := level }

/-! ## Header and namespace -/

/-- A directive is written once. -/
def declareReference (name : String) : Step Unit := do
  requireLevel .header
  if (← get).references.contains name then return
  modify fun writer => { writer with references := writer.references ++ [name] }
  writeText ("using " ++ name ++ ";")

def openNamespace (name : String) : Step Unit := do
  requireLevel .header
  match (← get).space with
  | some opened => throw (.namespaceOpen opened)
  | none => pure ()
  writeText ""
  writeText ("namespace " ++ name)
  writeText "\x7b"
  modify fun writer => { writer with space := some name, level := .namespaceBody }

/-! ## Classes -/

/-- What a class without a base derives from, for the sake of the options. -/
def scaffoldingBases (writer : Writer) : List String :=
  (if writer.options.dependencyProperties then
    [writer.qualify dependencySpace "DependencyObject"] else [])
    ++ (if writer.options.notifyProperties then
      [writer.qualify notificationSpace "INotifyPropertyChanged"] else [])

def notificationLines (writer : Writer) : List String :=
  let handler := writer.qualify notificationSpace "PropertyChangedEventHandler"
  let arguments := writer.qualify notificationSpace "PropertyChangedEventArgs"
  ["public event " ++ handler ++ " PropertyChanged;",
    "protected virtual void OnPropertyChanged(String propertyName) => "
      ++ "PropertyChanged?.Invoke(this, new " ++ arguments ++ "(propertyName));"]

/-- A class line: an empty base counts as none here. -/
def classLine (writer : Writer) (name : String) (base : Option String) (isAbstract : Bool)
    (interfaces : List String) : String :=
  let own :=
    match base with
    | some text => if text.isEmpty then writer.scaffoldingBases else [text]
    | none => writer.scaffoldingBases
  let bases := own ++ interfaces
  let inheritance := if bases.isEmpty then "" else " : " ++ ", ".intercalate bases
  "public" ++ (if isAbstract then " abstract" else "") ++ " class " ++ name ++ inheritance

/-- Opens a class. The answer says whether the namespace has a class of that name already. -/
def openType (name : String) (base : Option String) (isAbstract : Bool) (interfaces : List String) :
    Step Bool := do
  requireLevel .namespaceBody
  let repeated := (← get).types.contains name
  writeText ((← get).classLine name base isAbstract interfaces)
  writeText "\x7b"
  modify fun writer =>
    { writer with
      level := .classBody
      types := writer.types ++ [name]
      currentType := some name }
  if base.isNone && (← get).options.notifyProperties then
    (← get).notificationLines.forM writeText
  return repeated

/-! ## Markers -/

def markerLine (writer : Writer) (kind : Marker) (arguments : Arguments) : String :=
  let name := writer.qualify kind.space kind.shortName
  let rendered := renderArguments arguments
  if rendered.isEmpty then "[" ++ name ++ "]" else "[" ++ name ++ "(" ++ rendered ++ ")]"

def writeRendered (kind : Marker) (arguments : Arguments) : Step Unit := do
  writeText ((← get).markerLine kind arguments)

/-- A marker for the class or member that follows. -/
def writeMarker (kind : Marker) (arguments : Arguments) : Step Unit := do
  let level := (← get).level
  if level != .namespaceBody && level != .classBody then throw (.noMarkerHere level)
  requireOpen
  if (← get).options.includes kind.options then writeRendered kind arguments

/-! ## Closing -/

def close : Step Unit := do
  requireOpen
  let level := (← get).level
  if level == .header then throw .nothingOpen
  modify fun writer =>
    { writer with
      level := level.outer
      currentType := if level.outer == .namespaceBody then none else writer.currentType }
  writeText "\x7d"

/-- Closes the given number of blocks. -/
def closeBlocks : Nat → Step Unit
  | 0 => pure ()
  | depth + 1 => do
      close
      closeBlocks depth

/-- Closes every open block and ends the writing; doing so again changes nothing. -/
def finish : Step Unit := do
  if (← get).finished then return
  closeBlocks (← get).level.depth
  modify fun writer => { writer with finished := true }

/-! ## Members -/

def openMember (type name : String) : Step Unit := do
  requireLevel .classBody
  writeText ("public " ++ type ++ " " ++ name)
  writeText "\x7b"
  setLevel .memberBody

def writeLine (text : String) : Step Unit := do
  requireLevel .memberBody
  writeText text

def propertyLine (type name : String) : String :=
  "public " ++ type ++ " " ++ name ++ " \x7b get; set; \x7d"

def registrationLine (writer : Writer) (type name : String) : String :=
  let registry := writer.qualify dependencySpace "DependencyProperty"
  "public static readonly " ++ registry ++ " " ++ name ++ "Property = " ++ registry
    ++ ".Register(nameof(" ++ name ++ "), typeof(" ++ type ++ "), typeof("
    ++ writer.currentType.getD "None" ++ "));"

/-- The lines before a property with accessors, and the two accessors. -/
def accessorLines (writer : Writer) (type name : String) : String × String × String :=
  let raising :=
    if writer.options.notifyProperties then " OnPropertyChanged(nameof(" ++ name ++ "));" else ""
  if writer.options.dependencyProperties then
    (writer.registrationLine type name,
      "get \x7b return (" ++ type ++ ")GetValue(" ++ name ++ "Property); \x7d",
      "set \x7b SetValue(" ++ name ++ "Property, value);" ++ raising ++ " \x7d")
  else
    (type ++ " _" ++ name ++ ";",
      "get \x7b return _" ++ name ++ "; \x7d",
      "set \x7b _" ++ name ++ " = value;" ++ raising ++ " \x7d")

def writeEnabled (markers : List (Marker × Arguments)) : Step Unit := do
  let options := (← get).options
  (markers.filter fun (kind, _) => options.includes kind.options).forM
    fun (kind, arguments) => writeRendered kind arguments

/-- A property in the style of the options, its markers right above its line. -/
def writeMember (type name : String) (markers : List (Marker × Arguments)) :
    Step Unit := do
  requireLevel .classBody
  let options := (← get).options
  if !options.dependencyProperties && !options.notifyProperties then
    writeEnabled markers
    writeText (propertyLine type name)
  else
    let (backing, getter, setter) := (← get).accessorLines type name
    writeText backing
    writeEnabled markers
    openMember type name
    writeLine getter
    writeLine setter
    close

/-! ## Calls -/

/-- An operation with everything it is given. -/
inductive Call where
  | declareReference (name : String)
  | openNamespace (name : String)
  | openType (name : String) (base : Option String) (isAbstract : Bool) (interfaces : List String)
  | writeMarker (kind : Marker) (arguments : Arguments)
  | openMember (type name : String)
  | writeLine (text : String)
  | writeMember (type name : String) (markers : List (Marker × Arguments))
  | close
  | finish
  deriving DecidableEq, Repr

def Call.step : Call → Step Unit
  | .declareReference name => Writer.declareReference name
  | .openNamespace name => Writer.openNamespace name
  | .openType name base isAbstract interfaces => discard (Writer.openType name base isAbstract interfaces)
  | .writeMarker kind arguments => Writer.writeMarker kind arguments
  | .openMember type name => Writer.openMember type name
  | .writeLine text => Writer.writeLine text
  | .writeMember type name markers => Writer.writeMember type name markers
  | .close => Writer.close
  | .finish => Writer.finish

def perform (call : Call) (writer : Writer) : Except WriterFault Unit × Writer :=
  call.step.run.run writer

/-- The writer after some calls, also after those that failed. -/
def afterCalls (writer : Writer) (calls : List Call) : Writer :=
  calls.foldl (fun writer call => (writer.perform call).2) writer

end Writer

end SchemaSharp
