import SchemaSharp.Conversion.TypeName

/-!
Classes and their members. A complex type becomes one class with a member for every element of its
content model; a member's own type without a name waits until its class is complete.
-/

namespace SchemaSharp.Conversion

open Schema (ComplexType ElementDecl Particle ContentModel TypeDecl QName)

/-! ## Members -/

def wireName (name : Option String) (identifier : String) : Arguments :=
  if name == some identifier then [] else [("Name", .ofOption name)]

def await (type : ComplexType) (identifier : String) (conversion : Conversion) : Conversion :=
  { conversion with anonymous := conversion.anonymous ++ [(type, identifier)] }

/-- The element that a particle stands for, which is another one for a reference. -/
def targetOf (element : ElementDecl) : Work ElementDecl :=
  match element.ref with
  | none => return element
  | some name => do
      let target ← resolveElement name element.home
      scheduleOwner target.home target.name
      return target

/-- The type of a member. A type written inside the element gets a class named like the member. -/
def typeOfMember (job : Job) (element target : ElementDecl) (memberName : String) : Work String :=
  match target.inlineType, element.ref with
  | some (.complex type), none => do
      Task.change (await type memberName)
      return memberName
  | _, _ => do spelled job (← memberType job target)

/-- Writes the member for an element of the class `scope`. -/
def translateMember (job : Job) (element : ElementDecl) (scope : String) : Work Unit := do
  let target ← targetOf element
  let memberName ←
    Task.outcome (orFail Failure.ofMember
      (Identifier.ofMember target.name scope job.settings.renamingPattern job.settings.cleanNames))
  let typeName ← typeOfMember job element target memberName
  let typeName := if element.isRepeated then typeName ++ "[]" else typeName
  write (.writeMember typeName memberName [(dataMember, wireName target.name memberName)])

/-! ## Classes -/

/-- What a type holds that no class can express. -/
def unsupportedPart? (type : ComplexType) : Option Construct :=
  if !type.attributes.isEmpty then some .attributes
  else if type.isMixed then some .mixedContent
  else if type.content == some .simple then some .simpleContent
  else if type.derivation == some .byRestriction then some .restriction
  else none

/-- The base a class is derived from; the type of everything is no base. -/
def givenBase? (type : ComplexType) : Option QName :=
  type.base.filter fun base => !(base.isBuiltin && base.name == "anyType")

/-- The identifier of the base class, whose document is scheduled. -/
def baseClass (job : Job) (type : ComplexType) (place : String) : Work (Option String) :=
  match givenBase? type with
  | none => return none
  | some base =>
      if base.isBuiltin then throw (.unsupported (.extensionOfBuiltin base.name) (some place))
      else do
        match ← resolveType base type.home with
        | .simple _ => throw (.unsupported (.extensionOfSimpleType base.name) (some place))
        | .complex decl =>
            let name ← identifier job decl.name
            scheduleOwner decl.home decl.name
            return some name

/-- The elements that become members, or the particle that cannot. -/
def memberElements (type : ComplexType) : Except String (List ElementDecl) :=
  match type.model with
  | none => .ok []
  | some (.unsupported tag) => .error tag
  | some (.sequence items) => Schema.flattenAll items

/-- What a class is called on the wire: its schema name, unless that is its identifier anyway, and
its namespace. -/
def contract (named : Bool) (rawName : Option String) (className : String)
    (space : Option String) : Arguments :=
  (if named || rawName != some className then [("Name", .ofOption rawName)] else [])
    ++ match Schema.given? space with
      | none => []
      | some text => [("Namespace", .text text)]

/-- Opens the class and reports if its namespace has one of that name already. -/
def openClass (className : String) (base : Option String) (isAbstract : Bool) : Work Unit := do
  let writer := (← openArtifact?).writer
  write (.openType className base isAbstract [])
  if writer.types.contains className then Task.say (.declaredTwice className writer.space)

def markTranslated (type : ComplexType) (conversion : Conversion) : Conversion :=
  { conversion with translated := conversion.translated ++ [type.identity] }

def requireSupported (type : ComplexType) (place : String) : Work Unit :=
  match unsupportedPart? type with
  | none => return
  | some part => throw (.unsupported part (some place))

def requireMembers (type : ComplexType) (place : String) : Work (List ElementDecl) :=
  match memberElements type with
  | .ok members => return members
  | .error tag => throw (.unsupported (.particle tag) (some place))

def classIdentifier (job : Job) (rawName className : Option String) : Work String :=
  match Schema.given? className with
  | some given => return given
  | none => identifier job rawName

/-- Writes a class with its marker and its members. -/
def writeClass (job : Job) (type : ComplexType) (marker : Arguments) (className : String)
    (base : Option String) (members : List ElementDecl) : Work Unit := do
  write (.writeMarker dataContract marker)
  openClass className base type.isAbstract
  Task.say (.classWritten className members.length)
  members.forM fun member => translateMember job member className
  write .close

/-- The class for a type that has none yet. Whatever makes a type unsupported is found before
anything is written. -/
def translateNew (job : Job) (type : ComplexType) (name className : Option String) :
    Work Unit := do
  let rawName := (Schema.given? name).or type.name
  let place := "type " ++ shownName rawName ++ " in " ++ type.home.location
  requireSupported type place
  let className ← classIdentifier job rawName className
  let base ← baseClass job type place
  let members ← requireMembers type place
  let _ ← openArtifact?
  let space := (← Task.current).store.spaceOf type.home.location
  writeClass job type (contract name.isSome rawName className space) className base members

/-- Writes the class for a complex type, unless it has one. `name` is the element's name for a type
without one, `className` the identifier that a user of the type has given it already. -/
def translateComplexType (job : Job) (type : ComplexType) (name className : Option String) :
    Work Unit := do
  if (← Task.current).translated.contains type.identity then
    Task.say (.alreadyTranslated type.display)
  else
    Task.change (markTranslated type)
    translateNew job type name className

/-! ## Types without a name -/

mutual

/-- The number of types written inside one another, this one included. -/
def typeWeight : ComplexType → Nat
  | ⟨_, _, _, _, _, _, model, _, _, _, _⟩ => 1 + modelWeight model

def modelWeight : Option ContentModel → Nat
  | none => 0
  | some (.unsupported _) => 0
  | some (.sequence items) => itemsWeight items

def itemsWeight : List Particle → Nat
  | [] => 0
  | item :: rest => particleWeight item + itemsWeight rest

def particleWeight : Particle → Nat
  | .element ⟨_, _, _, inlineType, _, _, _, _⟩ => inlineWeight inlineType
  | .sequence items => itemsWeight items
  | .unsupported _ => 0

def inlineWeight : Option TypeDecl → Nat
  | some (.complex type) => typeWeight type
  | some (.simple _) => 0
  | none => 0

end

def waitingWeight : List (ComplexType × String) → Nat
  | [] => 0
  | (type, _) :: rest => typeWeight type + waitingWeight rest

def takeWaiting : Work (Option (ComplexType × String)) := do
  match (← Task.current).anonymous with
  | [] => return none
  | first :: rest =>
      Task.change fun conversion => { conversion with anonymous := rest }
      return some first

-- A class only adds types that are written inside its own, so each step makes the weight smaller.
def flushWithin (job : Job) : Nat → Work Unit
  | 0 => return
  | budget + 1 => do
      match ← takeWaiting with
      | none => return
      | some (type, className) =>
          translateComplexType job type (type.owner.bind (·.name)) (some className)
          flushWithin job budget

/-- Writes the classes of waiting types, and of those that they add, until none waits. -/
def flushAnonymous (job : Job) : Work Unit := do
  flushWithin job (waitingWeight (← Task.current).anonymous)

end SchemaSharp.Conversion
