import SchemaSharp.Markup.Lexeme

/-!
The document type. Its internal declarations are checked for form; attribute declarations are kept,
since they give values to attributes that a tag leaves out; entity declarations refuse the document.
Nothing outside the document is read.
-/

namespace SchemaSharp.Markup

open Text

/-! ## Tokens -/

inductive Token where
  | name (raw : RawName)
  | nameToken
  | countedName
  | hash (name : String)
  | literal (text : List Char)
  | declaration (keyword : String)
  | parameterRef
  | percent
  | comment
  | instruction
  | openGroup
  | closeGroup
  | countedGroup (mark : Char)
  | openBracket
  | closeBracket
  | comma
  | bar
  | close
  | startTag

def followedBy (marks : String) : Reading Unit := do
  match ← get with
  | [] => return
  | c :: _ => if isSpace c || marks.toList.contains c then return else malformed

/-- What may stand directly behind a name. -/
def afterName : String := ">),|[%"

def isCountMark (c : Char) : Bool := c == '?' || c == '*' || c == '+'

/-- The name that a word is, if it is one. -/
def nameOf? (word : List Char) : Option RawName :=
  match cutFirst ':' word with
  | (first, none) =>
      if first.head?.any startsName then some ⟨none, String.ofList first⟩ else none
  | (first, some second) =>
      if first.head?.any startsName && !second.isEmpty && second.all continuesName then
        some ⟨some (String.ofList first), String.ofList second⟩
      else none

/-- The token that a word is, by what stands behind it. -/
def wordEnd (single? : Option RawName) : Reading Token := do
  match single?, ← get with
  | some _, mark :: rest =>
      if isCountMark mark then
        set rest
        return .countedName
  | none, mark :: _ => if isCountMark mark then malformed
  | _, [] => pure ()
  followedBy afterName
  return match single? with
    | some raw => .name raw
    | none => .nameToken

def wordToken : Reading Token := do
  let text ← get
  let inWord := fun c => continuesName c || c == ':'
  set (text.dropWhile inWord)
  wordEnd (nameOf? (text.takeWhile inWord))

def literalToken (mark : Char) : Reading Token := do
  let text ← through (String.singleton mark)
  followedBy ">%["
  return .literal text

def percentToken : Reading Token := do
  match ← get with
  | c :: _ =>
      if isSpace c || c == '%' then return .percent
      let _ ← plainName
      expect ";"
      return .parameterRef
  | [] => malformed

def declarationEnd (keyword : List Char) : Reading Token := do
  if keyword.isEmpty then malformed
  match ← get with
  | '%' :: next :: _ => if isSpace next || next == '%' then malformed
  | c :: _ => if !isSpace c then malformed
  | [] => malformed
  return .declaration (String.ofList keyword)

def declarationToken : Reading Token := do
  if ← lookingAt "-" then
    expect "-"
    commentRest
    return .comment
  let text ← get
  set (text.dropWhile startsName)
  declarationEnd (text.takeWhile startsName)

def groupEndToken : Reading Token := do
  match ← get with
  | mark :: rest =>
      if isCountMark mark then
        set rest
        return .countedGroup mark
      followedBy ">,|)"
      return .closeGroup
  | [] => return .closeGroup

/-- A token. A start tag is recognised and left where it is. -/
def tokenHere : Reading Token := do
  match ← get with
  | [] => malformed
  | '<' :: '!' :: rest => set rest; declarationToken
  | '<' :: '?' :: rest => set rest; instructionRest; return .instruction
  | '<' :: c :: _ => if startsName c then return .startTag else malformed
  | '"' :: rest => set rest; literalToken '"'
  | '\'' :: rest => set rest; literalToken '\''
  | '%' :: rest => set rest; percentToken
  | ',' :: rest => set rest; return .comma
  | '[' :: rest => set rest; return .openBracket
  | ']' :: ']' :: '>' :: _ => malformed
  | ']' :: rest => set rest; return .closeBracket
  | '(' :: rest => set rest; return .openGroup
  | ')' :: rest => set rest; groupEndToken
  | '|' :: rest => set rest; return .bar
  | '>' :: rest => set rest; return .close
  | '#' :: rest =>
      set rest
      let name ← plainName
      followedBy ">)%|"
      return .hash (String.ofList name)
  | c :: _ => if continuesName c || c == ':' then wordToken else malformed

/-- The next token behind blanks. -/
def token : Reading Token := do
  skipSpaces
  tokenHere

/-! ## Declarations -/

/-- What is declared of one attribute of one element. -/
structure AttributeRule where
  element : RawName
  name : RawName
  verbatim : Bool
  value : Option (List Char)

/-- `outside` says that declarations may exist which are not read here, `ignoring` that
declarations no longer count, because such a one may have gone before. -/
structure Doctype where
  standalone : Bool
  outside : Bool
  ignoring : Bool
  rules : List AttributeRule

def Doctype.lenient (doctype : Doctype) : Bool := doctype.outside && !doctype.standalone

/-- The first declaration of an attribute counts. -/
def Doctype.declare (doctype : Doctype) (rule : AttributeRule) : Doctype :=
  if doctype.ignoring
      || doctype.rules.any fun known => known.element == rule.element && known.name == rule.name
  then doctype
  else { doctype with rules := doctype.rules ++ [rule] }

def Doctype.rulesFor (doctype : Doctype) (element : RawName) : List AttributeRule :=
  doctype.rules.filter (·.element == element)

def expectClose : Reading Unit := do
  match ← token with
  | .close => return
  | _ => malformed

/-- A name of any kind. -/
def expectName : Reading Unit := do
  match ← token with
  | .name _ => return
  | _ => malformed

def unlabelledName : Reading String := do
  match ← token with
  | .name ⟨none, name⟩ => return name
  | _ => malformed

def expectLiteral : Reading (List Char) := do
  match ← token with
  | .literal text => return text
  | _ => malformed

def isPublicIdChar (c : Char) : Bool :=
  c.isAlphanum || "-'()+,/=?\r\n;!*%#:_. $@".toList.contains c

def publicLiteral : Reading (List Char) := do
  let text ← expectLiteral
  if text.all isPublicIdChar then return text else malformed

/-- Blanks at the ends are dropped and the others collapse. -/
def normalizePublicId (text : List Char) : String :=
  String.ofList (joinWith [' '] ((splitAt isSpace text).filter fun word => !word.isEmpty))

/-- An entity's text holds no parameter references, and its other references are well formed. -/
def checkEntityText : Nat → List Char → Reading Unit
  | 0, _ => malformed
  | _, [] => return
  | budget + 1, c :: rest =>
      if c == '%' then malformed
      else if c == '&' then
        match refRest.run rest with
        | .ok (_, after) => checkEntityText budget after
        | .error _ => malformed
      else checkEntityText budget rest

/-- An identifier outside the document: `SYSTEM` with one literal, `PUBLIC` with two. -/
def externalId (keyword : String) : Reading (Option String × String) := do
  match keyword with
  | "SYSTEM" => return (none, String.ofList (← expectLiteral))
  | "PUBLIC" =>
      let publicId ← publicLiteral
      return (some (normalizePublicId publicId), String.ofList (← expectLiteral))
  | _ => malformed

/-- The name of an entity, and whether it is a general one. -/
def entityName : Reading (String × Bool) := do
  match ← token with
  | .percent => return (← unlabelledName, false)
  | .name ⟨none, name⟩ => return (name, true)
  | _ => malformed

-- Redeclaring a predefined entity is no reason to refuse the document.
def entityRest (doctype : Doctype) (name : String) (general : Bool) : Reading Unit := do
  let known := general && (predefined? name.toList).isSome
  let refuse (systemId publicId : Option String) : Reading Unit :=
    if doctype.ignoring || known then return else throw (.entityDeclared name systemId publicId)
  match ← token with
  | .literal text =>
      refuse none none
      if !doctype.ignoring then checkEntityText (text.length + 1) text
      expectClose
  | .name ⟨none, keyword⟩ =>
      let (publicId, systemId) ← externalId keyword
      match ← token with
      | .close => refuse (some systemId) publicId
      | .name ⟨none, "NDATA"⟩ =>
          if !general then malformed
          let _ ← unlabelledName
          refuse (some systemId) publicId
          expectClose
      | _ => malformed
  | _ => malformed

def entityDeclaration (doctype : Doctype) : Reading Unit := do
  let (name, general) ← entityName
  entityRest doctype name general

def notationDeclaration : Reading Unit := do
  let _ ← unlabelledName
  match ← unlabelledName with
  | "SYSTEM" =>
      let _ ← expectLiteral
      expectClose
  | "PUBLIC" =>
      let _ ← publicLiteral
      match ← token with
      | .close => return
      | .literal _ => expectClose
      | _ => malformed
  | _ => malformed

/-- The rest of a list of choices in parentheses. -/
def choices (allowed : Token → Bool) : Nat → Reading Unit
  | 0 => malformed
  | budget + 1 => do
      if !allowed (← token) then malformed
      match ← token with
      | .closeGroup => return
      | .bar => choices allowed budget
      | _ => malformed

def isChoice : Token → Bool
  | .name _ => true
  | .nameToken => true
  | _ => false

def isNotationChoice : Token → Bool
  | .name ⟨none, _⟩ => true
  | _ => false

def tokenizedTypes : List String := [
  "ID", "IDREF", "IDREFS", "ENTITY", "ENTITIES", "NMTOKEN", "NMTOKENS"]

/-- The type of an attribute; the answer says whether its values are taken verbatim. -/
def attributeType : Reading Bool := do
  let budget := (← get).length + 1
  match ← token with
  | .openGroup =>
      choices isChoice budget
      return false
  | .name ⟨none, keyword⟩ =>
      if keyword == "CDATA" then return true
      if tokenizedTypes.contains keyword then return false
      if keyword != "NOTATION" then malformed
      match ← token with
      | .openGroup =>
          choices isNotationChoice budget
          return false
      | _ => malformed
  | _ => malformed

def defaultValue (doctype : Doctype) (verbatim : Bool) (text : List Char) :
    Reading (Option (List Char)) := do
  if doctype.ignoring then return none
  match readItems (fun _ => false) (text.length + 1) text with
  | some (items, _) =>
      match normalizeValue verbatim doctype.lenient items with
      | some value => return some value
      | none => malformed
  | none => malformed

/-- What is given to an attribute that a tag leaves out. -/
def attributeDefault (doctype : Doctype) (verbatim : Bool) : Reading (Option (List Char)) := do
  match ← token with
  | .hash "IMPLIED" => return none
  | .hash "REQUIRED" => return none
  | .hash "FIXED" => defaultValue doctype verbatim (← expectLiteral)
  | .literal text => defaultValue doctype verbatim text
  | _ => malformed

def attributeDeclarations (element : RawName) : Nat → Doctype → Reading Doctype
  | 0, _ => malformed
  | budget + 1, doctype => do
      match ← token with
      | .close => return doctype
      | .name name =>
          let verbatim ← attributeType
          let value ← attributeDefault doctype verbatim
          attributeDeclarations element budget (doctype.declare ⟨element, name, verbatim, value⟩)
      | _ => malformed

/-- The rest of a content model: the connectors of the open groups, innermost first, and whether
an item has just been read. -/
def contentModel : Nat → List (Option Char) → Bool → Reading Unit
  | 0, _, _ => malformed
  | _, [], _ => expectClose
  | budget + 1, connector :: outer, false => do
      match ← token with
      | .openGroup => contentModel budget (none :: connector :: outer) false
      | .name _ => contentModel budget (connector :: outer) true
      | .countedName => contentModel budget (connector :: outer) true
      | _ => malformed
  | budget + 1, connector :: outer, true => do
      match ← token with
      | .closeGroup => contentModel budget outer true
      | .countedGroup _ => contentModel budget outer true
      | .comma =>
          if connector == some '|' then malformed
          contentModel budget (some ',' :: outer) false
      | .bar =>
          if connector == some ',' then malformed
          contentModel budget (some '|' :: outer) false
      | _ => malformed

/-- The rest of mixed content behind its first word. -/
def mixedContent : Bool → Nat → Reading Unit
  | _, 0 => malformed
  | first, budget + 1 => do
      match ← token with
      | .closeGroup => if first then expectClose else malformed
      | .countedGroup '*' => expectClose
      | .bar =>
          match ← token with
          | .name _ => mixedContent false budget
          | _ => malformed
      | _ => malformed

def elementDeclaration : Reading Unit := do
  let budget := (← get).length + 1
  expectName
  match ← token with
  | .name ⟨none, "EMPTY"⟩ => expectClose
  | .name ⟨none, "ANY"⟩ => expectClose
  | .openGroup =>
      match ← token with
      | .hash "PCDATA" => mixedContent true budget
      | .openGroup => contentModel budget [none, none] false
      | .name _ => contentModel budget [none] true
      | .countedName => contentModel budget [none] true
      | _ => malformed
  | _ => malformed

/-- The internal declarations up to their closing bracket. -/
def internalDeclarations : Nat → Doctype → Reading Doctype
  | 0, _ => malformed
  | budget + 1, doctype => do
      match ← token with
      | .closeBracket => return doctype
      | .comment => internalDeclarations budget doctype
      | .instruction => internalDeclarations budget doctype
      | .parameterRef =>
          internalDeclarations budget { doctype with outside := true, ignoring := !doctype.standalone }
      | .declaration "ENTITY" =>
          entityDeclaration doctype
          internalDeclarations budget doctype
      | .declaration "NOTATION" =>
          notationDeclaration
          internalDeclarations budget doctype
      | .declaration "ELEMENT" =>
          elementDeclaration
          internalDeclarations budget doctype
      | .declaration "ATTLIST" =>
          match ← token with
          | .name element => internalDeclarations budget (← attributeDeclarations element budget doctype)
          | _ => malformed
      | _ => malformed

/-- The rest of a document type from a token on. -/
def doctypeBody (budget : Nat) (doctype : Doctype) (next : Token) : Reading Doctype := do
  match next with
  | .close => return doctype
  | .openBracket =>
      let doctype ← internalDeclarations budget doctype
      expectClose
      return doctype
  | _ => malformed

/-- The rest of a document type behind its keyword. -/
def doctypeRest (doctype : Doctype) : Reading Doctype := do
  let budget := (← get).length + 1
  expectName
  match ← token with
  | .name ⟨none, keyword⟩ =>
      let _ ← externalId keyword
      doctypeBody budget { doctype with outside := true } (← token)
  | next => doctypeBody budget doctype next

end SchemaSharp.Markup
