import SchemaSharp.Proofs.Writer.Levels

/-!
The grammar of source files. A file is its directives, an empty line and one namespace block; in it
stand classes, in these members, and every marker stands right above the class or the property that
it marks. The grammar speaks of marks; laid out from depth zero they are the lines of the file.
-/

namespace SchemaSharp.Writer

/-! ## The grammar -/

/-- A marker whose namespace a directive names. -/
def markerText (name : String) (arguments : Arguments) : String :=
  let rendered := renderArguments arguments
  if rendered.isEmpty then "[" ++ name ++ "]" else "[" ++ name ++ "(" ++ rendered ++ ")]"

/-- With contracts there is one marker, otherwise none. -/
inductive Marked (options : EmitOptions) (kind : LineKind) (name : String) : List Mark → Prop where
  | plain (off : options.dataContracts = false) : Marked options kind name []
  | marked (on : options.dataContracts = true) (arguments : Arguments) :
      Marked options kind name [.line kind (markerText name arguments)]

def Begins (opening text : String) : Prop := ∃ rest, text = opening ++ rest

/-- The line that a property with accessors relies on: a field, or the registration of one. -/
inductive BackingText (type name : String) : String → Prop where
  | field : BackingText type name (type ++ " _" ++ name ++ ";")
  | registration {text : String} (begins : Begins "public static readonly " text) :
      BackingText type name text

/-- A whole member: a property in one line, or a backing line and a block with both accessors. -/
inductive MemberText (options : EmitOptions) : List Mark → Prop where
  | line {type name : String} {markers : List Mark}
      (plain : options.dependencyProperties = false ∧ options.notifyProperties = false)
      (marked : Marked options .memberMarker "DataMember" markers) :
      MemberText options (markers ++ [.line .member (propertyLine type name)])
  | block {type name backing getter setter : String} {markers : List Mark}
      (styled : options.dependencyProperties = true ∨ options.notifyProperties = true)
      (backed : BackingText type name backing)
      (marked : Marked options .memberMarker "DataMember" markers)
      (gets : Begins "get \x7b return " getter) (sets : Begins "set \x7b " setter) :
      MemberText options (.line .member backing :: (markers ++
        [.opens .property ("public " ++ type ++ " " ++ name), .line .accessor getter,
          .line .accessor setter, .closes]))

def notificationTexts : List String :=
  ["public event PropertyChangedEventHandler PropertyChanged;",
    "protected virtual void OnPropertyChanged(String propertyName) => "
      ++ "PropertyChanged?.Invoke(this, new PropertyChangedEventArgs(propertyName));"]

/-- The lines by which a class can tell of changes, if it has any. -/
inductive NotificationText (options : EmitOptions) : List Mark → Prop where
  | silent : NotificationText options []
  | telling (on : options.notifyProperties = true) :
      NotificationText options (notificationTexts.map (.line .member))

/-- A whole class with its marker. -/
inductive ClassText (options : EmitOptions) : List Mark → Prop where
  | block {name inheritance : String} {isAbstract : Bool} {markers notification : List Mark}
      {members : List (List Mark)} (marked : Marked options .classMarker "DataContract" markers)
      (notified : NotificationText options notification)
      (each : ∀ member ∈ members, MemberText options member) :
      ClassText options (markers ++ .opens (.classText name)
        ("public" ++ (if isAbstract then " abstract" else "") ++ " class " ++ name ++ inheritance)
          :: (notification ++ members.flatten ++ [.closes]))

/-- The head of a file, up to the line that opens its namespace. -/
def fileHead (spaces : List String) (space : String) : List Mark :=
  spaces.map (fun name => .line .directive ("using " ++ name ++ ";")) ++
    [.line .gap "", .opens (.space space) ("namespace " ++ space)]

inductive FileText (options : EmitOptions) (space : String) : List Mark → Prop where
  | file {spaces : List String} {classes : List (List Mark)} (distinct : spaces.Nodup)
      (each : ∀ text ∈ classes, ClassText options text) :
      FileText options space (fileHead spaces space ++ (classes.flatten ++ [.closes]))

/-! ## What a writer writes -/

variable {writer : Writer}

/-- The directives that the options need have been written. -/
def Referenced (writer : Writer) : Prop :=
  ∀ space ∈ optionSpaces writer.options, space ∈ writer.references

theorem qualify_of_mem {space : String} (declared : space ∈ writer.references) (name : String) :
    writer.qualify space name = name := by
  simp [qualify, declared]

theorem includes_of_contract {marker : Marker} (contract : marker.options = ⟨true, false, false⟩) :
    writer.options.includes marker.options = writer.options.dataContracts := by
  simp [EmitOptions.includes, contract]

/-- With contracts a marker for them is one line, under its short name. -/
theorem markerMarks_of_contracts {marker : Marker} (referenced : writer.Referenced)
    (contract : marker.space = contractSpace ∧ marker.options = ⟨true, false, false⟩)
    (on : writer.options.dataContracts = true) (kind : LineKind) (arguments : Arguments) :
    writer.markerMarks kind [(marker, arguments)] =
      [.line kind (markerText marker.shortName arguments)] := by
  obtain ⟨space, options⟩ := contract
  have declared : marker.space ∈ writer.references :=
    referenced _ (by simp [optionSpaces, on, space])
  have text : writer.markerLine marker arguments = markerText marker.shortName arguments := by
    rw [markerLine, qualify_of_mem declared]
    rfl
  simp only [markerMarks, List.filter_cons, includes_of_contract options, on, if_true,
    List.filter_nil, List.map_cons, List.map_nil, text]

theorem marked_of_markers {marker : Marker} {name : String} (referenced : writer.Referenced)
    (contract : marker.space = contractSpace ∧ marker.options = ⟨true, false, false⟩)
    (short : marker.shortName = name) (kind : LineKind) (arguments : Arguments) :
    Marked writer.options kind name (writer.markerMarks kind [(marker, arguments)]) := by
  cases contracts : writer.options.dataContracts with
  | false =>
      simp only [markerMarks, List.filter_cons, includes_of_contract contract.2, contracts]
      exact .plain contracts
  | true =>
      rw [markerMarks_of_contracts referenced contract contracts, short]
      exact .marked contracts arguments

theorem Begins.append {opening text : String} (begins : Begins opening text) (more : String) :
    Begins opening (text ++ more) := by
  obtain ⟨rest, rfl⟩ := begins
  exact ⟨rest ++ more, String.append_assoc⟩

theorem registrationLine_begins (type name : String) :
    Begins "public static readonly " (writer.registrationLine type name) := by
  unfold registrationLine
  simp only [String.append_assoc]
  exact ⟨_, rfl⟩

theorem accessorLines_text (type name : String) :
    let lines := writer.accessorLines type name
    BackingText type name lines.1 ∧ Begins "get \x7b return " lines.2.1 ∧
      Begins "set \x7b " lines.2.2 := by
  have calling : Begins "get \x7b return " "get \x7b return (" := ⟨"(", by decide⟩
  have setting : Begins "set \x7b " "set \x7b SetValue(" := ⟨"SetValue(", by decide⟩
  have reading : Begins "get \x7b return " "get \x7b return _" := ⟨"_", by decide⟩
  have storing : Begins "set \x7b " "set \x7b _" := ⟨"_", by decide⟩
  unfold accessorLines
  dsimp only
  split
  · exact ⟨.registration (registrationLine_begins type name),
      (((calling.append _).append _).append _).append _,
      (((setting.append _).append _).append _).append _⟩
  · exact ⟨.field, (reading.append _).append _,
      (((storing.append _).append _).append _).append _⟩

theorem memberMarks_text (referenced : writer.Referenced) (type name : String)
    (arguments : Arguments) :
    MemberText writer.options (writer.memberMarks type name [(dataMember, arguments)]) := by
  have marked : Marked writer.options .memberMarker "DataMember"
      (writer.markerMarks .memberMarker [(dataMember, arguments)]) :=
    marked_of_markers referenced ⟨rfl, rfl⟩ (by decide) .memberMarker arguments
  unfold memberMarks
  split
  · next plain => exact .line (by simpa using plain) marked
  · next styled =>
      obtain ⟨backed, gets, sets⟩ := writer.accessorLines_text type name
      refine .block ?_ backed marked gets sets
      cases dependent : writer.options.dependencyProperties <;> simp_all

theorem notificationLines_text (referenced : writer.Referenced)
    (on : writer.options.notifyProperties = true) :
    writer.notificationLines = notificationTexts := by
  have declared : notificationSpace ∈ writer.references :=
    referenced _ (by simp [optionSpaces, on])
  simp only [notificationLines, qualify_of_mem declared]
  rfl

theorem opening_text (referenced : writer.Referenced) (name : String) (base : Option String)
    (isAbstract : Bool) :
    ∃ inheritance notification, NotificationText writer.options notification ∧
      Call.marks writer (.openType name base isAbstract []) =
        .opens (.classText name)
          ("public" ++ (if isAbstract then " abstract" else "") ++ " class " ++ name ++ inheritance)
          :: notification := by
  refine ⟨_, _, ?_, rfl⟩
  split
  · next notifying =>
      have on : writer.options.notifyProperties = true := by
        simpa using (Bool.and_eq_true_iff.mp notifying).2
      rw [notificationLines_text referenced on]
      exact .telling on
  · exact .silent

theorem At.of_blank {level : Level} {other : Writer} (here : At level writer)
    (same : other.blank = writer.blank) : At level other where
  unfinished := (congrArg Writer.finished same).trans here.unfinished
  level := (congrArg Writer.level same).trans here.level

/-- Directives for new names are all written. -/
theorem marksOf_declare {names : List String} (here : At .header writer) (distinct : names.Nodup)
    (fresh : ∀ name ∈ names, name ∉ writer.references) :
    writer.marksOf (names.map Call.declareReference) =
        names.map (fun name => .line .directive ("using " ++ name ++ ";")) ∧
      (writer.afterCalls (names.map Call.declareReference)).blank =
        { writer.blank with references := writer.references ++ names } := by
  induction names generalizing writer with
  | nil => exact ⟨rfl, by simp [afterCalls, blank]⟩
  | cons name rest ih =>
      have leads : Call.next? .header (.declareReference name) = some .header := rfl
      obtain ⟨accepted, there⟩ := here.accepts leads
      have unknown : writer.references.contains name = false := by
        simpa using fresh name (by simp)
      have known : (writer.accept (.declareReference name)).references =
          writer.references ++ [name] := by
        simp only [accept, Call.settled, unknown, Bool.false_eq_true, if_false]
      obtain ⟨absent, distinct⟩ := List.nodup_cons.mp distinct
      obtain ⟨marks, after⟩ := ih there distinct fun other member => by
        rw [known, List.mem_append, List.mem_singleton]
        rintro (earlier | rfl)
        · exact fresh other (List.mem_cons_of_mem _ member) earlier
        · exact absent member
      constructor
      · rw [List.map_cons, marksOf_cons_of_accepted accepted, marks]
        simp only [Call.marks, unknown, Bool.false_eq_true, if_false]
        rfl
      · rw [List.map_cons, afterCalls_cons, perform_of_accepted accepted, after, known]
        simp [accept, Call.settled, blank]

/-! ## Balance -/

theorem Balanced.append {first second : List Mark} (balanced : Balanced first)
    (rest : Balanced second) : Balanced (first ++ second) := by
  induction balanced with
  | nil => exact rest
  | line _ ih => exact .line ih
  | block inside _ _ ih =>
      rw [List.cons_append, List.append_assoc, List.cons_append]
      exact .block inside ih

theorem balanced_lines {β : Type} (kind : LineKind) (text : β → String) (items : List β) :
    Balanced (items.map fun item => .line kind (text item)) := by
  induction items with
  | nil => exact .nil
  | cons item rest ih => exact .line ih

theorem balanced_flatten {parts : List (List Mark)} (each : ∀ part ∈ parts, Balanced part) :
    Balanced parts.flatten := by
  induction parts with
  | nil => exact .nil
  | cons part rest ih =>
      exact (each part (by simp)).append (ih fun other member => each other (by simp [member]))

variable {options : EmitOptions} {marks : List Mark}

theorem Marked.balanced {kind : LineKind} {name : String}
    (marked : Marked options kind name marks) : Balanced marks := by
  cases marked with
  | plain off => exact .nil
  | marked on arguments => exact .line .nil

theorem MemberText.balanced (member : MemberText options marks) : Balanced marks := by
  cases member with
  | line plain marked => exact marked.balanced.append (.line .nil)
  | block styled backed marked =>
      exact .line (marked.balanced.append (.block (.line (.line .nil)) .nil))

theorem ClassText.balanced (text : ClassText options marks) : Balanced marks := by
  cases text with
  | block marked notified each =>
      have inside := balanced_flatten fun member listed => (each member listed).balanced
      refine marked.balanced.append (.block (.append ?_ inside) .nil)
      cases notified with
      | silent => exact .nil
      | telling on => exact balanced_lines .member (fun text => text) _

/-! ## Indentation -/

theorem indented_ne_brace (depth : Nat) (text : String) :
    indented "\t" (depth + 1) text ≠ "\x7d" := by
  have tab : indentation "\t" (depth + 1) = "\t" ++ indentation "\t" depth := by
    simp [indentation, List.replicate_succ]
  unfold indented
  split
  · decide
  · intro same
    have first := congrArg String.toList same
    rw [tab, String.append_assoc, String.toList_append] at first
    cases first

/-- Inside a block no line is a brace of the outermost block. -/
theorem Balanced.ne_brace (balanced : Balanced marks) (depth : Nat) {line : String}
    (written : line ∈ laidOut "\t" (depth + 1) marks) : line ≠ "\x7d" := by
  induction balanced generalizing depth with
  | nil => cases written
  | line _ ih =>
      rcases List.mem_cons.mp written with rfl | later
      · exact indented_ne_brace _ _
      · exact ih depth later
  | block inside _ inner next =>
      rw [laidOut, laidOut_append, inside.depthAfter_eq] at written
      simp only [List.mem_cons, List.mem_append, laidOut, Nat.add_sub_cancel] at written
      rcases written with rfl | rfl | within | rfl | later
      · exact indented_ne_brace _ _
      · exact indented_ne_brace _ _
      · exact inner (depth + 1) within
      · exact indented_ne_brace _ _
      · exact next depth later

end SchemaSharp.Writer
