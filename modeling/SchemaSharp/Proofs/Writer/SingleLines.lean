import SchemaSharp.Proofs.Text.Lines
import SchemaSharp.Proofs.Writer.HeaderOrder

/-!
What a writer writes on a single line. Nothing in its own words ends a line, and it passes on
whatever it is given; so each of its lines is read back as one exactly if no text that an accepted
operation was given holds a line end.
-/

namespace SchemaSharp.Writer

open Text (SingleLine singleLine_append singleLine_join singleLine_intercalate singleLine_ofList
  unbroken_flatMap_iff unbroken_cons unbroken_append unbroken_nil physicalLines
  physicalLines_joined_iff)

/-! ## Marks -/

def Mark.SingleLine : Mark → Prop
  | .line _ text => Text.SingleLine text
  | .opens _ head => Text.SingleLine head
  | .closes => True

theorem singleLine_indented {unit : String} (plain : SingleLine unit) (depth : Nat)
    (text : String) :
    SingleLine (indented unit depth text) ↔ SingleLine text := by
  unfold indented
  split
  · next empty =>
      rw [String.isEmpty_iff.mp empty]
  · have margin : SingleLine (indentation unit depth) := by
      refine singleLine_join.mpr fun part member => ?_
      rwa [List.eq_of_mem_replicate member]
    simp [margin]

theorem singleLine_laidOut {unit : String} (plain : SingleLine unit) (depth : Nat)
    (marks : List Mark) :
    (∀ line ∈ laidOut unit depth marks, SingleLine line) ↔ ∀ mark ∈ marks, mark.SingleLine := by
  have opening : SingleLine "\x7b" := by decide
  have closing : SingleLine "\x7d" := by decide
  induction marks generalizing depth with
  | nil => simp [laidOut]
  | cons mark rest ih =>
      cases mark <;>
        simp [laidOut, Mark.SingleLine, singleLine_indented plain, ih, opening, closing]

/-! ## Texts of operations -/

theorem singleLine_textLiteral (text : String) :
    SingleLine (textLiteral text) ↔ SingleLine text := by
  have escaped : ∀ c : Char, Text.Unbroken (if c == '\\' || c == '"' then ['\\', c] else [c]) ↔
      Text.isLineEnd c = false := by
    intro c
    have slash : Text.isLineEnd '\\' = false := by decide
    split <;> simp [slash]
  have quote : Text.isLineEnd '"' = false := by decide
  rw [textLiteral, singleLine_ofList]
  simp only [unbroken_append, unbroken_cons, quote, escapeLiteral, unbroken_flatMap_iff, escaped]
  simp [SingleLine, Text.Unbroken]

/-- A marker as it is written, whether a directive names its namespace or not. -/
def MarkerPlain (kind : Marker) (arguments : Arguments) : Prop :=
  SingleLine kind.space ∧ SingleLine kind.name ∧
    ∀ argument ∈ arguments, SingleLine argument.1 ∧ SingleLine argument.2.literal

theorem markerPlain_iff {kind : Marker} {arguments : Arguments} (space : SingleLine kind.space)
    (name : SingleLine kind.name) :
    MarkerPlain kind arguments ↔
      ∀ argument ∈ arguments, SingleLine argument.1 ∧ SingleLine argument.2.literal := by
  simp [MarkerPlain, space, name]

/-- No text that the operation puts into a line ends the line. -/
def Call.Plain (options : EmitOptions) : Call → Prop
  | .declareReference name => SingleLine name
  | .openNamespace name => SingleLine name
  | .openType name base _ interfaces =>
      SingleLine name ∧ (∀ text ∈ base, SingleLine text) ∧ ∀ text ∈ interfaces, SingleLine text
  | .writeMarker kind arguments =>
      options.includes kind.options = true → MarkerPlain kind arguments
  | .openMember type name => SingleLine type ∧ SingleLine name
  | .writeLine text => SingleLine text
  | .writeMember type name markers =>
      SingleLine type ∧ SingleLine name ∧ ∀ marked ∈ markers,
        options.includes marked.1.options = true → MarkerPlain marked.1 marked.2
  | .close => True
  | .finish => True

/-- What the writer was given earlier and writes again is on single lines. -/
structure Tidy (writer : Writer) : Prop where
  references : ∀ space ∈ writer.references, SingleLine space
  currentType : ∀ name ∈ writer.currentType, SingleLine name

variable {writer : Writer}

theorem singleLine_shortName (marker : Marker) :
    SingleLine marker.shortName ↔ SingleLine marker.name := by
  unfold Marker.shortName
  dsimp only
  split
  · next ends =>
      obtain ⟨front, whole⟩ := List.isSuffixOf_iff_suffix.mp ends
      have ending : Text.Unbroken "Attribute".toList := by decide
      rw [singleLine_ofList, SingleLine, ← whole, unbroken_append, List.length_append,
        Nat.add_sub_cancel, List.take_left]
      exact ⟨fun plain => ⟨plain, ending⟩, fun plain => plain.1⟩
  · rfl

/-- A namespace that a directive names is not written, but it was written before. -/
theorem singleLine_qualify (tidy : writer.Tidy) (space name : String) :
    SingleLine (writer.qualify space name) ↔ SingleLine space ∧ SingleLine name := by
  unfold qualify
  split
  · next known =>
      simp [tidy.references space (List.contains_iff_mem.mp known)]
  · simp +decide

theorem singleLine_renderArguments (arguments : Arguments) :
    SingleLine (renderArguments arguments) ↔
      ∀ argument ∈ arguments, SingleLine argument.1 ∧ SingleLine argument.2.literal := by
  rw [renderArguments, singleLine_intercalate (by decide), List.forall_mem_map]
  simp +decide

theorem singleLine_markerLine (tidy : writer.Tidy) (kind : Marker) (arguments : Arguments) :
    SingleLine (writer.markerLine kind arguments) ↔ MarkerPlain kind arguments := by
  have named := singleLine_qualify tidy kind.space kind.shortName
  have rendered := singleLine_renderArguments arguments
  unfold markerLine MarkerPlain
  dsimp only
  split
  · next empty =>
      rw [String.isEmpty_iff.mp empty] at rendered
      have plain := rendered.mp (by decide)
      rw [← and_assoc, and_iff_left plain]
      simp +decide [named, singleLine_shortName]
  · simp +decide [named, singleLine_shortName, rendered, and_assoc]

theorem singleLine_markerMarks (tidy : writer.Tidy) (kind : LineKind)
    (markers : List (Marker × Arguments)) :
    (∀ mark ∈ writer.markerMarks kind markers, mark.SingleLine) ↔
      ∀ marked ∈ markers, writer.options.includes marked.1.options = true →
        MarkerPlain marked.1 marked.2 := by
  rw [markerMarks, List.forall_mem_map]
  simp only [List.mem_filter, Mark.SingleLine, singleLine_markerLine tidy, and_imp]

theorem singleLine_scaffoldingBases (tidy : writer.Tidy) :
    ∀ base ∈ writer.scaffoldingBases, SingleLine base := by
  have dependent : SingleLine (writer.qualify dependencySpace "DependencyObject") :=
    (singleLine_qualify tidy _ _).mpr (by decide)
  have notifying : SingleLine (writer.qualify notificationSpace "INotifyPropertyChanged") :=
    (singleLine_qualify tidy _ _).mpr (by decide)
  intro base member
  unfold scaffoldingBases at member
  rcases List.mem_append.mp member with first | second
  · split at first
    · rwa [List.mem_singleton.mp first]
    · cases first
  · split at second
    · rwa [List.mem_singleton.mp second]
    · cases second

/-- The line of a class with these bases. -/
theorem singleLine_heading (name : String) (isAbstract : Bool) (bases : List String) :
    SingleLine ("public" ++ (if isAbstract then " abstract" else "") ++ " class " ++ name ++
      (if bases.isEmpty then "" else " : " ++ ", ".intercalate bases)) ↔
        SingleLine name ∧ ∀ base ∈ bases, SingleLine base := by
  have qualifier : SingleLine (if isAbstract then " abstract" else "") := by
    cases isAbstract <;> decide
  have inherited : SingleLine (if bases.isEmpty then "" else " : " ++ ", ".intercalate bases) ↔
      ∀ base ∈ bases, SingleLine base := by
    cases bases with
    | nil => simp +decide
    | cons first rest =>
        rw [List.isEmpty_cons, if_neg Bool.false_ne_true, singleLine_append,
          singleLine_intercalate (by decide)]
        exact and_iff_right (by decide)
  simp only [singleLine_append, qualifier, inherited]
  simp +decide

theorem singleLine_classLine (tidy : writer.Tidy) (name : String) (base : Option String)
    (isAbstract : Bool) (interfaces : List String) :
    SingleLine (writer.classLine name base isAbstract interfaces) ↔
      SingleLine name ∧ (∀ text ∈ base, SingleLine text) ∧
        ∀ text ∈ interfaces, SingleLine text := by
  have scaffolding := singleLine_scaffoldingBases tidy
  unfold classLine
  dsimp only
  rw [singleLine_heading, List.forall_mem_append]
  refine and_congr_right fun _ => and_congr_left fun _ => ?_
  cases base with
  | none => simpa using scaffolding
  | some text =>
      dsimp only
      split
      · next empty =>
          rw [String.isEmpty_iff.mp empty]
          exact iff_of_true scaffolding (by simp +decide)
      · simp

theorem singleLine_notificationLines (tidy : writer.Tidy) :
    ∀ line ∈ writer.notificationLines, SingleLine line := by
  simp +decide [notificationLines, singleLine_qualify tidy]

theorem singleLine_accessorLines (tidy : writer.Tidy) {type name : String}
    (typed : SingleLine type) (named : SingleLine name) :
    let lines := writer.accessorLines type name
    SingleLine lines.1 ∧ SingleLine lines.2.1 ∧ SingleLine lines.2.2 := by
  have owner : SingleLine (writer.currentType.getD "None") := by
    cases current : writer.currentType with
    | none => decide
    | some owner => exact tidy.currentType owner current
  have registry : SingleLine (writer.qualify dependencySpace "DependencyProperty") :=
    (singleLine_qualify tidy _ _).mpr (by decide)
  have raising : SingleLine (if writer.options.notifyProperties then
      " OnPropertyChanged(nameof(" ++ name ++ "));" else "") := by
    split
    · simp +decide [named]
    · decide
  unfold accessorLines registrationLine
  dsimp only
  split
  · simp +decide [typed, named, owner, registry, raising]
  · simp +decide [typed, named, raising]

theorem singleLine_memberMarks (tidy : writer.Tidy) (type name : String)
    (markers : List (Marker × Arguments)) :
    (∀ mark ∈ writer.memberMarks type name markers, mark.SingleLine) ↔
      Call.Plain writer.options (.writeMember type name markers) := by
  have marked := singleLine_markerMarks tidy .memberMarker markers
  unfold memberMarks Call.Plain
  split
  · rw [List.forall_mem_append, marked]
    simp +decide [Mark.SingleLine, propertyLine, and_comm, and_assoc]
  · rw [List.forall_mem_append, List.forall_mem_cons, marked]
    simp only [List.forall_mem_cons, Mark.SingleLine, singleLine_append]
    constructor
    · rintro ⟨⟨_, plain⟩, ⟨⟨⟨_, typed⟩, _⟩, named⟩, _⟩
      exact ⟨typed, named, plain⟩
    · rintro ⟨typed, named, plain⟩
      obtain ⟨backing, getter, setter⟩ := singleLine_accessorLines tidy typed named
      refine ⟨⟨backing, plain⟩, ⟨⟨⟨by decide, typed⟩, by decide⟩, named⟩, getter, setter, trivial,
        ?_⟩
      simp

/-- What an operation writes is on single lines exactly if it was given nothing else. -/
theorem singleLine_marks (tidy : writer.Tidy) (call : Call) :
    (∀ mark ∈ call.marks writer, mark.SingleLine) ↔ call.Plain writer.options := by
  cases call with
  | declareReference name =>
      rw [Call.marks, Call.Plain]
      split
      · next known =>
          exact iff_of_true (by simp) (tidy.references name (List.contains_iff_mem.mp known))
      · simp +decide [Mark.SingleLine]
  | openNamespace name => simp +decide [Call.marks, Call.Plain, Mark.SingleLine]
  | openType name base isAbstract interfaces =>
      rw [Call.marks, Call.Plain, List.forall_mem_cons, Mark.SingleLine,
        singleLine_classLine tidy]
      apply and_iff_left
      split
      · rw [List.forall_mem_map]
        exact singleLine_notificationLines tidy
      · simp
  | writeMarker kind arguments =>
      rw [Call.marks, Call.Plain, singleLine_markerMarks tidy]
      simp
  | openMember type name => simp +decide [Call.marks, Call.Plain, Mark.SingleLine]
  | writeLine text => simp [Call.marks, Call.Plain, Mark.SingleLine]
  | writeMember type name markers => exact singleLine_memberMarks tidy type name markers
  | close => simp [Call.marks, Call.Plain, Mark.SingleLine]
  | finish =>
      refine iff_of_true (fun mark member => ?_) trivial
      rw [Call.marks] at member
      split at member
      · cases member
      · rw [List.eq_of_mem_replicate member]
        trivial

/-! ## Lines -/

variable {options : EmitOptions} {unit : String} {calls : List Call}

/-- A writer has the classes whose opening was done. -/
theorem mem_types_iff_done {name : String} :
    name ∈ ((start options unit).afterCalls calls).types ↔
      ∃ base isAbstract interfaces,
        Done (start options unit) calls (.openType name base isAbstract interfaces) := by
  refine (remembered_iff_done (fun writer => name ∈ writer.types)
    (fun call => ∃ base isAbstract interfaces, call = .openType name base isAbstract interfaces)
    (by simp [start]) fun writer call _ => ?_).trans ?_
  · rw [types_accept]
    cases call with
    | openType opened base isAbstract interfaces => simp [eq_comm]
    | _ => simp
  · constructor
    · rintro ⟨_, ⟨base, isAbstract, interfaces, rfl⟩, done⟩
      exact ⟨base, isAbstract, interfaces, done⟩
    · rintro ⟨base, isAbstract, interfaces, done⟩
      exact ⟨_, ⟨base, isAbstract, interfaces, rfl⟩, done⟩

theorem tidy_of_plain (plain : ∀ call, Done (start options unit) calls call → call.Plain options) :
    ((start options unit).afterCalls calls).Tidy where
  references space member := plain _ (mem_references_iff_done.mp member)
  currentType name current := by
    have formed := (formed_start options unit).afterCalls calls
    rw [formed.oriented.current] at current
    split at current
    · obtain ⟨base, isAbstract, interfaces, done⟩ :=
        mem_types_iff_done.mp (List.mem_of_getLast? current)
      exact (plain _ done).1
    · cases current

theorem options_accept (call : Call) (writer : Writer) :
    (writer.accept call).options = writer.options := by
  cases call with
  | finish => cases finished : writer.finished <;> simp [accept, Call.settled, finished]
  | _ => rfl

theorem options_afterCalls (calls : List Call) (writer : Writer) :
    (writer.afterCalls calls).options = writer.options := by
  induction calls generalizing writer with
  | nil => rfl
  | cons call rest ih =>
      rw [afterCalls_cons, ih, perform_eq, outcome]
      cases call.refusal? writer with
      | some fault => rfl
      | none => exact options_accept call writer

/-- All lines are single ones exactly if all that was done was given nothing else. -/
theorem singleLine_lines_iff (plain : SingleLine unit) :
    (∀ line ∈ ((start options unit).afterCalls calls).lines, SingleLine line) ↔
      ∀ call, Done (start options unit) calls call → call.Plain options := by
  induction calls using List.reverseRecOn with
  | nil => exact iff_of_true (by simp [afterCalls, start]) fun _ done => absurd done not_done_nil
  | append_singleton calls last ih =>
      simp only [afterCalls_concat, perform_eq, outcome, done_concat]
      cases refused : last.refusal? ((start options unit).afterCalls calls) with
      | some fault => simpa using ih
      | none =>
          have formed := (formed_start options unit).afterCalls calls
          have written : ((start options unit).afterCalls calls).Tidy →
              ((∀ line ∈ laidOut unit ((start options unit).afterCalls calls).level.depth
                  (last.marks ((start options unit).afterCalls calls)), SingleLine line) ↔
                last.Plain options) := by
            intro tidy
            rw [singleLine_laidOut plain, singleLine_marks tidy, options_afterCalls]
            rfl
          dsimp only
          rw [accept, append, formed.indent, List.forall_mem_append, ih]
          constructor
          · rintro ⟨before, now⟩ call (done | ⟨rfl, -⟩)
            · exact before call done
            · exact (written (tidy_of_plain before)).mp now
          · intro each
            have before call (done : Done (start options unit) calls call) := each call (.inl done)
            exact ⟨before, (written (tidy_of_plain before)).mpr (each last (.inr ⟨rfl, rfl⟩))⟩

/-- Each line is read back as it was written exactly if all that was done was given single lines. -/
theorem physicalLines_text_iff (plain : SingleLine unit) :
    let writer := (start options unit).afterCalls calls
    physicalLines writer.text = writer.lines ++ [""] ↔
      ∀ call, Done (start options unit) calls call → call.Plain options :=
  (physicalLines_joined_iff _).trans (singleLine_lines_iff plain)

end SchemaSharp.Writer
