import SchemaSharp.Proofs.Writer.Nesting

/-!
Operations in their place. Where an operation leads is known from the level alone, so that a series
of operations can be checked without its writer; and what one writes depends on the options and the
directives only, which stay the same below the header.
-/

namespace SchemaSharp.Writer

/-- The level that an operation leads to, if it is in its place. The opening of a namespace is not
among them: it depends on the writer whether there is one already. -/
def Call.next? : Level → Call → Option Level
  | .header, .declareReference _ => some .header
  | .namespaceBody, .openType _ _ _ _ => some .classBody
  | .namespaceBody, .writeMarker _ _ => some .namespaceBody
  | .classBody, .writeMarker _ _ => some .classBody
  | .classBody, .writeMember _ _ _ => some .classBody
  | .classBody, .openMember _ _ => some .memberBody
  | .memberBody, .writeLine _ => some .memberBody
  | .namespaceBody, .close => some .header
  | .classBody, .close => some .namespaceBody
  | .memberBody, .close => some .classBody
  | _, _ => none

/-- The level that operations one after the other lead to. -/
def levelAfter? : Level → List Call → Option Level
  | level, [] => some level
  | level, call :: rest => (call.next? level).bind fun next => levelAfter? next rest

theorem levelAfter?_append (level : Level) (first second : List Call) :
    levelAfter? level (first ++ second) =
      (levelAfter? level first).bind fun next => levelAfter? next second := by
  induction first generalizing level with
  | nil => rfl
  | cons call rest ih => simp [levelAfter?, ih, Option.bind_assoc]

/-- A writer at work on a level. -/
structure At (level : Level) (writer : Writer) : Prop where
  unfinished : writer.finished = false
  level : writer.level = level

variable {writer other : Writer} {level next : Level}

theorem At.accepts {call : Call} (here : At level writer) (leads : call.next? level = some next) :
    call.refusal? writer = none ∧ At next (writer.accept call) := by
  obtain ⟨unfinished, rfl⟩ := here
  cases call <;> cases level : writer.level <;> rw [level] at leads <;> cases leads <;>
    simp [Call.refusal?, Call.misplaced?, unfinished, level] <;>
      constructor <;> simp [accept, Call.settled, unfinished, level, Level.outer]

theorem afterCalls_cons (call : Call) (rest : List Call) (writer : Writer) :
    writer.afterCalls (call :: rest) = (writer.perform call).2.afterCalls rest := rfl

theorem afterCalls_append (first second : List Call) (writer : Writer) :
    writer.afterCalls (first ++ second) = (writer.afterCalls first).afterCalls second :=
  List.foldl_append

theorem marksOf_append (first second : List Call) (writer : Writer) :
    writer.marksOf (first ++ second) =
      writer.marksOf first ++ (writer.afterCalls first).marksOf second := by
  induction first generalizing writer with
  | nil => rfl
  | cons call rest ih => simp [marksOf, afterCalls_cons, ih]

theorem perform_of_accepted {call : Call} (accepted : call.refusal? writer = none) :
    writer.perform call = (.ok (), writer.accept call) := by
  rw [perform_eq, outcome_of_accepted accepted]

theorem marksOf_cons_of_accepted {call : Call} (accepted : call.refusal? writer = none)
    (rest : List Call) :
    writer.marksOf (call :: rest) = call.marks writer ++ (writer.accept call).marksOf rest := by
  rw [marksOf, accepted, perform_of_accepted accepted]
  rfl

theorem At.afterCalls {calls : List Call} (here : At level writer)
    (leads : levelAfter? level calls = some next) :
    At next (writer.afterCalls calls) ∧
      Nested level.depth (writer.marksOf calls) next.depth := by
  induction calls generalizing writer level with
  | nil =>
      cases leads
      exact ⟨here, .nil⟩
  | cons call rest ih =>
      obtain ⟨middle, first, leads⟩ := Option.bind_eq_some_iff.mp leads
      obtain ⟨accepted, there⟩ := here.accepts first
      obtain ⟨last, nested⟩ := ih there leads
      rw [marksOf_cons_of_accepted accepted, afterCalls_cons, perform_of_accepted accepted]
      refine ⟨last, Nested.append ?_ nested⟩
      rw [← here.level, ← there.level]
      exact Call.nested accepted

/-! ## What the marks depend on -/

/-- A writer without its indentation, its classes and its lines, which make no difference to what
it writes from now on. -/
def blank (writer : Writer) : Writer := { writer with indent := "", types := [], lines := [] }

theorem qualify_blank (space name : String) :
    writer.blank.qualify space name = writer.qualify space name := rfl

theorem markerLine_blank (marker : Marker) (arguments : Arguments) :
    writer.blank.markerLine marker arguments = writer.markerLine marker arguments := by
  unfold markerLine
  rw [qualify_blank]

theorem markerMarks_blank (kind : LineKind) (markers : List (Marker × Arguments)) :
    writer.blank.markerMarks kind markers = writer.markerMarks kind markers := by
  unfold markerMarks
  simp only [markerLine_blank]
  rfl

theorem scaffoldingBases_blank : writer.blank.scaffoldingBases = writer.scaffoldingBases := by
  unfold scaffoldingBases
  simp only [qualify_blank]
  rfl

theorem classLine_blank (name : String) (base : Option String) (isAbstract : Bool)
    (interfaces : List String) :
    writer.blank.classLine name base isAbstract interfaces =
      writer.classLine name base isAbstract interfaces := by
  unfold classLine
  rw [scaffoldingBases_blank]

theorem notificationLines_blank : writer.blank.notificationLines = writer.notificationLines := by
  unfold notificationLines
  simp only [qualify_blank]

theorem registrationLine_blank (type name : String) :
    writer.blank.registrationLine type name = writer.registrationLine type name := by
  unfold registrationLine
  rw [qualify_blank]
  rfl

theorem accessorLines_blank (type name : String) :
    writer.blank.accessorLines type name = writer.accessorLines type name := by
  unfold accessorLines
  rw [registrationLine_blank]
  rfl

theorem memberMarks_blank (type name : String) (markers : List (Marker × Arguments)) :
    writer.blank.memberMarks type name markers = writer.memberMarks type name markers := by
  unfold memberMarks
  simp only [markerMarks_blank, accessorLines_blank]
  rfl

theorem refusal?_blank (call : Call) : call.refusal? writer.blank = call.refusal? writer := by
  cases call <;> rfl

theorem marks_blank (call : Call) : call.marks writer.blank = call.marks writer := by
  cases call <;> simp only [Call.marks, markerMarks_blank, memberMarks_blank, classLine_blank,
    notificationLines_blank] <;> rfl

theorem blank_accept (call : Call) :
    (writer.accept call).blank = (writer.blank.accept call).blank := by
  cases call with
  | finish => cases finished : writer.finished <;> simp [accept, Call.settled, blank, finished]
  | _ => rfl

/-- Writers that differ in nothing else write the same. -/
theorem marksOf_congr {first second : Writer} (same : first.blank = second.blank)
    (calls : List Call) :
    first.marksOf calls = second.marksOf calls ∧
      (first.afterCalls calls).blank = (second.afterCalls calls).blank := by
  induction calls generalizing first second with
  | nil => exact ⟨rfl, same⟩
  | cons call rest ih =>
      have refusal : call.refusal? first = call.refusal? second := by
        rw [← refusal?_blank, same, refusal?_blank]
      have marks : call.marks first = call.marks second := by
        rw [← marks_blank, same, marks_blank]
      have after : (first.perform call).2.blank = (second.perform call).2.blank := by
        rw [perform_eq, perform_eq, outcome, outcome, refusal]
        cases call.refusal? second with
        | some fault => exact same
        | none => exact (blank_accept call).trans (by rw [same, ← blank_accept])
      rw [marksOf, marksOf, refusal, marks, afterCalls_cons, afterCalls_cons, (ih after).1]
      exact ⟨rfl, (ih after).2⟩

end SchemaSharp.Writer
