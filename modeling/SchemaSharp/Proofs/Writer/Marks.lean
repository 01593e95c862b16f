import SchemaSharp.Writer

/-!
What the operations of a writer do, without their steps. Each of them either is refused and leaves
the writer as it is, or writes lines whose part in the source file is known. These parts, with the
blocks they open and close, are the marks of an operation; how a mark is laid out depends on the
depth it is met at and on nothing else.
-/

namespace SchemaSharp.Writer

/-! ## Marks -/

inductive LineKind where
  | directive
  | gap
  | classMarker
  | memberMarker
  | member
  | accessor
  deriving DecidableEq, Repr

inductive BlockKind where
  | space (name : String)
  | classText (name : String)
  | property
  deriving DecidableEq, Repr

/-- One write: a line by itself, the line and the brace that open a block, or a closing brace. -/
inductive Mark where
  | line (kind : LineKind) (text : String)
  | opens (kind : BlockKind) (head : String)
  | closes
  deriving DecidableEq, Repr

/-- The only depth at which such a line may stand. -/
def LineKind.depth : LineKind → Nat
  | .directive | .gap => 0
  | .classMarker => 1
  | .memberMarker | .member => 2
  | .accessor => 3

/-- The only depth at which such a block may be opened. -/
def BlockKind.depth : BlockKind → Nat
  | .space _ => 0
  | .classText _ => 1
  | .property => 2

def Mark.isOpening : Mark → Bool
  | .opens _ _ => true
  | _ => false

def Mark.isClosing (mark : Mark) : Bool := mark == .closes

/-- The namespace that a mark opens. -/
def Mark.openedSpace? : Mark → Option String
  | .opens (.space name) _ => some name
  | _ => none

/-- The class that a mark opens. -/
def Mark.openedClass? : Mark → Option String
  | .opens (.classText name) _ => some name
  | _ => none

/-- An empty line has no indentation. -/
def indented (unit : String) (depth : Nat) (text : String) : String :=
  if text.isEmpty then "" else indentation unit depth ++ text

/-- The depth that marks lead to. -/
def depthAfter : Nat → List Mark → Nat
  | depth, [] => depth
  | depth, .line _ _ :: rest => depthAfter depth rest
  | depth, .opens _ _ :: rest => depthAfter (depth + 1) rest
  | depth, .closes :: rest => depthAfter (depth - 1) rest

/-- The lines of marks, from a depth on. Both braces of a block stand at the depth outside it. -/
def laidOut (unit : String) : Nat → List Mark → List String
  | _, [] => []
  | depth, .line _ text :: rest => indented unit depth text :: laidOut unit depth rest
  | depth, .opens _ head :: rest =>
      indented unit depth head :: indented unit depth "\x7b" :: laidOut unit (depth + 1) rest
  | depth, .closes :: rest =>
      indented unit (depth - 1) "\x7d" :: laidOut unit (depth - 1) rest

theorem depthAfter_append (depth : Nat) (first second : List Mark) :
    depthAfter depth (first ++ second) = depthAfter (depthAfter depth first) second := by
  induction first generalizing depth with
  | nil => rfl
  | cons mark rest ih => cases mark <;> exact ih _

theorem laidOut_append (unit : String) (depth : Nat) (first second : List Mark) :
    laidOut unit depth (first ++ second) =
      laidOut unit depth first ++ laidOut unit (depthAfter depth first) second := by
  induction first generalizing depth with
  | nil => rfl
  | cons mark rest ih => cases mark <;> simp [laidOut, depthAfter, ih]

theorem depthAfter_lines {β : Type} (kind : LineKind) (text : β → String) (items : List β)
    (depth : Nat) : depthAfter depth (items.map fun item => .line kind (text item)) = depth := by
  induction items with
  | nil => rfl
  | cons item rest ih => exact ih

/-! ## Marks of an operation -/

def markerMarks (writer : Writer) (kind : LineKind) (markers : List (Marker × Arguments)) :
    List Mark :=
  (markers.filter fun (marker, _) => writer.options.includes marker.options).map
    fun (marker, arguments) => .line kind (writer.markerLine marker arguments)

theorem depthAfter_markerMarks (kind : LineKind) (markers : List (Marker × Arguments))
    (writer : Writer) (depth : Nat) :
    depthAfter depth (writer.markerMarks kind markers) = depth :=
  depthAfter_lines kind _ _ depth

def memberMarks (writer : Writer) (type name : String) (markers : List (Marker × Arguments)) :
    List Mark :=
  if !writer.options.dependencyProperties && !writer.options.notifyProperties then
    writer.markerMarks .memberMarker markers ++ [.line .member (propertyLine type name)]
  else
    let (backing, getter, setter) := writer.accessorLines type name
    .line .member backing :: writer.markerMarks .memberMarker markers ++
      [.opens .property ("public " ++ type ++ " " ++ name), .line .accessor getter,
        .line .accessor setter, .closes]

namespace Call

/-- Why a writer that has to be at a certain level refuses. -/
def misplaced? (required : Level) (writer : Writer) : Option WriterFault :=
  if writer.finished then some .finished
  else if writer.level = required then none
  else some (.wrongLevel writer.level required)

/-- Why the writer refuses an operation. -/
def refusal? (writer : Writer) : Call → Option WriterFault
  | .declareReference _ => misplaced? .header writer
  | .openNamespace _ => (misplaced? .header writer).or (writer.space.map .namespaceOpen)
  | .openType _ _ _ _ => misplaced? .namespaceBody writer
  | .writeMarker _ _ =>
      if writer.level = .namespaceBody ∨ writer.level = .classBody then
        if writer.finished then some .finished else none
      else some (.noMarkerHere writer.level)
  | .openMember _ _ => misplaced? .classBody writer
  | .writeLine _ => misplaced? .memberBody writer
  | .writeMember _ _ _ => misplaced? .classBody writer
  | .close =>
      if writer.finished then some .finished
      else if writer.level = .header then some .nothingOpen
      else none
  | .finish => none

/-- What an operation writes that is not refused. -/
def marks (writer : Writer) : Call → List Mark
  | .declareReference name =>
      if writer.references.contains name then [] else [.line .directive ("using " ++ name ++ ";")]
  | .openNamespace name => [.line .gap "", .opens (.space name) ("namespace " ++ name)]
  | .openType name base isAbstract interfaces =>
      .opens (.classText name) (writer.classLine name base isAbstract interfaces) ::
        if base.isNone && writer.options.notifyProperties then
          writer.notificationLines.map (.line .member)
        else []
  | .writeMarker kind arguments =>
      writer.markerMarks (if writer.level = .namespaceBody then .classMarker else .memberMarker)
        [(kind, arguments)]
  | .openMember type name => [.opens .property ("public " ++ type ++ " " ++ name)]
  | .writeLine text => [.line .accessor text]
  | .writeMember type name markers => writer.memberMarks type name markers
  | .close => [.closes]
  | .finish => if writer.finished then [] else List.replicate writer.level.depth .closes

/-- The writer after an operation that is not refused, but for its lines. -/
def settled (writer : Writer) : Call → Writer
  | .declareReference name =>
      { writer with
        references :=
          if writer.references.contains name then writer.references
          else writer.references ++ [name] }
  | .openNamespace name => { writer with space := some name, level := .namespaceBody }
  | .openType name _ _ _ =>
      { writer with
        level := .classBody
        types := writer.types ++ [name]
        currentType := some name }
  | .openMember _ _ => { writer with level := .memberBody }
  | .close =>
      { writer with
        level := writer.level.outer
        currentType := if writer.level.outer = .namespaceBody then none else writer.currentType }
  | .finish =>
      if writer.finished then writer
      else
        { writer with
          level := .header
          currentType := if 2 ≤ writer.level.depth then none else writer.currentType
          finished := true }
  | .writeMarker _ _ | .writeLine _ | .writeMember _ _ _ => writer

end Call

variable {writer : Writer}

/-- The writer with more lines, which go on from its depth. -/
def append (marks : List Mark) (writer : Writer) : Writer :=
  { writer with lines := writer.lines ++ laidOut writer.indent writer.level.depth marks }

/-- The writer after an operation that is not refused. -/
def accept (writer : Writer) (call : Call) : Writer :=
  { call.settled writer with lines := (writer.append (call.marks writer)).lines }

theorem notificationLines_classBody (types : List String) (currentType : Option String)
    (lines : List String) :
    { writer with
      level := .classBody
      types := types
      currentType := currentType
      lines := lines : Writer }.notificationLines = writer.notificationLines := by
  unfold notificationLines qualify
  rfl

theorem markerLine_lines (lines : List String) (marker : Marker) (arguments : Arguments) :
    { writer with lines := lines : Writer }.markerLine marker arguments =
      writer.markerLine marker arguments := by
  unfold markerLine qualify
  rfl

theorem markerMarks_lines (lines : List String) (kind : LineKind)
    (markers : List (Marker × Arguments)) :
    { writer with lines := lines : Writer }.markerMarks kind markers =
      writer.markerMarks kind markers := by
  simp only [markerMarks, markerLine_lines]

/-! ## Steps -/

variable {α β : Type}

theorem run_bind (step : Step α) (next : α → Step β) (writer : Writer) :
    ((step >>= next).run).run writer =
      match step.run.run writer with
      | (.ok value, middle) => (next value).run.run middle
      | (.error fault, middle) => (.error fault, middle) := by
  change (StateT.bind step.run (ExceptT.bindCont next)).run writer = _
  unfold StateT.run StateT.bind
  simp only [bind]
  cases step.run writer with
  | mk result middle => cases result <;> rfl

theorem run_discard (step : Step α) (writer : Writer) :
    ((discard step).run).run writer =
      match step.run.run writer with
      | (.ok _, after) => (.ok (), after)
      | (.error fault, after) => (.error fault, after) := by
  change ((step >>= fun _ => pure ()).run).run writer = _
  rw [run_bind]
  rfl

@[simp] theorem run_pure (value : α) (writer : Writer) :
    ((pure value : Step α).run).run writer = (.ok value, writer) := rfl

@[simp] theorem run_get (writer : Writer) :
    ((get : Step Writer).run).run writer = (.ok writer, writer) := rfl

@[simp] theorem run_modify (update : Writer → Writer) (writer : Writer) :
    ((modify update : Step PUnit).run).run writer = (.ok ⟨⟩, update writer) := rfl

@[simp] theorem run_setLevel (level : Level) (writer : Writer) :
    ((setLevel level).run).run writer = (.ok (), { writer with level := level }) := rfl

@[simp] theorem run_writeText (text : String) (writer : Writer) :
    ((writeText text).run).run writer =
      (.ok (), { writer with
        lines := writer.lines ++ [indented writer.indent writer.level.depth text] }) := rfl

theorem run_requireOpen (writer : Writer) :
    (requireOpen.run).run writer =
      (if writer.finished then .error .finished else .ok (), writer) := by
  cases writer with
  | mk options indent level space types references currentType finished lines =>
      cases finished <;> rfl

theorem run_requireLevel (required : Level) (writer : Writer) :
    ((requireLevel required).run).run writer =
      ((Call.misplaced? required writer).elim (.ok ()) .error, writer) := by
  cases writer with
  | mk options indent level space types references currentType finished lines =>
      cases finished <;> cases level <;> cases required <;> rfl

theorem misplaced?_eq_none {required : Level} :
    Call.misplaced? required writer = none ↔ writer.finished = false ∧ writer.level = required := by
  unfold Call.misplaced?
  cases writer.finished <;> simp

theorem run_writeRendered (kind : LineKind) (marker : Marker) (arguments : Arguments)
    (writer : Writer) :
    ((writeRendered marker arguments).run).run writer =
      (.ok (), writer.append [.line kind (writer.markerLine marker arguments)]) := by
  unfold writeRendered
  simp only [run_bind, run_get, run_writeText, append, laidOut]

/-- Steps that write one line each, which does not depend on the lines before. -/
theorem run_forM {items : List β} {step : β → Step Unit} (kind : LineKind)
    (line : Writer → β → String)
    (each : ∀ writer item,
      ((step item).run).run writer = (.ok (), writer.append [.line kind (line writer item)]))
    (same : ∀ writer marks item, line (writer.append marks) item = line writer item)
    (writer : Writer) :
    ((items.forM step).run).run writer =
      (.ok (), writer.append (items.map fun item => .line kind (line writer item))) := by
  induction items generalizing writer with
  | nil => exact congrArg (Prod.mk _) (by simp [append, laidOut])
  | cons item rest ih =>
      change ((step item >>= fun _ => rest.forM step).run).run writer = _
      rw [run_bind, each]
      refine (ih _).trans (congrArg (Prod.mk _) ?_)
      simp only [same]
      simp [append, laidOut]

theorem run_writeTexts (kind : LineKind) (texts : List String) (writer : Writer) :
    ((texts.forM writeText).run).run writer =
      (.ok (), writer.append (texts.map (.line kind))) :=
  run_forM kind (fun _ text => text) (fun _ _ => rfl) (fun _ _ _ => rfl) writer

theorem run_writeEnabled (kind : LineKind) (markers : List (Marker × Arguments))
    (writer : Writer) :
    ((writeEnabled markers).run).run writer =
      (.ok (), writer.append (writer.markerMarks kind markers)) := by
  unfold writeEnabled markerMarks
  rw [run_bind, run_get]
  dsimp only
  apply run_forM kind (fun writer (marked : Marker × Arguments) =>
    writer.markerLine marked.1 marked.2)
  · rintro writer ⟨marker, arguments⟩
    exact run_writeRendered kind marker arguments writer
  · exact fun writer marks marked => markerLine_lines _ marked.1 marked.2

/-! ## Operations -/

/-- What becomes of an operation. -/
def outcome (call : Call) (writer : Writer) : Except WriterFault Unit × Writer :=
  match call.refusal? writer with
  | some fault => (.error fault, writer)
  | none => (.ok (), writer.accept call)

theorem outcome_of_accepted {call : Call} (accepted : call.refusal? writer = none) :
    writer.outcome call = (.ok (), writer.accept call) := by
  rw [outcome, accepted]

theorem perform_declareReference (name : String) (writer : Writer) :
    writer.perform (.declareReference name) = writer.outcome (.declareReference name) := by
  unfold perform Call.step declareReference outcome
  simp only [Call.refusal?, run_bind, run_requireLevel]
  cases Call.misplaced? .header writer with
  | some fault => rfl
  | none =>
      by_cases known : writer.references.contains name = true
      · simp only [known, run_get, Option.elim, if_true, accept, Call.settled, Call.marks, append,
          laidOut, List.append_nil]
        rfl
      · simp only [known, run_get, Option.elim, Bool.false_eq_true, if_false, run_bind, run_modify,
          run_writeText]
        simp [-List.contains_eq_mem, known, accept, Call.settled, Call.marks, append, laidOut]

theorem perform_openNamespace (name : String) (writer : Writer) :
    writer.perform (.openNamespace name) = writer.outcome (.openNamespace name) := by
  unfold perform Call.step openNamespace outcome
  simp only [Call.refusal?, run_bind, run_requireLevel]
  cases Call.misplaced? .header writer with
  | some fault => rfl
  | none =>
      cases opened : writer.space with
      | some known =>
          simp only [run_bind, run_get, Option.elim, opened]
          rfl
      | none =>
        simp only [run_bind, run_get, Option.elim, opened, run_writeText, run_modify]
        simp [accept, Call.settled, Call.marks, append, laidOut]

theorem perform_openType (name : String) (base : Option String) (isAbstract : Bool)
    (interfaces : List String) (writer : Writer) :
    writer.perform (.openType name base isAbstract interfaces) =
      writer.outcome (.openType name base isAbstract interfaces) := by
  unfold perform Call.step openType outcome
  simp only [Call.refusal?, run_discard, run_bind, run_requireLevel]
  cases here : Call.misplaced? .namespaceBody writer with
  | some fault => rfl
  | none =>
      have level := (misplaced?_eq_none.mp here).2
      cases notifying : base.isNone && writer.options.notifyProperties with
      | true =>
          simp only [run_bind, run_get, Option.elim, run_writeText, run_modify, notifying, if_true,
            run_writeTexts .member, run_pure]
          rw [notificationLines_classBody]
          simp [accept, append, Call.settled, Call.marks, laidOut, notifying, level, Level.depth]
      | false =>
          simp only [run_get, Option.elim, run_writeText, run_modify, notifying, accept, append,
            Call.settled, Call.marks, laidOut]
          simp
          rfl

theorem perform_writeMarker (kind : Marker) (arguments : Arguments) (writer : Writer) :
    writer.perform (.writeMarker kind arguments) =
      writer.outcome (.writeMarker kind arguments) := by
  unfold perform Call.step writeMarker outcome
  simp only [Call.refusal?, run_bind, run_get]
  by_cases here : writer.level = .namespaceBody ∨ writer.level = .classBody
  · have passed : (writer.level != .namespaceBody && writer.level != .classBody) = false := by
      rcases here with level | level <;> rw [level] <;> rfl
    simp only [here, if_true, passed]
    cases unfinished : writer.finished with
    | true => simp only [Bool.false_eq_true, if_false, run_bind, run_requireOpen, unfinished, if_true]
    | false =>
        simp only [Bool.false_eq_true, if_false, run_bind, run_requireOpen, unfinished, run_get]
        cases enabled : writer.options.includes kind.options with
        | true =>
            rw [if_pos rfl, run_writeRendered
              (if writer.level = .namespaceBody then .classMarker else .memberMarker)]
            simp [accept, Call.settled, Call.marks, markerMarks, enabled, append]
        | false =>
            rw [if_neg Bool.false_ne_true, run_pure]
            simp [accept, Call.settled, Call.marks, markerMarks, enabled, append, laidOut]
  · have stopped : (writer.level != .namespaceBody && writer.level != .classBody) = true := by
      simpa [not_or] using here
    simp only [here, if_false, stopped, if_true]
    rfl

theorem perform_openMember (type name : String) (writer : Writer) :
    writer.perform (.openMember type name) = writer.outcome (.openMember type name) := by
  unfold perform Call.step openMember outcome
  simp only [Call.refusal?, run_bind, run_requireLevel]
  cases Call.misplaced? .classBody writer with
  | some fault => rfl
  | none => simp [accept, append, Call.settled, Call.marks, laidOut]

theorem perform_writeLine (text : String) (writer : Writer) :
    writer.perform (.writeLine text) = writer.outcome (.writeLine text) := by
  unfold perform Call.step writeLine outcome
  simp only [Call.refusal?, run_bind, run_requireLevel]
  cases Call.misplaced? .memberBody writer with
  | some fault => rfl
  | none => simp [accept, append, Call.settled, Call.marks, laidOut]

theorem perform_close (writer : Writer) : writer.perform .close = writer.outcome .close := by
  cases writer with
  | mk options indent level space types references currentType finished lines =>
      cases finished <;> cases level <;> rfl

/-- The block of a property, from the inside of a class. -/
theorem run_property (type name getter setter : String) (writer : Writer)
    (unfinished : writer.finished = false) (level : writer.level = .classBody) :
    ((do
        openMember type name
        writeLine getter
        writeLine setter
        close : Step Unit).run).run writer =
      (.ok (), writer.append
        [.opens .property ("public " ++ type ++ " " ++ name), .line .accessor getter,
          .line .accessor setter, .closes]) := by
  have opened : ((openMember type name).run).run writer =
      (.ok (), writer.accept (.openMember type name)) :=
    (perform_openMember type name writer).trans
      (outcome_of_accepted (misplaced?_eq_none.mpr ⟨unfinished, level⟩))
  have wrote : ∀ (text : String) (inner : Writer), inner.finished = false →
      inner.level = .memberBody →
        ((writeLine text).run).run inner = (.ok (), inner.accept (.writeLine text)) :=
    fun text inner unfinished level =>
      (perform_writeLine text inner).trans
        (outcome_of_accepted (misplaced?_eq_none.mpr ⟨unfinished, level⟩))
  simp only [run_bind, opened]
  rw [wrote getter (writer.accept (.openMember type name)) unfinished rfl]
  dsimp only
  rw [wrote setter ((writer.accept (.openMember type name)).accept (.writeLine getter))
    unfinished rfl]
  refine (perform_close _).trans ((outcome_of_accepted ?_).trans ?_)
  · simp [Call.refusal?, accept, Call.settled, unfinished]
  · simp [accept, Call.settled, Call.marks, append, laidOut, level, Level.depth, Level.outer]

theorem perform_writeMember (type name : String) (markers : List (Marker × Arguments))
    (writer : Writer) :
    writer.perform (.writeMember type name markers) =
      writer.outcome (.writeMember type name markers) := by
  unfold perform Call.step writeMember outcome
  simp only [Call.refusal?, run_bind, run_requireLevel]
  cases here : Call.misplaced? .classBody writer with
  | some fault => rfl
  | none =>
      obtain ⟨unfinished, level⟩ := misplaced?_eq_none.mp here
      -- a property on one line, or a field with two accessors
      cases plain : !writer.options.dependencyProperties && !writer.options.notifyProperties with
      | true =>
          simp only [Option.elim, run_get, plain, if_true, run_bind, run_writeEnabled .memberMarker,
            run_writeText]
          simp [accept, Call.settled, Call.marks, memberMarks, plain, append, laidOut_append,
            laidOut, depthAfter_markerMarks]
      | false =>
          simp only [Option.elim, run_get, plain, Bool.false_eq_true, if_false]
          rw [run_bind, run_get]
          dsimp only
          rw [run_bind, run_writeText]
          dsimp only
          rw [run_bind, run_writeEnabled .memberMarker]
          dsimp only
          rw [markerMarks_lines]
          refine (run_property _ _ _ _ _ ?_ ?_).trans ?_
          · exact unfinished
          · exact level
          · simp [accept, Call.settled, Call.marks, memberMarks, plain, append, laidOut_append,
              laidOut, depthAfter_markerMarks]

theorem depth_outer (level : Level) : level.outer.depth = level.depth - 1 := by
  cases level <;> rfl

theorem run_closeBlocks (depth : Nat) (writer : Writer) (unfinished : writer.finished = false)
    (level : writer.level.depth = depth) :
    ((closeBlocks depth).run).run writer =
      (.ok (), { writer with
        level := .header
        currentType := if 2 ≤ depth then none else writer.currentType
        lines := writer.lines ++ laidOut writer.indent depth (List.replicate depth .closes) }) := by
  induction depth generalizing writer with
  | zero =>
      have outside : writer.level = .header := by
        cases here : writer.level <;> simp_all [Level.depth]
      rw [closeBlocks, run_pure]
      simp [laidOut, ← outside]
  | succ depth ih =>
      have inside : writer.level ≠ .header := by
        rintro outside
        rw [outside] at level
        cases level
      have closed : (close.run).run writer = (.ok (), writer.accept .close) :=
        (perform_close writer).trans
          (outcome_of_accepted (by simp [Call.refusal?, unfinished, inside]))
      rw [closeBlocks, run_bind, closed]
      refine (ih (writer.accept .close) unfinished ?_).trans ?_
      · exact (depth_outer writer.level).trans (by rw [level]; rfl)
      · cases here : writer.level <;> rw [here] at level <;> cases level <;>
          simp [accept, Call.settled, Call.marks, append, laidOut, here, Level.outer, Level.depth]

theorem perform_finish (writer : Writer) : writer.perform .finish = writer.outcome .finish := by
  unfold perform Call.step finish outcome
  simp only [Call.refusal?, run_bind, run_get]
  cases unfinished : writer.finished with
  | true =>
      rw [if_pos rfl, run_pure]
      cases writer with
      | mk options indent level space types references currentType finished lines =>
          subst unfinished
          simp [accept, Call.settled, Call.marks, append, laidOut]
  | false =>
      simp only [Bool.false_eq_true, if_false, run_bind, run_closeBlocks _ writer unfinished rfl,
        run_modify, run_get]
      simp [accept, Call.settled, Call.marks, unfinished, append]

/-- An operation is refused and changes nothing, or it is done as a whole. -/
theorem perform_eq (call : Call) (writer : Writer) :
    writer.perform call = writer.outcome call := by
  cases call with
  | declareReference name => exact perform_declareReference name writer
  | openNamespace name => exact perform_openNamespace name writer
  | openType name base isAbstract interfaces =>
      exact perform_openType name base isAbstract interfaces writer
  | writeMarker kind arguments => exact perform_writeMarker kind arguments writer
  | openMember type name => exact perform_openMember type name writer
  | writeLine text => exact perform_writeLine text writer
  | writeMember type name markers => exact perform_writeMember type name markers writer
  | close => exact perform_close writer
  | finish => exact perform_finish writer

end SchemaSharp.Writer
