import SchemaSharp.Proofs.Writer.Marks

/-!
Whatever is asked of a writer, its lines form blocks that are properly nested, each line and block
at the one depth where it may stand, and the writer knows where it is.
-/

namespace SchemaSharp.Writer

/-! ## Nested marks -/

/-- Marks that lead from one depth to another, with every line and block where it belongs. -/
inductive Nested : Nat → List Mark → Nat → Prop where
  | nil {depth : Nat} : Nested depth [] depth
  | line {depth : Nat} {kind : LineKind} {text : String} {rest : List Mark} {after : Nat}
      (here : depth = kind.depth) (next : Nested depth rest after) :
      Nested depth (.line kind text :: rest) after
  | opens {depth : Nat} {kind : BlockKind} {head : String} {rest : List Mark} {after : Nat}
      (here : depth = kind.depth) (next : Nested (depth + 1) rest after) :
      Nested depth (.opens kind head :: rest) after
  | closes {depth : Nat} {rest : List Mark} {after : Nat} (next : Nested depth rest after) :
      Nested (depth + 1) (.closes :: rest) after

/-- Marks that close every block they open, and no other. -/
inductive Balanced : List Mark → Prop where
  | nil : Balanced []
  | line {kind : LineKind} {text : String} {rest : List Mark} (next : Balanced rest) :
      Balanced (.line kind text :: rest)
  | block {kind : BlockKind} {head : String} {inner rest : List Mark} (inside : Balanced inner)
      (next : Balanced rest) : Balanced (.opens kind head :: (inner ++ .closes :: rest))

variable {marks first second : List Mark} {before middle after : Nat}

theorem Nested.append (nested : Nested before first middle) (there : Nested middle second after) :
    Nested before (first ++ second) after := by
  induction nested with
  | nil => exact there
  | line here _ ih => exact .line here (ih there)
  | opens here _ ih => exact .opens here (ih there)
  | closes _ ih => exact .closes (ih there)

theorem Nested.split (nested : Nested before (first ++ second) after) :
    ∃ middle, Nested before first middle ∧ Nested middle second after := by
  induction first generalizing before with
  | nil => exact ⟨before, .nil, nested⟩
  | cons mark rest ih =>
      cases nested with
      | line here next =>
          obtain ⟨middle, front, back⟩ := ih next
          exact ⟨middle, .line here front, back⟩
      | opens here next =>
          obtain ⟨middle, front, back⟩ := ih next
          exact ⟨middle, .opens here front, back⟩
      | closes next =>
          obtain ⟨middle, front, back⟩ := ih next
          exact ⟨middle, .closes front, back⟩

theorem Nested.depthAfter_eq (nested : Nested before marks after) :
    depthAfter before marks = after := by
  induction nested with
  | nil => rfl
  | line _ _ ih => exact ih
  | opens _ _ ih => exact ih
  | closes _ ih => exact ih

theorem Balanced.depthAfter_eq (balanced : Balanced marks) (depth : Nat) :
    depthAfter depth marks = depth := by
  induction balanced generalizing depth with
  | nil => rfl
  | line _ ih => exact ih depth
  | block _ _ inside next =>
      rw [depthAfter, depthAfter_append, inside, depthAfter, Nat.add_sub_cancel, next]

theorem Nested.le_three (nested : Nested before marks after) (shallow : before ≤ 3) :
    after ≤ 3 := by
  induction nested with
  | nil => exact shallow
  | line _ _ ih => exact ih shallow
  | @opens _ kind _ _ _ here _ ih =>
      refine ih ?_
      rw [here]
      cases kind <;> simp [BlockKind.depth]
  | closes _ ih => exact ih (by omega)

/-- The blocks that were opened and not closed are as many as the depth has grown by. -/
theorem Nested.unclosed (nested : Nested before marks after) :
    before + marks.countP Mark.isOpening = after + marks.countP Mark.isClosing := by
  induction nested with
  | nil => rfl
  | line _ _ ih => simpa [Mark.isOpening, Mark.isClosing] using ih
  | opens _ _ ih =>
      simp [List.countP_cons, Mark.isOpening, Mark.isClosing] at ih ⊢
      omega
  | closes _ ih =>
      simp [Mark.isOpening, Mark.isClosing] at ih ⊢
      omega

/-- Marks that lead below the depth they start from close the innermost block somewhere, and up to
there they are balanced. -/
theorem Nested.closing (length : Nat) (bound : marks.length ≤ length)
    (nested : Nested (before + 1) marks after) (lower : after ≤ before) :
    ∃ inner rest, marks = inner ++ .closes :: rest ∧ Balanced inner ∧ Nested before rest after := by
  induction length generalizing marks before with
  | zero =>
      obtain rfl := List.eq_nil_of_length_eq_zero (Nat.le_zero.mp bound)
      cases nested
      omega
  | succ length ih =>
      cases nested with
      | nil => omega
      | line _ next =>
          obtain ⟨inner, rest, rfl, balanced, out⟩ := ih (Nat.le_of_succ_le_succ bound) next lower
          exact ⟨_ :: inner, rest, rfl, .line balanced, out⟩
      | closes next => exact ⟨[], _, rfl, .nil, next⟩
      | @opens _ kind head _ _ _ next =>
          have short := Nat.le_of_succ_le_succ bound
          -- The block that is opened here is closed first; behind it the same search goes on.
          obtain ⟨inside, others, rfl, closed, back⟩ := ih short next (by omega)
          have shorter : others.length ≤ length := by
            simp only [List.length_append, List.length_cons] at short
            omega
          obtain ⟨inner, rest, rfl, balanced, out⟩ := ih shorter back lower
          exact ⟨.opens kind head :: (inside ++ .closes :: inner), rest, by simp,
            .block closed balanced, out⟩

theorem Nested.balanced (length : Nat) (bound : marks.length ≤ length)
    (nested : Nested 0 marks 0) : Balanced marks := by
  induction length generalizing marks with
  | zero =>
      obtain rfl := List.eq_nil_of_length_eq_zero (Nat.le_zero.mp bound)
      exact .nil
  | succ length ih =>
      cases nested with
      | nil => exact .nil
      | line _ next => exact .line (ih (Nat.le_of_succ_le_succ bound) next)
      | opens _ next =>
          have short := Nat.le_of_succ_le_succ bound
          obtain ⟨inside, rest, rfl, closed, back⟩ := next.closing length short (Nat.le_refl 0)
          refine .block closed (ih ?_ back)
          simp only [List.length_append, List.length_cons] at short
          omega

/-! ## Marks of an operation -/

theorem nested_lines {β : Type} (kind : LineKind) (text : β → String) (items : List β) :
    Nested kind.depth (items.map fun item => .line kind (text item)) kind.depth := by
  induction items with
  | nil => exact .nil
  | cons item rest ih => exact .line rfl ih

theorem nested_markerMarks (writer : Writer) (kind : LineKind)
    (markers : List (Marker × Arguments)) :
    Nested kind.depth (writer.markerMarks kind markers) kind.depth :=
  nested_lines kind _ _

theorem nested_memberMarks (writer : Writer) (type name : String)
    (markers : List (Marker × Arguments)) :
    Nested 2 (writer.memberMarks type name markers) 2 := by
  have above := nested_markerMarks writer .memberMarker markers
  unfold memberMarks
  split
  · exact above.append (.line rfl .nil)
  · exact .line rfl (above.append (.opens rfl (.line rfl (.line rfl (.closes .nil)))))

theorem nested_closings (depth : Nat) : Nested depth (List.replicate depth .closes) 0 := by
  induction depth with
  | zero => exact .nil
  | succ depth ih => exact .closes ih

variable {writer : Writer} {call : Call}

/-- An operation that is not refused goes on at the depth of the writer and leads to the one that
the writer has then. -/
theorem Call.nested (accepted : call.refusal? writer = none) :
    Nested writer.level.depth (call.marks writer) (writer.accept call).level.depth := by
  cases call with
  | declareReference name =>
      have level := (misplaced?_eq_none.mp accepted).2
      simp only [accept, settled, marks, level]
      split
      · exact .nil
      · exact .line rfl .nil
  | openNamespace name =>
      have level := (misplaced?_eq_none.mp (Option.or_eq_none_iff.mp accepted).1).2
      simp only [accept, settled, marks, level]
      exact .line rfl (.opens rfl .nil)
  | openType name base isAbstract interfaces =>
      have level := (misplaced?_eq_none.mp accepted).2
      simp only [accept, settled, marks, level]
      refine .opens rfl ?_
      split
      · exact nested_lines .member (fun text => text) _
      · exact .nil
  | writeMarker kind arguments =>
      have level : writer.level = .namespaceBody ∨ writer.level = .classBody := by
        refine Decidable.byContradiction fun elsewhere => ?_
        simp [refusal?, elsewhere] at accepted
      simp only [accept, settled, marks]
      rcases level with level | level <;> rw [level]
      · exact nested_markerMarks writer .classMarker [(kind, arguments)]
      · exact nested_markerMarks writer .memberMarker [(kind, arguments)]
  | openMember type name =>
      have level := (misplaced?_eq_none.mp accepted).2
      simp only [accept, settled, marks, level]
      exact .opens rfl .nil
  | writeLine text =>
      have level := (misplaced?_eq_none.mp accepted).2
      simp only [accept, settled, marks, level]
      exact .line rfl .nil
  | writeMember type name markers =>
      have level := (misplaced?_eq_none.mp accepted).2
      simp only [accept, settled, marks, level]
      exact nested_memberMarks writer type name markers
  | close =>
      have inside : writer.level ≠ .header := by
        intro outside
        cases finished : writer.finished <;> simp [refusal?, outside, finished] at accepted
      simp only [accept, settled, marks]
      cases level : writer.level with
      | header => exact absurd level inside
      | namespaceBody | classBody | memberBody => exact .closes .nil
  | finish =>
      simp only [accept, settled, marks]
      split
      · exact .nil
      · exact nested_closings _

/-- What can only be read off the opening of a namespace or a class. -/
structure Telling (read : Mark → Option String) : Prop where
  line : ∀ kind text, read (.line kind text) = none
  property : ∀ head, read (.opens .property head) = none
  closes : read .closes = none

theorem Telling.lines {read : Mark → Option String} {β : Type} (telling : Telling read)
    (kind : LineKind) (text : β → String) (items : List β) :
    (items.map fun item => Mark.line kind (text item)).filterMap read = [] := by
  simp [telling.line]

theorem Telling.memberMarks {read : Mark → Option String} (telling : Telling read)
    (type name : String) (markers : List (Marker × Arguments)) (writer : Writer) :
    (writer.memberMarks type name markers).filterMap read = [] := by
  have above : (writer.markerMarks .memberMarker markers).filterMap read = [] :=
    telling.lines _ _ _
  unfold Writer.memberMarks
  split <;> simp [above, telling.line, telling.property, telling.closes]

/-- Operations but the two that open a namespace or a class tell nothing. -/
theorem Telling.of_call {read : Mark → Option String} (telling : Telling read) (call : Call)
    (writer : Writer) :
    (call.marks writer).filterMap read =
      match call with
      | .openNamespace name => (read (.opens (.space name) ("namespace " ++ name))).toList
      | .openType name base isAbstract interfaces =>
          (read (.opens (.classText name)
            (writer.classLine name base isAbstract interfaces))).toList
      | _ => [] := by
  cases call with
  | declareReference name =>
      simp only [Call.marks]
      split <;> simp [telling.line]
  | openNamespace name =>
      simp only [Call.marks, List.filterMap_cons, telling.line, List.filterMap_nil]
      cases read _ <;> rfl
  | openType name base isAbstract interfaces =>
      have inside : (if (base.isNone && writer.options.notifyProperties) = true then
          writer.notificationLines.map (Mark.line .member) else []).filterMap read = [] := by
        split
        · exact telling.lines .member (fun text => text) _
        · rfl
      simp only [Call.marks, List.filterMap_cons, inside]
      cases read _ <;> rfl
  | writeMarker kind arguments => exact telling.lines _ _ _
  | openMember type name => simp [Call.marks, telling.property]
  | writeLine text => simp [Call.marks, telling.line]
  | writeMember type name markers => exact telling.memberMarks type name markers writer
  | close => simp [Call.marks, telling.closes]
  | finish =>
      simp only [Call.marks]
      split <;> simp [telling.closes]

theorem openedSpace?_telling : Telling Mark.openedSpace? := ⟨fun _ _ => rfl, fun _ => rfl, rfl⟩

theorem openedClass?_telling : Telling Mark.openedClass? := ⟨fun _ _ => rfl, fun _ => rfl, rfl⟩

/-! ## Any operations -/

/-- The marks of operations one after the other; an operation that is refused has none. -/
def marksOf : Writer → List Call → List Mark
  | _, [] => []
  | writer, call :: rest =>
      (if (call.refusal? writer).isNone then call.marks writer else [])
        ++ marksOf (writer.perform call).2 rest

/-- A writer that knows where it is: in its namespace, in the class it opened last, or neither. -/
structure Oriented (writer : Writer) : Prop where
  space : 1 ≤ writer.level.depth → writer.space.isSome
  types : 2 ≤ writer.level.depth → writer.types ≠ []
  current : writer.currentType = if 2 ≤ writer.level.depth then writer.types.getLast? else none
  outside : writer.finished → writer.level = .header

theorem Oriented.accept (oriented : Oriented writer) (accepted : call.refusal? writer = none) :
    Oriented (writer.accept call) := by
  cases call with
  | declareReference name => exact ⟨oriented.space, oriented.types, oriented.current, oriented.outside⟩
  | openNamespace name =>
      have here := misplaced?_eq_none.mp (Option.or_eq_none_iff.mp accepted).1
      have outside := oriented.current
      constructor <;> simp_all [Writer.accept, Call.settled, Level.depth]
  | openType name base isAbstract interfaces =>
      have here := misplaced?_eq_none.mp accepted
      have known := oriented.space
      constructor <;> simp_all [Writer.accept, Call.settled, Level.depth]
  | writeMarker kind arguments =>
      exact ⟨oriented.space, oriented.types, oriented.current, oriented.outside⟩
  | openMember type name =>
      have here := misplaced?_eq_none.mp accepted
      obtain ⟨space, types, current, outside⟩ := oriented
      constructor <;> simp_all [Writer.accept, Call.settled, Level.depth]
  | writeLine text => exact ⟨oriented.space, oriented.types, oriented.current, oriented.outside⟩
  | writeMember type name markers =>
      exact ⟨oriented.space, oriented.types, oriented.current, oriented.outside⟩
  | close =>
      obtain ⟨space, types, current, outside⟩ := oriented
      cases level : writer.level <;>
        constructor <;>
          simp_all [Writer.accept, Call.settled, Call.refusal?, Level.depth, Level.outer]
  | finish =>
      obtain ⟨space, types, current, outside⟩ := oriented
      cases finished : writer.finished <;>
      constructor <;> simp_all [Writer.accept, Call.settled, Level.depth]

/-- A writer that has written the marks, and knows where they have led. -/
structure Formed (unit : String) (writer : Writer) (marks : List Mark) : Prop where
  indent : writer.indent = unit
  lines : writer.lines = laidOut unit 0 marks
  nested : Nested 0 marks writer.level.depth
  space : marks.filterMap Mark.openedSpace? = writer.space.toList
  types : marks.filterMap Mark.openedClass? = writer.types
  oriented : Oriented writer

theorem formed_start (options : EmitOptions) (unit : String) :
    Formed unit (start options unit) [] where
  indent := rfl
  lines := rfl
  nested := .nil
  space := rfl
  types := rfl
  oriented := by constructor <;> simp [start, Level.depth]

/-- Only the opening of a namespace changes the namespace. -/
theorem space_accept (call : Call) (writer : Writer) :
    (writer.accept call).space =
      match call with
      | .openNamespace name => some name
      | _ => writer.space := by
  cases call with
  | finish => cases finished : writer.finished <;> simp [Writer.accept, Call.settled, finished]
  | _ => rfl

theorem types_accept (call : Call) (writer : Writer) :
    (writer.accept call).types =
      match call with
      | .openType name _ _ _ => writer.types ++ [name]
      | _ => writer.types := by
  cases call with
  | finish => cases finished : writer.finished <;> simp [Writer.accept, Call.settled, finished]
  | _ => rfl

theorem indent_accept (call : Call) (writer : Writer) :
    (writer.accept call).indent = writer.indent := by
  cases call with
  | finish => cases finished : writer.finished <;> simp [Writer.accept, Call.settled, finished]
  | _ => rfl

variable {unit : String}

theorem Formed.accept (formed : Formed unit writer marks)
    (accepted : call.refusal? writer = none) :
    Formed unit (writer.accept call) (marks ++ call.marks writer) where
  indent := (indent_accept call writer).trans formed.indent
  lines := by
    rw [laidOut_append, formed.nested.depthAfter_eq, ← formed.lines, ← formed.indent]
    rfl
  nested := formed.nested.append (Call.nested accepted)
  space := by
    rw [List.filterMap_append, formed.space, openedSpace?_telling.of_call, space_accept]
    cases call with
    | openNamespace name =>
        have unset : writer.space = none := by
          simpa using (Option.or_eq_none_iff.mp accepted).2
        simp [Mark.openedSpace?, unset]
    | openType name base isAbstract interfaces => simp [Mark.openedSpace?]
    | _ => simp
  types := by
    rw [List.filterMap_append, formed.types, openedClass?_telling.of_call, types_accept]
    cases call with
    | openNamespace name => simp [Mark.openedClass?]
    | openType name base isAbstract interfaces => simp [Mark.openedClass?]
    | _ => simp
  oriented := formed.oriented.accept accepted

theorem Formed.afterCalls (formed : Formed unit writer marks) (calls : List Call) :
    Formed unit (writer.afterCalls calls) (marks ++ writer.marksOf calls) := by
  induction calls generalizing writer marks with
  | nil => simpa [Writer.afterCalls, marksOf] using formed
  | cons call rest ih =>
      change Formed unit ((writer.perform call).2.afterCalls rest) _
      rw [marksOf, ← List.append_assoc]
      refine ih ?_
      rw [perform_eq, outcome]
      cases refused : call.refusal? writer with
      | some fault => simpa using formed
      | none => exact formed.accept refused

theorem finish_afterCalls (calls : List Call) (oriented : Oriented (writer.afterCalls calls)) :
    (writer.afterCalls (calls ++ [.finish])).finished = true ∧
      (writer.afterCalls (calls ++ [.finish])).level = .header := by
  have ended : writer.afterCalls (calls ++ [.finish]) =
      (writer.afterCalls calls).accept .finish := by
    simp [afterCalls, perform_eq, outcome, Call.refusal?]
  rw [ended]
  cases finished : (writer.afterCalls calls).finished with
  | true => simp [accept, Call.settled, finished, oriented.outside finished]
  | false => simp [accept, Call.settled, finished]

/-- An opened block is closed at the depth at which it was opened. -/
theorem Nested.pair {kind : BlockKind} {head : String} {outer rest : List Mark}
    (nested : Nested 0 (outer ++ .opens kind head :: rest) 0) :
    ∃ inner others, rest = inner ++ .closes :: others ∧ Balanced inner ∧
      laidOut unit 0 (outer ++ .opens kind head :: rest) =
        laidOut unit 0 outer ++ indented unit kind.depth head :: indented unit kind.depth "\x7b" ::
          (laidOut unit (kind.depth + 1) inner ++
            indented unit kind.depth "\x7d" :: laidOut unit kind.depth others) := by
  obtain ⟨depth, before, opened⟩ := nested.split
  cases opened with
  | opens here next =>
      obtain ⟨inner, others, rfl, balanced, out⟩ := next.closing _ (Nat.le_refl _) (Nat.zero_le _)
      refine ⟨inner, others, rfl, balanced, ?_⟩
      rw [laidOut_append, before.depthAfter_eq, here, laidOut, laidOut_append,
        balanced.depthAfter_eq, laidOut, Nat.add_sub_cancel]

/-- Whatever is asked of a new writer, refusals included, it has written nested blocks, each line at
its depth and indented by it, and it is as deep as there are blocks to be closed; in its namespace
if it is in any block, and in the class it opened last if it is in a class. After a finish every
block is closed, its braces at the same indentation. -/
theorem calls_write_nested_blocks (options : EmitOptions) (unit : String) (calls : List Call) :
    let begun := start options unit
    let writer := begun.afterCalls calls
    let marks := begun.marksOf calls
    let ended := begun.afterCalls (calls ++ [.finish])
    let all := begun.marksOf (calls ++ [.finish])
    (Formed unit writer marks ∧
      marks.countP Mark.isOpening = marks.countP Mark.isClosing + writer.level.depth) ∧
    Formed unit ended all ∧ ended.finished ∧ ended.level = .header ∧
      Balanced all ∧ (∀ front, front <+: all → depthAfter 0 front ≤ 3) ∧
        (all.filterMap Mark.openedSpace?).length ≤ 1 ∧
          ∀ outer kind head rest, all = outer ++ .opens kind head :: rest →
            ∃ inner others, rest = inner ++ .closes :: others ∧ Balanced inner ∧
              ended.lines =
                laidOut unit 0 outer ++ indented unit kind.depth head ::
                  indented unit kind.depth "\x7b" :: (laidOut unit (kind.depth + 1) inner ++
                    indented unit kind.depth "\x7d" :: laidOut unit kind.depth others) := by
  intro begun writer marks ended all
  have formed : Formed unit writer marks := by
    simpa using (formed_start options unit).afterCalls calls
  have whole : Formed unit ended all := by
    simpa using (formed_start options unit).afterCalls (calls ++ [.finish])
  obtain ⟨finished, level⟩ := finish_afterCalls calls formed.oriented
  -- a finish leads back to the header, where no block is open
  have closed : Nested 0 all 0 := by
    have nested := whole.nested
    rwa [level] at nested
  refine ⟨⟨formed, ?_⟩, whole, finished, level, closed.balanced _ (Nat.le_refl _), ?_, ?_, ?_⟩
  · have unclosed := formed.nested.unclosed
    omega
  · rintro front ⟨back, same⟩
    rw [← same] at closed
    obtain ⟨depth, before, _⟩ := closed.split
    rw [before.depthAfter_eq]
    exact before.le_three (Nat.zero_le 3)
  · rw [whole.space]
    cases ended.space <;> simp
  · intro outer kind head rest same
    rw [same] at closed
    rw [whole.lines, same]
    exact closed.pair

end SchemaSharp.Writer
