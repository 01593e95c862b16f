import SchemaSharp.Proofs.Writer.Misuse

/-!
The order of directives and the namespace. A directive is only written at the level of the header,
and a writer that has closed its namespace is at that level again: what it does not remember then is
that the namespace stands above. So the directives come first exactly in those series of calls that
do not ask for a new one in between.
-/

namespace SchemaSharp.Writer

def Mark.isDirective : Mark → Bool
  | .line .directive _ => true
  | _ => false

/-- No directive stands behind the opening of a namespace. -/
def DirectivesFirst (marks : List Mark) : Prop :=
  marks.Pairwise fun earlier later => earlier.openedSpace?.isSome → later.isDirective = false

instance : DecidablePred DirectivesFirst :=
  fun _ => inferInstanceAs (Decidable (List.Pairwise _ _))

/-- A new reference is asked for behind the namespace: it was opened, everything is closed again,
and the writing is not ended. -/
structure Belated (begun : Writer) (calls : List Call) (name : String) : Prop where
  opened : ∃ space, Done begun calls (.openNamespace space)
  closed : (begun.afterCalls calls).level = .header
  unfinished : ¬ Done begun calls .finish
  fresh : ¬ Done begun calls (.declareReference name)

variable {begun writer : Writer} {calls : List Call} {call last : Call} {options : EmitOptions}
  {unit : String}

theorem marksOf_single (call : Call) (writer : Writer) :
    writer.marksOf [call] =
      if (call.refusal? writer).isNone then call.marks writer else [] := by
  simp [marksOf]

theorem isDirective_marks :
    (∃ mark ∈ call.marks writer, mark.isDirective) ↔
      ∃ name, call = .declareReference name ∧ name ∉ writer.references := by
  cases call with
  | declareReference name =>
      by_cases known : name ∈ writer.references <;> simp [Call.marks, known, Mark.isDirective]
  | openNamespace name => simp [Call.marks, Mark.isDirective]
  | openType name base isAbstract interfaces =>
      simp only [Call.marks]
      split <;> simp [Mark.isDirective]
  | writeMarker kind arguments =>
      simp only [Call.marks, markerMarks]
      split <;> simp [Mark.isDirective]
  | openMember type name => simp [Call.marks, Mark.isDirective]
  | writeLine text => simp [Call.marks, Mark.isDirective]
  | writeMember type name markers =>
      simp only [Call.marks, memberMarks, markerMarks]
      split
      · simp [Mark.isDirective]
      · simp only [List.mem_append, List.mem_cons, List.mem_map, List.not_mem_nil, or_false]
        refine iff_of_false ?_ (by simp)
        rintro ⟨mark, (rfl | ⟨marker, -, rfl⟩) | rfl | rfl | rfl | rfl, directive⟩ <;> cases directive
  | close => simp [Call.marks, Mark.isDirective]
  | finish =>
      simp only [Call.marks]
      split <;> simp [Mark.isDirective]

/-- Only the declaration of a reference that is not known writes a directive, in the header. -/
theorem writes_directive_iff :
    (∃ mark ∈ writer.marksOf [call], mark.isDirective) ↔
      ∃ name, call = .declareReference name ∧ writer.finished = false ∧ writer.level = .header ∧
        name ∉ writer.references := by
  rw [marksOf_single]
  cases refused : call.refusal? writer with
  | some fault =>
      refine iff_of_false (by simp) ?_
      rintro ⟨name, rfl, unfinished, level, -⟩
      have accepted : Call.refusal? writer (.declareReference name) = none :=
        misplaced?_eq_none.mpr ⟨unfinished, level⟩
      rw [accepted] at refused
      cases refused
  | none =>
      refine isDirective_marks.trans (exists_congr fun name => and_congr_right ?_)
      rintro rfl
      obtain ⟨unfinished, level⟩ := misplaced?_eq_none.mp refused
      simp [unfinished, level]

/-- The marks of one operation are in order: the one that opens a namespace has no directive. -/
theorem directivesFirst_single (call : Call) (writer : Writer) :
    DirectivesFirst (writer.marksOf [call]) := by
  by_cases directive : ∃ mark ∈ writer.marksOf [call], mark.isDirective
  · obtain ⟨name, rfl, unfinished, level, fresh⟩ := writes_directive_iff.mp directive
    have accepted : Call.refusal? writer (.declareReference name) = none :=
      misplaced?_eq_none.mpr ⟨unfinished, level⟩
    simp [marksOf_single, accepted, Call.marks, fresh, DirectivesFirst]
  · refine List.pairwise_iff_forall_sublist.mpr fun {earlier later} within _ => ?_
    have member : later ∈ writer.marksOf [call] := within.subset (by simp)
    exact Bool.not_eq_true _ ▸ fun told => directive ⟨later, member, told⟩

theorem references_accept (call : Call) (writer : Writer) (name : String) :
    name ∈ (writer.accept call).references ↔
      name ∈ writer.references ∨ call = .declareReference name := by
  cases call with
  | declareReference declared =>
      by_cases known : declared ∈ writer.references
      · simp only [accept, Call.settled, List.contains_eq_mem, known, decide_true, if_true]
        constructor
        · exact .inl
        · rintro (there | same)
          · exact there
          · cases same
            exact known
      · simp [accept, Call.settled, known, eq_comm]
  | finish => cases finished : writer.finished <;> simp [accept, Call.settled, finished]
  | _ => simp [accept, Call.settled]

/-- A writer knows the references whose declaration was done. -/
theorem mem_references_iff_done {name : String} :
    name ∈ ((start options unit).afterCalls calls).references ↔
      Done (start options unit) calls (.declareReference name) := by
  refine (remembered_iff_done (fun writer => name ∈ writer.references)
    (· = .declareReference name) (by simp [start])
    fun writer call _ => references_accept call writer name).trans ?_
  simp

/-- Behind the opening of a namespace an operation writes a directive if it is a belated one. -/
theorem belated_iff (opened : ∃ space, Done (start options unit) calls (.openNamespace space)) :
    (∃ mark ∈ ((start options unit).afterCalls calls).marksOf [call], mark.isDirective) ↔
      ∃ name, call = .declareReference name ∧ Belated (start options unit) calls name := by
  rw [writes_directive_iff]
  refine exists_congr fun name => and_congr_right fun _ => ?_
  rw [mem_references_iff_done, ← Bool.not_eq_true, finished_iff_done]
  exact ⟨fun ⟨unfinished, level, fresh⟩ => ⟨opened, level, unfinished, fresh⟩,
    fun belated => ⟨belated.unfinished, belated.closed, belated.fresh⟩⟩

theorem exists_opening_iff :
    (∃ mark ∈ (start options unit).marksOf calls, mark.openedSpace?.isSome) ↔
      ∃ space, Done (start options unit) calls (.openNamespace space) := by
  have formed : Formed unit ((start options unit).afterCalls calls)
      ((start options unit).marksOf calls) := by
    simpa using (formed_start options unit).afterCalls calls
  simp only [← space_iff_done, ← Option.mem_toList, ← formed.space, List.mem_filterMap,
    Option.isSome_iff_exists]
  exact ⟨fun ⟨mark, within, space, told⟩ => ⟨space, mark, within, told⟩,
    fun ⟨space, mark, within, told⟩ => ⟨mark, within, space, told⟩⟩

/-- One more operation keeps the order unless it is a belated declaration. -/
theorem directivesFirst_concat :
    DirectivesFirst ((start options unit).marksOf (calls ++ [last])) ↔
      DirectivesFirst ((start options unit).marksOf calls) ∧
        ∀ name, last = .declareReference name → ¬ Belated (start options unit) calls name := by
  rw [marksOf_append]
  refine List.pairwise_append.trans (and_congr_right fun _ => ?_)
  constructor
  · rintro ⟨-, apart⟩ name same belated
    obtain ⟨later, within, directive⟩ := (belated_iff belated.opened).mpr ⟨name, same, belated⟩
    obtain ⟨earlier, above, opening⟩ := exists_opening_iff.mpr belated.opened
    have plain := apart earlier above later within opening
    simp [plain] at directive
  · intro timely
    refine ⟨directivesFirst_single last _, fun earlier above later within opening => ?_⟩
    have opened := exists_opening_iff.mp ⟨earlier, above, opening⟩
    rw [← Bool.not_eq_true]
    intro directive
    obtain ⟨name, same, belated⟩ := (belated_iff opened).mp ⟨later, within, directive⟩
    exact timely name same belated

/-- Whatever is asked of a writer, the directives of its text come before the namespace if and only
if none was asked for when the namespace had been closed again; and behind a namespace these are all
the operations that write one. -/
theorem directives_first_iff (options : EmitOptions) (unit : String) (calls : List Call) :
    let begun := start options unit
    let writer := begun.afterCalls calls
    writer.lines = laidOut unit 0 (begun.marksOf calls) ∧
      (DirectivesFirst (begun.marksOf calls) ↔
        ∀ front name back, calls = front ++ .declareReference name :: back →
          ¬ Belated begun front name) ∧
      ((∃ space, Done begun calls (.openNamespace space)) → ∀ call,
        ((∃ mark ∈ writer.marksOf [call], mark.isDirective) ↔
          ∃ name, call = .declareReference name ∧ Belated begun calls name)) := by
  intro begun writer
  have formed : Formed unit writer (begun.marksOf calls) := by
    simpa using (formed_start options unit).afterCalls calls
  refine ⟨formed.lines, ?_, fun opened call => belated_iff opened⟩
  clear formed writer
  induction calls using List.reverseRecOn with
  | nil => exact iff_of_true .nil (by simp)
  | append_singleton calls last ih =>
      rw [directivesFirst_concat, ih]
      simp only [concat_eq_append_cons]
      constructor
      · rintro ⟨before, now⟩ front name back (⟨middle, -, same⟩ | ⟨-, rfl, same⟩)
        · exact before front name middle same
        · exact now name same
      · intro timely
        refine ⟨fun front name back same => ?_, fun name same => ?_⟩
        · exact timely front name (back ++ [last]) (.inl ⟨back, rfl, same⟩)
        · exact timely calls name [] (.inr ⟨rfl, rfl, same⟩)

/-- A namespace that is opened and closed does not keep a directive from being written below it. -/
theorem directive_below_namespace :
    let begun := start EmitOptions.none "\t"
    let calls := [.openNamespace "N", .close, .declareReference "System"]
    (begun.afterCalls calls).lines = ["", "namespace N", "\x7b", "\x7d", "using System;"] ∧
      ¬ DirectivesFirst (begun.marksOf calls) := by
  decide +kernel

end SchemaSharp.Writer
