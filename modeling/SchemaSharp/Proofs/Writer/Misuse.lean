import Mathlib.Data.List.Induction
import SchemaSharp.Proofs.Writer.Levels

/-!
Misuse of a writer. Which operations are allowed can be told from the level and from what was done
before: whether the writing was ended and whether a namespace was opened. Every other operation is
refused, and a refusal leaves no trace.
-/

namespace SchemaSharp.Writer

/-- The levels that take an operation. A finish does not ask for one. -/
def Call.levels : Call → List Level
  | .declareReference _ | .openNamespace _ => [.header]
  | .openType _ _ _ _ => [.namespaceBody]
  | .writeMarker _ _ => [.namespaceBody, .classBody]
  | .openMember _ _ | .writeMember _ _ _ => [.classBody]
  | .writeLine _ => [.memberBody]
  | .close => [.namespaceBody, .classBody, .memberBody]
  | .finish => []

/-- The operation was asked for among the calls and was not refused then. -/
def Done (begun : Writer) (calls : List Call) (call : Call) : Prop :=
  ∃ front back, calls = front ++ call :: back ∧
    ((begun.afterCalls front).perform call).1 = .ok ()

/-- What is allowed after some calls. -/
inductive Allowed (begun : Writer) (calls : List Call) : Call → Prop where
  | finish : Allowed begun calls .finish
  | inPlace {call : Call} (unfinished : ¬ Done begun calls .finish)
      (here : (begun.afterCalls calls).level ∈ call.levels)
      (first : ∀ name, call = .openNamespace name →
        ∀ other, ¬ Done begun calls (.openNamespace other)) :
      Allowed begun calls call

variable {begun writer : Writer} {calls : List Call} {call last : Call}

theorem performs_iff : (writer.perform call).1 = .ok () ↔ call.refusal? writer = none := by
  rw [perform_eq, outcome]
  cases call.refusal? writer with
  | none => simp
  | some fault => simp

theorem afterCalls_concat (calls : List Call) (last : Call) (begun : Writer) :
    begun.afterCalls (calls ++ [last]) = ((begun.afterCalls calls).perform last).2 :=
  afterCalls_append calls [last] begun

/-- A call among others and a last one is that or is among the others. -/
theorem concat_eq_append_cons {front back : List Call} :
    calls ++ [last] = front ++ call :: back ↔
      (∃ middle, back = middle ++ [last] ∧ calls = front ++ call :: middle) ∨
        back = [] ∧ calls = front ∧ last = call := by
  rcases List.eq_nil_or_concat back with rfl | ⟨middle, final, rfl⟩
  · rw [List.append_singleton_inj]
    simp
  · rw [List.concat_eq_append, ← List.cons_append, ← List.append_assoc, List.append_singleton_inj]
    simp only [List.append_singleton_inj]
    constructor
    · rintro ⟨same, rfl⟩
      exact .inl ⟨middle, ⟨rfl, rfl⟩, same⟩
    · rintro (⟨other, ⟨rfl, rfl⟩, same⟩ | ⟨absurd, -⟩)
      · exact ⟨same, rfl⟩
      · simp at absurd

theorem not_done_nil : ¬ Done begun [] call := by
  rintro ⟨front, back, same, -⟩
  simp at same

theorem done_concat :
    Done begun (calls ++ [last]) call ↔
      Done begun calls call ∨ last = call ∧ last.refusal? (begun.afterCalls calls) = none := by
  unfold Done
  simp only [concat_eq_append_cons, performs_iff]
  constructor
  · rintro ⟨front, back, ⟨middle, -, same⟩ | ⟨-, rfl, rfl⟩, accepted⟩
    · exact .inl ⟨front, middle, same, accepted⟩
    · exact .inr ⟨rfl, accepted⟩
  · rintro (⟨front, middle, same, accepted⟩ | ⟨rfl, accepted⟩)
    · exact ⟨front, middle ++ [last], .inl ⟨middle, rfl, same⟩, accepted⟩
    · exact ⟨calls, [], .inr ⟨rfl, rfl, rfl⟩, accepted⟩

theorem Done.mem (done : Done begun calls call) : call ∈ calls := by
  obtain ⟨front, back, rfl, _⟩ := done
  exact List.mem_append_cons_self

/-- What is asked for in its place is done, whatever is asked for behind it. -/
theorem At.done {level next : Level} {front : List Call} (here : At level (begun.afterCalls front))
    (leads : levelAfter? level calls = some next) (member : call ∈ calls) (back : List Call) :
    Done begun (front ++ (calls ++ back)) call := by
  obtain ⟨first, rest, rfl⟩ := List.append_of_mem member
  rw [levelAfter?_append] at leads
  obtain ⟨middle, reached, leads⟩ := Option.bind_eq_some_iff.mp leads
  obtain ⟨_, accepted, _⟩ := Option.bind_eq_some_iff.mp leads
  refine ⟨front ++ first, rest ++ back, by simp, performs_iff.mpr ?_⟩
  rw [afterCalls_append]
  exact ((here.afterCalls reached).1.accepts accepted).1

theorem finished_accept (call : Call) (writer : Writer) :
    (writer.accept call).finished = true ↔ writer.finished = true ∨ call = .finish := by
  cases call with
  | finish => cases finished : writer.finished <;> simp [accept, Call.settled, finished]
  | _ => simp [accept, Call.settled]

/-! ## What the writer remembers -/

variable {options : EmitOptions} {unit : String}

/-- What no writer has at the start, and has from the first operation of some kind on, tells whether
such an operation was done. -/
theorem remembered_iff_done (holds : Writer → Prop) (kind : Call → Prop)
    (fresh : ¬ holds (start options unit))
    (accepts : ∀ (writer : Writer) (call : Call), call.refusal? writer = none →
      (holds (writer.accept call) ↔ holds writer ∨ kind call)) :
    holds ((start options unit).afterCalls calls) ↔
      ∃ call, kind call ∧ Done (start options unit) calls call := by
  induction calls using List.reverseRecOn with
  | nil => exact iff_of_false fresh (by simp [not_done_nil])
  | append_singleton calls last ih =>
      rw [afterCalls_concat, perform_eq, outcome]
      simp only [done_concat, and_or_left, exists_or, ← ih]
      cases refused : last.refusal? ((start options unit).afterCalls calls) with
      | some fault => simp
      | none => simp [accepts _ last refused]

/-- A writer is finished if a finish was done. -/
theorem finished_iff_done :
    ((start options unit).afterCalls calls).finished = true ↔
      Done (start options unit) calls .finish := by
  refine (remembered_iff_done (fun writer => writer.finished = true) (· = .finish)
    Bool.false_ne_true fun writer call _ => finished_accept call writer).trans ?_
  simp

/-- A writer has the namespace whose opening was done. -/
theorem space_iff_done {name : String} :
    ((start options unit).afterCalls calls).space = some name ↔
      Done (start options unit) calls (.openNamespace name) := by
  refine (remembered_iff_done (fun writer => writer.space = some name) (· = .openNamespace name)
    (by simp [start]) fun writer call accepted => ?_).trans (by simp)
  rw [space_accept]
  cases call with
  | openNamespace opened =>
      have unset : writer.space = none := by
        simpa using (Option.or_eq_none_iff.mp accepted).2
      simp [unset]
  | _ => simp

theorem space_eq_none_iff :
    ((start options unit).afterCalls calls).space = none ↔
      ∀ name, ¬ Done (start options unit) calls (.openNamespace name) := by
  simp only [← space_iff_done]
  exact Option.eq_none_iff_forall_ne_some

/-! ## Refusals -/

/-- An operation is not refused at its levels by a writer that is not finished; the opening of a
namespace, if there is none. -/
theorem refusal?_eq_none_iff (unended : call ≠ .finish) :
    call.refusal? writer = none ↔
      writer.finished = false ∧ writer.level ∈ call.levels ∧
        ∀ name, call = .openNamespace name → writer.space = none := by
  cases call with
  | finish => exact absurd rfl unended
  | openNamespace name =>
      simp [Call.refusal?, Call.levels, Option.or_eq_none_iff, misplaced?_eq_none, and_assoc]
  | writeMarker kind arguments =>
      simp only [Call.refusal?, Call.levels]
      cases writer.finished <;> cases writer.level <;> simp
  | close =>
      simp only [Call.refusal?, Call.levels]
      cases writer.finished <;> cases writer.level <;> simp
  | _ => simp [Call.refusal?, Call.levels, misplaced?_eq_none]

theorem allowed_iff :
    Allowed (start options unit) calls call ↔
      call.refusal? ((start options unit).afterCalls calls) = none := by
  by_cases ending : call = .finish
  · subst ending
    exact iff_of_true .finish rfl
  · rw [refusal?_eq_none_iff ending, space_eq_none_iff, ← Bool.not_eq_true, finished_iff_done]
    constructor
    · rintro (_ | ⟨unfinished, here, first⟩)
      · exact absurd rfl ending
      · exact ⟨unfinished, here, first⟩
    · rintro ⟨unfinished, here, first⟩
      exact .inPlace unfinished here first

theorem accept_finish_of_finished (ended : writer.finished = true) :
    writer.accept .finish = writer := by
  cases writer
  simp_all [accept, Call.settled, Call.marks, append, laidOut]

/-- Whatever was asked of a writer before, it refuses an operation if and only if that is not
allowed, and a refusal changes nothing. A member is written as a whole and changes nothing else; a
finish is never refused, and another one changes nothing. -/
theorem refuses_without_trace (options : EmitOptions) (unit : String) (calls : List Call)
    (call : Call) :
    let begun := start options unit
    let writer := begun.afterCalls calls
    let answer := writer.perform call
    ((∃ fault, answer.1 = .error fault) ↔ ¬ Allowed begun calls call) ∧
      (∀ fault, answer.1 = .error fault → answer.2 = writer) ∧
      (∀ type name markers, call = .writeMember type name markers → Allowed begun calls call →
        answer = (.ok (), { writer with
          lines := writer.lines ++
            laidOut unit Level.classBody.depth (writer.memberMarks type name markers) })) ∧
      (call = .finish → answer.1 = .ok () ∧ answer.2.finished ∧ answer.2.level = .header ∧
        answer.2.perform .finish = (.ok (), answer.2)) := by
  intro begun writer answer
  have formed : Formed unit writer (begun.marksOf calls) := by
    simpa using (formed_start options unit).afterCalls calls
  -- an operation is refused as a whole, before it writes anything
  have told : answer = writer.outcome call := perform_eq call writer
  refine ⟨?_, ?_, ?_, ?_⟩
  · rw [allowed_iff, told, outcome]
    cases call.refusal? writer with
    | some fault => simp
    | none => simp
  · intro fault refused
    rw [told, outcome] at refused ⊢
    cases reason : call.refusal? writer with
    | some fault => rfl
    | none => simp [reason] at refused
  · rintro type name markers rfl allowed
    have accepted := allowed_iff.mp allowed
    have here : writer.level = .classBody := (misplaced?_eq_none.mp accepted).2
    have whole : laidOut unit Level.classBody.depth (writer.memberMarks type name markers) =
        laidOut writer.indent writer.level.depth (writer.memberMarks type name markers) := by
      rw [formed.indent, here]
    rw [told, outcome_of_accepted accepted, whole]
    rfl
  · rintro rfl
    obtain ⟨finished, level⟩ := finish_afterCalls calls formed.oriented
    rw [afterCalls_concat] at finished level
    refine ⟨performs_iff.mpr rfl, finished, level, ?_⟩
    rw [perform_of_accepted rfl, accept_finish_of_finished finished]

end SchemaSharp.Writer
