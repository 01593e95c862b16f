import SchemaSharp.Proofs.Conversion.SourceFiles
import SchemaSharp.Proofs.Writer.Contracts

/-!
The options of output make no difference to what is converted. With any options a run ends alike and
leaves the same artifacts with the same classes; and data contracts only add annotations and the
directive for them.
-/

namespace SchemaSharp.Conversion

open Writer (Mark fileHead laidOut plain withoutContracts)

variable {job : Job} {one other : EmitOptions}

/-! ## Counterparts -/

/-- One draft, written down with these options and with those. -/
def Counterparts (job : Job) (one other : EmitOptions) (first second : Artifact) : Prop :=
  ∃ path, ∃ draft : Draft, first = .filed (job.withOptions one) path draft.calls ∧
    second = .filed (job.withOptions other) path draft.calls

/-- Benches on which the same has been done with these options and with those. -/
structure Bench.Matches (job : Job) (one other : EmitOptions) (here there : Bench) : Prop where
  written : here.written = there.written
  closed : List.Forall₂ (Counterparts job one other) here.closed there.closed

variable {here there : Bench}

theorem matches_empty : Bench.Matches job one other .empty .empty := ⟨rfl, .nil⟩

theorem Bench.Matches.publish (same : here.Matches job one other there) {first second : String}
    (path : first = second) (draft : Draft) :
    (here.publish (job.withOptions one) first draft.calls).Matches job one other
      (there.publish (job.withOptions other) second draft.calls) := by
  subst path
  constructor
  case written => exact congrArg (· ++ [first]) same.written
  case closed => exact List.rel_append same.closed (.cons ⟨first, draft, rfl, rfl⟩ .nil)

theorem Bench.Matches.publishEach (same : here.Matches job one other there)
    (drafts : List Draft) :
    (here.publishEach (job.withOptions one) drafts).Matches job one other
      (there.publishEach (job.withOptions other) drafts) := by
  induction drafts generalizing here there with
  | nil => exact same
  | cons draft rest ih =>
      have path := congrArg (Artifact.freshPath
        (FilePath.ofString job.settings.outputDirectory) draft.stem) same.written
      exact ih (same.publish path draft)

/-! ## Artifacts -/

theorem classCalls_filed (path : String) (calls : List Writer.Call) :
    classCalls (.filed job path calls) = calls.filter isClassCall := by
  rw [classCalls, calls_filed, List.filter_append, List.filter_append, headerCalls_filter]
  exact List.append_nil _

theorem calls_isContractual {outline : ClassOutline} :
    ∀ call ∈ outline.calls, call.isContractual := by
  intro call listed
  rw [ClassOutline.mem_calls_iff] at listed
  rcases listed with rfl | rfl | ⟨made, _, rfl⟩ | rfl
  · rfl
  · rfl
  · rfl
  · rfl

/-- The head without data contracts. -/
theorem headed_plain (bare : other = { one with dataContracts := false }) :
    (headed (job.withOptions other)).blank = (headed (job.withOptions one)).plain.blank := by
  have blank := (head_written (job.withOptions one)).2
  have commuted : (headed (job.withOptions one)).plain.blank =
      (headed (job.withOptions one)).blank.plain := rfl
  rw [(head_written (job.withOptions other)).2, commuted, blank]
  subst bare
  obtain ⟨contracts, notifying, dependent⟩ := one
  cases contracts <;> cases notifying <;> cases dependent <;> rfl

theorem fileHead_plain (bare : other = { one with dataContracts := false }) (space : String) :
    fileHead (fileSpaces (job.withOptions other)) space =
      withoutContracts (fileHead (fileSpaces (job.withOptions one)) space) := by
  subst bare
  obtain ⟨contracts, notifying, dependent⟩ := one
  cases contracts <;> cases notifying <;> cases dependent <;> rfl

theorem fileMarks_plain (bare : other = { one with dataContracts := false })
    (outlines : List ClassOutline) :
    fileMarks (job.withOptions other) outlines =
      withoutContracts (fileMarks (job.withOptions one) outlines) := by
  have classes : ∀ outline, classMarks (job.withOptions other) outline =
      withoutContracts (classMarks (job.withOptions one) outline) := by
    intro outline
    unfold classMarks
    rw [← Writer.marksOf_plain calls_isContractual]
    exact (Writer.marksOf_congr (headed_plain bare) outline.calls).1
  have all : outlines.map (classMarks (job.withOptions other)) =
      (outlines.map (classMarks (job.withOptions one))).map withoutContracts := by
    rw [List.map_map]
    exact List.map_congr_left fun outline _ => classes outline
  rw [fileMarks, fileMarks, Writer.withoutContracts_append, Writer.withoutContracts_append,
    Writer.withoutContracts_flatten, ← all, ← fileHead_plain bare]
  rfl

/-- The second artifact has the same classes as the first; and if its options are those of the
first without data contracts, it has the same lines but those that are there for contracts. -/
structure SameClasses (one other : EmitOptions) (first second : Artifact) : Prop where
  path : first.path = second.path
  calls : classCalls first = classCalls second
  lines : other = { one with dataContracts := false } →
    let marks := (Writer.start one "\t").marksOf first.calls
    first.writer.lines = laidOut "\t" 0 marks ∧
      second.writer.lines = laidOut "\t" 0 (withoutContracts marks)

theorem Counterparts.sameClasses {first second : Artifact}
    (counterparts : Counterparts job one other first second) :
    SameClasses one other first second := by
  obtain ⟨path, draft, rfl, rfl⟩ := counterparts
  constructor
  case path => rw [Artifact.path_filed, Artifact.path_filed]
  case calls => rw [classCalls_filed, classCalls_filed]
  case lines =>
    intro bare marks
    have written : marks = fileMarks (job.withOptions one) draft.outlines :=
      @marks_filed (job.withOptions one) path draft.classes draft.cut
    rw [written, ← fileMarks_plain bare]
    exact ⟨(@filed_written (job.withOptions one) path draft.classes draft.cut).2,
      (@filed_written (job.withOptions other) path draft.classes draft.cut).2⟩

/-! ## Runs -/

theorem restyled_ends (civil : job.source.Civil) {begun : Conversion}
    (started : start job = .ok begun) :
    ∃ result, ∃ rest : Conversion, ∃ left : EmitOptions → Bench,
      (∀ options, Ends (job.withOptions options) begun result (rest.on (left options))) ∧
      ∀ one other, (left one).Matches job one other (left other) := by
  have modes : ∀ options, (job.withOptions options).settings.singleFile =
      job.settings.singleFile := fun _ => rfl
  rcases run_course civil started with
    ⟨failure, _, _, empty, _, ends⟩ |
      ⟨_, result, drafts, path, after, _, _, drafted, _, styled⟩
  · let last := ((seed job).run ⟨{ begun with started := true }, []⟩).2.state
    refine ⟨.error failure, last, fun _ => .empty, fun options => ?_, fun _ _ => matches_empty⟩
    have ended := ends options job.settings.singleFile
    rw [Job.inMode_eq (modes options)] at ended
    rw [← empty]
    exact ended
  · cases mode : job.settings.singleFile with
    | true =>
        -- all drafts are in one artifact, as if they were one
        obtain ⟨joined, calls, _⟩ := drafted.series.joined
        refine ⟨result, after,
          fun options => Bench.empty.publish (job.withOptions options) path joined.calls,
          fun options => ?_, fun one other => matches_empty.publish rfl joined⟩
        have ended := (styled options).1
        rwa [Job.inMode_eq ((modes options).trans mode), calls] at ended
    | false =>
        refine ⟨result, after,
          fun options => Bench.empty.publishEach (job.withOptions options) drafts,
          fun options => ?_, fun one other => matches_empty.publishEach drafts⟩
        have ended := (styled options).2
        rwa [Job.inMode_eq ((modes options).trans mode)] at ended

end SchemaSharp.Conversion
