import SchemaSharp.Proofs.Artifact
import SchemaSharp.Proofs.Conversion.SourceFiles

/-!
Where artifacts go. Each has a name of its own in the output directory, whatever its document is
called, so that nothing that was written is written over: in the end every artifact is on file under
its own path.
-/

namespace SchemaSharp.Conversion

open Artifact (freshPath numbered freshPath_spec hasFile_numbered)

variable {job : Job}

/-! ## Benches -/

/-- All that was written is on file as it was written, in files of their own. -/
structure Bench.Kept (bench : Bench) : Prop where
  distinct : bench.written.Nodup
  paths : bench.files.map (·.1) = bench.written
  files : bench.files = bench.closed.map fun artifact => (artifact.path, artifact.writer.text)

theorem kept_empty : Bench.empty.Kept := ⟨.nil, rfl, rfl⟩

theorem Bench.Kept.publish {bench : Bench} (kept : bench.Kept) {path : String}
    (fresh : path ∉ bench.written) (calls : List Writer.Call) :
    (bench.publish job path calls).Kept := by
  have laid : (bench.publish job path calls).files =
      bench.files ++ [(path, (Artifact.filed job path calls).writer.text)] :=
    Files.lay_create (kept.paths ▸ fresh) _
  constructor
  case distinct => exact List.nodup_append_comm.mp (List.nodup_cons.mpr ⟨fresh, kept.distinct⟩)
  case paths =>
    rw [laid, List.map_append, kept.paths]
    rfl
  case files =>
    rw [laid, kept.files, Bench.publish, List.map_append, List.map_singleton, Artifact.path_filed]

/-! ## Names -/

/-- The path of a document's artifact: the document's stem, with a number if the stem alone is
taken. -/
def NamedFor (directory : FilePath) (location path : String) : Prop :=
  ∃ stem count, Location.stem location = .ok stem ∧ path = numbered directory stem (count + 1)

theorem NamedFor.hasFile {directory : FilePath} (cut : directory.Cut) {location path : String}
    (named : NamedFor directory location path) :
    ∃ stem, directory.HasFile (stem ++ ".cs") path := by
  obtain ⟨stem, count, found, rfl⟩ := named
  exact ⟨_, hasFile_numbered cut (Location.stem_whole found) (count + 1)⟩

/-- Artifacts for each draft have names of their own, which tell the documents of the drafts. -/
theorem publishEach_named {locations : List String} {drafts : List Draft}
    (drawn : List.Forall₂ Draft.IsFor locations drafts) {bench : Bench} (kept : bench.Kept) :
    (bench.publishEach job drafts).Kept ∧
      ∃ paths, (bench.publishEach job drafts).written = bench.written ++ paths ∧
        List.Forall₂ (NamedFor (.ofString job.settings.outputDirectory)) locations paths := by
  induction drawn generalizing bench with
  | nil => exact ⟨kept, [], by simp [Bench.publishEach], .nil⟩
  | @cons location draft _ rest named _ ih =>
      let directory := FilePath.ofString job.settings.outputDirectory
      let path := freshPath directory draft.stem bench.written
      obtain ⟨count, numbering, fresh, _⟩ := freshPath_spec (FilePath.cut_ofString _)
        (Location.stem_whole named) bench.written
      obtain ⟨others, paths, written, all⟩ := ih (@Bench.Kept.publish job _ kept _ fresh draft.calls)
      refine ⟨others, path :: paths, ?_, .cons ⟨draft.stem, count, named, numbering⟩ all⟩
      rw [Bench.publishEach, written, Bench.publish, List.append_assoc, List.singleton_append]

theorem sharedPath_hasFile {seeds : List String} {path : String}
    (shared : sharedPath job seeds = .ok path) :
    ∃ stem, (FilePath.ofString job.settings.outputDirectory).HasFile (stem ++ ".cs") path := by
  obtain ⟨stems, named, rest⟩ := ok_of_bind shared
  cases rest
  have each : ∀ stem ∈ stems, '/' ∉ stem.toList := by
    intro stem listed
    obtain ⟨location, _, found⟩ := mem_of_mapM_ok named listed
    exact Location.stem_whole found
  have whole : '/' ∉ ("_".intercalate stems.eraseDups).toList := by
    rw [String.toList_intercalate]
    intro member
    rcases mem_of_mem_intercalate member with between | ⟨part, listed, inside⟩
    · exact absurd between (by decide)
    · obtain ⟨stem, found, rfl⟩ := List.mem_map.mp listed
      exact each stem (List.mem_eraseDups.mp found) inside
  exact ⟨_, FilePath.hasFile_child (FilePath.cut_ofString _) (plain_artifact whole)⟩

/-! ## Runs -/

/-- What is written has names of its own, in the order of the documents if each has an artifact. -/
structure Addressed (job : Job) (after : Conversion) : Prop where
  kept : after.bench.Kept
  inside : ∀ path ∈ after.written, ∃ stem,
    (FilePath.ofString job.settings.outputDirectory).HasFile (stem ++ ".cs") path
  each : job.settings.singleFile = false →
    List.Forall₂ (NamedFor (.ofString job.settings.outputDirectory)) after.dequeued after.written
  one : job.settings.singleFile = true → after.written.length ≤ 1

theorem addressed_nothing {after : Conversion} (empty : after.bench = .empty)
    (none : after.dequeued = []) : Addressed job after := by
  have written : after.written = [] := congrArg Bench.written empty
  constructor
  case kept =>
    rw [empty]
    exact kept_empty
  case inside => simp [written]
  case each => simp [written, none]
  case one => simp [written]

theorem addressed_publish {after : Conversion} {path : String} {seeds : List String}
    (single : job.settings.singleFile = true) (shared : sharedPath job seeds = .ok path)
    (calls : List Writer.Call) : Addressed job (after.on (Bench.empty.publish job path calls)) := by
  constructor
  case kept => exact kept_empty.publish List.not_mem_nil calls
  case inside =>
    intro other listed
    obtain rfl := List.mem_singleton.mp listed
    exact sharedPath_hasFile shared
  case each => simp [single]
  case one => exact fun _ => Nat.le_refl 1

theorem addressed_publishEach {after : Conversion} {drafts : List Draft}
    (each : job.settings.singleFile = false)
    (drawn : List.Forall₂ Draft.IsFor after.dequeued drafts) :
    Addressed job (after.on (Bench.empty.publishEach job drafts)) := by
  obtain ⟨kept, paths, written, named⟩ := @publishEach_named job _ _ drawn _ kept_empty
  obtain rfl : _ = paths := written
  constructor
  case kept => exact kept
  case inside =>
    intro path listed
    obtain ⟨location, _, name⟩ := exists_of_forall₂ named listed
    exact name.hasFile (FilePath.cut_ofString _)
  case each => exact fun _ => named
  case one => simp [each]

theorem addressed_of_run {begun : Conversion} (civil : job.source.Civil)
    (started : start job = .ok begun) : Addressed job ((run job).perform begun).2.state := by
  rcases run_course civil started with
    ⟨failure, _, _, empty, none, ends⟩ |
      ⟨seeds, result, drafts, path, after, _, shared, _, drawn, styled⟩
  · obtain ⟨_, left⟩ := ends job.settings.emitOptions job.settings.singleFile
    change ((run job).perform begun).2.state = _ at left
    rw [left]
    exact addressed_nothing empty none
  · obtain ⟨alone, apart⟩ := styled job.settings.emitOptions
    cases mode : job.settings.singleFile with
    | true =>
        have ended : Ends (job.inMode true) begun result
            (after.on (Bench.empty.publish job path (drafts.flatMap Draft.calls))) := alone
        rw [Job.inMode_eq mode] at ended
        rw [ended.2]
        exact addressed_publish mode shared _
    | false =>
        have ended : Ends (job.inMode false) begun result
            (after.on (Bench.empty.publishEach job drafts)) := apart
        rw [Job.inMode_eq mode] at ended
        rw [ended.2]
        exact addressed_publishEach mode drawn

/-- Whatever becomes of a run, the artifacts that it wrote are different files directly inside the
output directory, each with a name that ends in `.cs`, and in the end all of them are on file as
they were written. With one artifact for each document, one is written for each that is taken from
the queue, in the same order, and it is named for that document; otherwise there is one at most. -/
theorem artifacts_stay_apart {settings : Settings} {world : World} {begun : Conversion}
    (started : start ⟨settings, world.source settings.allowRemote⟩ = .ok begun) :
    let after := ((run ⟨settings, world.source settings.allowRemote⟩).perform begun).2.state
    let directory := FilePath.ofString settings.outputDirectory
    after.written.Nodup ∧
      (∀ working, (after.written.map fun path =>
        (FilePath.ofString path).resolve working).Nodup) ∧
      (∀ path ∈ after.written, ∃ stem, directory.HasFile (stem ++ ".cs") path) ∧
      after.files = after.closed.map (fun artifact => (artifact.path, artifact.writer.text)) ∧
      after.files.map (·.1) = after.written ∧
      (settings.singleFile = false →
        List.Forall₂ (NamedFor directory) after.dequeued after.written) ∧
      (settings.singleFile = true → after.written.length ≤ 1) := by
  intro after directory
  let job : Job := ⟨settings, world.source settings.allowRemote⟩
  have civil : job.source.Civil := world.source_civil settings.allowRemote
  obtain ⟨⟨distinct, paths, files⟩, inside, each, one⟩ := addressed_of_run civil started
  refine ⟨distinct, fun working => ?_, inside, files, paths, each, one⟩
  refine distinct.map_on fun path listed other known same => ?_
  obtain ⟨stem, here⟩ := inside path listed
  obtain ⟨name, there⟩ := inside other known
  exact here.path_eq there same

/-- Two documents of one name, and one that is called as the artifact of the second is then. -/
def namesakes : World where
  directory := ⟨['/'], []⟩
  files := [(["v".toList, "t".toList], pairText ""), (["w".toList, "t".toList], pairText ""),
    (["t_2".toList], pairText "")]
  web := []

def namesakesSettings : Settings where
  inputs := ["v/t", "w/t", "t_2"]
  outputDirectory := "../out"

set_option maxRecDepth 100000 in
theorem namesakes_stay_apart :
    ∃ begun, start ⟨namesakesSettings, namesakes.source false⟩ = .ok begun ∧
      let after := ((run ⟨namesakesSettings, namesakes.source false⟩).perform begun).2.state
      after.written = ["../out/t.cs", "../out/t_2.cs", "../out/t_2_2.cs"] ∧ after.written.Nodup ∧
        List.Forall₂ (NamedFor (.ofString "../out")) after.dequeued after.written := by
  have ran : ((start ⟨namesakesSettings, namesakes.source false⟩).toOption.map fun begun =>
      ((run ⟨namesakesSettings, namesakes.source false⟩).perform begun).2.state.written) =
        some ["../out/t.cs", "../out/t_2.cs", "../out/t_2_2.cs"] := by
    simp only [namesakes, pairText, Text.Utf8.encode_toList]
    decide +kernel
  obtain ⟨begun, made, wrote⟩ := Option.map_eq_some_iff.mp ran
  have started : start ⟨namesakesSettings, namesakes.source namesakesSettings.allowRemote⟩ =
      .ok begun := ok_of_toOption made
  obtain ⟨distinct, _, _, _, _, each, _⟩ := artifacts_stay_apart started
  exact ⟨begun, started, wrote, distinct, each rfl⟩

end SchemaSharp.Conversion
