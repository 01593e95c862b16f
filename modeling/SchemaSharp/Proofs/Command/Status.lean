import SchemaSharp.Command.Execution
import SchemaSharp.Proofs.Conversion.Failures

/-!
The exit status. A command line that asks for nothing that can be done has status two, or zero if it
asks for help; otherwise the status tells how the conversion ended. What is left are failures that
no command reports, which escape: a pattern, a location or an encoding that goes wrong in a way that
nobody expects.
-/

namespace SchemaSharp.Command

open SchemaSharp.Task (Returns)

def Request.job (world : World) (request : Request) : Job :=
  ⟨request.settings, world.source request.settings.allowRemote⟩

/-- The words ask for a conversion, and its settings are accepted. -/
def Asks (words : List String) (request : Request) : Prop :=
  read words = .ok request ∧ request.settings.check = .ok ()

/-- The words are wrong, or the settings that they ask for are refused. -/
inductive Misused (words : List String) : Prop where
  | usage (wrong : read words = .error .wrongUsage)
  | settings {request : Request} {fault : SettingsFault} (asked : read words = .ok request)
      (refused : request.settings.check = .error (.settings fault))

/-- The settings are not even refused, since the pattern goes wrong on the name it is tried on. -/
inductive Unchecked (words : List String) : Failure → Prop where
  | pattern {request : Request} {fault : Text.TemplateFault} (asked : read words = .ok request)
      (broken : request.settings.check = .error (.pattern fault)) :
      Unchecked words (.pattern fault)

/-- The conversion cannot begin, or its run fails. -/
inductive Fails (job : Job) (failure : Failure) : Prop where
  | unstarted (failed : Conversion.start job = .error failure)
  | ran {begun : Conversion} (started : Conversion.start job = .ok begun)
      (failed : ((Conversion.run job).perform begun).1 = .error failure)

/-- The conversion answers the paths and leaves this state. -/
def Succeeds (job : Job) (paths : List String) (after : Conversion) : Prop :=
  ∃ begun, Conversion.start job = .ok begun ∧
    ((Conversion.run job).perform begun).1 = .ok paths ∧
      ((Conversion.run job).perform begun).2.state = after

variable {world : World} {words : List String} {request : Request}

/-! ## Settings -/

/-- A check fails by refusing the settings or by a pattern that goes wrong. -/
theorem check_fails (settings : Settings) :
    settings.check = .ok () ∨ (∃ fault, settings.check = .error (.settings fault)) ∨
      ∃ fault, settings.check = .error (.pattern fault) := by
  unfold Settings.check
  split
  · exact .inr (.inl ⟨_, rfl⟩)
  · split
    · exact .inr (.inl ⟨_, rfl⟩)
    · split
      · exact .inl rfl
      · exact .inr (.inl ⟨_, rfl⟩)
      · exact .inr (.inr ⟨_, rfl⟩)

/-! ## Conversions -/

theorem start_failure {failure : Failure} {job : Job}
    (failed : Conversion.start job = .error failure) : Escapes job failure := by
  have faults : Location.FaultsAre (Escapes job) := fun _ _ _ unread => .host unread
  unfold Conversion.start at failed
  split at failed
  · next fault unlocated =>
      cases failed
      exact (Store.start_fails faults _ _ _).of_orFail unlocated
  · cases failed

theorem Fails.reported_or_escapes {failure : Failure} (fails : Fails (request.job world) failure) :
    failure.isReported = true ∨ Escapes (request.job world) failure := by
  cases fails with
  | unstarted failed => exact .inr (start_failure failed)
  | ran started failed => exact Conversion.run_reported_or_escapes started failed

theorem Fails.isReported_iff {failure : Failure} (fails : Fails (request.job world) failure) :
    failure.isReported = true ↔ ¬ Escapes (request.job world) failure := by
  constructor
  · intro reported escapes
    rw [escapes.unreported] at reported
    cases reported
  · exact fails.reported_or_escapes.resolve_right

/-- A conversion cannot begin or fails, or it answers paths. -/
theorem fails_or_succeeds (job : Job) :
    (∃ failure, Fails job failure) ∨ ∃ paths after, Succeeds job paths after := by
  cases started : Conversion.start job with
  | error failure => exact .inl ⟨failure, .unstarted started⟩
  | ok begun =>
      cases ended : ((Conversion.run job).perform begun).1 with
      | error failure => exact .inl ⟨failure, .ran started ended⟩
      | ok paths => exact .inr ⟨paths, _, begun, started, ended, rfl⟩

theorem convert_eq (world : World) (request : Request) :
    convert world request =
      match Conversion.start (request.job world) with
      | .error failure => ⟨.error failure, [], [], request.structuredLog, []⟩
      | .ok begun =>
          let ended := (Conversion.run (request.job world)).perform begun
          concludeRun request ended.1 ended.2 := rfl

theorem convert_of_succeeds {paths : List String} {after : Conversion}
    (succeeds : Succeeds (request.job world) paths after) :
    let execution := convert world request
    execution.status = .ok 0 ∧ execution.saved = paths ∧ execution.files = after.files := by
  obtain ⟨begun, started, answered, rfl⟩ := succeeds
  rw [convert_eq, started]
  dsimp only
  rw [answered]
  exact ⟨rfl, rfl, rfl⟩

theorem convert_of_fails {failure : Failure} (fails : Fails (request.job world) failure) :
    let execution := convert world request
    (execution.status = if failure.isReported then .ok 1 else .error failure) ∧
      execution.saved = [] := by
  cases fails with
  | unstarted failed =>
      rw [convert_eq, failed, (start_failure failed).unreported]
      exact ⟨rfl, rfl⟩
  | ran started failed =>
      rw [convert_eq, started]
      dsimp only
      rw [failed]
      unfold concludeRun
      dsimp only
      split <;> exact ⟨rfl, rfl⟩

/-! ## Executions -/

theorem execute_of_asks (asks : Asks words request) :
    let execution := execute world words
    let converted := convert world request
    execution.status = converted.status ∧ execution.saved = converted.saved ∧
      execution.files = converted.files := by
  unfold execute
  rw [asks.1]
  dsimp only
  rw [asks.2]
  exact ⟨rfl, rfl, rfl⟩

/-- Without a conversion nothing is written. -/
theorem execute_of_idle (idle : ∀ request, ¬ Asks words request) :
    (execute world words).saved = [] ∧ (execute world words).files = [] := by
  unfold execute
  split
  · exact ⟨rfl, rfl⟩
  · exact ⟨rfl, rfl⟩
  · next request asked =>
      dsimp only
      split
      · next failure refused =>
          unfold refuseSettings
          split <;> exact ⟨rfl, rfl⟩
      · next accepted => exact absurd ⟨asked, accepted⟩ (idle request)

theorem status_of_helpWanted (wanted : read words = .error .helpWanted) :
    (execute world words).status = .ok 0 := by
  rw [execute, wanted]
  rfl

theorem status_of_misused (misused : Misused words) : (execute world words).status = .ok 2 := by
  unfold execute
  cases misused with
  | usage wrong =>
      rw [wrong]
      rfl
  | settings asked refused =>
      rw [asked]
      dsimp only
      rw [refused]
      rfl

theorem status_of_unchecked {failure : Failure} (unchecked : Unchecked words failure) :
    (execute world words).status = .error failure := by
  obtain ⟨asked, broken⟩ := unchecked
  unfold execute
  rw [asked]
  dsimp only
  rw [broken]
  rfl

theorem status_of_succeeds {paths : List String} {after : Conversion} (asks : Asks words request)
    (succeeds : Succeeds (request.job world) paths after) :
    (execute world words).status = .ok 0 :=
  (execute_of_asks asks).1.trans (convert_of_succeeds succeeds).1

theorem status_of_fails {failure : Failure} (asks : Asks words request)
    (fails : Fails (request.job world) failure) :
    (execute world words).status = if failure.isReported then .ok 1 else .error failure :=
  (execute_of_asks asks).1.trans (convert_of_fails fails).1

theorem status_of_reported {failure : Failure} (asks : Asks words request)
    (fails : Fails (request.job world) failure) (reported : ¬ Escapes (request.job world) failure) :
    (execute world words).status = .ok 1 := by
  rw [status_of_fails asks fails, fails.isReported_iff.mpr reported]
  rfl

theorem status_of_escapes {failure : Failure} (asks : Asks words request)
    (fails : Fails (request.job world) failure) (escapes : Escapes (request.job world) failure) :
    (execute world words).status = .error failure := by
  rw [status_of_fails asks fails, escapes.unreported]
  rfl

/-- What becomes of a command line. -/
inductive Outcome (world : World) (words : List String) : Except Failure Nat → Prop where
  | helped (wanted : read words = .error .helpWanted) : Outcome world words (.ok 0)
  | misused (misused : Misused words) : Outcome world words (.ok 2)
  | unchecked {failure : Failure} (unchecked : Unchecked words failure) :
      Outcome world words (.error failure)
  | succeeded {request : Request} {paths : List String} {after : Conversion}
      (asks : Asks words request) (succeeds : Succeeds (request.job world) paths after) :
      Outcome world words (.ok 0)
  | reported {request : Request} {failure : Failure} (asks : Asks words request)
      (fails : Fails (request.job world) failure)
      (reported : ¬ Escapes (request.job world) failure) : Outcome world words (.ok 1)
  | escaped {request : Request} {failure : Failure} (asks : Asks words request)
      (fails : Fails (request.job world) failure)
      (escapes : Escapes (request.job world) failure) : Outcome world words (.error failure)

/-- There is nothing else that can become of it. -/
theorem outcome_of_execute (world : World) (words : List String) :
    Outcome world words (execute world words).status := by
  cases asked : read words with
  | error refusal =>
      cases refusal with
      | helpWanted => exact status_of_helpWanted asked ▸ .helped asked
      | wrongUsage => exact status_of_misused (.usage asked) ▸ .misused (.usage asked)
  | ok request =>
      rcases check_fails request.settings with accepted | ⟨fault, refused⟩ | ⟨fault, broken⟩
      · have asks : Asks words request := ⟨asked, accepted⟩
        rcases fails_or_succeeds (request.job world) with
          ⟨failure, fails⟩ | ⟨paths, after, succeeds⟩
        · by_cases escapes : Escapes (request.job world) failure
          · exact status_of_escapes asks fails escapes ▸ .escaped asks fails escapes
          · exact status_of_reported asks fails escapes ▸ .reported asks fails escapes
        · exact status_of_succeeds asks succeeds ▸ .succeeded asks succeeds
      · exact status_of_misused (.settings asked refused) ▸ .misused (.settings asked refused)
      · exact status_of_unchecked (.pattern asked broken) ▸ .unchecked (.pattern asked broken)

/-- A schema in an encoding that nobody knows. -/
def unheard : World where
  directory := ⟨['/'], ["w".toList]⟩
  files :=
    [(["w".toList, "a.xsd".toList], Text.Utf8.encode ("<?xml version='1.0' encoding='nope'?>"
      ++ "<s:schema xmlns:s='http://www.w3.org/2001/XMLSchema'/>").toList)]
  web := []

end SchemaSharp.Command
