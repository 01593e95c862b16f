import SchemaSharp.Proofs.Conversion.OutputPaths
import SchemaSharp.Proofs.Store.Chronicle
import SchemaSharp.Proofs.Traversal

/-!
Inputs under other names. A run goes through its inputs twice, to see that they are there and to
load them. Both times an input that names the same document as one before it changes nothing, as the
document is there, stored and in the queue by then. So two lists of inputs that name the same
documents in the same order make the same run; only the failure that reports an input as missing
shows how it was written.
-/

namespace SchemaSharp

open Traversal (unseen)

/-! ## Lists with the same news -/

section SameNews

variable {α κ : Type} {key : α → κ} {known : List κ} {items others : List α}

/-- Apart from items with a key that is known, the lists have the same keys in the order in which
each comes first. -/
inductive SameNews (key : α → κ) : List κ → List α → List α → Prop where
  | nil {known : List κ} : SameNews key known [] []
  | left {known : List κ} {first : α} {rest others : List α} (old : key first ∈ known)
      (further : SameNews key known rest others) : SameNews key known (first :: rest) others
  | right {known : List κ} {first : α} {rest items : List α} (old : key first ∈ known)
      (further : SameNews key known items rest) : SameNews key known items (first :: rest)
  | both {known : List κ} {first other : α} {rest others : List α} (same : key first = key other)
      (further : SameNews key (known ++ [key first]) rest others) :
      SameNews key known (first :: rest) (other :: others)

theorem sameNews_of_unseen [DecidableEq κ]
    (same : unseen known (items.map key) = unseen known (others.map key)) :
    SameNews key known items others := by
  induction items generalizing known others with
  | nil =>
      induction others with
      | nil => exact .nil
      | cons other others ih =>
          rw [List.map_cons, Traversal.unseen_cons] at same
          split at same
          · next old => exact .right old (ih same)
          · cases same
  | cons first rest ih =>
      rw [List.map_cons, Traversal.unseen_cons] at same
      split at same
      · next old => exact .left old (ih same)
      · -- The first item is new, so the other list has it behind items that are known.
        induction others with
        | nil => cases same
        | cons other others skip =>
            rw [List.map_cons, Traversal.unseen_cons] at same
            split at same
            · next old => exact .right old (skip same)
            · obtain ⟨alike, later⟩ := List.cons.inj same
              rw [← alike] at later
              exact .both alike (ih later)

theorem sameNews_of_eraseDups [DecidableEq κ]
    (same : (items.map key).eraseDups = (others.map key).eraseDups) :
    SameNews key [] items others := by
  apply sameNews_of_unseen
  rw [Traversal.unseen_empty, Traversal.unseen_empty, same]

theorem SameNews.isEmpty_eq (news : SameNews key [] items others) :
    items.isEmpty = others.isEmpty := by
  cases news with
  | nil => rfl
  | left old => cases old
  | right old => cases old
  | both => rfl

end SameNews

/-! ## Jobs with other inputs -/

def Job.withInputs (inputs : List String) (job : Job) : Job :=
  { job with settings := { job.settings with inputs := inputs } }

/-- The document that is meant by a location. -/
def Job.keyOf (job : Job) (location : String) : Except Location.HostFault String :=
  Location.canonical job.source.directory location none

namespace Conversion

open SchemaSharp.Task (Returns Agree Mirrors Likewise)

variable {job : Job} {before after begun : Conversion} {key : String}
  {alike : Failure → Failure → Prop} {known : List (Except Location.HostFault String)}
  {inputs others : List String}

theorem withInputs_alike : (job.withInputs inputs).NamesAlike job := ⟨rfl, rfl⟩

theorem translateQueued_withInputs (location : String) :
    translateQueued (job.withInputs inputs) location = translateQueued job location := by
  unfold translateQueued
  rw [translateStored_congr withInputs_alike]
  rfl

theorem drain_withInputs : drain (job.withInputs inputs) = drain job := by
  have within : ∀ budget, drainWithin (job.withInputs inputs) budget = drainWithin job budget := by
    intro budget
    induction budget with
    | zero => rfl
    | succ budget ih => simp only [drainWithin, translateQueued_withInputs, ih]
  simp only [drain, within]

/-- Once the inputs are loaded, nothing asks for them any more. -/
theorem translateFrom_withInputs (seeds : List String) :
    translateFrom (job.withInputs inputs) seeds = translateFrom job seeds := by
  unfold translateFrom
  rw [drain_withInputs]
  rfl

/-! ## Probing -/

/-- Two failures that report the same document as missing, each as it was written. -/
inductive Respelled (directory : FilePath) : Failure → Failure → Prop where
  | missing {location other : String}
      (same : Location.canonical directory location none =
        Location.canonical directory other none) :
      Respelled directory (.load .inputMissing location) (.load .inputMissing other)

theorem probeInput_agree {location other : String} (same : job.keyOf location = job.keyOf other)
    (before : Conversion) :
    Agree (Respelled job.source.directory) (probeInput job location) (probeInput job other)
      before := by
  unfold Job.keyOf at same
  unfold probeInput
  rw [same]
  refine Task.agree_bind ((Task.mirrors_outcome _).agree _) fun key _ _ => ?_
  refine Task.agree_bind ((Task.mirrors_ask rfl).agree _) fun there _ _ => ?_
  split
  · exact (Task.mirrors_pure ()).agree _
  · exact Task.agree_throw (.missing same) _

/-- Probing what is there only adds to the journal. -/
theorem probeInputs_known {location : String} {rest : List String}
    (named : job.keyOf location = .ok key) (there : (job.source.probe key).2 = .ok true)
    (journal : List Notice) :
    ((location :: rest).forM (probeInput job)).run ⟨before, journal⟩ =
      (rest.forM (probeInput job)).run ⟨before, journal ++ (job.source.probe key).1⟩ := by
  have probed : (probeInput job location).run ⟨before, journal⟩ =
      (.ok (), ⟨before, journal ++ (job.source.probe key).1⟩) := by
    unfold Job.keyOf at named
    unfold probeInput
    rw [named]
    change (Task.ask (job.source.probe key) >>= fun there =>
      if there then pure () else throw (.load .inputMissing location)).run _ = _
    rw [Task.run_bind, Task.run_ask, there]
    rfl
  change (probeInput job location >>= fun _ => rest.forM (probeInput job)).run _ = _
  rw [Task.run_bind, probed]

theorem probeInputs_agree (news : SameNews job.keyOf known inputs others)
    (there : ∀ place ∈ known, ∃ key, place = .ok key ∧ (job.source.probe key).2 = .ok true)
    (before : Conversion) :
    Agree (Respelled job.source.directory) (inputs.forM (probeInput job))
      (others.forM (probeInput job)) before := by
  induction news generalizing before with
  | nil => exact (Task.mirrors_pure ()).agree _
  | left old _ ih =>
      obtain ⟨key, named, has⟩ := there _ old
      intro journal said
      rw [probeInputs_known named has]
      exact ih there before _ said
  | right old _ ih =>
      obtain ⟨key, named, has⟩ := there _ old
      intro journal said
      rw [probeInputs_known named has]
      exact ih there before journal _
  | both same _ ih =>
      refine Task.agree_bind (probeInput_agree same before) fun _ middle probed => ?_
      refine ih (fun place listed => ?_) middle
      rcases List.mem_append.mp listed with old | new
      · exact there place old
      · obtain rfl := List.mem_singleton.mp new
        exact (probeInput_returns probed).2

/-! ## Loading -/

/-- The document is stored, and it is waiting or was taken out of the queue. -/
structure Enrolled (key : String) (conversion : Conversion) : Prop where
  stored : (conversion.store.at? key).isSome
  met : key ∈ conversion.processed

theorem schedule_silent (location : String) :
    Mirrors id (schedule location) (schedule location) := by
  refine Task.mirrors_current_bind fun conversion => ?_
  dsimp only [id]
  split
  · exact Task.mirrors_pure false
  · refine Task.mirrors_bind (Task.mirrors_change fun _ => rfl) fun _ => ?_
    exact Task.mirrors_bind (Task.mirrors_say _ _) fun _ => Task.mirrors_pure true

/-- A document enrolls once it is loaded and scheduled, and those before it stay enrolled. -/
theorem enrolled_of_scheduled {location : String} {isNew : Bool} {middle : Conversion}
    (loaded : Returns (inStore (Store.load job.source location)) before key middle)
    (scheduled : Returns (schedule key) middle isNew after) :
    Enrolled key after ∧ ∀ other, Enrolled other before → Enrolled other after := by
  obtain ⟨store, inner, rfl⟩ := loaded.of_within
  obtain ⟨rfl, _⟩ := schedule_returns scheduled
  have steps := (Store.load_follows job.source location before.store).steps_of_returns inner
  refine ⟨⟨Store.load_stored inner, ?_⟩, fun other enrolled =>
    ⟨Store.isSome_at?_of_steps steps enrolled.stored, List.mem_append_left _ enrolled.met⟩⟩
  by_cases old : key ∈ before.processed
  · exact List.mem_append_left _ old
  · exact List.mem_append_right _
      (Traversal.mem_unseen_iff.mpr ⟨List.mem_singleton_self key, old⟩)

/-- Seeding what is enrolled does nothing, and the document is none of the seeds again. -/
theorem seedAll_enrolled {location : String} {rest : List String}
    (named : job.keyOf location = .ok key) (enrolled : Enrolled key before)
    (journal : List Notice) :
    (seedAll job (location :: rest)).run ⟨before, journal⟩ =
      (seedAll job rest).run ⟨before, journal⟩ := by
  have loaded : (inStore (Store.load job.source location)).run ⟨before, journal⟩ =
      (.ok key, ⟨before, journal⟩) := by
    unfold inStore
    rw [Task.run_within, Store.load_of_stored named enrolled.stored journal]
  have scheduled : (schedule key).run ⟨before, journal⟩ = (.ok false, ⟨before, journal⟩) := by
    unfold schedule
    rw [Task.run_current_bind, if_pos (by simpa using enrolled.met)]
    rfl
  rw [seedAll, Task.run_bind, loaded]
  dsimp only
  rw [Task.run_bind, scheduled]
  dsimp only
  rw [Task.run_bind]
  cases (seedAll job rest).run ⟨before, journal⟩ with
  | mk result after => cases result <;> rfl

theorem seedAll_agree (news : SameNews job.keyOf known inputs others)
    (enrolled : ∀ place ∈ known, ∃ key, place = .ok key ∧ Enrolled key before) :
    Agree alike (seedAll job inputs) (seedAll job others) before := by
  induction news generalizing before with
  | nil => exact (Task.mirrors_pure []).agree _
  | left old _ ih =>
      obtain ⟨key, named, there⟩ := enrolled _ old
      intro journal said
      -- a spelling of a document that is enrolled already makes no difference
      rw [seedAll_enrolled named there]
      exact ih enrolled journal said
  | right old _ ih =>
      obtain ⟨key, named, there⟩ := enrolled _ old
      intro journal said
      rw [seedAll_enrolled named there]
      exact ih enrolled journal said
  | @both known first other rest others same _ ih =>
      have loads : Store.load job.source first = Store.load job.source other :=
        Store.load_congr same
      unfold seedAll
      rw [← loads]
      -- A load that fails ends both, so a key is known only once its document is enrolled.
      refine Task.agree_bind
        ((Task.mirrors_within_same (Store.Chronicle.load_silent _ _)).agree _)
        fun key middle loaded => ?_
      refine Task.agree_bind ((schedule_silent key).agree _) fun isNew after scheduled => ?_
      obtain ⟨here, kept⟩ := enrolled_of_scheduled loaded scheduled
      obtain ⟨_, inner, _⟩ := loaded.of_within
      refine Task.agree_bind (ih fun place listed => ?_) fun seeds last _ =>
        (Task.mirrors_pure _).agree _
      rcases List.mem_append.mp listed with old | new
      · obtain ⟨key, named, there⟩ := enrolled place old
        exact ⟨key, named, kept key there⟩
      · obtain rfl := List.mem_singleton.mp new
        exact ⟨key, Store.load_key inner, here⟩

theorem seed_agree (news : SameNews job.keyOf [] job.settings.inputs others)
    (before : Conversion) :
    Agree (Respelled job.source.directory) (seed job) (seed (job.withInputs others)) before := by
  have source : (job.withInputs others).source = job.source := rfl
  unfold seed
  rw [seedAll_congr source]
  refine Task.agree_bind (probeInputs_agree news ?probed before) fun _ middle _ =>
    seedAll_agree news ?loaded
  case probed => exact fun _ old => nomatch old
  case loaded => exact fun _ old => nomatch old

/-! ## Running -/

theorem translateFrom_silent {seeds : List String} (prepared : Prepared seeds before) :
    Agree alike (translateFrom job seeds) (translateFrom job seeds) before := by
  obtain ⟨_, _, _, _, _, _, styled⟩ := @translateFrom_runs job _ _ prepared
  obtain ⟨whole, apart⟩ := styled job.settings.emitOptions
  -- Its own options and its own mode make the job what it is.
  have own : job.withOptions job.settings.emitOptions = job := rfl
  rw [own] at whole apart
  cases mode : job.settings.singleFile with
  | true =>
      rw [Job.inMode_eq mode] at whole
      exact whole.agree trivial
  | false =>
      rw [Job.inMode_eq mode] at apart
      exact apart.agree trivial

theorem begin_silent : Mirrors id begin begin := by
  refine Task.mirrors_current_bind fun conversion => ?_
  dsimp only [id]
  split
  · exact Task.mirrors_throw _
  · exact Task.mirrors_change fun _ => rfl

theorem run_agree (civil : job.source.Civil) (started : start job = .ok begun)
    (news : SameNews job.keyOf [] job.settings.inputs others) :
    Agree (Respelled job.source.directory) (run job) (run (job.withInputs others)) begun := by
  refine Task.agree_bind (begin_silent.agree begun) fun _ middle began => ?_
  obtain rfl : middle = { begun with started := true } := by
    obtain ⟨journal, said, ran⟩ := began
    rw [run_begin (bench_of_start started).2.2] at ran
    cases ran
    rfl
  refine Task.agree_bind (seed_agree news _) fun seeds middle seeded => ?_
  -- Both runs have the same seeds and the same state now, and the inputs are not looked at again.
  have prepared : Prepared seeds middle := by
    obtain ⟨journal, said, ran⟩ := seeded
    have ends := seed_ends civil started journal
    rw [ran] at ends
    exact ends.2.2.2 seeds rfl
  rw [translateFrom_withInputs]
  refine Task.agree_bind (translateFrom_silent prepared) fun _ last _ => ?_
  refine Task.Mirrors.agree (Task.mirrors_current_bind fun conversion => ?_) last
  exact Task.mirrors_bind (Task.mirrors_say _ _) fun _ => Task.mirrors_pure _

/-- A job that writes one artifact for all its inputs. -/
def namesakesJob (inputs : List String) : Job :=
  ⟨{ inputs := inputs, singleFile := true }, namesakes.source false⟩

end Conversion

end SchemaSharp
