import SchemaSharp.Location.Canonical
import SchemaSharp.Proofs.Task

/-!
What can go wrong with a location. Whatever is made of it or read off it, there is one thing that can
fail: taking a text apart. So every failure over a location is one over some text that names an
impossible host.
-/

namespace SchemaSharp

namespace Location

variable {kind : Failure → Prop}

/-- The failures to take a text apart are of a kind. -/
abbrev FaultsAre (kind : Failure → Prop) : Prop :=
  ∀ text scheme fault, Reference.read text scheme = .error fault → kind (.host fault)

theorem read_fails (faults : FaultsAre kind) (text scheme : List Char) :
    FailsOnly kind (orFail .host (Reference.read text scheme)) := by
  cases read : Reference.read text scheme with
  | ok reference => exact failsOnly_ok _
  | error fault => exact failsOnly_error (faults text scheme fault read)

theorem read_map_fails {α : Type} (faults : FaultsAre kind) (text scheme : List Char)
    (part : Reference → α) :
    FailsOnly kind (orFail .host ((Reference.read text scheme).map part)) := by
  cases read : Reference.read text scheme with
  | ok reference => exact failsOnly_ok _
  | error fault => exact failsOnly_error (faults text scheme fault read)

theorem schemeOf_map_fails {α : Type} (faults : FaultsAre kind) (location : String)
    (part : List Char → α) :
    FailsOnly kind (orFail .host ((schemeOf location).map part)) := by
  unfold schemeOf
  cases read : Reference.read location.toList [] with
  | ok reference => exact failsOnly_ok _
  | error fault => exact failsOnly_error (faults _ _ fault read)

theorem isRemote_fails (faults : FaultsAre kind) (location : String) :
    FailsOnly kind (orFail .host (isRemote location)) :=
  schemeOf_map_fails faults _ _

theorem localPath_fails (faults : FaultsAre kind) (location : String) :
    FailsOnly kind (orFail .host (localPath location)) := by
  unfold localPath
  split
  · exact read_map_fails faults _ _ _
  · exact failsOnly_ok _

theorem stem_fails (faults : FaultsAre kind) (location : String) :
    FailsOnly kind (orFail .host (stem location)) := by
  unfold stem
  rw [orFail_bind]
  exact failsOnly_bind (read_fails faults _ _) fun _ => failsOnly_ok _

theorem resolveReference_fails (faults : FaultsAre kind) (base text : List Char) :
    FailsOnly kind (orFail .host (resolveReference base text)) := by
  unfold resolveReference
  split
  · exact failsOnly_ok _
  · split
    · exact failsOnly_ok _
    · rw [orFail_bind]
      refine failsOnly_bind (read_fails faults _ _) fun origin => ?_
      rw [orFail_bind]
      refine failsOnly_bind (read_fails faults _ _) fun target => ?_
      -- both are taken apart by now, and putting them together cannot fail
      dsimp only [pure, Except.pure]
      repeat' split
      all_goals exact failsOnly_ok _

theorem relativeTo_fails (faults : FaultsAre kind) (base : Option String) (location : String) :
    FailsOnly kind (orFail .host (relativeTo base location)) := by
  unfold relativeTo
  cases base with
  | none => exact failsOnly_ok _
  | some base =>
      dsimp only
      rw [orFail_bind]
      refine failsOnly_bind (schemeOf_map_fails faults _ _) fun there => ?_
      split
      · exact failsOnly_ok _
      · rw [orFail_bind]
        exact failsOnly_bind (resolveReference_fails faults _ _) fun _ => failsOnly_ok _

theorem canonical_fails (faults : FaultsAre kind) (directory : FilePath) (location : String)
    (base : Option String) :
    FailsOnly kind (orFail .host (canonical directory location base)) := by
  unfold canonical
  rw [orFail_bind]
  refine failsOnly_bind (relativeTo_fails faults _ _) fun located => ?_
  rw [orFail_bind]
  refine failsOnly_bind (isRemote_fails faults _) fun remote => ?_
  split
  · exact read_map_fails faults _ _ _
  · rw [orFail_bind]
    exact failsOnly_bind (localPath_fails faults _) fun _ => failsOnly_ok _

end Location

end SchemaSharp
