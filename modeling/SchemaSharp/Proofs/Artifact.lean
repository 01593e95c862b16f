import Mathlib.Data.List.Nodup
import Mathlib.Data.List.Perm.Subperm
import SchemaSharp.Artifact
import SchemaSharp.Proofs.Location.Children

/-!
Names of artifacts and what is on file under them. Artifacts of one stem have different names for
different numbers, so that there is always one that is not taken; and a file of a new name holds
what is laid into it, while all others stay as they are.
-/

namespace SchemaSharp

/-! ## Names -/

/-- A file name that ends as all artifacts do. -/
theorem plain_artifact {stem : String} (whole : '/' ∉ stem.toList) :
    FilePath.Plain (stem ++ ".cs").toList := by
  have ending : (stem ++ ".cs").toList = stem.toList ++ ['.', 'c', 's'] := String.toList_append
  have long : 3 ≤ (stem ++ ".cs").toList.length := by simp [ending]
  constructor
  case meaningful =>
    have some : (stem ++ ".cs").toList ≠ [] := by
      intro same
      rw [same] at long
      cases long
    have more : (stem ++ ".cs").toList ≠ ['.'] := by
      intro same
      rw [same] at long
      simp at long
    simp only [FilePath.meaningful, bne_iff_ne, Bool.and_eq_true, Bool.not_eq_true',
      List.isEmpty_eq_false_iff]
    exact ⟨some, more⟩
  case whole =>
    rw [ending]
    simpa using whole
  case stays =>
    intro same
    rw [same] at long
    simp at long

namespace Artifact

/-- The stem of the `count`-th artifact of one stem. -/
def numberedStem (stem : String) (count : Nat) : String :=
  if count ≤ 1 then stem else stem ++ "_" ++ toString count

theorem numberedStem_whole {stem : String} (whole : '/' ∉ stem.toList) (count : Nat) :
    '/' ∉ (numberedStem stem count).toList := by
  unfold numberedStem
  split
  · exact whole
  · have digits : '/' ∉ (toString count).toList := by
      intro member
      rw [Nat.toString_eq_ofList_toDigits, String.toList_ofList] at member
      have digit := Nat.isDigit_of_mem_toDigits (by decide) (by decide) member
      cases digit
    simp only [String.toList_append, List.mem_append, not_or]
    exact ⟨⟨whole, by decide⟩, digits⟩

theorem numberedStem_injective {stem : String} {first second : Nat}
    (same : numberedStem stem (first + 1) = numberedStem stem (second + 1)) : first = second := by
  have longer : ∀ count : Nat, stem ≠ stem ++ "_" ++ toString count := by
    intro count same
    have lengths := congrArg String.length same
    rw [String.append_assoc, String.length_append, String.length_append] at lengths
    have one : "_".length = 1 := rfl
    omega
  unfold numberedStem at same
  split at same <;> split at same
  · omega
  · exact absurd same (longer _)
  · exact absurd same.symm (longer _)
  · have digits := congrArg String.toList same
    simp only [String.toList_append] at digits
    have numbers := congrArg (fun text => Nat.ofDigitChars 10 text 0)
      (List.append_cancel_left digits)
    have counts : first + 1 = second + 1 := by
      simpa [Nat.toString_eq_ofList_toDigits] using numbers
    exact Nat.succ.inj counts

theorem hasFile_numbered {directory : FilePath} (cut : directory.Cut) {stem : String}
    (whole : '/' ∉ stem.toList) (count : Nat) :
    directory.HasFile (numberedStem stem count ++ ".cs") (numbered directory stem count) :=
  FilePath.hasFile_child cut (plain_artifact (numberedStem_whole whole count))

theorem numbered_injective {directory : FilePath} (cut : directory.Cut) {stem : String}
    (whole : '/' ∉ stem.toList) {first second : Nat}
    (same : numbered directory stem (first + 1) = numbered directory stem (second + 1)) :
    first = second := by
  have one := hasFile_numbered cut whole (first + 1)
  have other := hasFile_numbered cut whole (second + 1)
  rw [same] at one
  have names := one.name_eq other
  exact numberedStem_injective (String.append_left_inj ".cs" |>.mp names)

/-- There is always a name that is not taken, and the one with the least number is chosen. -/
theorem freshPath_spec {directory : FilePath} (cut : directory.Cut) {stem : String}
    (whole : '/' ∉ stem.toList) (taken : List String) :
    ∃ count, freshPath directory stem taken = numbered directory stem (count + 1) ∧
      freshPath directory stem taken ∉ taken ∧
        ∀ earlier < count, numbered directory stem (earlier + 1) ∈ taken := by
  let name (index : Nat) : String := numbered directory stem (index + 1)
  have distinct : ((List.range (taken.length + 1)).map name).Nodup :=
    List.nodup_range.map fun _ _ same => numbered_injective cut whole same
  -- There are more names than taken ones, so that the search ends at one of them.
  have free : ∃ index < taken.length + 1, name index ∉ taken := by
    by_contra none
    have all : (List.range (taken.length + 1)).map name ⊆ taken := by
      intro path listed
      obtain ⟨index, inside, rfl⟩ := List.mem_map.mp listed
      by_contra fresh
      exact none ⟨index, List.mem_range.mp inside, fresh⟩
    have fewer := (List.subperm_of_subset distinct all).length_le
    rw [List.length_map, List.length_range] at fewer
    omega
  cases found : (List.range (taken.length + 1)).find? fun index => !taken.contains (name index) with
  | none =>
      obtain ⟨index, inside, fresh⟩ := free
      have listed := List.find?_eq_none.mp found index (List.mem_range.mpr inside)
      simp [fresh] at listed
  | some count =>
      have chosen : freshPath directory stem taken = name count := by
        unfold freshPath
        simp only [List.find?_map]
        exact congrArg (fun path : Option String => path.getD (numbered directory stem 1))
          (congrArg (Option.map name) found)
      obtain ⟨fresh, _, earlier⟩ := List.find?_range_eq_some.mp found
      refine ⟨count, chosen, ?_, fun index less => ?_⟩
      · rw [chosen]
        simpa using fresh
      · simpa using earlier index less

end Artifact

/-! ## Files -/

namespace Files

variable {path text : String} {files : Files}

theorem lookup_of_notMem (fresh : path ∉ files.map (·.1)) : files.lookup path = none := by
  rw [List.lookup_eq_none_iff]
  intro file listed
  have known : file.1 ∈ files.map (·.1) := List.mem_map_of_mem listed
  rw [bne_iff_ne]
  rintro rfl
  exact fresh known

theorem write_new (fresh : path ∉ files.map (·.1)) (text : String) :
    files.write path text = files ++ [(path, text)] := by
  rw [write, lookup_of_notMem fresh]
  rfl

theorem lookup_last (fresh : path ∉ files.map (·.1)) :
    List.lookup path (files ++ [(path, text)]) = some text := by
  rw [List.lookup_append, lookup_of_notMem fresh]
  simp

theorem write_last (fresh : path ∉ files.map (·.1)) (old : String) :
    write path text (files ++ [(path, old)]) = files ++ [(path, text)] := by
  have others : (files.map fun file => if file.1 = path then (file.1, text) else (file.1, file.2)) =
      files := by
    refine (List.map_congr_left fun file listed => ?_).trans (List.map_id files)
    have known : file.1 ∈ files.map (·.1) := List.mem_map_of_mem listed
    have other : file.1 ≠ path := fun same => fresh (same ▸ known)
    exact if_neg other
  rw [write, lookup_last fresh]
  simp [others]

/-- What is laid into a new file is all that it holds, and no other file is changed. -/
theorem lay_create (fresh : path ∉ files.map (·.1)) (text : String) :
    (files.create path).lay path text = files ++ [(path, text)] := by
  have rest : String.ofList (Text.Utf8.decodeLossy
      ((Text.Utf8.encode "".toList).drop (Text.Utf8.encode text.toList).length)) = "" := by
    have empty : Text.Utf8.encode "".toList = [] := by decide
    rw [empty, List.drop_nil]
    decide
  rw [create, write_new fresh, lay, lookup_last fresh]
  simp only [Option.getD_some, rest, String.append_empty]
  exact write_last fresh ""

end Files

end SchemaSharp
