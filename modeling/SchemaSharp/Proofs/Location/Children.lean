import SchemaSharp.Location.Canonical
import SchemaSharp.Proofs.Location.Paths
import SchemaSharp.Proofs.Result
import SchemaSharp.Proofs.Text.Pieces

/-!
Files directly inside a directory. A path that was cut from a text can be written and cut again, so
that the text of a child tells its directory and its name. The stem of a location holds no slash,
whatever the location, since escapes are undone before the path is cut.
-/

namespace SchemaSharp

open Text

namespace FilePath

/-! ## Paths and their texts -/

/-- A path as texts are cut into. -/
structure Cut (path : FilePath) : Prop where
  root : path.root = [] ∨ path.root = ['/'] ∨ path.root = ['/', '/']
  segments : ∀ segment ∈ path.segments, meaningful segment ∧ '/' ∉ segment

theorem cut_ofChars (text : List Char) : Cut (ofChars text) where
  root := by
    change rootOf text = [] ∨ rootOf text = ['/'] ∨ rootOf text = ['/', '/']
    unfold rootOf
    split <;> simp
  segments _ member := mem_segments member

theorem cut_ofString (text : String) : Cut (ofString text) := cut_ofChars _

theorem rootOf_of_ne {text : List Char} (other : text.head? ≠ some '/') : rootOf text = [] := by
  unfold rootOf
  split <;> simp_all

theorem rootOf_two_slashes {text : List Char} (other : text.head? ≠ some '/') :
    rootOf ('/' :: '/' :: text) = ['/', '/'] := by
  refine rootOf.eq_2 text fun rest same => other ?_
  rw [same]
  rfl

/-- The text of a path is cut into that path again. -/
theorem Cut.ofChars_toChars {path : FilePath} (cut : path.Cut) : ofChars path.toChars = path := by
  obtain ⟨root, segments⟩ := path
  obtain ⟨rooted, named⟩ := cut
  simp only at rooted named
  cases segments with
  | nil => rcases rooted with rfl | rfl | rfl <;> rfl
  | cons first rest =>
      have kept : (first :: rest).filter meaningful = first :: rest :=
        List.filter_eq_self.mpr fun segment member => (named segment member).1
      have pieces : splitOn '/' (joinWith ['/'] (first :: rest)) = first :: rest :=
        splitOn_joinWith (List.cons_ne_nil first rest) fun segment member => (named segment member).2
      have other : (joinWith ['/'] (first :: rest)).head? ≠ some '/' := by
        obtain ⟨some, whole⟩ := named first (by simp)
        have inhabited : first ≠ [] := by
          rintro rfl
          cases some
        intro head
        rw [head?_joinWith inhabited] at head
        exact whole (List.mem_of_head? head)
      have written : toChars ⟨root, first :: rest⟩ = root ++ joinWith ['/'] (first :: rest) := by
        unfold toChars
        split
        · next empty => cases empty
        · rfl
      have nothing : meaningful [] = false := rfl
      rw [written]
      rcases rooted with rfl | rfl | rfl
      · rw [List.nil_append, ofChars, rootOf_of_ne other, pieces, kept]
      · rw [List.singleton_append, ofChars, rootOf_slash other, splitOn_slash, pieces,
          List.filter_cons_of_neg (by simp [nothing]), kept]
      · rw [List.cons_append, List.singleton_append, ofChars, rootOf_two_slashes other,
          splitOn_slash, splitOn_slash, pieces, List.filter_cons_of_neg (by simp [nothing]),
          List.filter_cons_of_neg (by simp [nothing]), kept]

theorem Cut.ofString_toText {path : FilePath} (cut : path.Cut) : ofString path.toText = path := by
  rw [ofString, toText, String.toList_ofList]
  exact cut.ofChars_toChars

/-! ## Children -/

theorem ofString_of_plain {name : String} (plain : Plain name.toList) :
    ofString name = ⟨[], [name.toList]⟩ := by
  have other : name.toList.head? ≠ some '/' := fun head => plain.whole (List.mem_of_head? head)
  rw [ofString, ofChars, rootOf_of_ne other, splitOn_of_notMem plain.whole,
    List.filter_cons_of_pos plain.meaningful, List.filter_nil]

theorem child_of_plain {name : String} (plain : Plain name.toList) (directory : FilePath) :
    directory.child name = ⟨directory.root, directory.segments ++ [name.toList]⟩ := by
  unfold child
  rw [ofString_of_plain plain]
  rfl

theorem climb_concat {segment : List Char} (stays : segment ≠ ['.', '.'])
    (segments stack : List (List Char)) :
    climb stack (segments ++ [segment]) = climb stack segments ++ [segment] := by
  induction segments generalizing stack with
  | nil =>
      have stay : (segment == ['.', '.']) = false := by simpa using stays
      simp [climb, stay]
  | cons first rest ih =>
      rw [List.cons_append, climb, climb]
      split
      · exact ih _
      · exact ih _

/-- The path names the file of that name directly inside the directory: its text is read as the
directory with one segment more, and so it is resolved, wherever one is. -/
structure HasFile (directory : FilePath) (name path : String) : Prop where
  text : path = (directory.child name).toText
  whole : '/' ∉ name.toList
  reads : ofString path = ⟨directory.root, directory.segments ++ [name.toList]⟩
  resolves (working : FilePath) :
    (ofString path).resolve working = directory.resolve working ++ [name.toList]

theorem hasFile_child {directory : FilePath} (cut : directory.Cut) {name : String}
    (plain : Plain name.toList) : directory.HasFile name (directory.child name).toText := by
  have cutChild : (directory.child name).Cut := by
    rw [child_of_plain plain]
    constructor
    case root => exact cut.root
    case segments =>
      intro segment member
      rcases List.mem_append.mp member with above | own
      · exact cut.segments segment above
      · obtain rfl := List.mem_singleton.mp own
        exact ⟨plain.meaningful, plain.whole⟩
  have reads := cutChild.ofString_toText
  rw [child_of_plain plain] at reads
  constructor
  case text => rfl
  case whole => exact plain.whole
  case reads => rw [child_of_plain plain, reads]
  case resolves =>
    intro working
    rw [child_of_plain plain, reads]
    unfold resolve isAbsolute
    split
    · exact climb_concat plain.stays _ _
    · rw [← List.append_assoc]
      exact climb_concat plain.stays _ _

/-- A file in a directory has one path there, wherever that leads. -/
theorem HasFile.path_eq {directory working : FilePath} {first second one other : String}
    (here : directory.HasFile first one) (there : directory.HasFile second other)
    (same : (ofString one).resolve working = (ofString other).resolve working) : one = other := by
  rw [here.resolves, there.resolves] at same
  have names : first = second :=
    String.toList_injective (List.singleton_inj.mp (List.append_cancel_left same))
  rw [here.text, there.text, names]

theorem HasFile.name_eq {directory : FilePath} {first second path : String}
    (one : directory.HasFile first path) (other : directory.HasFile second path) :
    first = second := by
  have segments := congrArg segments (one.reads.symm.trans other.reads)
  exact String.toList_injective (List.singleton_inj.mp (List.append_cancel_left segments))

/-! ## Stems -/

theorem lastSegment_whole {path : FilePath} (cut : path.Cut) : '/' ∉ path.lastSegment := by
  unfold lastSegment
  cases last : path.segments.getLast? with
  | none => simp
  | some segment => exact (cut.segments segment (List.mem_of_getLast? last)).2

theorem stem_whole {path : FilePath} (cut : path.Cut) : '/' ∉ path.stem := by
  have whole := lastSegment_whole cut
  unfold stem
  dsimp only
  split
  · exact whole
  · next before after found =>
      split
      · exact whole
      · exact fun member => whole (cutLast?_subset found member)

end FilePath

/-- No stem of a location holds a slash, not even one that was escaped. -/
theorem Location.stem_whole {location stem : String} (named : Location.stem location = .ok stem) :
    '/' ∉ stem.toList := by
  obtain ⟨reference, _, named⟩ := ok_of_bind named
  obtain rfl := Except.ok.inj named
  cases (FilePath.ofChars (if (unescape reference.path).isEmpty then location.toList
    else unescape reference.path)).stem.isEmpty with
  | true => simp
  | false =>
      simp only [Bool.false_eq_true, if_false, String.toList_ofList]
      exact FilePath.stem_whole (FilePath.cut_ofChars _)

end SchemaSharp
