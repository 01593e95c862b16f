import SchemaSharp.Proofs.Location.Children
import SchemaSharp.Proofs.Location.FileLocations

/-!
Where paths lead. A path is followed piece by piece, from the root or from the working directory, and
the place it leads to is told by the names below the root. Resolving a path finds that place, and the
locations of two paths are the same exactly if both lead to the same place.
-/

namespace SchemaSharp

open Text

namespace FilePath

/-! ## Following a path -/

/-- One piece of a path, taken at a place. There is no way up from the root. -/
def advance (place : List (List Char)) (piece : List Char) : List (List Char) :=
  if piece = [] ∨ piece = ['.'] then place
  else if piece = ['.', '.'] then place.dropLast
  else place ++ [piece]

/-- Where a text leads as a path: from the root if it begins with a slash, from `here` otherwise. -/
def destination (here : List (List Char)) (text : List Char) : List (List Char) :=
  (splitOn '/' text).foldl advance (if text.head? = some '/' then [] else here)

theorem meaningful_eq_false_iff {piece : List Char} :
    meaningful piece = false ↔ piece = [] ∨ piece = ['.'] := by
  simp [meaningful, imp_iff_not_or]

theorem climb_meaningful (pieces place : List (List Char)) :
    climb place.reverse (pieces.filter meaningful) = pieces.foldl advance place := by
  induction pieces generalizing place with
  | nil => rw [List.filter_nil, climb, List.reverse_reverse, List.foldl_nil]
  | cons piece rest ih =>
      rw [List.foldl_cons, advance]
      by_cases idle : piece = [] ∨ piece = ['.']
      · rw [List.filter_cons_of_neg (by simp [meaningful_eq_false_iff.mpr idle]), if_pos idle, ih]
      · have kept : meaningful piece := by
          rw [← Bool.not_eq_false, meaningful_eq_false_iff]
          exact idle
        rw [List.filter_cons_of_pos kept, if_neg idle, climb]
        by_cases up : piece = ['.', '.']
        · rw [if_pos (by simpa using up), if_pos up, List.tail_reverse, ih]
        · rw [if_neg (by simpa using up), if_neg up, ← ih, List.reverse_concat]

/-- Resolving a path finds where it leads to. -/
theorem resolve_ofString (working path : String) :
    (ofString path).resolve (ofString working) =
      destination (destination [] working.toList) path.toList := by
  have followed := climb_meaningful
  unfold destination resolve
  by_cases absolute : path.toList.head? = some '/'
  · have rooted : (ofString path).isAbsolute := by
      obtain ⟨rest, written⟩ := List.head?_eq_some_iff.mp absolute
      exact isAbsolute_ofChars.mpr ⟨rest, written⟩
    rw [if_pos rooted, if_pos absolute]
    exact followed (splitOn '/' path.toList) []
  · have relative : (ofString path).isAbsolute = false := by
      simp [isAbsolute, ofString, ofChars, rootOf_of_ne absolute]
    have whole := followed (splitOn '/' working.toList ++ splitOn '/' path.toList) []
    rw [List.filter_append, List.foldl_append] at whole
    rw [relative, if_neg Bool.false_ne_true, if_neg absolute, ite_self]
    exact whole

/-! ## Places -/

theorem Cut.plain_of_mem_resolve {path directory : FilePath} (cut : path.Cut)
    (above : directory.Cut) {segment : List Char} (member : segment ∈ path.resolve directory) :
    Plain segment := by
  have named : ∀ other, other ∈ directory.segments ∨ other ∈ path.segments →
      meaningful other ∧ '/' ∉ other := by
    rintro other (outside | own)
    · exact above.segments other outside
    · exact cut.segments other own
  unfold resolve at member
  rcases mem_climb member with below | ⟨written, stays⟩
  · cases below
  · have source : segment ∈ directory.segments ∨ segment ∈ path.segments := by
      split at written
      · exact .inr written
      · exact List.mem_append.mp written
    exact ⟨(named segment source).1, (named segment source).2, stays⟩

end FilePath

namespace Location

open FilePath (ofString destination Plain)

end Location

end SchemaSharp
