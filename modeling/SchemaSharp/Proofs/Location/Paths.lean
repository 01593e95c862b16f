import Mathlib.Data.List.Basic
import SchemaSharp.Location.FilePath

/-!
Paths and their texts. A resolved path is written in one way only, and cutting that text gives the
path back; no text of an absolute path is shorter than that of what it resolves to.
-/

namespace SchemaSharp

open Text

namespace Text

theorem splitOn_of_notMem {separator : Char} {piece : List Char} (whole : separator ∉ piece) :
    splitOn separator piece = [piece] := by
  unfold splitOn
  induction piece with
  | nil => rfl
  | cons c rest ih =>
      rw [List.mem_cons, not_or] at whole
      obtain ⟨other, behind⟩ := whole
      rw [splitAt, ih behind]
      simp [Ne.symm other]

/-- Cutting what was joined gives the pieces back if none of them held the separator. -/
theorem splitOn_joinWith {separator : Char} {pieces : List (List Char)} (some : pieces ≠ [])
    (whole : ∀ piece ∈ pieces, separator ∉ piece) :
    splitOn separator (joinWith [separator] pieces) = pieces := by
  induction pieces with
  | nil => exact absurd rfl some
  | cons piece rest ih =>
      have first := splitOn_of_notMem (whole piece (by simp))
      cases rest with
      | nil => exact first
      | cons next others =>
          have later := ih (by simp) fun other member => whole other (List.mem_cons_of_mem _ member)
          have joined : joinWith [separator] (piece :: next :: others) =
              piece ++ separator :: joinWith [separator] (next :: others) := by
            simp [joinWith]
          rw [splitOn] at first later ⊢
          rw [joined, splitAt_append (by simp), first, later]
          rfl

/-- The room that the pieces take, each with a separator. -/
def span : List (List Char) → Nat
  | [] => 0
  | piece :: pieces => piece.length + 1 + span pieces

@[simp]
theorem span_nil : span [] = 0 := rfl

@[simp]
theorem span_cons (piece : List Char) (pieces : List (List Char)) :
    span (piece :: pieces) = piece.length + 1 + span pieces := rfl

@[simp]
theorem span_append (first second : List (List Char)) :
    span (first ++ second) = span first + span second := by
  induction first with
  | nil => simp
  | cons piece rest ih => simp [ih, Nat.add_assoc]

theorem length_joinWith {separator : Char} {pieces : List (List Char)} (inhabited : pieces ≠ []) :
    (joinWith [separator] pieces).length + 1 = span pieces := by
  induction pieces with
  | nil => exact absurd rfl inhabited
  | cons piece rest ih =>
      cases rest with
      | nil => simp [joinWith]
      | cons next others =>
          have later := ih (by simp)
          simp only [joinWith, List.length_append, List.length_singleton] at later ⊢
          rw [span_cons, ← later]
          omega

theorem span_splitOn (separator : Char) (text : List Char) :
    span (splitOn separator text) = text.length + 1 := by
  have joined : (joinWith [separator] (splitOn separator text)).length + 1 =
      span (splitOn separator text) := length_joinWith (splitAt_ne_nil _ _)
  rw [← joined, joinWith_splitOn]

theorem span_reverse (pieces : List (List Char)) : span pieces.reverse = span pieces := by
  induction pieces with
  | nil => rfl
  | cons piece rest ih => simp [ih, Nat.add_comm]

theorem span_le_of_sublist {kept all : List (List Char)} (sub : kept.Sublist all) :
    span kept ≤ span all := by
  induction sub with
  | slnil => exact Nat.le_refl _
  | cons piece _ ih =>
      rw [span_cons]
      omega
  | cons_cons piece _ ih =>
      rw [span_cons, span_cons]
      omega

end Text

namespace FilePath

/-! ## Segments -/

/-- What a resolved path may have between two slashes. -/
structure Plain (segment : List Char) : Prop where
  meaningful : FilePath.meaningful segment
  whole : '/' ∉ segment
  stays : segment ≠ ['.', '.']

theorem Plain.ne_nil {segment : List Char} (plain : Plain segment) : segment ≠ [] := by
  rintro rfl
  cases plain.meaningful

theorem mem_segments {text segment : List Char} (member : segment ∈ (ofChars text).segments) :
    meaningful segment ∧ '/' ∉ segment := by
  obtain ⟨piece, kept⟩ := List.mem_filter.mp member
  refine ⟨kept, fun inside => ?_⟩
  have unmarked := not_marked_of_mem_splitAt piece '/' inside
  cases unmarked

theorem mem_climb {stack segments : List (List Char)} {segment : List Char}
    (member : segment ∈ climb stack segments) :
    segment ∈ stack ∨ segment ∈ segments ∧ segment ≠ ['.', '.'] := by
  induction segments generalizing stack with
  | nil => exact .inl (List.mem_reverse.mp member)
  | cons first rest ih =>
      rw [climb] at member
      split at member
      · rcases ih member with below | ⟨later, stays⟩
        · exact .inl (List.mem_of_mem_tail below)
        · exact .inr ⟨List.mem_cons_of_mem _ later, stays⟩
      · next stays =>
          rcases ih member with pushed | ⟨later, others⟩
          · rcases List.mem_cons.mp pushed with rfl | below
            · exact .inr ⟨by simp, by simpa using stays⟩
            · exact .inl below
          · exact .inr ⟨List.mem_cons_of_mem _ later, others⟩

theorem climb_of_plain {segments : List (List Char)} (stay : ['.', '.'] ∉ segments)
    (stack : List (List Char)) : climb stack segments = stack.reverse ++ segments := by
  induction segments generalizing stack with
  | nil => rw [climb, List.append_nil]
  | cons first rest ih =>
      rw [List.mem_cons, not_or] at stay
      obtain ⟨stays, later⟩ := stay
      rw [climb, if_neg (by simpa using Ne.symm stays), ih later]
      simp

theorem span_climb_le (stack segments : List (List Char)) :
    span (climb stack segments) ≤ span stack + span segments := by
  induction segments generalizing stack with
  | nil =>
      rw [climb, span_reverse]
      exact Nat.le_add_right _ _
  | cons first rest ih =>
      rw [climb]
      split
      · -- a step up takes no room itself and may free some
        have popped := span_le_of_sublist (List.tail_sublist stack)
        have later := ih stack.tail
        rw [span_cons]
        omega
      · have later := ih (first :: stack)
        rw [span_cons] at later ⊢
        omega

/-! ## Absolute paths -/

theorem isAbsolute_ofChars {text : List Char} :
    (ofChars text).isAbsolute ↔ ∃ rest, text = '/' :: rest := by
  constructor
  · intro absolute
    cases text with
    | nil => cases absolute
    | cons c rest =>
        by_cases slash : c = '/'
        · exact ⟨rest, by rw [slash]⟩
        · simp [isAbsolute, ofChars, rootOf, slash] at absolute
  · rintro ⟨rest, rfl⟩
    unfold isAbsolute ofChars rootOf
    split <;> simp_all

theorem resolve_of_absolute {path : FilePath} (absolute : path.isAbsolute) (directory : FilePath) :
    path.resolve directory = climb [] path.segments := by
  rw [resolve, if_pos absolute]

theorem plain_of_mem_resolve {text : List Char} {directory : FilePath} {segment : List Char}
    (absolute : (ofChars text).isAbsolute) (member : segment ∈ (ofChars text).resolve directory) :
    Plain segment := by
  rw [resolve_of_absolute absolute] at member
  rcases mem_climb member with below | ⟨written, stays⟩
  · cases below
  · exact ⟨(mem_segments written).1, (mem_segments written).2, stays⟩

theorem resolve_of_plain {segments : List (List Char)} (plain : ∀ segment ∈ segments, Plain segment)
    (directory : FilePath) : (⟨['/'], segments⟩ : FilePath).resolve directory = segments := by
  have stay : ['.', '.'] ∉ segments := fun member => (plain _ member).stays rfl
  rw [resolve_of_absolute rfl]
  exact climb_of_plain stay []

theorem rootOf_slash {text : List Char} (other : text.head? ≠ some '/') :
    rootOf ('/' :: text) = ['/'] := by
  unfold rootOf
  split <;> simp_all

theorem head?_joinWith {separator first : List Char} {rest : List (List Char)}
    (inhabited : first ≠ []) : (joinWith separator (first :: rest)).head? = first.head? := by
  cases first with
  | nil => exact absurd rfl inhabited
  | cons c more => cases rest <;> rfl

theorem splitOn_slash (text : List Char) : splitOn '/' ('/' :: text) = [] :: splitOn '/' text := by
  simp [splitOn, splitAt]

theorem splitOn_absolute {segments : List (List Char)} (inhabited : segments ≠ [])
    (whole : ∀ segment ∈ segments, '/' ∉ segment) :
    splitOn '/' (absolute segments) = [] :: segments := by
  rw [absolute, splitOn_slash, splitOn_joinWith inhabited whole]

/-- The text of a resolved path names it. -/
theorem ofChars_absolute {segments : List (List Char)}
    (plain : ∀ segment ∈ segments, Plain segment) :
    ofChars (absolute segments) = ⟨['/'], segments⟩ := by
  cases segments with
  | nil => rfl
  | cons first rest =>
      have cut : splitOn '/' (absolute (first :: rest)) = [] :: first :: rest :=
        splitOn_absolute (List.cons_ne_nil first rest) fun segment member => (plain segment member).whole
      have kept : (first :: rest).filter meaningful = first :: rest :=
        List.filter_eq_self.mpr fun segment member => (plain segment member).meaningful
      have root : rootOf (absolute (first :: rest)) = ['/'] := by
        have own := plain first (by simp)
        refine rootOf_slash fun head => ?_
        rw [head?_joinWith own.ne_nil] at head
        exact own.whole (List.mem_of_head? head)
      rw [ofChars, root, cut, List.filter_cons_of_neg (by simp [meaningful]), kept]

theorem length_absolute (segments : List (List Char)) :
    (absolute segments).length = max 1 (span segments) := by
  cases segments with
  | nil => rfl
  | cons first rest =>
      have joined : (joinWith ['/'] (first :: rest)).length + 1 = span (first :: rest) :=
        length_joinWith (List.cons_ne_nil first rest)
      rw [absolute, List.length_cons, joined, span_cons]
      omega

/-- No text of a path is shorter than that of what it resolves to. -/
theorem length_absolute_resolve_le (rest : List Char) (directory : FilePath) :
    (absolute ((ofChars ('/' :: rest)).resolve directory)).length ≤ rest.length + 1 := by
  have cut : (ofChars ('/' :: rest)).segments = (splitOn '/' rest).filter meaningful := by
    simp [ofChars, splitOn, splitAt, meaningful]
  rw [length_absolute, resolve_of_absolute (isAbsolute_ofChars.mpr ⟨rest, rfl⟩), cut, Nat.max_le]
  refine ⟨by omega, ?_⟩
  calc span (climb [] ((splitOn '/' rest).filter meaningful))
      ≤ span [] + span ((splitOn '/' rest).filter meaningful) := span_climb_le _ _
    _ = span ((splitOn '/' rest).filter meaningful) := by rw [span_nil, Nat.zero_add]
    _ ≤ span (splitOn '/' rest) := span_le_of_sublist List.filter_sublist
    _ = rest.length + 1 := span_splitOn '/' rest

end FilePath

end SchemaSharp
