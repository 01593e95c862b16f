/-!
Cutting a text at a character and putting the pieces together again.
-/

namespace SchemaSharp.Text

/-- The pieces between the marked characters; always at least one, and any of them may be empty. -/
def splitAt (mark : Char → Bool) : List Char → List (List Char)
  | [] => [[]]
  | c :: rest =>
      if mark c then [] :: splitAt mark rest
      else
        match splitAt mark rest with
        | [] => [[c]]
        | piece :: pieces => (c :: piece) :: pieces

def splitOn (separator : Char) (text : List Char) : List (List Char) :=
  splitAt (· == separator) text

def joinWith (separator : List Char) : List (List Char) → List Char
  | [] => []
  | [piece] => piece
  | piece :: pieces => piece ++ separator ++ joinWith separator pieces

/-- The text before and after the first `separator`; the second part is absent without one. -/
def cutFirst (separator : Char) : List Char → List Char × Option (List Char)
  | [] => ([], none)
  | c :: rest =>
      if c == separator then ([], some rest)
      else
        let (before, after) := cutFirst separator rest
        (c :: before, after)

/-- The text before and after the last `separator`. -/
def cutLast? (separator : Char) (text : List Char) : Option (List Char × List Char) :=
  match cutFirst separator text.reverse with
  | (_, none) => none
  | (after, some before) => some (before.reverse, after.reverse)

def dropHead (text head : List Char) : Option (List Char) :=
  match head, text with
  | [], rest => some rest
  | _, [] => none
  | h :: hs, c :: rest => if h == c then dropHead rest hs else none

/-- Whether `part` occurs in `text`. -/
def occurs (part : List Char) : List Char → Bool
  | [] => part.isEmpty
  | c :: rest => (dropHead (c :: rest) part).isSome || occurs part rest

theorem splitAt_ne_nil (mark : Char → Bool) (text : List Char) : splitAt mark text ≠ [] := by
  induction text with
  | nil => simp [splitAt]
  | cons c rest ih =>
      simp only [splitAt]
      split
      · simp
      · split <;> simp

/-- A mark ends the pieces before it. -/
theorem splitAt_append {mark : Char → Bool} {c : Char} (marked : mark c = true)
    (before after : List Char) :
    splitAt mark (before ++ c :: after) = splitAt mark before ++ splitAt mark after := by
  induction before with
  | nil => simp [splitAt, marked]
  | cons first rest ih =>
      rw [List.cons_append, splitAt, splitAt, ih]
      split
      · rfl
      · cases h : splitAt mark rest with
        | nil => exact absurd h (splitAt_ne_nil _ _)
        | cons piece pieces => rfl

/-- No piece holds a character that was cut at. -/
theorem not_marked_of_mem_splitAt {mark : Char → Bool} {text piece : List Char}
    (member : piece ∈ splitAt mark text) : ∀ c ∈ piece, mark c = false := by
  induction text generalizing piece with
  | nil => simp_all [splitAt]
  | cons first rest ih =>
      rw [splitAt] at member
      split at member
      case isTrue =>
        rcases List.mem_cons.1 member with rfl | later
        · simp
        · exact ih later
      case isFalse unmarked =>
        split at member
        case h_1 => simp_all
        case h_2 head pieces same =>
          rcases List.mem_cons.1 member with rfl | later
          · intro c inside
            rcases List.mem_cons.1 inside with rfl | deeper
            · simpa using unmarked
            · exact ih (same ▸ List.mem_cons_self) c deeper
          · exact ih (same ▸ List.mem_cons_of_mem head later)

/-- Joining the pieces with the separator they were cut at gives the text back. -/
theorem joinWith_splitOn (separator : Char) (text : List Char) :
    joinWith [separator] (splitOn separator text) = text := by
  unfold splitOn
  induction text with
  | nil => rfl
  | cons c rest ih =>
      cases h : splitAt (· == separator) rest with
      | nil => exact absurd h (splitAt_ne_nil _ _)
      | cons piece pieces =>
          rw [h] at ih
          by_cases mark : c = separator
          · subst mark
            simp [splitAt, h, joinWith, ih]
          · cases pieces with
            | nil => simp_all [splitAt, joinWith]
            | cons next more => simp_all [splitAt, joinWith]

end SchemaSharp.Text
