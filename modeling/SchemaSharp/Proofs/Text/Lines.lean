import Mathlib.Data.List.Infix
import SchemaSharp.Proofs.Text.Quoted
import SchemaSharp.Text.Pieces

/-!
Texts on a single line. Texts that are written one after the other, each with an end of line behind
it, are read back as these lines exactly if every one of them is on a single line.
-/

namespace SchemaSharp.Text

/-- The characters that end a line of a source file. -/
def lineEnds : List Char := ['\n', '\r', '\u0085', '\u2028', '\u2029']

def isLineEnd (c : Char) : Bool := lineEnds.contains c

def Unbroken (chars : List Char) : Prop := ∀ c ∈ chars, isLineEnd c = false

instance (chars : List Char) : Decidable (Unbroken chars) :=
  List.decidableBAll (fun c => isLineEnd c = false) chars

def SingleLine (text : String) : Prop := Unbroken text.toList

instance (text : String) : Decidable (SingleLine text) :=
  inferInstanceAs (Decidable (Unbroken text.toList))

/-- The lines of a text as they are read. What follows the last end of line is a line as well. -/
def physicalLines (text : String) : List String :=
  (splitAt isLineEnd text.toList).map String.ofList

/-! ## Parts -/

@[simp]
theorem unbroken_nil : Unbroken [] := fun _ member => nomatch member

@[simp]
theorem unbroken_cons {c : Char} {rest : List Char} :
    Unbroken (c :: rest) ↔ isLineEnd c = false ∧ Unbroken rest :=
  List.forall_mem_cons

@[simp]
theorem unbroken_append {first second : List Char} :
    Unbroken (first ++ second) ↔ Unbroken first ∧ Unbroken second :=
  List.forall_mem_append

theorem Unbroken.subset {part whole : List Char} (unbroken : Unbroken whole)
    (within : part ⊆ whole) : Unbroken part :=
  fun c member => unbroken c (within member)

theorem unbroken_flatMap_iff {α : Type} {items : List α} {chars : α → List Char} :
    Unbroken (items.flatMap chars) ↔ ∀ item ∈ items, Unbroken (chars item) := by
  simp only [Unbroken, List.mem_flatMap]
  exact ⟨fun whole item listed c member => whole c ⟨item, listed, member⟩,
    fun each c ⟨item, listed, member⟩ => each item listed c member⟩

@[simp]
theorem singleLine_ofList {chars : List Char} :
    SingleLine (String.ofList chars) ↔ Unbroken chars := by
  rw [SingleLine, String.toList_ofList]

@[simp]
theorem singleLine_append {first second : String} :
    SingleLine (first ++ second) ↔ SingleLine first ∧ SingleLine second := by
  rw [SingleLine, String.toList_append, unbroken_append]
  rfl

theorem singleLine_join {texts : List String} :
    SingleLine (String.join texts) ↔ ∀ text ∈ texts, SingleLine text := by
  rw [SingleLine, String.toList_join, unbroken_flatMap_iff]
  rfl

theorem unbroken_intercalate {separator : List Char} (plain : Unbroken separator)
    (parts : List (List Char)) :
    Unbroken (separator.intercalate parts) ↔ ∀ part ∈ parts, Unbroken part := by
  induction parts with
  | nil => simp
  | cons part rest ih =>
      cases rest with
      | nil => simp
      | cons next others => simp [List.intercalate_cons_cons, ih, plain]

/-- A separator on a single line neither makes nor hides a line end. -/
theorem singleLine_intercalate {separator : String} (plain : SingleLine separator)
    {texts : List String} :
    SingleLine (separator.intercalate texts) ↔ ∀ text ∈ texts, SingleLine text := by
  rw [SingleLine, String.toList_intercalate, unbroken_intercalate plain, List.forall_mem_map]
  rfl

/-! ## Lines read back -/

theorem splitAt_of_unmarked {mark : Char → Bool} {chars : List Char}
    (unmarked : ∀ c ∈ chars, mark c = false) : splitAt mark chars = [chars] := by
  induction chars with
  | nil => rfl
  | cons c rest ih =>
      obtain ⟨here, later⟩ := List.forall_mem_cons.mp unmarked
      simp [splitAt, here, ih later]

theorem singleLine_of_mem_physicalLines {text line : String} (member : line ∈ physicalLines text) :
    SingleLine line := by
  obtain ⟨piece, listed, rfl⟩ := List.mem_map.mp member
  exact singleLine_ofList.mpr (not_marked_of_mem_splitAt listed)

/-- A line on a single line is the first that is read. -/
theorem physicalLines_cons {line : String} (single : SingleLine line) (rest : String) :
    physicalLines (line ++ "\n" ++ rest) = line :: physicalLines rest := by
  have chars : (line ++ "\n" ++ rest).toList = line.toList ++ '\n' :: rest.toList := by simp
  rw [physicalLines, chars, splitAt_append (by decide), splitAt_of_unmarked single]
  simp [physicalLines]

theorem physicalLines_joined {lines : List String} (single : ∀ line ∈ lines, SingleLine line) :
    physicalLines (String.join (lines.map (· ++ "\n"))) = lines ++ [""] := by
  induction lines with
  | nil => rfl
  | cons line rest ih =>
      obtain ⟨here, later⟩ := List.forall_mem_cons.mp single
      rw [List.map_cons, String.join_cons, physicalLines_cons here, ih later]
      rfl

/-- Lines are read back as they were written exactly if each is on a single line. -/
theorem physicalLines_joined_iff (lines : List String) :
    physicalLines (String.join (lines.map (· ++ "\n"))) = lines ++ [""] ↔
      ∀ line ∈ lines, SingleLine line := by
  constructor
  · intro same line listed
    apply singleLine_of_mem_physicalLines
    rw [same]
    exact List.mem_append_left _ listed
  · exact physicalLines_joined

/-! ## Quoted texts -/

/-- Quoting adds no line end. -/
theorem unbroken_quotedWith {shown : Char → Bool} {text : List Char} (plain : Unbroken text) :
    Unbroken (quotedWith shown text) := by
  have added : Unbroken quotingChars := by decide
  intro c member
  exact (mem_quotedWith member).elim (plain c) (added c)

end SchemaSharp.Text
