import SchemaSharp.Proofs.Identifier
import SchemaSharp.Proofs.Text.Template

/-!
Line ends pass through identifiers. Making an identifier of a name neither adds nor removes a line
end: no separator is one, and neither a line end nor any other character has one in its upper-case
form. A member that is renamed takes the name of its class, and what its pattern adds to it.
-/

namespace SchemaSharp

/-! ## Upper case -/

namespace Text

theorem isLineEnd_eq_false_iff {c : Char} : isLineEnd c = false ↔ c ∉ lineEnds := by
  simp [isLineEnd]

theorem unbroken_uppercase_iff (c : Char) : Unbroken (uppercase c) ↔ isLineEnd c = false := by
  simp only [Unbroken, isLineEnd_eq_false_iff]
  exact uppercase_avoids_iff (by decide) (by decide +kernel) (by decide +kernel)
    (by decide +kernel) c

end Text

/-! ## Identifiers -/

namespace Identifier

open Text

theorem unbroken_splitAt_iff {mark : Char → Bool} (aside : ∀ c, mark c = true → isLineEnd c = false)
    (name : List Char) : (∀ piece ∈ splitAt mark name, Unbroken piece) ↔ Unbroken name := by
  induction name with
  | nil => simp [splitAt]
  | cons c rest ih =>
      rw [splitAt, unbroken_cons, ← ih]
      split
      · next marked => simp [aside c marked]
      · cases parts : splitAt mark rest with
        | nil => exact absurd parts (splitAt_ne_nil _ _)
        | cons piece pieces => simp [and_assoc]

theorem unbroken_capitalise_iff (part : List Char) :
    Unbroken (capitalise part) ↔ Unbroken part := by
  cases part with
  | nil => rfl
  | cons c rest => rw [capitalise, unbroken_append, unbroken_cons, unbroken_uppercase_iff]

theorem unbroken_glue_iff (capitals : Bool) (name : List Char) :
    Unbroken (glue capitals (segments name)) ↔ Unbroken name := by
  have aside : ∀ c, isSeparator c = true → isLineEnd c = false := by
    intro c separates
    simp only [isSeparator, Bool.or_eq_true, beq_iff_eq] at separates
    rcases separates with (rfl | rfl) | rfl <;> decide
  have each : ∀ part, Unbroken (if capitals then capitalise part else part) ↔ Unbroken part := by
    intro part
    cases capitals with
    | true => exact unbroken_capitalise_iff part
    | false => rfl
  rw [glue, unbroken_flatMap_iff, ← unbroken_splitAt_iff aside]
  simp only [each, segments, List.mem_filter]
  constructor
  · intro full piece member
    cases piece with
    | nil => exact unbroken_nil
    | cons c rest => exact full _ ⟨member, rfl⟩
  · exact fun all piece listed => all piece listed.1

/-- An identifier is on a single line exactly if its name is. -/
theorem singleLine_ofName_iff {name : Option String} {capitals : Bool} {identifier : String}
    (made : ofName name capitals = .ok identifier) :
    SingleLine identifier ↔ ∀ text ∈ name, SingleLine text := by
  unfold ofName at made
  split at made
  · cases made
  · next text =>
      split at made
      · cases made
      · dsimp only at made
        split at made
        · cases made
        · cases made
          rw [singleLine_ofList, unbroken_glue_iff]
          simp [SingleLine]

section

variable {name : Option String} {enclosing pattern identifier : String} {capitals : Bool}

theorem singleLine_of_ofMember (tame : Template.Tame pattern.toList)
    (made : ofMember name enclosing pattern capitals = .ok identifier)
    (single : ∀ text ∈ name, SingleLine text) : SingleLine identifier := by
  obtain ⟨plain, named, shape⟩ := ofMember_eq_ok made
  have here : SingleLine plain := (singleLine_ofName_iff named).mpr single
  rcases shape with ⟨_, filled⟩ | rfl
  · exact singleLine_of_fillTemplate tame here filled
  · exact here

/-- However a member is renamed, its name shows in its own identifier or in that of its class. -/
theorem singleLine_of_member (made : ofMember name enclosing pattern capitals = .ok identifier)
    (outer : SingleLine enclosing) (inner : SingleLine identifier) :
    ∀ text ∈ name, SingleLine text := by
  obtain ⟨plain, named, shape⟩ := ofMember_eq_ok made
  apply (singleLine_ofName_iff named).mp
  rcases shape with ⟨rfl, _⟩ | rfl
  · exact outer
  · exact inner

end

end Identifier

end SchemaSharp
