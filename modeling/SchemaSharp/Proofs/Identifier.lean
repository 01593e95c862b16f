import SchemaSharp.Identifier
import SchemaSharp.Proofs.Text.Uppercase

/-!
Identifiers are never empty. A name that has an identifier has a character that is no separator,
and no character disappears when it is written in upper case. Only a template makes an identifier
empty.
-/

namespace SchemaSharp.Identifier

open Text (uppercase uppercase_ne_nil splitAt fillTemplate)

theorem capitalise_ne_nil {segment : List Char} (given : segment ≠ []) :
    capitalise segment ≠ [] := by
  cases segment with
  | nil => exact absurd rfl given
  | cons c rest => simp [capitalise, uppercase_ne_nil]

theorem segments_ne_nil {name segment : List Char} (member : segment ∈ segments name) :
    segment ≠ [] := by
  have kept := (List.mem_filter.mp member).2
  simpa using kept

theorem glue_ne_nil {capitals : Bool} {name : List Char} (given : segments name ≠ []) :
    glue capitals (segments name) ≠ [] := by
  cases split : segments name with
  | nil => exact absurd split given
  | cons segment rest =>
      have full : segment ≠ [] := @segments_ne_nil name segment (by simp [split])
      rw [glue, List.flatMap_cons]
      cases capitals with
      | true => simp [capitalise_ne_nil full]
      | false => simp [full]

theorem ofName_ne_empty {name : Option String} {capitals : Bool} {identifier : String}
    (made : ofName name capitals = .ok identifier) : identifier ≠ "" := by
  unfold ofName at made
  split at made
  · cases made
  · next text =>
      split at made
      · cases made
      · dsimp only at made
        split at made
        · cases made
        · next given =>
            cases made
            have full := @glue_ne_nil capitals text.toList (by simpa using given)
            intro empty
            apply full
            simpa using congrArg String.toList empty

theorem exists_of_ofName {name : Option String} {capitals : Bool} {identifier : String}
    (made : ofName name capitals = .ok identifier) : ∃ text, name = some text := by
  cases name with
  | none => cases made
  | some text => exact ⟨text, rfl⟩

/-- What the identifier of a member is made of. -/
theorem ofMember_eq_ok {name : Option String} {enclosing pattern : String} {capitals : Bool}
    {identifier : String} (made : ofMember name enclosing pattern capitals = .ok identifier) :
    ∃ plain, ofName name capitals = .ok plain ∧
      (plain = enclosing ∧ fillTemplate pattern plain = .ok identifier ∨ plain = identifier) := by
  unfold ofMember at made
  split at made
  · cases made
  · next plain named =>
      split at made
      · next shadows =>
          split at made
          · cases made
          · next renamed filled =>
              cases made
              exact ⟨plain, named, .inl ⟨beq_iff_eq.mp shadows, filled⟩⟩
      · cases made
        exact ⟨identifier, named, .inr rfl⟩

/-- Only renaming leaves a member without an identifier, and it renames what is named like the
enclosing class. -/
theorem renamed_of_ofMember_empty {name : Option String} {enclosing pattern : String}
    {capitals : Bool} (made : ofMember name enclosing pattern capitals = .ok "") :
    fillTemplate pattern enclosing = .ok "" := by
  obtain ⟨plain, named, ⟨rfl, filled⟩ | rfl⟩ := ofMember_eq_ok made
  · exact filled
  · exact absurd rfl (ofName_ne_empty named)

/-- The pattern that is used unless another one is given only adds to a name. -/
theorem fillTemplate_default (name : String) :
    fillTemplate "\x7b0\x7dData" name = .ok (name ++ "Data") := by
  have filled : Text.Template.fillAt name.toList 2 .undecided ['{', '0', '}', 'D', 'a', 't', 'a'] =
      .ok (name.toList ++ "Data".toList, .manual) := rfl
  simp [fillTemplate, filled]

theorem fillTemplate_default_ne_empty (name : String) :
    fillTemplate "\x7b0\x7dData" name ≠ .ok "" := by
  rw [fillTemplate_default]
  intro empty
  have size := congrArg String.length (Except.ok.inj empty)
  simp at size

end SchemaSharp.Identifier
