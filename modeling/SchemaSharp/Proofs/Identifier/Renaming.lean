import SchemaSharp.Proofs.Identifier
import SchemaSharp.Proofs.Text.Filling

/-!
Members named like their class. A pattern that passed the check and shows the name as one of its fields
makes something else of every name, so a member that it renames differs from its class. The check looks
for the placeholder in the text of the pattern, and there it may stand in doubled braces or within a
layout. It tries one name only: where a layout has fields of its own, another name may be refused.
-/

namespace SchemaSharp.Identifier

open Text Text.Template

/-! ## Identifiers -/

theorem segments_eq_nil_iff {name : List Char} :
    segments name = [] ↔ ∀ c ∈ name, isSeparator c = true := by
  unfold segments
  induction name with
  | nil => simp [splitAt]
  | cons c rest ih =>
      rw [splitAt, List.forall_mem_cons, ← ih]
      split
      · next separates => simp [separates]
      · next other =>
          split <;> simp [other]

theorem isSeparator_eq_false_iff {c : Char} : isSeparator c = false ↔ c ∉ ['_', '-', '.'] := by
  simp [isSeparator, and_assoc]

theorem uppercase_not_separator {c : Char} (plain : isSeparator c = false) :
    ∀ upper ∈ uppercase c, isSeparator upper = false := by
  simp only [isSeparator_eq_false_iff] at plain ⊢
  exact (uppercase_avoids_iff (by decide) (by decide +kernel) (by decide +kernel)
    (by decide +kernel) c).mpr plain

/-- Separators are left out, and none comes back with upper case. -/
theorem not_separator_of_ofName {name : Option String} {capitals : Bool} {identifier : String}
    (made : ofName name capitals = .ok identifier) :
    ∀ c ∈ identifier.toList, isSeparator c = false := by
  have parts : ∀ text, ∀ c ∈ glue capitals (segments text), isSeparator c = false := by
    intro text c member
    obtain ⟨part, listed, here⟩ := List.mem_flatMap.mp member
    have plain := not_marked_of_mem_splitAt (List.mem_of_mem_filter listed)
    cases capitals with
    | false => exact plain c here
    | true =>
        cases part with
        | nil => cases here
        | cons first rest =>
            obtain ⟨plainFirst, plainRest⟩ := List.forall_mem_cons.mp plain
            exact (List.mem_append.mp here).elim (uppercase_not_separator plainFirst c) (plainRest c)
  unfold ofName at made
  split at made
  · cases made
  · next text =>
      split at made
      · cases made
      · dsimp only at made
        split at made
        · cases made
        · cases made
          simpa using parts text.toList

/-- A name has no identifier exactly if it is missing or holds nothing but separators. -/
theorem ofName_fails_iff {name : Option String} {capitals : Bool} :
    (∃ fault, ofName name capitals = .error fault) ↔
      ∀ text ∈ name, ∀ c ∈ text.toList, isSeparator c = true := by
  cases name with
  | none => simp [ofName]
  | some text =>
      simp only [Option.mem_some_iff, forall_eq', ← segments_eq_nil_iff]
      unfold ofName
      dsimp only
      split
      · next empty =>
          obtain rfl := String.isEmpty_iff.mp empty
          exact iff_of_true ⟨_, rfl⟩ rfl
      · split
        · next none => exact iff_of_true ⟨_, rfl⟩ (List.isEmpty_iff.mp none)
        · next some =>
            exact iff_of_false (fun ⟨_, same⟩ => nomatch same) (by simpa using some)

/-! ## Renaming -/

theorem checkPattern_eq_ok {pattern : String} (accepted : checkPattern pattern = .ok ()) :
    ∃ filled, fillTemplate pattern probe = .ok filled ∧ filled ≠ probe := by
  unfold checkPattern at accepted
  split at accepted
  · cases accepted
  · split at accepted
    · split at accepted <;> cases accepted
    · next filled computed =>
        split at accepted
        · cases accepted
        · next changed => exact ⟨filled, computed, by simpa using changed⟩

section Members

variable {name : Option String} {enclosing pattern : String} {capitals : Bool}

theorem ofMember_fails_by_name_iff {fault : IdentifierFault} :
    ofMember name enclosing pattern capitals = .error (.name fault) ↔
      ofName name capitals = .error fault := by
  unfold ofMember
  split
  · next other named => simp [named]
  · next plain named =>
      rw [named]
      refine iff_of_false ?_ (fun same => nomatch same)
      split
      · split <;> exact fun same => nomatch same
      · exact fun same => nomatch same

/-- Only a member that is named like its class is renamed, and only renaming keeps or loses that
name. -/
theorem renamed_of_ofMember (outcome : Except TemplateFault String)
    (made : ofMember name enclosing pattern capitals = outcome.mapError .pattern)
    (shadows : ∀ identifier, outcome = .ok identifier → identifier = enclosing) :
    ofName name capitals = .ok enclosing ∧ fillTemplate pattern enclosing = outcome := by
  unfold ofMember at made
  split at made
  · cases outcome <;> cases made
  · next plain named =>
      split at made
      · next same =>
          obtain rfl := beq_iff_eq.mp same
          refine ⟨named, ?_⟩
          split at made
          · next fault failed =>
              cases outcome <;> cases made
              exact failed
          · next renamed filled =>
              cases outcome <;> cases made
              exact filled
      · next differs =>
          cases outcome <;> cases made
          exact absurd (shadows plain rfl) (by simpa using differs)

end Members

end SchemaSharp.Identifier
