import SchemaSharp.Text.Pieces

/-!
What a text is cut into at a character. Both parts are parts of the text, and the first holds no such
character.
-/

namespace SchemaSharp.Text

theorem cutFirst_of_notMem {separator : Char} {text : List Char} (absent : separator ∉ text) :
    cutFirst separator text = (text, none) := by
  induction text with
  | nil => rfl
  | cons c rest ih =>
      rw [List.mem_cons, not_or] at absent
      rw [cutFirst, if_neg (by simpa using Ne.symm absent.1), ih absent.2]

theorem cutFirst_append {separator : Char} {before : List Char} (absent : separator ∉ before)
    (after : List Char) : cutFirst separator (before ++ separator :: after) = (before, some after) := by
  induction before with
  | nil => simp [cutFirst]
  | cons c rest ih =>
      rw [List.mem_cons, not_or] at absent
      rw [List.cons_append, cutFirst, if_neg (by simpa using Ne.symm absent.1), ih absent.2]

theorem cutFirst_subset {separator : Char} {text before : List Char} {after : Option (List Char)}
    (cut : cutFirst separator text = (before, after)) :
    before ⊆ text ∧ ∀ rest, after = some rest → rest ⊆ text := by
  induction text generalizing before with
  | nil =>
      cases cut
      simp
  | cons c rest ih =>
      rw [cutFirst] at cut
      split at cut
      · cases cut
        simp
      · obtain ⟨rfl, rfl⟩ := Prod.mk.inj cut
        obtain ⟨front, back⟩ := ih rfl
        exact ⟨List.cons_subset_cons c front, fun others found =>
          List.Subset.trans (back others found) (List.subset_cons_self c rest)⟩

theorem cutLast?_subset {separator : Char} {text before after : List Char}
    (cut : cutLast? separator text = some (before, after)) : before ⊆ text := by
  unfold cutLast? at cut
  split at cut
  · cases cut
  · next back front found =>
      cases cut
      intro c member
      have inside := (cutFirst_subset found).2 front rfl (List.mem_reverse.mp member)
      exact List.mem_reverse.mp inside

/-- What is joined is made of the pieces and the separators. -/
theorem mem_of_mem_joinWith {separator : List Char} {pieces : List (List Char)} {c : Char}
    (member : c ∈ joinWith separator pieces) : c ∈ separator ∨ ∃ piece ∈ pieces, c ∈ piece := by
  induction pieces with
  | nil => cases member
  | cons piece rest ih =>
      cases rest with
      | nil => exact .inr ⟨piece, by simp, member⟩
      | cons next others =>
          rw [joinWith, List.mem_append, List.mem_append] at member
          · rcases member with (own | between) | behind
            · exact .inr ⟨piece, by simp, own⟩
            · exact .inl between
            · rcases ih behind with between | ⟨other, listed, here⟩
              · exact .inl between
              · exact .inr ⟨other, List.mem_cons_of_mem _ listed, here⟩
          · exact List.cons_ne_nil _ _

theorem subset_joinWith {pieces : List (List Char)} {piece : List Char} (listed : piece ∈ pieces)
    (separator : List Char) : piece ⊆ joinWith separator pieces := by
  induction pieces with
  | nil => cases listed
  | cons first rest ih =>
      cases rest with
      | nil =>
          rw [List.mem_singleton.mp listed]
          exact List.Subset.refl first
      | cons next others =>
          have joined : joinWith separator (first :: next :: others) =
              first ++ (separator ++ joinWith separator (next :: others)) := by
            simp [joinWith]
          rw [joined]
          rcases List.mem_cons.mp listed with rfl | later
          · exact List.subset_append_left _ _
          · exact List.subset_append_of_subset_right _ (List.subset_append_of_subset_right _ (ih later))

theorem splitOn_subset {separator : Char} {text piece : List Char}
    (listed : piece ∈ splitOn separator text) : piece ⊆ text := by
  have inside := subset_joinWith listed [separator]
  rwa [joinWith_splitOn] at inside

theorem dropHead_eq_some_iff {text head rest : List Char} :
    dropHead text head = some rest ↔ text = head ++ rest := by
  induction head generalizing text with
  | nil => rw [dropHead, List.nil_append, Option.some_inj]
  | cons h hs ih =>
      cases text with
      | nil => simp [dropHead]
      | cons c text =>
          rw [dropHead, List.cons_append, List.cons.injEq]
          split
          · next same => rw [ih, beq_iff_eq.mp same, and_iff_right rfl]
          · next differs =>
              have other : c ≠ h := fun same => differs (by simp [same])
              simp [other]

end SchemaSharp.Text
