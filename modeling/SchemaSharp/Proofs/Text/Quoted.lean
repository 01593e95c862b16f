import SchemaSharp.Text.Quoted

/-!
What quoting adds to a text: quotation marks, backslashes and the letters and digits of escapes.
-/

namespace SchemaSharp.Text

/-- The characters that quoting may add. -/
def quotingChars : List Char :=
  ['\'', '"', '\\', 't', 'n', 'r', 'x', 'u', 'U', '0', '1', '2', '3', '4', '5', '6', '7', '8', '9',
    'a', 'b', 'c', 'd', 'e', 'f']

theorem hexDigits_subset (width number : Nat) : hexDigits width number ⊆ quotingChars := by
  have each : ∀ digit < 16, hexDigit digit ∈ quotingChars := by decide
  induction width generalizing number with
  | zero => exact List.nil_subset _
  | succ width ih =>
      rw [hexDigits, List.append_subset]
      refine ⟨ih _, List.cons_subset.mpr ⟨?_, List.nil_subset _⟩⟩
      exact each _ (Nat.mod_lt number (by decide))

theorem numericEscape_subset (code : Nat) : numericEscape code ⊆ quotingChars := by
  have letters : ['x', 'u', 'U'] ⊆ quotingChars := by decide
  have prefixed : ∀ letter ∈ ['x', 'u', 'U'], ∀ width,
      '\\' :: letter :: hexDigits width code ⊆ quotingChars := by
    intro letter listed width
    refine List.cons_subset.mpr ⟨by decide, ?_⟩
    exact List.cons_subset.mpr ⟨letters listed, hexDigits_subset _ _⟩
  unfold numericEscape
  split
  · exact prefixed 'x' (by decide) 2
  · split
    · exact prefixed 'u' (by decide) 4
    · exact prefixed 'U' (by decide) 8

theorem mem_escapeFor {mark c other : Char} {shown : Char → Bool}
    (member : other ∈ escapeFor mark shown c) : other = c ∨ other ∈ quotingChars := by
  have letters : ['t', 'n', 'r'] ⊆ quotingChars := by decide
  have short : ∀ letter ∈ ['t', 'n', 'r'], ['\\', letter] ⊆ quotingChars := fun letter listed =>
    List.cons_subset.mpr ⟨by decide, List.cons_subset.mpr ⟨letters listed, List.nil_subset _⟩⟩
  unfold escapeFor at member
  split at member
  · rcases List.mem_cons.mp member with rfl | same
    · exact .inr (by decide)
    · exact .inl (List.mem_singleton.mp same)
  · split at member
    · exact .inr (short 't' (by decide) member)
    · split at member
      · exact .inr (short 'n' (by decide) member)
      · split at member
        · exact .inr (short 'r' (by decide) member)
        · split at member
          · exact .inl (List.mem_singleton.mp member)
          · exact .inr (numericEscape_subset _ member)

theorem mem_quotedWith {c : Char} {shown : Char → Bool} {text : List Char}
    (member : c ∈ quotedWith shown text) : c ∈ text ∨ c ∈ quotingChars := by
  have mark : quoteMark text ∈ quotingChars := by
    unfold quoteMark
    split <;> decide
  simp only [quotedWith, List.cons_append, List.mem_cons, List.mem_append, List.mem_flatMap,
    List.mem_nil_iff, or_false] at member
  rcases member with rfl | ⟨inner, inside, here⟩ | rfl
  · exact .inr mark
  · rcases mem_escapeFor here with rfl | added
    · exact .inl inside
    · exact .inr added
  · exact .inr mark

end SchemaSharp.Text
