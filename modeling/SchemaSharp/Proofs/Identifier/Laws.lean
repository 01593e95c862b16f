import SchemaSharp.Proofs.Identifier.Beginnings

/-!
Laws of identifiers. An identifier is made of the segments of a name, so names with the same segments
have the same identifier: how many separators there are between two segments makes no difference, and
none at all those before the first and behind the last. An identifier is a single segment that begins
in upper case already, so it is its own identifier.
-/

namespace SchemaSharp.Identifier

open Text

/-! ## Segments -/

section Segments

variable {front back name separators : List Char} {c : Char}

/-- A separator ends the segments before it. -/
theorem segments_append (separates : isSeparator c = true) :
    segments (front ++ c :: back) = segments front ++ segments back := by
  unfold segments
  rw [splitAt_append separates, List.filter_append]

theorem segments_leading (all : ∀ c ∈ separators, isSeparator c = true) :
    segments (separators ++ name) = segments name := by
  induction separators with
  | nil => rfl
  | cons c rest ih =>
      obtain ⟨separates, others⟩ := List.forall_mem_cons.mp all
      exact (@segments_append [] _ c separates).trans (ih others)

theorem segments_trailing (all : ∀ c ∈ separators, isSeparator c = true) :
    segments (name ++ separators) = segments name := by
  cases separators with
  | nil => rw [List.append_nil]
  | cons c rest =>
      obtain ⟨separates, others⟩ := List.forall_mem_cons.mp all
      rw [segments_append separates, segments_eq_nil_iff.mpr others, List.append_nil]

/-- More separators behind one make no difference. -/
theorem segments_repeated (separates : isSeparator c = true)
    (all : ∀ c ∈ separators, isSeparator c = true) :
    segments (front ++ c :: (separators ++ back)) = segments (front ++ c :: back) := by
  rw [segments_append separates, segments_append separates, segments_leading all]

theorem splitAt_unmarked {mark : Char → Bool} (none : ∀ c ∈ name, mark c = false) :
    splitAt mark name = [name] := by
  induction name with
  | nil => rfl
  | cons c rest ih =>
      obtain ⟨here, later⟩ := List.forall_mem_cons.mp none
      rw [splitAt, if_neg (by simp [here]), ih later]

theorem segments_whole (given : name ≠ []) (none : ∀ c ∈ name, isSeparator c = false) :
    segments name = [name] := by
  rw [segments, splitAt_unmarked none]
  simpa using given

theorem flatten_splitAt (mark : Char → Bool) (text : List Char) :
    (splitAt mark text).flatten = text.filter fun c => !mark c := by
  induction text with
  | nil => rfl
  | cons c rest ih =>
      rw [splitAt, List.filter_cons, ← ih]
      cases marked : mark c with
      | true => rfl
      | false =>
          cases parts : splitAt mark rest with
          | nil => exact absurd parts (splitAt_ne_nil mark rest)
          | cons piece pieces => rfl

/-- Without capitals the separators are left out and nothing else happens. -/
theorem glue_plain (name : List Char) :
    glue false (segments name) = name.filter fun c => !isSeparator c := by
  have whole : glue false (segments name) = (segments name).flatten := by simp [glue]
  rw [whole, ← flatten_splitAt, segments]
  exact List.flatten_filter_not_isEmpty

theorem glue_append (capitals : Bool) (first second : List (List Char)) :
    glue capitals (first ++ second) = glue capitals first ++ glue capitals second :=
  List.flatMap_append

/-- What begins in upper case is not changed by capitals. -/
theorem capitalise_glue {parts : List (List Char)} (given : ∀ part ∈ parts, part ≠ []) :
    capitalise (glue true parts) = glue true parts := by
  cases parts with
  | nil => rfl
  | cons part rest =>
      cases part with
      | nil => exact absurd rfl (given [] List.mem_cons_self)
      | cons c more =>
          cases form : uppercase c with
          | nil => exact absurd form (uppercase_ne_nil c)
          | cons first others => simp [glue, capitalise, form, uppercase_of_uppercase form]

end Segments

/-! ## Identifiers -/

section Identifiers

variable {name other identifier : String} {capitals : Bool}

theorem ofName_of_segments (given : segments name.toList ≠ []) :
    ofName (some name) capitals = .ok (String.ofList (glue capitals (segments name.toList))) := by
  have written : ¬ name.isEmpty = true := by
    intro empty
    obtain rfl := String.isEmpty_iff.mp empty
    exact given rfl
  unfold ofName
  dsimp only
  rw [if_neg written, if_neg (by simpa using given)]

/-- The segments of a name decide what becomes of it. -/
theorem toOption_ofName :
    (ofName (some name) capitals).toOption =
      if segments name.toList = [] then none
      else some (String.ofList (glue capitals (segments name.toList))) := by
  split
  · next none =>
      obtain ⟨fault, refused⟩ := (@ofName_fails_iff (some name) capitals).mpr
        (by simpa using segments_eq_nil_iff.mp none)
      rw [refused]
      rfl
  · next given => rw [ofName_of_segments given]; rfl

theorem toOption_ofName_congr (same : segments name.toList = segments other.toList) :
    (ofName (some name) capitals).toOption = (ofName (some other) capitals).toOption := by
  rw [toOption_ofName, toOption_ofName, same]

/-- A name that is not written is told apart from one with nothing but separators. -/
theorem ofName_fault_iff {fault : IdentifierFault} :
    ofName (some name) capitals = .error fault ↔
      (∀ c ∈ name.toList, isSeparator c = true) ∧
        fault = if name = "" then .emptyName else .onlySeparators name := by
  by_cases written : name = ""
  · subst written
    have refused : ofName (some "") capitals = .error .emptyName := rfl
    simp [refused, eq_comm (b := fault)]
  · rw [ofName_error_iff written, initial?_eq_none_iff, if_neg written]

theorem ofName_plain (made : ofName (some name) false = .ok identifier) :
    identifier.toList = name.toList.filter fun c => !isSeparator c := by
  rw [(ofName_eq_ok made).1, glue_plain]

/-- An identifier is one segment, and that begins in upper case already. -/
theorem ofName_of_ofName (made : ofName (some name) capitals = .ok identifier) :
    ofName (some identifier) capitals = .ok identifier := by
  obtain ⟨text, -⟩ := ofName_eq_ok made
  have written : identifier.toList ≠ [] := by simpa using ofName_ne_empty made
  have whole : segments identifier.toList = [identifier.toList] :=
    segments_whole written (not_separator_of_ofName made)
  have kept : glue capitals [identifier.toList] = identifier.toList := by
    cases capitals with
    | false => simp [glue]
    | true =>
        -- An upper-case form may be longer, but it begins in upper case itself.
        rw [text]
        simpa [glue] using capitalise_glue fun part listed =>
          by simpa using (List.mem_filter.mp listed).2
  rw [ofName_of_segments (by simp [whole]), whole, kept, String.ofList_toList]

theorem ofName_joined {front back : String} {separator : Char}
    (separates : isSeparator separator = true) (first : segments front.toList ≠ [])
    (second : segments back.toList ≠ []) :
    ∃ head tail, ofName (some front) capitals = .ok head ∧ ofName (some back) capitals = .ok tail ∧
      ofName (some (front ++ String.singleton separator ++ back)) capitals = .ok (head ++ tail) := by
  have parts : segments (front ++ String.singleton separator ++ back).toList =
      segments front.toList ++ segments back.toList := by
    simpa using segments_append separates
  refine ⟨_, _, ofName_of_segments first, ofName_of_segments second, ?_⟩
  have given : segments (front ++ String.singleton separator ++ back).toList ≠ [] := by
    rw [parts]
    exact fun none => first (List.append_eq_nil_iff.mp none).1
  rw [ofName_of_segments given, parts, glue_append, String.ofList_append]

end Identifiers

/-- The laws of identifiers, with capitals and without. A name is refused exactly if it has nothing
but separators. Every other name has an identifier, which is not empty, has no separators, is its own
identifier and without capitals just leaves the separators of the name out. The identifier of two
names with a separator between them joins theirs. Separators before and behind a name, and further
ones within it, never make a difference. -/
theorem ofName_laws (capitals : Bool) :
    (∀ name fault, ofName (some name) capitals = .error fault ↔
        (∀ c ∈ name.toList, isSeparator c = true) ∧
          fault = if name = "" then .emptyName else .onlySeparators name) ∧
      (∀ name identifier, ofName (some name) capitals = .ok identifier →
        identifier ≠ "" ∧ (∀ c ∈ identifier.toList, isSeparator c = false) ∧
          ofName (some identifier) capitals = .ok identifier ∧
          (capitals = false → identifier.toList = name.toList.filter fun c => !isSeparator c)) ∧
      (∀ (front back : String) (separator : Char), isSeparator separator = true →
        (∃ c ∈ front.toList, isSeparator c = false) → (∃ c ∈ back.toList, isSeparator c = false) →
        ∃ head tail, ofName (some front) capitals = .ok head ∧
          ofName (some back) capitals = .ok tail ∧
          ofName (some (front ++ String.singleton separator ++ back)) capitals =
            .ok (head ++ tail)) ∧
      ∀ separators : String, (∀ c ∈ separators.toList, isSeparator c = true) →
        (∀ name, (ofName (some (separators ++ name)) capitals).toOption =
            (ofName (some name) capitals).toOption ∧
          (ofName (some (name ++ separators)) capitals).toOption =
            (ofName (some name) capitals).toOption) ∧
        ∀ (front back : String) (separator : Char), isSeparator separator = true →
          (ofName (some (front ++ String.singleton separator ++ separators ++ back))
              capitals).toOption =
            (ofName (some (front ++ String.singleton separator ++ back)) capitals).toOption := by
  refine ⟨fun _ _ => ofName_fault_iff, ?_, ?_, ?_⟩
  · intro name identifier made
    refine ⟨ofName_ne_empty made, not_separator_of_ofName made, ofName_of_ofName made, ?_⟩
    rintro rfl
    exact ofName_plain made
  · rintro front back separator separates ⟨c, first, kept⟩ ⟨d, second, stays⟩
    refine ofName_joined separates ?_ ?_
    · intro none
      exact Bool.noConfusion (kept.symm.trans (segments_eq_nil_iff.mp none c first))
    · intro none
      exact Bool.noConfusion (stays.symm.trans (segments_eq_nil_iff.mp none d second))
  · intro separators all
    refine ⟨fun name => ⟨?_, ?_⟩, ?_⟩
    · exact toOption_ofName_congr (by simpa using segments_leading all)
    · exact toOption_ofName_congr (by simpa using segments_trailing all)
    · intro front back separator separates
      exact toOption_ofName_congr (by simpa using segments_repeated separates all)

/-- The sharp s becomes two letters, and the identifier is its own identifier still. -/
example : ofName (some "_ßa--b.") true = .ok "SSaB" ∧ ofName (some "SSaB") true = .ok "SSaB" := by
  decide +kernel

end SchemaSharp.Identifier
