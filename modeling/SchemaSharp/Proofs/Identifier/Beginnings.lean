import SchemaSharp.Proofs.Identifier.Renaming
import SchemaSharp.Proofs.Text.Letters

/-!
What identifiers begin with. The separators that a name begins with are dropped, so the identifier
begins with the first character that is none, or with its upper case. A name that begins with a
letter has an identifier that does. Behind an underscore there may be a digit or a mark, and that is
what the identifier begins with then.
-/

namespace SchemaSharp.Identifier

open Text Markup

/-- Names as elements and types may have them in a document, without a colon. -/
def IsNcName (name : String) : Prop :=
  ∃ first rest, name.toList = first :: rest ∧ startsName first = true ∧
    ∀ c ∈ rest, continuesName c = true

/-- The first character that is not dropped. -/
def initial? (name : String) : Option Char := name.toList.find? fun c => !isSeparator c

def BeginsWithLetter (identifier : String) : Prop :=
  ∃ first ∈ identifier.toList.head?, isLetter first = true

theorem initial?_eq_none_iff {name : String} :
    initial? name = none ↔ ∀ c ∈ name.toList, isSeparator c = true := by
  simp [initial?]

/-- The first segment begins with the first character that is no separator. -/
theorem segments_begin {name : List Char} {initial : Char}
    (found : name.find? (fun c => !isSeparator c) = some initial) :
    ∃ more others, segments name = (initial :: more) :: others := by
  induction name with
  | nil => cases found
  | cons c rest ih =>
      by_cases separates : isSeparator c = true
      · have skipped : segments (c :: rest) = segments rest := by simp [segments, splitAt, separates]
        rw [skipped]
        exact ih (by simpa [separates] using found)
      · have same : c = initial := by simpa [separates] using found
        subst same
        unfold segments
        rw [splitAt, if_neg separates]
        cases splitAt isSeparator rest with
        | nil => exact ⟨[], [], rfl⟩
        | cons piece pieces => exact ⟨piece, pieces.filter fun segment => !segment.isEmpty, rfl⟩

section Identifiers

variable {name identifier : String} {capitals : Bool}

theorem ofName_eq_ok (made : ofName (some name) capitals = .ok identifier) :
    identifier.toList = glue capitals (segments name.toList) ∧ segments name.toList ≠ [] := by
  unfold ofName at made
  dsimp only at made
  split at made
  · cases made
  · split at made
    · cases made
    · next some =>
        cases made
        exact ⟨by simp, by simpa using some⟩

/-- A name that is written has an identifier, or nothing but separators. -/
theorem ofName_error_iff (written : name ≠ "") (fault : IdentifierFault) :
    ofName (some name) capitals = .error fault ↔
      initial? name = none ∧ fault = .onlySeparators name := by
  rw [initial?_eq_none_iff, ← segments_eq_nil_iff]
  unfold ofName
  dsimp only
  rw [if_neg (by simpa using written)]
  split
  · next none =>
      have empty := List.isEmpty_iff.mp none
      simp [empty, eq_comm]
  · next some =>
      have full : segments name.toList ≠ [] := by simpa using some
      simp [full]

/-- The identifier begins with the first character that is no separator or, if that is written in
upper case, with what it becomes. -/
theorem beginsWithLetter_iff (made : ofName (some name) capitals = .ok identifier) {initial : Char}
    (found : initial? name = some initial) :
    BeginsWithLetter identifier ↔
      isLetter initial = true ∨ capitals = true ∧ initial.toNat = iotaBelow := by
  obtain ⟨more, others, split⟩ := segments_begin found
  have text := (ofName_eq_ok made).1
  rw [split, glue, List.flatMap_cons] at text
  cases capitals with
  | false =>
      rw [BeginsWithLetter, text]
      simp
  | true =>
      cases form : uppercase initial with
      | nil => exact absurd form (uppercase_ne_nil initial)
      | cons first rest =>
          rw [BeginsWithLetter, text]
          simp [capitalise, form, isLetter_upper_iff form]

end Identifiers

/-- What becomes of a name of an element or a type. It is refused exactly if it has nothing but
separators. Otherwise the identifier is not empty, has no separators and begins with a letter
exactly if the first character that is no separator is one, or the iota that upper case makes one
of. So only a name that begins with an underscore or with the estimated sign has an identifier that
does not begin with a letter. -/
theorem identifier_of_ncName (name : String) (capitals : Bool) (written : IsNcName name) :
    (∀ fault, ofName (some name) capitals = .error fault ↔
        initial? name = none ∧ fault = .onlySeparators name) ∧
      ∀ identifier, ofName (some name) capitals = .ok identifier →
        identifier ≠ "" ∧ (∀ c ∈ identifier.toList, isSeparator c = false) ∧
          ∃ initial, initial? name = some initial ∧
            (BeginsWithLetter identifier ↔
              isLetter initial = true ∨ capitals = true ∧ initial.toNat = iotaBelow) ∧
            (¬ BeginsWithLetter identifier →
              ∃ first ∈ name.toList.head?, first = '_' ∨ first = estimatedSign) := by
  obtain ⟨first, rest, text, starts, -⟩ := written
  have full : name ≠ "" := by
    rintro rfl
    cases text
  refine ⟨ofName_error_iff full, ?_⟩
  intro identifier made
  refine ⟨ofName_ne_empty made, not_separator_of_ofName made, ?_⟩
  cases found : initial? name with
  | none =>
      have refused : ofName (some name) capitals = .error (.onlySeparators name) :=
        (ofName_error_iff full _).mpr ⟨found, rfl⟩
      rw [made] at refused
      cases refused
  | some initial =>
      have begins := beginsWithLetter_iff made found
      refine ⟨initial, rfl, begins, fun other => ⟨first, by simp [text], ?_⟩⟩
      rcases startsName_letter starts with underscore | estimated | letter
      · exact .inl underscore
      · exact .inr estimated
      · -- A letter is no separator, so it is the first character that is kept.
        have kept : isSeparator first = false := by
          rw [isSeparator_eq_false_iff]
          rintro separates
          simp only [List.mem_cons, List.not_mem_nil, or_false] at separates
          rcases separates with rfl | rfl | rfl <;> exact absurd letter (by decide +kernel)
        have same : initial = first := by
          have head : initial? name = some first := by simp [initial?, text, kept]
          exact Option.some.inj (found.symm.trans head)
        exact absurd (begins.mpr (.inl (same ▸ letter))) other

/-- An underscore and a separator are dropped, and the letter between them is what the identifier
begins with. -/
theorem dashed_identifier_begins :
    IsNcName "_a-1" ∧ ofName (some "_a-1") true = .ok "A1" ∧ BeginsWithLetter "A1" := by
  have written : IsNcName "_a-1" := ⟨'_', "a-1".toList, rfl, rfl, List.all_eq_true.mp rfl⟩
  have made : ofName (some "_a-1") true = .ok "A1" := rfl
  obtain ⟨_, -, initial, found, begins, -⟩ := (identifier_of_ncName "_a-1" true written).2 _ made
  have same : initial = 'a' := Option.some.inj (found.symm.trans rfl)
  refine ⟨written, made, begins.mpr (.inl ?_)⟩
  rw [same]
  exact isLetter_ascii (by decide)

/-- A name for which there is no identifier that begins with a letter, and it is not refused. -/
theorem underscored_digit_accepted :
    IsNcName "_1" ∧ (∀ capitals, ofName (some "_1") capitals = .ok "1") ∧
      ¬ BeginsWithLetter "1" := by
  have written : IsNcName "_1" := ⟨'_', ['1'], rfl, rfl, List.all_eq_true.mp rfl⟩
  refine ⟨written, fun capitals => by cases capitals <;> rfl, ?_⟩
  rintro ⟨first, head, letter⟩
  cases head
  exact absurd letter (by decide +kernel)

end SchemaSharp.Identifier
