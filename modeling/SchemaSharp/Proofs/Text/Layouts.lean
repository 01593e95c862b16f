import SchemaSharp.Proofs.Result
import SchemaSharp.Text.Template

/-!
The layouts that a text can take. Such a layout is an alignment, with or without what it fills up
with, and then digits, a dot before the precision and the kind of a text. It leaves nothing of a text
exactly if it has a precision and all its digits are zeros.
-/

namespace SchemaSharp.Text.Template

/-- What follows the alignment. -/
def body (layout : List Char) : List Char := (takeAlign layout).2.2

/-- There is a precision, and there are no digits but zeros. -/
def Void (body : List Char) : Prop :=
  '.' ∈ body ∧ ∀ c ∈ body, ∀ value ∈ digit? c, value = 0

/-! ## Reading the parts -/

theorem takeAlign_cases (text : List Char) :
    takeAlign text = (none, none, text) ∨
      (∃ align rest, isAlign align ∧ text = align :: rest ∧
        takeAlign text = (none, some align, rest)) ∨
      ∃ fill align rest, isAlign align ∧ text = fill :: align :: rest ∧
        takeAlign text = (some fill, some align, rest) := by
  unfold takeAlign
  split
  · split
    · next aligned => exact .inr (.inr ⟨_, _, _, aligned, rfl, rfl⟩)
    · split
      · next aligned => exact .inr (.inl ⟨_, _, aligned, rfl, rfl⟩)
      · exact .inl rfl
  · split
    · next aligned => exact .inr (.inl ⟨_, _, aligned, rfl, rfl⟩)
    · exact .inl rfl
  · exact .inl rfl

theorem takeIf_cases (test : Char → Bool) (text : List Char) :
    takeIf test text = (none, text) ∨
      ∃ c rest, test c = true ∧ text = c :: rest ∧ takeIf test text = (some c, rest) := by
  unfold takeIf
  split
  · exact .inl rfl
  · split
    · next passed => exact .inr ⟨_, _, passed, rfl, rfl⟩
    · exact .inl rfl

theorem takeIf_of_none {test : Char → Bool} {text : List Char}
    (nothing : (takeIf test text).1 = none) : takeIf test text = (none, text) := by
  rcases takeIf_cases test text with same | ⟨c, rest, _, _, taken⟩
  · exact same
  · rw [taken] at nothing
    cases nothing

/-- A number is a run of digits; it is zero if all of them are, and absent if there are none. -/
theorem takeNumber_eq {total number : Option Nat} {text rest : List Char}
    (taken : takeNumber total text = .ok (number, rest)) :
    ∃ digits, text = digits ++ rest ∧ (∀ c ∈ digits, (digit? c).isSome) ∧
      (number.getD 0 = 0 ↔ total.getD 0 = 0 ∧ ∀ c ∈ digits, ∀ value ∈ digit? c, value = 0) ∧
      (number = none ↔ total = none ∧ digits = []) := by
  induction text generalizing total with
  | nil =>
      cases taken
      exact ⟨[], rfl, by simp, by simp, by simp⟩
  | cons c text ih =>
      rw [takeNumber] at taken
      split at taken
      · cases taken
        exact ⟨[], rfl, by simp, by simp, by simp⟩
      · next value found =>
          dsimp only at taken
          split at taken
          · cases taken
          · obtain ⟨digits, rfl, all, zero, absent⟩ := ih taken
            refine ⟨c :: digits, rfl, ?_, ?_, ?_⟩
            · simpa [found] using all
            · rw [zero, List.forall_mem_cons]
              simp only [found, Option.getD_some, Option.mem_some_iff, forall_eq']
              constructor
              · rintro ⟨sum, others⟩
                exact ⟨by omega, by omega, others⟩
              · rintro ⟨before, here, others⟩
                exact ⟨by omega, others⟩
            · simp [absent]

theorem takeGrouping_none {text rest : List Char} (taken : takeGrouping text = .ok (none, rest)) :
    rest = text := by
  unfold takeGrouping at taken
  dsimp only at taken
  split at taken
  · cases taken
  · obtain ⟨mark, rfl⟩ := Prod.mk.inj (Except.ok.inj taken)
    obtain ⟨comma, underscore⟩ := Option.or_eq_none_iff.mp (by simpa using mark)
    rw [takeIf_of_none underscore, takeIf_of_none comma]

/-- A precision is a dot with digits behind it. -/
theorem takePrecision_eq {precision : Option Nat} {text rest : List Char}
    (taken : takePrecision text = .ok (precision, rest)) :
    precision = none ∧ rest = text ∨
      ∃ digits, text = '.' :: digits ++ rest ∧ (∀ c ∈ digits, (digit? c).isSome) ∧
        (precision = some 0 ↔ ∀ c ∈ digits, ∀ value ∈ digit? c, value = 0) := by
  unfold takePrecision at taken
  split at taken
  · split at taken
    · cases taken
    · cases taken
    · next found =>
        cases taken
        obtain ⟨digits, rfl, all, zero, _⟩ := takeNumber_eq found
        exact .inr ⟨digits, rfl, all, by simpa using zero⟩
  · cases taken
    exact .inl ⟨rfl, rfl⟩

/-- What fills up a layout is written in it, or is one of the usual two. -/
theorem fill_cases (text rest : List Char) :
    let written := (takeAlign text).1
    let zero := (if written.isSome then (none, rest) else takeIf (· == '0') rest).1
    (written <|> zero).getD ' ' ∈ text ∨
      (written <|> zero).getD ' ' = ' ' ∨ (written <|> zero).getD ' ' = '0' := by
  have zero : (takeIf (· == '0') rest).1.getD ' ' = ' ' ∨
      (takeIf (· == '0') rest).1.getD ' ' = '0' := by
    rcases takeIf_cases (· == '0') rest with taken | ⟨c, _, zero, _, taken⟩
    · rw [taken]
      exact .inl rfl
    · rw [taken]
      exact .inr (beq_iff_eq.mp zero)
  rcases takeAlign_cases text with taken | ⟨_, _, _, _, taken⟩ | ⟨_, _, _, _, whole, taken⟩
  · rw [taken]
    exact .inr zero
  · rw [taken]
    exact .inr zero
  · rw [taken, whole]
    exact .inl List.mem_cons_self

/-- What a layout is made of: signs, then the numbers, and the kind at the end. -/
structure Layout.MadeOf (layout : Layout) (text : List Char) : Prop where
  fill : layout.fill ∈ text ∨ layout.fill = ' ' ∨ layout.fill = '0'
  parts : ∃ zero afterWidth grouping afterGrouping last,
    let signed := takeIf (fun c => c == ' ' || c == '+' || c == '-') (body text)
    let zed := takeIf (· == 'z') signed.2
    let hashed := takeIf (· == '#') zed.2
    layout.sign = signed.1 ∧ layout.noNegativeZero = zed.1.isSome ∧
      layout.alternate = hashed.1.isSome ∧
      (zero = hashed.2 ∨ zero = (takeIf (· == '0') hashed.2).2) ∧
      takeNumber none zero = .ok (layout.width, afterWidth) ∧
      takeGrouping afterWidth = .ok (grouping, afterGrouping) ∧
      takePrecision afterGrouping = .ok (layout.precision, last) ∧
      (last = [] ∧ layout.kind = 's' ∨ last = [layout.kind]) ∧
      ∀ separator ∈ grouping, allowsGrouping separator layout.kind

theorem Layout.madeOf_read {text : List Char} {layout : Layout}
    (read : Layout.read text = .ok layout) : layout.MadeOf text := by
  unfold Layout.read at read
  dsimp only at read
  obtain ⟨⟨width, afterWidth⟩, numbered, read⟩ := ok_of_bind read
  obtain ⟨⟨grouping, afterGrouping⟩, grouped, read⟩ := ok_of_bind read
  obtain ⟨⟨precision, last⟩, precise, read⟩ := ok_of_bind read
  dsimp only at read grouped precise
  have zeroed : ∀ {fill : Option Char} {rest : List Char},
      (if fill.isSome then ((none : Option Char), rest) else takeIf (· == '0') rest).2 = rest ∨
        (if fill.isSome then ((none : Option Char), rest) else takeIf (· == '0') rest).2 =
          (takeIf (· == '0') rest).2 := by
    intro fill rest
    cases fill with
    | none => exact .inr rfl
    | some c => exact .inl rfl
  split at read
  · -- a layout without a kind is one of a text
    obtain ⟨kind, same, read⟩ := ok_of_bind read
    cases same
    split at read
    · split at read
      · cases read
      · next allowed =>
          cases read
          exact ⟨fill_cases text _, _, _, _, _, _, rfl, rfl, rfl, zeroed, numbered, grouped, precise,
            .inl ⟨rfl, rfl⟩, by simpa using allowed⟩
    · cases read
      exact ⟨fill_cases text _, _, _, _, _, _, rfl, rfl, rfl, zeroed, numbered, grouped, precise,
        .inl ⟨rfl, rfl⟩, by simp⟩
  · obtain ⟨kind, same, read⟩ := ok_of_bind read
    cases same
    split at read
    · split at read
      · cases read
      · next allowed =>
          cases read
          exact ⟨fill_cases text _, _, _, _, _, _, rfl, rfl, rfl, zeroed, numbered, grouped, precise,
            .inr rfl, by simpa using allowed⟩
    · cases read
      exact ⟨fill_cases text _, _, _, _, _, _, rfl, rfl, rfl, zeroed, numbered, grouped, precise,
        .inr rfl, by simp⟩
  · obtain ⟨kind, same, read⟩ := ok_of_bind read
    cases same

/-- The layouts of texts have neither a sign nor anything else that only numbers have. -/
theorem Layout.plain_of_check {layout : Layout} (checked : layout.check = .ok ()) :
    layout.kind = 's' ∧ layout.sign = none ∧ layout.noNegativeZero = false ∧
      layout.alternate = false := by
  unfold Layout.check at checked
  repeat' split at checked
  all_goals simp_all

theorem allowsGrouping_text (separator : Char) : allowsGrouping separator 's' = false := by
  simp [allowsGrouping]

theorem digit?_dot : digit? '.' = none := by decide

theorem digit?_kind : digit? 's' = none := by decide

theorem digit?_zero : digit? '0' = some 0 := by decide

theorem void_append {digits rest : List Char} (all : ∀ c ∈ digits, (digit? c).isSome) :
    Void (digits ++ rest) ↔ (∀ c ∈ digits, ∀ value ∈ digit? c, value = 0) ∧ Void rest := by
  have dotless : '.' ∉ digits := fun dot => by simpa [digit?_dot] using all '.' dot
  simp only [Void, List.mem_append, dotless, false_or, or_imp, forall_and]
  exact and_left_comm

theorem void_dot {rest : List Char} :
    Void ('.' :: rest) ↔ ∀ c ∈ rest, ∀ value ∈ digit? c, value = 0 := by
  simp [Void, digit?_dot]

/-- Digits, a dot before the precision and the kind of a text; the numbers are `nothing` exactly if
the text is void. -/
structure Spells (text : List Char) (nothing : Prop) : Prop where
  chars : ∀ c ∈ text, (digit? c).isSome ∨ c = '.' ∨ c = 's'
  void : nothing ↔ Void text

theorem spells_precision {precision : Option Nat} {text last : List Char}
    (taken : takePrecision text = .ok (precision, last)) (ending : last = [] ∨ last = ['s']) :
    Spells text (precision = some 0) := by
  rcases takePrecision_eq taken with ⟨absent, rfl⟩ | ⟨digits, rfl, all, zero⟩
  · rw [absent]
    rcases ending with rfl | rfl <;> constructor <;> simp [Void]
  · have rear : (∀ c ∈ last, c = 's') ∧ ∀ c ∈ last, ∀ value ∈ digit? c, value = 0 := by
      rcases ending with rfl | rfl <;> simp [digit?_kind]
    constructor
    · intro c member
      simp only [List.cons_append, List.mem_cons, List.mem_append] at member
      rcases member with rfl | inside | behind
      · exact .inr (.inl rfl)
      · exact .inl (all c inside)
      · exact .inr (.inr (rear.1 c behind))
    · rw [zero, List.cons_append, void_dot, List.forall_mem_append]
      exact (and_iff_left rear.2).symm

theorem Spells.width {width : Option Nat} {text rest : List Char} {nothing : Prop}
    (spells : Spells rest nothing) (taken : takeNumber none text = .ok (width, rest)) :
    Spells text (width.getD 0 = 0 ∧ nothing) := by
  obtain ⟨digits, rfl, all, zero, _⟩ := takeNumber_eq taken
  constructor
  · exact List.forall_mem_append.mpr ⟨fun c member => .inl (all c member), spells.chars⟩
  · rw [void_append all, zero, spells.void]
    simp

theorem Spells.zero {text : List Char} {nothing : Prop} (spells : Spells text nothing) :
    Spells ('0' :: text) nothing := by
  have one : ∀ c ∈ ['0'], (digit? c).isSome := List.forall_mem_singleton.mpr (by decide)
  constructor
  · exact List.forall_mem_cons.mpr ⟨.inl (by decide), spells.chars⟩
  · rw [← List.singleton_append, void_append one, spells.void]
    simp [digit?_zero]

/-- Between the alignment and the kind, the layout of a text has digits and a dot. It leaves nothing
of a text exactly if they have a dot among them, and no digits but zeros. -/
theorem Layout.spells_body {text : List Char} {layout : Layout}
    (read : Layout.read text = .ok layout) (checked : layout.check = .ok ()) :
    Spells (body text) (layout.width.getD 0 = 0 ∧ layout.precision = some 0) := by
  obtain ⟨kind, sign, z, hash⟩ := Layout.plain_of_check checked
  obtain ⟨number, afterWidth, grouping, afterGrouping, last, signed, zed, hashed, zeroed, numbered,
    grouped, precise, ended, allowed⟩ := (Layout.madeOf_read read).parts
  generalize body text = rest at *
  -- there is nothing of what only numbers have
  have unsigned := takeIf_of_none (signed.symm.trans sign)
  rw [unsigned, z] at zed
  have plain := takeIf_of_none (by simpa using zed.symm)
  rw [unsigned, plain, hash] at hashed
  have unmarked := takeIf_of_none (by simpa using hashed.symm)
  rw [unsigned, plain, unmarked] at zeroed
  have ungrouped : grouping = none := by
    cases grouping with
    | none => rfl
    | some separator => simpa [kind, allowsGrouping_text] using allowed separator rfl
  subst ungrouped
  obtain rfl := takeGrouping_none grouped
  rw [kind] at ended
  have spelled := (spells_precision precise (ended.imp_left And.left)).width numbered
  rcases zeroed with rfl | skipped
  · exact spelled
  · dsimp only at skipped
    rcases takeIf_cases (· == '0') rest with taken | ⟨c, after, zero, rfl, taken⟩
    · rw [taken] at skipped
      subst skipped
      exact spelled
    · rw [taken] at skipped
      subst skipped
      obtain rfl := beq_iff_eq.mp zero
      exact spelled.zero

theorem body_cases (text : List Char) :
    text = body text ∨ (∃ align, isAlign align ∧ text = align :: body text) ∨
      ∃ fill align, isAlign align ∧ text = fill :: align :: body text := by
  unfold body
  rcases takeAlign_cases text with taken | ⟨align, _, aligned, whole, taken⟩ |
    ⟨fill, align, _, aligned, whole, taken⟩
  · rw [taken]
    exact .inl rfl
  · rw [taken]
    exact .inr (.inl ⟨align, aligned, whole⟩)
  · rw [taken]
    exact .inr (.inr ⟨fill, align, aligned, whole⟩)

/-! ## Laying out -/

section Laying

variable {layout : Layout} {text : List Char}

theorem Layout.mem_apply {c : Char} (member : c ∈ layout.apply text) :
    c = layout.fill ∨ c ∈ text := by
  unfold Layout.apply at member
  simp only [List.mem_append, List.mem_replicate] at member
  rcases member with (⟨_, filling⟩ | kept) | ⟨_, filling⟩
  · exact .inl filling
  · split at kept
    · exact .inr (List.take_subset _ _ kept)
    · exact .inr kept
  · exact .inl filling

theorem Layout.apply_of_zero (zero : layout.precision = some 0) (other : List Char) :
    layout.apply text = layout.apply other := by
  simp [Layout.apply, zero]

/-- A text is never cut away but by a precision of zero. -/
theorem Layout.head_mem_apply {c : Char} (precise : layout.precision ≠ some 0) :
    c ∈ layout.apply (c :: text) := by
  unfold Layout.apply
  simp only [List.mem_append]
  left
  right
  split
  · next count same =>
      cases count with
      | zero => exact absurd same precise
      | succ count => simp
  · simp

theorem Layout.apply_eq_nil_iff (full : text ≠ []) :
    layout.apply text = [] ↔ layout.width.getD 0 = 0 ∧ layout.precision = some 0 := by
  obtain ⟨c, rest, rfl⟩ := List.exists_cons_of_ne_nil full
  by_cases zero : layout.precision = some 0
  · unfold Layout.apply
    simp only [zero, List.take_zero, List.length_nil, List.append_eq_nil_iff,
      List.replicate_eq_nil_iff, and_true]
    split
    · omega
    · split <;> omega
  · have here : c ∈ layout.apply (c :: rest) := Layout.head_mem_apply zero
    exact iff_of_false (fun empty => by simp [empty] at here) (fun nothing => zero nothing.2)

theorem layOut_cases {shape result : List Char} (made : layOut shape text = .ok result) :
    shape = [] ∧ result = text ∨ shape ≠ [] ∧ ∃ layout, Layout.read shape = .ok layout ∧
      layout.check = .ok () ∧ layout.apply text = result := by
  unfold layOut at made
  split at made
  · next empty =>
      cases made
      exact .inl ⟨List.isEmpty_iff.mp empty, rfl⟩
  · next full =>
      obtain ⟨layout, read, made⟩ := ok_of_bind made
      obtain ⟨_, checked, made⟩ := ok_of_bind made
      cases made
      exact .inr ⟨by simpa using full, layout, read, checked, rfl⟩

/-- Whether a text can be laid out does not depend on the text. -/
theorem layOut_total {shape result : List Char} (made : layOut shape text = .ok result)
    (other : List Char) : ∃ result, layOut shape other = .ok result := by
  unfold layOut at made ⊢
  split at made
  · next empty => exact ⟨other, if_pos empty⟩
  · next full =>
      obtain ⟨layout, read, made⟩ := ok_of_bind made
      obtain ⟨_, checked, made⟩ := ok_of_bind made
      refine ⟨layout.apply other, ?_⟩
      simp only [if_neg full, read, checked, bind, Except.bind, pure, Except.pure]

/-- A layout is spelled as layouts of texts are, and leaves nothing of a text exactly if it is void. -/
theorem spells_of_layOut {shape result : List Char} (full : text ≠ [])
    (made : layOut shape text = .ok result) : Spells (body shape) (result = []) := by
  rcases layOut_cases made with ⟨rfl, rfl⟩ | ⟨_, layout, read, checked, rfl⟩
  · have nothing : body [] = [] := rfl
    constructor <;> simp [nothing, Void, full]
  · rw [layout.apply_eq_nil_iff full]
    exact Layout.spells_body read checked

end Laying

end SchemaSharp.Text.Template
