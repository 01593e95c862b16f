import SchemaSharp.Proofs.Text.Layouts
import SchemaSharp.Proofs.Text.Quoted

/-!
One template filled twice: with the character X, and with a text that is neither empty nor has a dot.
A selector leads to the same fact for both or to a part of each, and each piece makes the same of both
or keeps something of each. So where no layout has fields of its own, a template that can be filled
with X can be filled with every such text.
-/

namespace SchemaSharp.Text.Template

/-- The argument that a template is tried with. -/
def trial : Char := 'X'

/-! ## Selecting -/

theorem documentation_full : documentation.toList ≠ [] := by
  rw [documentation, String.toList_intercalate, List.map_cons, List.map_cons,
    List.intercalate_cons_cons]
  exact List.append_ne_nil_of_left_ne_nil (List.append_ne_nil_of_left_ne_nil (by simp) _) _

theorem textFacts_full : ∀ fact ∈ textFacts, fact.2.toList ≠ [] :=
  List.forall_mem_singleton.mpr documentation_full

theorem kindFacts_full : ∀ fact ∈ kindFacts, fact.2.toList ≠ [] := by
  have names : ∀ fact ∈ kindFacts.take 3, fact.2.toList ≠ [] := by decide +kernel
  rw [← List.take_append_drop 3 kindFacts, List.forall_mem_append]
  exact ⟨names, List.forall_mem_singleton.mpr documentation_full⟩

theorem text_full (part : Member) : part.text.toList ≠ [] := by
  unfold Member.text
  split <;> simp

/-- What the same selector leads to from the trial and from a text: to the same in both cases, or to
the trial and to a text. None of it shows as nothing. -/
inductive Alike : Selected → Selected → Prop
  | same {selected : Selected} (full : selected.shown ≠ []) : Alike selected selected
  | texts {chars : List Char} (full : chars ≠ []) (undotted : '.' ∉ chars) :
      Alike (.text [trial]) (.text chars)

section Selecting

variable {selected other result : Selected}

theorem at_full {index : Nat} (found : selected.at index = .ok result) : result.shown ≠ [] := by
  unfold Selected.at at found
  split at found
  · cases found
  · split at found
    · cases found
    · cases found
      simp [Selected.shown]

theorem Alike.at (alike : Alike selected other) {index : Nat}
    (found : selected.at index = .ok result) :
    ∃ counterpart, other.at index = .ok counterpart ∧ Alike result counterpart := by
  cases alike with
  | same full => exact ⟨result, found, .same (at_full found)⟩
  | @texts chars full undotted =>
      obtain ⟨first, rest, rfl⟩ := List.exists_cons_of_ne_nil full
      have one : '.' ∉ [first] := by
        rw [List.mem_singleton]
        exact List.ne_of_not_mem_cons undotted
      cases index with
      | zero =>
          cases found
          exact ⟨.text [first], rfl, .texts (List.cons_ne_nil _ _) one⟩
      | succ index => cases found

theorem named_full {name : String} (found : selected.named name = .ok result) :
    result.shown ≠ [] := by
  unfold Selected.named at found
  split at found
  · split at found
    · next fact known =>
        cases found
        obtain ⟨_, _, split, _⟩ := List.lookup_eq_some_iff.mp known
        exact textFacts_full (name, fact) (by simp [split])
    · cases found
      exact text_full _
    · cases found
  · split at found
    · next fact known =>
        cases found
        obtain ⟨_, _, split, _⟩ := List.lookup_eq_some_iff.mp known
        exact kindFacts_full (name, fact) (by simp [split])
    · cases found
  · cases found

theorem Alike.named (alike : Alike selected other) {name : String}
    (found : selected.named name = .ok result) :
    ∃ counterpart, other.named name = .ok counterpart ∧ Alike result counterpart := by
  cases alike with
  | same full => exact ⟨result, found, .same (named_full found)⟩
  | texts full undotted => exact ⟨result, found, .same (named_full found)⟩

theorem Alike.select (alike : Alike selected other) {budget : Nat} {rest : List Char}
    (found : Template.select budget rest selected = .ok result) :
    ∃ counterpart, Template.select budget rest other = .ok counterpart ∧
      Alike result counterpart := by
  induction budget generalizing rest selected other with
  | zero =>
      cases found
      exact ⟨other, rfl, alike⟩
  | succ budget ih =>
      rw [select.eq_def] at found ⊢
      split at found
      · contradiction
      · cases found
        exact ⟨other, rfl, alike⟩
      · next inner same =>
          -- a character in brackets
          cases same
          dsimp only
          split at found
          · cases found
          · next name after cut =>
              obtain ⟨number, numbered, found⟩ := ok_of_bind found
              rw [bind_of_ok numbered]
              dsimp only at found ⊢
              split at found
              · cases found
              · next given =>
                  rw [if_neg given]
                  split at found
                  · cases found
                  · cases found
                  · obtain ⟨middle, chosen, found⟩ := ok_of_bind found
                    obtain ⟨counterpart, there, alikeThere⟩ := alike.at chosen
                    obtain ⟨final, reached, alikeFinal⟩ := ih alikeThere found
                    rw [bind_of_ok there]
                    exact ⟨final, reached, alikeFinal⟩
      · next inner same =>
          -- a member by its name
          cases same
          dsimp only at found ⊢
          split at found
          · cases found
          · next given =>
              rw [if_neg given]
              obtain ⟨middle, chosen, found⟩ := ok_of_bind found
              obtain ⟨counterpart, there, alikeThere⟩ := alike.named chosen
              obtain ⟨final, reached, alikeFinal⟩ := ih alikeThere found
              rw [bind_of_ok there]
              exact ⟨final, reached, alikeFinal⟩
      · cases found

theorem Alike.selection {argument selector : List Char} {before after : Numbering}
    (full : argument ≠ []) (undotted : '.' ∉ argument)
    (found : Template.selection [trial] selector before = .ok (result, after)) :
    ∃ counterpart, Template.selection argument selector before = .ok (counterpart, after) ∧
      Alike result counterpart := by
  unfold Template.selection at found ⊢
  obtain ⟨⟨index, numbering⟩, numbered, found⟩ := ok_of_bind found
  rw [bind_of_ok numbered]
  dsimp only at found ⊢
  split at found
  · cases found
  · obtain ⟨middle, chosen, found⟩ := ok_of_bind found
    cases found
    obtain ⟨counterpart, there, alike⟩ := (Alike.texts full undotted).select chosen
    rw [bind_of_ok there]
    exact ⟨counterpart, rfl, alike⟩
  · cases found

end Selecting

/-! ## Converting -/

/-- The trial itself, or a quotation mark around it. -/
def IsMark (c : Char) : Prop := c = trial ∨ c = '\''

/-- What both selections are converted to: to the same, or to the marks of the trial and to a text. -/
inductive Matched : Selected → Selected → Prop
  | same {selected : Selected} (full : selected.shown ≠ []) : Matched selected selected
  | texts {marks chars : List Char} (marked : ∀ c ∈ marks, IsMark c) (given : marks ≠ [])
      (full : chars ≠ []) (undotted : '.' ∉ chars) : Matched (.text marks) (.text chars)

theorem quotedWith_full (shown : Char → Bool) (text : List Char) : quotedWith shown text ≠ [] :=
  List.cons_ne_nil _ _

theorem quotedWith_undotted {shown : Char → Bool} {text : List Char} (undotted : '.' ∉ text) :
    '.' ∉ quotedWith shown text := by
  intro dot
  rcases mem_quotedWith dot with own | added
  · exact undotted own
  · revert added
    decide

theorem quotedWith_marked {shown : Char → Bool} (visible : shown trial = true) :
    ∀ c ∈ quotedWith shown [trial], IsMark c := by
  have mark : quoteMark [trial] = '\'' := by decide
  have plain : escapeFor '\'' shown trial = [trial] := by
    unfold escapeFor
    rw [if_neg (by decide), if_neg (by decide), if_neg (by decide), if_neg (by decide),
      if_pos visible]
  simp [quotedWith, mark, plain, IsMark]

theorem convert_full {mark : Option Char} {selected result : Selected}
    (full : selected.shown ≠ []) (made : convert mark selected = .ok result) :
    result.shown ≠ [] := by
  unfold convert at made
  split at made
  · cases made
    exact full
  · cases made
    exact full
  · cases made
    simpa [Selected.shown, quoted] using quotedWith_full _ _
  · cases made
    simpa [Selected.shown, quotedAscii] using quotedWith_full _ _
  · cases made
    exact full
  · cases made
    exact full
  · cases made

theorem Alike.convert {mark : Option Char} {selected other result : Selected}
    (alike : Alike selected other) (made : Template.convert mark selected = .ok result) :
    ∃ counterpart, Template.convert mark other = .ok counterpart ∧ Matched result counterpart := by
  cases alike with
  | same full => exact ⟨result, made, .same (convert_full full made)⟩
  | @texts chars full undotted =>
      have itself : Matched (.text [trial]) (.text chars) :=
        .texts (by simp [IsMark]) (List.cons_ne_nil _ _) full undotted
      have quotation : ∀ shown : Char → Bool, shown trial = true →
          Matched (.text (quotedWith shown [trial])) (.text (quotedWith shown chars)) :=
        fun shown visible => .texts (quotedWith_marked visible) (quotedWith_full _ _)
          (quotedWith_full _ _) (quotedWith_undotted undotted)
      unfold Template.convert at made
      split at made
      · cases made
        exact ⟨_, rfl, itself⟩
      · cases made
        exact ⟨_, rfl, itself⟩
      · next same =>
          cases same
          cases made
          refine ⟨_, rfl, ?_⟩
          simpa [quoted] using quotation isPrintable (by decide +kernel)
      · next same =>
          cases same
          cases made
          refine ⟨_, rfl, ?_⟩
          simpa [quotedAscii] using
            quotation (fun c => c.toNat < 0x80 && isPrintable c) (by decide +kernel)
      · next same => cases same
      · next same => cases same
      · cases made

/-! ## Laying out -/

/-- Something is left of the trial and of a text: of the trial its marks, with what fills up, and of
the text what has no dot but such a one. -/
structure Kept (fill : Char) (first second : List Char) : Prop where
  marked : ∀ c ∈ first, IsMark c ∨ c = fill
  mark : ∃ c ∈ first, IsMark c
  full : second ≠ []
  undotted : '.' ∈ second → '.' = fill

/-- What a piece makes of the trial and of a text: the same of both, or something of each. -/
def Likened (first second : List Char) : Prop :=
  first = second ∨ ∃ fill, Kept fill first second

theorem likened_layOut {layout marks chars first second : List Char}
    (marked : ∀ c ∈ marks, IsMark c) (given : marks ≠ []) (full : chars ≠ [])
    (undotted : '.' ∉ chars) (made : layOut layout marks = .ok first)
    (madeToo : layOut layout chars = .ok second) : Likened first second := by
  obtain ⟨mark, others, rfl⟩ := List.exists_cons_of_ne_nil given
  obtain ⟨c, rest, rfl⟩ := List.exists_cons_of_ne_nil full
  rcases layOut_cases made with ⟨rfl, rfl⟩ | ⟨laid, shape, read, _, rfl⟩
  · cases madeToo
    exact .inr ⟨' ', fun c member => .inl (marked c member), ⟨mark, by simp, marked mark (by simp)⟩,
      full, fun dot => absurd dot undotted⟩
  · rcases layOut_cases madeToo with ⟨rfl, _⟩ | ⟨_, shapeToo, readToo, _, rfl⟩
    · exact absurd rfl laid
    · cases read.symm.trans readToo
      by_cases zero : shape.precision = some 0
      · exact .inl (Layout.apply_of_zero zero _)
      · refine .inr ⟨shape.fill, ?_, ⟨mark, Layout.head_mem_apply zero, marked mark (by simp)⟩,
          List.ne_nil_of_mem (Layout.head_mem_apply zero), ?_⟩
        · intro c member
          exact (Layout.mem_apply member).symm.imp_left (marked c)
        · intro dot
          exact (Layout.mem_apply dot).resolve_right undotted

/-- What can be laid out of the trial can be laid out of every text. -/
theorem Matched.layOut_total {layout first : List Char} {selected other : Selected}
    (matched : Matched selected other) (made : layOutSelected layout selected = .ok first) :
    ∃ second, layOutSelected layout other = .ok second := by
  cases matched with
  | same => exact ⟨first, made⟩
  | texts => exact Template.layOut_total made _

theorem Matched.likened {layout first second : List Char} {selected other : Selected}
    (matched : Matched selected other) (made : layOutSelected layout selected = .ok first)
    (madeToo : layOutSelected layout other = .ok second) : Likened first second := by
  cases matched with
  | same => exact .inl (Except.ok.inj (made.symm.trans madeToo))
  | texts marked given full undotted => exact likened_layOut marked given full undotted made madeToo

/-! ## Filling in -/

/-- The layout of a field, with its own fields filled in. -/
def fillLayoutOf (fillLayout : Numbering → List Char → Except TemplateFault (List Char × Numbering))
    (numbering : Numbering) (field : Field) : Except TemplateFault (List Char × Numbering) :=
  if field.nested then fillLayout numbering field.layout else .ok (field.layout, numbering)

/-- What one piece is filled with, and the numbering after it. -/
def fillPiece (fillLayout : Numbering → List Char → Except TemplateFault (List Char × Numbering))
    (argument : List Char) (numbering : Numbering) :
    Piece → Except TemplateFault (List Char × Numbering)
  | .literal text => .ok (text, numbering)
  | .field field => do
      let (selected, numbering) ← selection argument field.selector numbering
      let selected ← convert field.conversion selected
      let (layout, numbering) ← fillLayoutOf fillLayout numbering field
      let text ← layOutSelected layout selected
      return (text, numbering)

theorem fillPieces_cons
    (fillLayout : Numbering → List Char → Except TemplateFault (List Char × Numbering))
    (argument : List Char) (numbering : Numbering) (piece : Piece)
    (rest : List (Except TemplateFault Piece)) :
    fillPieces fillLayout argument numbering (.ok piece :: rest) = (do
      let (text, numbering) ← fillPiece fillLayout argument numbering piece
      let (filled, numbering) ← fillPieces fillLayout argument numbering rest
      return (text ++ filled, numbering)) := by
  cases piece with
  | literal text => rfl
  | field written =>
      simp only [fillPieces, fillPiece, fillLayoutOf, bind_assoc, pure_bind]
      refine bind_congr fun chosen => bind_congr fun turned => ?_
      split <;> rfl

section Filling

variable {fillLayout : Numbering → List Char → Except TemplateFault (List Char × Numbering)}
  {argument filled text : List Char} {before after : Numbering}
  {rest : List (Except TemplateFault Piece)}

theorem fillPieces_cons_eq_ok {piece : Piece} :
    fillPieces fillLayout argument before (.ok piece :: rest) = .ok (filled, after) ↔
      ∃ text next others, fillPiece fillLayout argument before piece = .ok (text, next) ∧
        fillPieces fillLayout argument next rest = .ok (others, after) ∧
          filled = text ++ others := by
  rw [fillPieces_cons]
  constructor
  · intro made
    obtain ⟨⟨text, next⟩, here, made⟩ := ok_of_bind made
    obtain ⟨⟨others, last⟩, later, made⟩ := ok_of_bind made
    cases made
    exact ⟨text, next, others, here, later, rfl⟩
  · rintro ⟨text, next, others, here, later, rfl⟩
    rw [bind_of_ok here]
    dsimp only
    rw [bind_of_ok later]
    rfl

theorem fillPiece_field_eq_ok {written : Field} :
    fillPiece fillLayout argument before (.field written) = .ok (text, after) ↔
      ∃ selected next converted layout,
        selection argument written.selector before = .ok (selected, next) ∧
          convert written.conversion selected = .ok converted ∧
          fillLayoutOf fillLayout next written = .ok (layout, after) ∧
          layOutSelected layout converted = .ok text := by
  rw [fillPiece]
  constructor
  · intro made
    obtain ⟨⟨selected, next⟩, chosen, made⟩ := ok_of_bind made
    obtain ⟨converted, turned, made⟩ := ok_of_bind made
    dsimp only at made
    obtain ⟨⟨layout, last⟩, shaped, made⟩ := ok_of_bind made
    obtain ⟨laid, put, made⟩ := ok_of_bind made
    cases made
    exact ⟨selected, next, converted, layout, chosen, turned, shaped, put⟩
  · rintro ⟨selected, next, converted, layout, chosen, turned, shaped, put⟩
    rw [bind_of_ok chosen]
    dsimp only
    rw [bind_of_ok turned, bind_of_ok shaped]
    dsimp only
    rw [bind_of_ok put]
    rfl

theorem fillPieces_append {pieces : List (Except TemplateFault Piece)}
    (made : fillPieces fillLayout argument before (pieces ++ rest) = .ok (filled, after)) :
    ∃ front middle back, fillPieces fillLayout argument before pieces = .ok (front, middle) ∧
      fillPieces fillLayout argument middle rest = .ok (back, after) ∧ filled = front ++ back := by
  induction pieces generalizing before filled with
  | nil => exact ⟨[], before, filled, rfl, made, rfl⟩
  | cons piece pieces ih =>
      cases piece with
      | error fault => cases made
      | ok piece =>
          obtain ⟨text, next, others, here, later, rfl⟩ := fillPieces_cons_eq_ok.mp made
          obtain ⟨front, middle, back, first, second, rfl⟩ := ih later
          refine ⟨text ++ front, middle, back, ?_, second, (List.append_assoc _ _ _).symm⟩
          exact fillPieces_cons_eq_ok.mpr ⟨text, next, front, here, first, rfl⟩

end Filling

section Twice

variable {argument : List Char} (full : argument ≠ []) (undotted : '.' ∉ argument)
  {fill fillToo : Numbering → List Char → Except TemplateFault (List Char × Numbering)}

include full undotted

/-- Where no layout has fields of its own, what can be filled with the trial can be filled with every
text. -/
theorem fillPieces_total {pieces : List (Except TemplateFault Piece)}
    (flat : ∀ written, .ok (.field written) ∈ pieces → written.nested = false)
    {before after : Numbering} {filled : List Char}
    (made : fillPieces fill [trial] before pieces = .ok (filled, after)) :
    ∃ others, fillPieces fillToo argument before pieces = .ok (others, after) := by
  induction pieces generalizing before filled with
  | nil =>
      cases made
      exact ⟨[], rfl⟩
  | cons piece rest ih =>
      have flatToo : ∀ written, .ok (.field written) ∈ rest → written.nested = false :=
        fun written member => flat written (List.mem_cons_of_mem _ member)
      cases piece with
      | error fault => cases made
      | ok piece =>
          obtain ⟨text, next, last, here, later, rfl⟩ := fillPieces_cons_eq_ok.mp made
          obtain ⟨others, following⟩ := ih flatToo later
          -- a piece is filled alike, up to the text that is laid out
          have present : ∃ counterpart,
              fillPiece fillToo argument before piece = .ok (counterpart, next) := by
            cases piece with
            | literal chars =>
                cases here
                exact ⟨text, rfl⟩
            | field written =>
                have plain := flat written List.mem_cons_self
                obtain ⟨selected, first, converted, layout, chosen, turned, shaped, put⟩ :=
                  fillPiece_field_eq_ok.mp here
                obtain ⟨other, chosenToo, alike⟩ := Alike.selection full undotted chosen
                obtain ⟨counterpart, turnedToo, matched⟩ := alike.convert turned
                obtain ⟨second, putToo⟩ := matched.layOut_total put
                refine ⟨second, fillPiece_field_eq_ok.mpr
                  ⟨other, first, counterpart, layout, chosenToo, turnedToo, ?_, putToo⟩⟩
                simpa [fillLayoutOf, plain] using shaped
          obtain ⟨counterpart, present⟩ := present
          exact ⟨counterpart ++ others,
            fillPieces_cons_eq_ok.mpr ⟨counterpart, next, others, present, following, rfl⟩⟩

/-- The layouts that a field is filled with are `R`, and the field makes the same of both arguments
or lays out what matches. -/
theorem fillPiece_both {R : List Char → List Char → Prop} (refl : ∀ layout, R layout layout)
    (agree : ∀ {numbering : Numbering} {layout first second : List Char} {next nextToo : Numbering},
      fill numbering layout = .ok (first, next) → fillToo numbering layout = .ok (second, nextToo) →
        next = nextToo ∧ R first second)
    {piece : Piece} {before after afterToo : Numbering} {first second : List Char}
    (made : fillPiece fill [trial] before piece = .ok (first, after))
    (madeToo : fillPiece fillToo argument before piece = .ok (second, afterToo)) :
    after = afterToo ∧ (first = second ∨ ∃ selected other layout layoutToo,
      Matched selected other ∧ R layout layoutToo ∧ layOutSelected layout selected = .ok first ∧
        layOutSelected layoutToo other = .ok second) := by
  cases piece with
  | literal text =>
      cases made
      cases madeToo
      exact ⟨rfl, .inl rfl⟩
  | field written =>
      obtain ⟨selected, next, converted, layout, chosen, turned, shaped, put⟩ :=
        fillPiece_field_eq_ok.mp made
      obtain ⟨other, nextToo, convertedToo, layoutToo, chosenToo, turnedToo, shapedToo, putToo⟩ :=
        fillPiece_field_eq_ok.mp madeToo
      obtain ⟨counterpart, found, alike⟩ := Alike.selection full undotted chosen
      cases chosenToo.symm.trans found
      obtain ⟨_, foundToo, matched⟩ := alike.convert turned
      cases turnedToo.symm.trans foundToo
      have shapes : after = afterToo ∧ R layout layoutToo := by
        unfold fillLayoutOf at shaped shapedToo
        split at shaped
        · next nested =>
            rw [if_pos nested] at shapedToo
            exact agree shaped shapedToo
        · next flat =>
            rw [if_neg flat] at shapedToo
            cases shaped
            cases shapedToo
            exact ⟨rfl, refl _⟩
      exact ⟨shapes.1, .inr ⟨converted, convertedToo, layout, layoutToo, matched, shapes.2, put, putToo⟩⟩

omit full undotted in
/-- What holds of both fillings of each piece, and is kept by appending them, holds of both fillings
of the whole. -/
theorem fillPieces_both {P D : List Char → List Char → Prop} (nil : D [] [])
    (cons : ∀ {first second others othersToo : List Char}, P first second → D others othersToo →
      D (first ++ others) (second ++ othersToo))
    (each : ∀ {piece : Piece} {before after afterToo : Numbering} {first second : List Char},
      fillPiece fill [trial] before piece = .ok (first, after) →
        fillPiece fillToo argument before piece = .ok (second, afterToo) →
          after = afterToo ∧ P first second)
    {pieces : List (Except TemplateFault Piece)} {before after afterToo : Numbering}
    {first second : List Char}
    (made : fillPieces fill [trial] before pieces = .ok (first, after))
    (madeToo : fillPieces fillToo argument before pieces = .ok (second, afterToo)) :
    after = afterToo ∧ D first second := by
  induction pieces generalizing before first second with
  | nil =>
      cases made
      cases madeToo
      exact ⟨rfl, nil⟩
  | cons piece rest ih =>
      cases piece with
      | error fault => cases made
      | ok piece =>
          obtain ⟨text, next, others, here, later, rfl⟩ := fillPieces_cons_eq_ok.mp made
          obtain ⟨textToo, nextToo, othersToo, hereToo, laterToo, rfl⟩ :=
            fillPieces_cons_eq_ok.mp madeToo
          obtain ⟨rfl, related⟩ := each here hereToo
          obtain ⟨rfl, following⟩ := ih later laterToo
          exact ⟨rfl, cons related following⟩

end Twice

/-! ## Layouts with fields of their own -/

/-- Both fillings of a layout: the same up to a piece that keeps something of each argument. Behind
it the first is the same again, or holds another mark. -/
inductive Drifted : List Char → List Char → Prop
  | same (text : List Char) : Drifted text text
  | kept {fill : Char} {front first second rest restToo : List Char} (kept : Kept fill first second)
      (others : rest = restToo ∨ ∃ c ∈ rest, IsMark c) :
      Drifted (front ++ (first ++ rest)) (front ++ (second ++ restToo))

theorem Drifted.append {first second others othersToo : List Char} (likened : Likened first second)
    (drifted : Drifted others othersToo) : Drifted (first ++ others) (second ++ othersToo) := by
  rcases likened with rfl | ⟨fill, kept⟩
  · cases drifted with
    | same => exact .same _
    | @kept _ front _ _ _ _ kept others =>
        rw [← List.append_assoc first front, ← List.append_assoc first front]
        exact .kept kept others
  · rw [← List.nil_append (first ++ others), ← List.nil_append (second ++ othersToo)]
    refine .kept kept ?_
    cases drifted with
    | same => exact .inl rfl
    | kept deeper others =>
        obtain ⟨c, member, mark⟩ := deeper.mark
        exact .inr ⟨c, by simp [member], mark⟩

theorem not_plain_of_align {c : Char} (aligned : isAlign c = true) :
    ¬ ((digit? c).isSome ∨ c = '.' ∨ c = 's') ∧ ¬ IsMark c := by
  simp only [isAlign, Bool.or_eq_true, beq_iff_eq] at aligned
  unfold IsMark
  rcases aligned with ((rfl | rfl) | rfl) | rfl <;> decide

theorem not_plain_of_mark {c : Char} (mark : IsMark c) :
    ¬ ((digit? c).isSome ∨ c = '.' ∨ c = 's') := by
  rcases mark with rfl | rfl <;> decide

section Void

variable {nothing nothingToo : Prop} {layout layoutToo : List Char}

/-- A layout that holds a mark fills up with it, and has no other. -/
theorem filled_with_mark {mark : Char} (spells : Spells (body layout) nothing)
    (marked : IsMark mark) (member : mark ∈ layout) :
    ∃ align, isAlign align ∧ layout = mark :: align :: body layout ∧
      ∀ c ∈ align :: body layout, ¬ IsMark c := by
  have outside : ∀ c ∈ body layout, ¬ IsMark c :=
    fun c inside mark => not_plain_of_mark mark (spells.chars c inside)
  rcases body_cases layout with whole | ⟨align, aligned, whole⟩ | ⟨fill, align, aligned, whole⟩
  · exact absurd marked (outside mark (whole ▸ member))
  · rw [whole] at member
    rcases List.mem_cons.mp member with rfl | inside
    · exact absurd marked (not_plain_of_align aligned).2
    · exact absurd marked (outside mark inside)
  · have unmarked : ∀ c ∈ align :: body layout, ¬ IsMark c :=
      List.forall_mem_cons.mpr ⟨(not_plain_of_align aligned).2, outside⟩
    rw [whole] at member
    rcases List.mem_cons.mp member with rfl | inside
    · exact ⟨align, aligned, whole, unmarked⟩
    · exact absurd marked (unmarked mark inside)

/-- Where a mark fills up, it begins the layout. -/
theorem Drifted.fill_cases (drifted : Drifted layout layoutToo) (spells : Spells (body layout) nothing) :
    layout = layoutToo ∨ ∃ mark align second, isAlign align ∧ layout = mark :: align :: body layout ∧
      second ≠ [] ∧ (layoutToo = second ++ align :: body layout ∨
        '.' ∉ second ∧ layoutToo = second ++ body layout) := by
  cases drifted with
  | same => exact .inl rfl
  | @kept fill front first second rest restToo kept others =>
      obtain ⟨mark, inside, marked⟩ := kept.mark
      obtain ⟨align, aligned, whole, unmarked⟩ :=
        filled_with_mark spells marked (by simp [inside])
      have plain := spells.chars
      generalize body (front ++ (first ++ rest)) = rear at whole unmarked plain ⊢
      -- nothing stands before the mark
      obtain rfl : front = [] := by
        cases front with
        | nil => rfl
        | cons c front =>
            obtain ⟨_, same⟩ := List.cons.inj whole
            exact absurd marked (unmarked mark (same ▸ by simp [inside]))
      obtain ⟨c, tail, rfl⟩ := List.exists_cons_of_ne_nil (List.ne_nil_of_mem inside)
      obtain ⟨rfl, same⟩ := List.cons.inj whole
      obtain rfl : rest = restToo := by
        refine others.resolve_right ?_
        rintro ⟨other, member, marked⟩
        exact unmarked other (same ▸ by simp [member]) marked
      refine .inr ⟨c, align, second, aligned, whole, kept.full, ?_⟩
      cases tail with
      | nil =>
          obtain rfl : rest = align :: rear := same
          exact .inl rfl
      | cons next tail =>
          obtain ⟨rfl, behind⟩ := List.cons.inj same
          have filling : ∀ other ∈ next :: tail, ¬ IsMark other → other = fill :=
            fun other member => (kept.marked other (List.mem_cons_of_mem _ member)).resolve_left
          have filled := filling next List.mem_cons_self (not_plain_of_align aligned).2
          -- a second one of what aligns would be spelled out
          obtain rfl : tail = [] := by
            refine List.eq_nil_iff_forall_not_mem.mpr fun other member => ?_
            have spelled : other ∈ rear := behind ▸ List.mem_append_left _ member
            have again := filling other (List.mem_cons_of_mem _ member)
              (unmarked other (List.mem_cons_of_mem _ spelled))
            rw [again, ← filled] at spelled
            exact (not_plain_of_align aligned).1 (plain next spelled)
          obtain rfl : rest = rear := behind
          refine .inr ⟨fun dot => ?_, rfl⟩
          rw [filled.trans (kept.undotted dot).symm] at aligned
          cases aligned

theorem body_filled {fill align : Char} (aligned : isAlign align = true) (rear : List Char) :
    body (fill :: align :: rear) = rear := by
  simp [body, takeAlign, aligned]

/-- If the layout leaves nothing of the text, it leaves nothing of the trial. -/
theorem Drifted.void (drifted : Drifted layout layoutToo) (spells : Spells (body layout) nothing)
    (spellsToo : Spells (body layoutToo) nothingToo) (void : Void (body layoutToo)) :
    Void (body layout) := by
  have plain := spells.chars
  rcases drifted.fill_cases spells with rfl | ⟨mark, align, second, aligned, -, full, shape⟩
  · exact void
  · obtain ⟨first, others, rfl⟩ := List.exists_cons_of_ne_nil full
    generalize body layout = rear at shape plain ⊢
    rcases shape with rfl | ⟨undotted, rfl⟩
    · cases others with
      | nil => rwa [List.singleton_append, body_filled aligned] at void
      | cons next others =>
          -- the alignment comes too late
          refine absurd (spellsToo.chars align ?_) (not_plain_of_align aligned).1
          rcases body_cases (first :: next :: others ++ align :: rear) with
            whole | ⟨_, _, whole⟩ | ⟨_, _, _, whole⟩
          · rw [← whole]
            simp
          · rw [← (List.cons.inj whole).2]
            simp
          · rw [← (List.cons.inj (List.cons.inj whole).2).2]
            simp
    · have behind : ∀ c ∈ rear, c ∈ body (first :: others ++ rear) := by
        intro c member
        rcases body_cases (first :: others ++ rear) with
          whole | ⟨_, _, whole⟩ | ⟨_, align, aligned, whole⟩
        · rw [← whole]
          simp [member]
        · rw [← (List.cons.inj whole).2]
          simp [member]
        · cases others with
          | nil =>
              have same : rear = align :: _ := (List.cons.inj whole).2
              have there : align ∈ rear := same ▸ List.mem_cons_self
              exact absurd (plain align there) (not_plain_of_align aligned).1
          | cons next others =>
              rw [← (List.cons.inj (List.cons.inj whole).2).2]
              simp [member]
      refine ⟨?_, fun c member => void.2 c (behind c member)⟩
      have dot : '.' ∈ first :: others ++ rear := by
        rcases body_cases (first :: others ++ rear) with
          whole | ⟨_, _, whole⟩ | ⟨_, _, _, whole⟩ <;> rw [whole]
        · exact void.1
        · exact List.mem_cons_of_mem _ void.1
        · exact List.mem_cons_of_mem _ (List.mem_cons_of_mem _ void.1)
      exact (List.mem_append.mp dot).resolve_left undotted

end Void

section Nested

variable {argument : List Char} (full : argument ≠ []) (undotted : '.' ∉ argument)
  {before after afterToo : Numbering} {first second : List Char}

/-- A layout that leaves nothing of the text leaves nothing of the trial. -/
theorem Matched.emptied {selected other : Selected} {layout layoutToo : List Char}
    (matched : Matched selected other) (drifted : Drifted layout layoutToo)
    (made : layOutSelected layout selected = .ok first)
    (madeToo : layOutSelected layoutToo other = .ok second) (nothing : second = []) :
    first = [] := by
  have texts : ∀ {chars charsToo : List Char}, chars ≠ [] → charsToo ≠ [] →
      layOut layout chars = .ok first → layOut layoutToo charsToo = .ok second → first = [] := by
    intro chars charsToo given givenToo laid laidToo
    have spells := spells_of_layOut given laid
    have spellsToo := spells_of_layOut givenToo laidToo
    exact spells.void.mpr (drifted.void spells spellsToo (spellsToo.void.mp nothing))
  cases matched with
  | @same selected given =>
      cases selected with
      | text chars => exact texts given given made madeToo
      | member part =>
          rw [layOutSelected] at madeToo
          split at madeToo
          · exact absurd ((Except.ok.inj madeToo).trans nothing) given
          · cases madeToo
  | texts _ given givenToo _ => exact texts given givenToo made madeToo

include full undotted

theorem drifted_of_fillAt {layout : List Char}
    (made : fillAt [trial] 1 before layout = .ok (first, after))
    (madeToo : fillAt argument 1 before layout = .ok (second, afterToo)) :
    after = afterToo ∧ Drifted first second := by
  refine fillPieces_both (P := Likened) (.same []) Drifted.append ?_ made madeToo
  intro piece before after afterToo first second here hereToo
  obtain ⟨same, equal | ⟨_, _, _, _, matched, rfl, put, putToo⟩⟩ :=
    fillPiece_both full undotted (R := Eq) (fun _ => rfl) (fun laid _ => by cases laid) here hereToo
  · exact ⟨same, .inl equal⟩
  · exact ⟨same, matched.likened put putToo⟩

/-- Pieces that leave nothing of the text leave nothing of the trial. -/
theorem emptied_of_fillPieces {pieces : List (Except TemplateFault Piece)}
    (made : fillPieces (fillAt [trial] 1) [trial] before pieces = .ok (first, after))
    (madeToo : fillPieces (fillAt argument 1) argument before pieces = .ok (second, afterToo)) :
    after = afterToo ∧ (second = [] → first = []) := by
  refine fillPieces_both (P := fun first second => second = [] → first = [])
    (D := fun first second => second = [] → first = []) (fun _ => rfl) ?_ ?_ made madeToo
  · intro first second others othersToo here later nothing
    obtain ⟨one, two⟩ := List.append_eq_nil_iff.mp nothing
    rw [here one, later two, List.append_nil]
  · intro piece before after afterToo first second here hereToo
    obtain ⟨same, equal | ⟨_, _, _, _, matched, drifted, put, putToo⟩⟩ :=
      fillPiece_both full undotted (R := Drifted) .same
        (fun laid laidToo => drifted_of_fillAt full undotted laid laidToo) here hereToo
    · exact ⟨same, fun nothing => equal.trans nothing⟩
    · exact ⟨same, matched.emptied drifted put putToo⟩

end Nested

/-! ## Templates that show their argument -/

/-- The field that shows the argument as it is. -/
def placeholder : Field := ⟨['0'], none, [], false⟩

theorem fillPiece_placeholder
    {fillLayout : Numbering → List Char → Except TemplateFault (List Char × Numbering)}
    {argument text : List Char} {before after : Numbering}
    (made : fillPiece fillLayout argument before (.field placeholder) = .ok (text, after)) :
    text = argument := by
  cases before <;> cases made
  · rfl
  · rfl

/-- What is filled with more than the trial itself is filled with more than any text itself, if it
shows the argument. -/
theorem fillAt_ne_argument {argument template first second : List Char} {after afterToo : Numbering}
    (full : argument ≠ []) (undotted : '.' ∉ argument)
    (shows : .ok (.field placeholder) ∈ pieces (template.length + 1) template)
    (made : fillAt [trial] 2 .undecided template = .ok (first, after)) (more : first ≠ [trial])
    (madeToo : fillAt argument 2 .undecided template = .ok (second, afterToo)) :
    second ≠ argument := by
  rintro rfl
  obtain ⟨front, back, split⟩ := List.append_of_mem shows
  unfold fillAt at made madeToo
  rw [split] at made madeToo
  obtain ⟨head, middle, tail, fronted, shown, rfl⟩ := fillPieces_append made
  obtain ⟨headToo, middleToo, tailToo, frontedToo, shownToo, whole⟩ := fillPieces_append madeToo
  obtain ⟨rfl, headless⟩ := emptied_of_fillPieces full undotted fronted frontedToo
  obtain ⟨text, next, rest, here, later, rfl⟩ := fillPieces_cons_eq_ok.mp shown
  obtain ⟨textToo, nextToo, restToo, hereToo, laterToo, rfl⟩ := fillPieces_cons_eq_ok.mp shownToo
  obtain ⟨rfl, -⟩ := fillPiece_both full undotted (R := Drifted) .same
    (fun laid laidToo => drifted_of_fillAt full undotted laid laidToo) here hereToo
  obtain ⟨-, tailless⟩ := emptied_of_fillPieces full undotted later laterToo
  obtain rfl := fillPiece_placeholder here
  obtain rfl := fillPiece_placeholder hereToo
  have length := congrArg List.length whole
  simp only [List.length_append] at length
  have nothing : headToo = [] ∧ restToo = [] := by
    rw [← List.length_eq_zero_iff, ← List.length_eq_zero_iff]
    omega
  apply more
  rw [headless nothing.1, tailless nothing.2, List.nil_append, List.append_nil]

/-- The fields of a template, up to the first fault. -/
def fields (template : String) : List Field :=
  (pieces (template.toList.length + 1) template.toList).filterMap fun
    | .ok (.field written) => some written
    | _ => none

theorem mem_fields {template : String} {written : Field} :
    written ∈ fields template ↔
      .ok (.field written) ∈ pieces (template.toList.length + 1) template.toList := by
  rw [fields, List.mem_filterMap]
  constructor
  · rintro ⟨piece, listed, same⟩
    split at same
    · cases same
      exact listed
    · cases same
  · exact fun listed => ⟨_, listed, rfl⟩

end SchemaSharp.Text.Template

namespace SchemaSharp.Text

open Template

variable {template argument tried : String}

theorem fillTemplate_eq_ok {filled : String} : fillTemplate template argument = .ok filled ↔
    ∃ after, fillAt argument.toList 2 .undecided template.toList = .ok (filled.toList, after) := by
  unfold fillTemplate
  split
  · next text after computed =>
      rw [computed]
      constructor
      · intro same
        cases same
        exact ⟨after, by simp⟩
      · rintro ⟨_, same⟩
        cases same
        simp
  · next fault computed =>
      rw [computed]
      exact iff_of_false (fun same => nomatch same) (fun ⟨_, same⟩ => nomatch same)

/-- Where no layout has fields of its own, a template that can be filled with the trial can be filled
with every text that has no dot. -/
theorem fillTemplate_total (flat : ∀ written ∈ fields template, written.nested = false)
    (made : fillTemplate template (String.singleton trial) = .ok tried) (full : argument ≠ "")
    (undotted : '.' ∉ argument.toList) : ∃ filled, fillTemplate template argument = .ok filled := by
  obtain ⟨after, made⟩ := fillTemplate_eq_ok.mp made
  change fillPieces (fillAt [trial] 1) [trial] _ _ = _ at made
  obtain ⟨filled, madeToo⟩ := fillPieces_total
    (fun empty => full (String.toList_eq_nil_iff.mp empty)) undotted
    (fun written member => flat written (mem_fields.mpr member)) made
  exact ⟨String.ofList filled, fillTemplate_eq_ok.mpr ⟨after, by simpa [fillAt] using madeToo⟩⟩

/-- A template that makes something else of the trial, and shows its argument, makes something else of
every text that has no dot. -/
theorem fillTemplate_ne_argument (shows : placeholder ∈ fields template)
    (made : fillTemplate template (String.singleton trial) = .ok tried)
    (more : tried ≠ String.singleton trial) (full : argument ≠ "")
    (undotted : '.' ∉ argument.toList) : fillTemplate template argument ≠ .ok argument := by
  intro same
  obtain ⟨after, made⟩ := fillTemplate_eq_ok.mp made
  obtain ⟨afterToo, madeToo⟩ := fillTemplate_eq_ok.mp same
  refine fillAt_ne_argument (fun empty => full (String.toList_eq_nil_iff.mp empty)) undotted
    (mem_fields.mp shows) made (fun equal => more ?_) madeToo rfl
  rw [← String.toList_inj, equal]
  rfl

end SchemaSharp.Text
