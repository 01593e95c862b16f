import SchemaSharp.Proofs.Result
import SchemaSharp.Proofs.Text.Layouts
import SchemaSharp.Proofs.Text.Lines
import SchemaSharp.Text.Template

/-!
What a filled template may hold. Everything that a template puts out is a part of the template, the
argument or a part of it, a description, or what texts are said to be. Only the last of these holds
line ends of its own, and a template has to ask for it by name.
-/

namespace SchemaSharp.Text.Template

/-- The name by which a text is asked what it is said to be. -/
def documentationName : String := "__doc__"

/-- Nothing in the template is a line end, or asks for one. -/
structure Tame (chars : List Char) : Prop where
  unbroken : Unbroken chars
  unasked : ¬ documentationName.toList <:+: chars

theorem Tame.part {whole part : List Char} (tame : Tame whole) (within : part <:+: whole) :
    Tame part where
  unbroken := tame.unbroken.subset within.subset
  unasked asked := tame.unasked (asked.trans within)

/-! ## Pieces -/

theorem scanSelector_eq {inside : Bool} {text selector after : List Char} {mark : Char}
    (scanned : scanSelector inside text = .ok (selector, mark, after)) :
    text = selector ++ mark :: after := by
  induction text generalizing inside selector with
  | nil => cases inside <;> cases scanned
  | cons c rest ih =>
      cases inside with
      | true =>
          rw [scanSelector] at scanned
          split at scanned
          · cases scanned
          · next inner =>
              cases scanned
              rw [ih inner, List.cons_append]
      | false =>
          rw [scanSelector] at scanned
          split at scanned
          · cases scanned
          · split at scanned
            · cases scanned
              rfl
            · split at scanned
              · cases scanned
              · next inner =>
                  cases scanned
                  rw [ih inner, List.cons_append]

theorem scanLayout_eq {depth : Nat} {text layout after : List Char} {nested : Bool}
    (scanned : scanLayout depth text = .ok (layout, nested, after)) :
    text = layout ++ '}' :: after := by
  induction text generalizing depth layout nested with
  | nil => cases scanned
  | cons c rest ih =>
      rw [scanLayout] at scanned
      split at scanned
      · next closing =>
          cases scanned
          simp_all
      · dsimp only at scanned
        split at scanned
        · cases scanned
        · next inner =>
            cases scanned
            rw [ih inner, List.cons_append]

/-- The field and what follows it are parts of the text. -/
structure FieldWithin (text : List Char) (field : Field) (after : List Char) : Prop where
  selector : field.selector <:+: text
  layout : field.layout <:+: text
  after : after <:+ text

theorem scanLayout_within {depth : Nat} {text rest layout after : List Char} {nested : Bool}
    (scanned : scanLayout depth rest = .ok (layout, nested, after)) (within : rest <:+ text) :
    layout <:+: text ∧ after <:+ text := by
  rw [scanLayout_eq scanned] at within
  constructor
  · exact (List.prefix_append layout _).isInfix.trans within.isInfix
  · exact (List.suffix_cons '}' after).trans ((List.suffix_append layout _).trans within)

theorem scanField_within {text after : List Char} {field : Field}
    (scanned : scanField text = .ok (field, after)) : FieldWithin text field after := by
  unfold scanField at scanned
  cases selected : scanSelector false text with
  | error fault =>
      rw [selected] at scanned
      cases scanned
  | ok parts =>
      obtain ⟨selector, mark, rest⟩ := parts
      have whole := scanSelector_eq selected
      have chosen : selector <:+: text := whole ▸ (List.prefix_append selector _).isInfix
      have behind : rest <:+ text :=
        whole ▸ (List.suffix_cons mark rest).trans (List.suffix_append selector _)
      have nothing : ([] : List Char) <:+: text := List.nil_infix
      rw [selected] at scanned
      dsimp only at scanned
      split at scanned
      · cases scanned
      · -- a field that ends behind its selector
        next same =>
          cases same
          cases scanned
          exact ⟨chosen, nothing, behind⟩
      · -- a layout follows at once
        next same =>
          cases same
          split at scanned
          · cases scanned
          · next laid =>
              cases scanned
              obtain ⟨layout, later⟩ := scanLayout_within laid behind
              exact ⟨chosen, layout, later⟩
      · -- a conversion comes first, and perhaps a layout behind it
        next same =>
          cases same
          split at scanned
          · cases scanned
          · cases scanned
          · cases scanned
            exact ⟨chosen, nothing, (List.suffix_append [_, _] _).trans behind⟩
          · next converted after _ =>
              split at scanned
              · cases scanned
              · next laid =>
                  cases scanned
                  obtain ⟨layout, later⟩ :=
                    scanLayout_within laid ((List.suffix_append [_, _] _).trans behind)
                  exact ⟨chosen, layout, later⟩
          · cases scanned

/-- The piece is made of parts of the text. -/
def Piece.Within (text : List Char) : Piece → Prop
  | .literal chars => chars <:+: text
  | .field written => written.selector <:+: text ∧ written.layout <:+: text

theorem Piece.Within.later {text rest : List Char} {piece : Piece} (within : piece.Within rest)
    (behind : rest <:+ text) : piece.Within text := by
  cases piece with
  | literal chars => exact within.trans behind.isInfix
  | field written => exact ⟨within.1.trans behind.isInfix, within.2.trans behind.isInfix⟩

/-- A literal and a doubled brace, and what follows them. -/
theorem doubled_within {test : Char → Bool} {text rest : List Char} {brace : Char}
    (cut : text.dropWhile test = brace :: brace :: rest) :
    text.takeWhile test ++ [brace] <:+: text ∧ rest <:+ text := by
  have whole : text.takeWhile test ++ brace :: brace :: rest = text := by
    rw [← cut, List.takeWhile_append_dropWhile]
  constructor
  · exact ⟨[], brace :: rest, by simpa using whole⟩
  · exact ⟨text.takeWhile test ++ [brace, brace], by simpa using whole⟩

theorem pieces_within {budget : Nat} {text : List Char} {piece : Piece}
    (member : .ok piece ∈ pieces budget text) : piece.Within text := by
  fun_induction pieces budget text with
  | case1 => cases member
  | case2 => cases member
  | case3 budget text _ literal _ =>
      cases List.mem_singleton.mp member
      exact (List.takeWhile_prefix _).isInfix
  | case4 budget text _ literal rest cut ih =>
      obtain ⟨here, behind⟩ := doubled_within cut
      rcases List.mem_cons.mp member with same | later
      · cases same
        exact here
      · exact (ih later).later behind
  | case5 budget text _ literal rest cut ih =>
      obtain ⟨here, behind⟩ := doubled_within cut
      rcases List.mem_cons.mp member with same | later
      · cases same
        exact here
      · exact (ih later).later behind
  | case6 => cases List.mem_singleton.mp member
  | case7 => cases List.mem_singleton.mp member
  | case8 => cases List.mem_singleton.mp member
  | case9 budget text _ literal brace rest _ _ _ _ cut field after scanned ih =>
      have behind : rest <:+ text := (List.suffix_cons brace rest).trans (cut ▸ List.dropWhile_suffix _)
      obtain ⟨selector, layout, following⟩ := scanField_within scanned
      rcases List.mem_cons.mp member with same | others
      · cases same
        exact (List.takeWhile_prefix _).isInfix
      · rcases List.mem_cons.mp others with same | later
        · cases same
          exact ⟨selector.trans behind.isInfix, layout.trans behind.isInfix⟩
        · exact (ih later).later (following.trans behind)

/-! ## Selecting and converting -/

theorem unbroken_of_member {name : String} {part : Member} (found : member? name = some part) :
    Unbroken part.text.toList := by
  have named : ∀ name ∈ operationNames, SingleLine name := by decide +kernel
  unfold member? at found
  split at found
  · cases found
    decide
  · split at found
    · next listed =>
        cases found
        have plain := named name (List.contains_iff_mem.mp listed)
        change SingleLine ("<built-in method " ++ name ++ " of str object>")
        simp only [singleLine_append]
        exact ⟨⟨by decide, plain⟩, by decide⟩
    · cases found

/-- What a text or its kind says about itself is on one line, unless it is its documentation. -/
theorem unbroken_of_named {name : String} {selected result : Selected}
    (other : name ≠ documentationName) (found : selected.named name = .ok result) :
    Unbroken result.shown := by
  have facts : ∀ entry ∈ kindFacts, entry.1 ≠ documentationName → SingleLine entry.2 := by
    decide +kernel
  unfold Selected.named at found
  split at found
  · have none : textFacts.lookup name = none := by
      rw [List.lookup_eq_none_iff]
      simpa [textFacts, documentationName] using other
    rw [none] at found
    split at found
    · contradiction
    · next known =>
        cases found
        exact unbroken_of_member known
    · cases found
  · split at found
    · next fact known =>
        cases found
        obtain ⟨_, _, split, _⟩ := List.lookup_eq_some_iff.mp known
        exact facts (name, fact) (by simp [split]) other
    · cases found
  · cases found

theorem unbroken_of_at {index : Nat} {selected result : Selected}
    (plain : Unbroken selected.shown) (found : selected.at index = .ok result) :
    Unbroken result.shown := by
  unfold Selected.at at found
  split at found
  · cases found
  · split at found
    · cases found
    · next c here =>
        cases found
        exact unbroken_cons.mpr ⟨plain c (List.mem_of_getElem? here), unbroken_nil⟩

theorem cutFirstBracket_eq {text name after : List Char}
    (cut : select.cutFirstBracket text = some (name, after)) : text = name ++ ']' :: after := by
  induction text generalizing name with
  | nil => cases cut
  | cons c rest ih =>
      rw [select.cutFirstBracket.eq_def] at cut
      split at cut
      · contradiction
      · next same =>
          cases same
          cases cut
          rfl
      · next same =>
          cases same
          obtain ⟨⟨inner, later⟩, found, same⟩ := Option.map_eq_some_iff.mp cut
          cases same
          rw [ih found, List.cons_append]

/-- Whatever a tame selector leads to is on one line if it begins at a text that is. -/
theorem unbroken_of_select {budget : Nat} {rest : List Char} {selected result : Selected}
    (tame : Tame rest) (plain : Unbroken selected.shown)
    (found : select budget rest selected = .ok result) : Unbroken result.shown := by
  induction budget generalizing rest selected with
  | zero =>
      cases found
      exact plain
  | succ budget ih =>
      rw [select.eq_def] at found
      split at found
      · contradiction
      · cases found
        exact plain
      · next inner same =>
          -- a character in brackets
          cases same
          split at found
          · cases found
          · next name after cut =>
              obtain ⟨number, _, found⟩ := ok_of_bind found
              dsimp only at found
              split at found
              · cases found
              · split at found
                · cases found
                · cases found
                · obtain ⟨next, chosen, found⟩ := ok_of_bind found
                  have behind : after <:+ '[' :: inner := by
                    rw [cutFirstBracket_eq cut]
                    exact ⟨'[' :: name ++ [']'], by simp⟩
                  exact ih (tame.part behind.isInfix) (unbroken_of_at plain chosen) found
      · next inner same =>
          -- a member by its name
          cases same
          dsimp only at found
          split at found
          · cases found
          · obtain ⟨next, chosen, found⟩ := ok_of_bind found
            have outside : inner <:+: '.' :: inner := (List.suffix_cons '.' inner).isInfix
            have behind := (List.dropWhile_suffix (l := inner) fun c => c != '.' && c != '[').isInfix
            refine ih (tame.part (behind.trans outside)) (unbroken_of_named ?_ chosen) found
            intro asked
            apply tame.unasked
            rw [← asked, String.toList_ofList]
            exact (List.takeWhile_prefix _).isInfix.trans outside
      · cases found

theorem unbroken_of_selection {argument selector : List Char} {before after : Numbering}
    {selected : Selected} (tame : Tame selector) (plain : Unbroken argument)
    (found : selection argument selector before = .ok (selected, after)) :
    Unbroken selected.shown := by
  have given : Unbroken (Selected.text argument).shown := plain
  unfold selection at found
  obtain ⟨⟨index, numbering⟩, _, found⟩ := ok_of_bind found
  dsimp only at found
  split at found
  · cases found
  · obtain ⟨result, chosen, found⟩ := ok_of_bind found
    cases found
    exact unbroken_of_select (tame.part (List.drop_suffix _ _).isInfix) given chosen
  · cases found

theorem unbroken_of_convert {mark : Option Char} {selected result : Selected}
    (plain : Unbroken selected.shown) (made : convert mark selected = .ok result) :
    Unbroken result.shown := by
  unfold convert at made
  split at made
  · cases made
    exact plain
  · cases made
    exact plain
  · cases made
    simpa [Selected.shown, quoted] using unbroken_quotedWith plain
  · cases made
    simpa [Selected.shown, quotedAscii] using unbroken_quotedWith plain
  · cases made
    exact plain
  · cases made
    exact plain
  · cases made

/-! ## Layouts -/

theorem Layout.unbroken_apply {layout : Layout} {text : List Char}
    (fill : isLineEnd layout.fill = false) (plain : Unbroken text) :
    Unbroken (layout.apply text) := by
  have filling : ∀ count, Unbroken (List.replicate count layout.fill) := by
    intro count c member
    rwa [List.eq_of_mem_replicate member]
  unfold Layout.apply
  refine unbroken_append.mpr ⟨unbroken_append.mpr ⟨filling _, ?_⟩, filling _⟩
  split
  · exact plain.subset (List.take_subset _ _)
  · exact plain

theorem unbroken_of_layOut {layout text result : List Char} (plain : Unbroken layout)
    (given : Unbroken text) (made : layOut layout text = .ok result) : Unbroken result := by
  unfold layOut at made
  split at made
  · cases made
    exact given
  · obtain ⟨read, reading, made⟩ := ok_of_bind made
    obtain ⟨_, _, made⟩ := ok_of_bind made
    cases made
    apply Layout.unbroken_apply _ given
    rcases (Layout.madeOf_read reading).fill with inside | blank | zero
    · exact plain _ inside
    · rw [blank]
      decide
    · rw [zero]
      decide

theorem unbroken_of_layOutSelected {layout result : List Char} {selected : Selected}
    (plain : Unbroken layout) (given : Unbroken selected.shown)
    (made : layOutSelected layout selected = .ok result) : Unbroken result := by
  unfold layOutSelected at made
  split at made
  · exact unbroken_of_layOut plain given made
  · split at made
    · cases made
      exact given
    · cases made

/-! ## Filling in -/

theorem unbroken_of_fillPieces
    {fillLayout : Numbering → List Char → Except TemplateFault (List Char × Numbering)}
    {argument filled : List Char} {before after : Numbering}
    {pieces : List (Except TemplateFault Piece)} {template : List Char} (tame : Tame template)
    (plain : Unbroken argument)
    (laid : ∀ numbering layout filled next, Tame layout →
      fillLayout numbering layout = .ok (filled, next) → Unbroken filled)
    (within : ∀ piece, .ok piece ∈ pieces → piece.Within template)
    (made : fillPieces fillLayout argument before pieces = .ok (filled, after)) :
    Unbroken filled := by
  induction pieces generalizing before filled with
  | nil =>
      cases made
      exact unbroken_nil
  | cons piece rest ih =>
      have later : ∀ piece, .ok piece ∈ rest → piece.Within template :=
        fun piece member => within piece (List.mem_cons_of_mem _ member)
      cases piece with
      | error fault => cases made
      | ok piece =>
          have here := within piece List.mem_cons_self
          cases piece with
          | literal text =>
              obtain ⟨⟨others, next⟩, following, made⟩ := ok_of_bind made
              cases made
              exact unbroken_append.mpr ⟨(tame.part here).unbroken, ih later following⟩
          | field written =>
              obtain ⟨selector, layout⟩ := here
              obtain ⟨⟨selected, first⟩, chosen, made⟩ := ok_of_bind made
              obtain ⟨converted, turned, made⟩ := ok_of_bind made
              have shown := unbroken_of_convert
                (unbroken_of_selection (tame.part selector) plain chosen) turned
              -- whatever the shape is made from, what follows is the same
              have laidOut : ∀ {shape : List Char} {second : Numbering}, Unbroken shape →
                  (do
                    let text ← layOutSelected shape converted
                    let others ← fillPieces fillLayout argument second rest
                    return (text ++ others.1, others.2)) = .ok (filled, after) →
                      Unbroken filled := by
                intro shape second shapely made
                obtain ⟨text, put, made⟩ := ok_of_bind made
                obtain ⟨⟨others, next⟩, following, made⟩ := ok_of_bind made
                cases made
                exact unbroken_append.mpr
                  ⟨unbroken_of_layOutSelected shapely shown put, ih later following⟩
              dsimp only at made
              split at made
              · obtain ⟨⟨shape, second⟩, shaped, made⟩ := ok_of_bind made
                exact laidOut (laid _ _ _ _ (tame.part layout) shaped) made
              · exact laidOut (tame.part layout).unbroken made

theorem unbroken_of_fillAt {argument template filled : List Char} {depth : Nat}
    {before after : Numbering} (tame : Tame template) (plain : Unbroken argument)
    (made : fillAt argument depth before template = .ok (filled, after)) : Unbroken filled := by
  induction depth generalizing before after template filled with
  | zero => cases made
  | succ depth ih =>
      exact unbroken_of_fillPieces tame plain (fun _ _ _ _ layout laid => ih layout laid)
        (fun _ member => pieces_within member) made

end SchemaSharp.Text.Template

namespace SchemaSharp.Text

/-- A template that asks for no line end is filled without one, if the argument has none. -/
theorem singleLine_of_fillTemplate {template argument filled : String}
    (tame : Template.Tame template.toList) (plain : SingleLine argument)
    (made : fillTemplate template argument = .ok filled) : SingleLine filled := by
  unfold fillTemplate at made
  split at made
  · next computed =>
      cases made
      exact singleLine_ofList.mpr (Template.unbroken_of_fillAt tame plain computed)
  · cases made

end SchemaSharp.Text
