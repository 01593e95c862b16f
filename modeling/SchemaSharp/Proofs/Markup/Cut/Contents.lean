import SchemaSharp.Proofs.Markup.Cut.Declarations
import SchemaSharp.Markup.Event

/-!
Elements and their content in a text that is cut off. A root element is read alike in both texts or
missed in the short one, and what is found in both is found in the same place; so the events of a
document that was cut off are those of the whole one, if there are any.
-/

namespace SchemaSharp.Markup.Cut

variable {cut : Cut} {α : Type}

/-! ## Tags -/

theorem firm_rawAttribute (budget budgetToo : Nat) :
    cut.Firm (rawAttribute budget) (rawAttribute budgetToo) := by
  unfold rawAttribute
  refine hungry_rawName.firm fun name => loose_skipSpaces.firm fun _ => ?_
  refine (firm_expect (by decide) (by decide)).loose.firm fun _ => loose_skipSpaces.firm fun _ => ?_
  exact (firm_quotedItems _ _).followed fun _ => steady_pure _

/-- The attributes from here on, and whether there was a blank before. -/
def attributesBehind (spaced : Bool) (budget : Nat) : Reading (List RawAttribute × Bool) := do
  skipSpaces
  if ← lookingAt ">" then return ([], false)
  if ← lookingAt "/>" then return ([], true)
  if !spaced then malformed
  let first ← rawAttribute budget
  let (others, isEmpty) ← rawAttributes budget
  return (first :: others, isEmpty)

theorem rawAttributes_run (budget : Nat) (text : List Char) :
    (rawAttributes (budget + 1)).run text =
      (attributesBehind (text.head?.any isSpace) budget).run text := rfl

theorem firm_rawAttributes (budget budgetToo : Nat) :
    cut.Firm (rawAttributes budget) (rawAttributes budgetToo) := by
  refine tells_of_budgets (fun (_ : Unit) budget => rawAttributes budget) (fun _ _ => rfl) ?_ ()
    budget budgetToo
  intro _ budget ih budgetToo
  refine tells_of_behind rfl rfl fun c => ?_
  have firm : cut.Firm (attributesBehind (isSpace c) budget)
      (attributesBehind (isSpace c) budgetToo) := by
    unfold attributesBehind
    refine loose_skipSpaces.firm fun _ => ?_
    refine firm_lookingAt (c := '>') rfl (by decide) (steady_pure _) ?_
    refine firm_lookingAt_pair (a := '/') (b := '>') rfl (by decide) (steady_pure _) ?_ ?_
    · cases isSpace c
      · exact firm_fails (fun _ => rfl) _
      · refine (firm_rawAttribute _ _).loose.firm fun first => ?_
        exact Firm.followed (ih () _) fun _ => steady_pure _
    · intro rest left result _ found
      cases spaced : isSpace c <;> (rw [spaced] at found; cases found)
  have same (budget : Nat) : behind c (rawAttributes (budget + 1)) =
      behind c (attributesBehind (isSpace c) budget) :=
    funext fun rest => rawAttributes_run budget (c :: rest)
  rw [same, same]
  exact firm.agrees.behind c

theorem firm_rawTag (budget budgetToo : Nat) : cut.Firm (rawTag budget) (rawTag budgetToo) :=
  hungry_rawName.firm fun _ => (firm_rawAttributes _ _).followed fun _ => steady_pure _

theorem firm_endTagRest (opened : RawName) : cut.Firm (endTagRest opened) (endTagRest opened) := by
  unfold endTagRest
  refine hungry_rawName.firm fun name => loose_skipSpaces.firm fun _ => ?_
  refine (firm_expect (by decide) (by decide)).followed fun _ => ?_
  split
  · exact (firm_malformed _).tells
  · exact steady_pure _

/-! ## Content -/

theorem firm_asideRest : cut.Firm asideRest asideRest := by
  unfold asideRest
  refine firm_lookingAt_pair (a := '-') (b := '-') rfl (by decide) firm_commentRest.tells ?_ ?_
  · refine (firm_expect (by decide) (by decide)).loose.firm fun _ => ?_
    exact (firm_through (by decide) (by decide)).followed fun _ => steady_pure _
  · intro rest left result _ found
    cases found

theorem firm_knownRef : cut.Firm knownRef knownRef := by
  unfold knownRef
  refine firm_refRest.followed fun ref => ?_
  split
  · exact steady_pure _
  · split
    · exact (firm_malformed _).tells
    · exact steady_pure _

section

variable {doctype : Doctype} {budget budgetToo : Nat} {innermost : Open} {outer : List Open}
  {bindings : Bindings} {events : List Event}

/-- Content is read alike from any open elements, and with any budgets. -/
def ContentSteady (cut : Cut) (doctype : Doctype) (budget budgetToo : Nat) : Prop :=
  ∀ stack bindings events, cut.Steady (contentEvents doctype budget stack bindings events)
    (contentEvents doctype budgetToo stack bindings events)

/-- What goes on behind the first character of a tag, whatever it is. -/
def taggedEvents (doctype : Doctype) (budget : Nat) (innermost : Open) (outer : List Open)
    (bindings : Bindings) (events : List Event) : Reading (List Event) := do
  let tag ← rawTag budget
  match openingEvents doctype bindings tag with
  | none => malformed
  | some (opening, inner) =>
      if tag.isEmpty then
        contentEvents doctype budget (innermost :: outer) bindings
          (.closed :: opening.reverse ++ events)
      else
        contentEvents doctype budget (⟨tag.name, bindings⟩ :: innermost :: outer) inner
          (opening.reverse ++ events)

theorem firm_taggedEvents (steady : cut.ContentSteady doctype budget budgetToo) :
    cut.Firm (taggedEvents doctype budget innermost outer bindings events)
      (taggedEvents doctype budgetToo innermost outer bindings events) := by
  unfold taggedEvents
  refine (firm_rawTag _ _).followed fun tag => ?_
  split
  · exact (firm_malformed _).tells
  · split
    · exact steady _ _ _
    · exact steady _ _ _

theorem contentEvents_tag {c : Char} (ending : c ≠ '/') (instruction : c ≠ '?')
    (aside : c ≠ '!') (rest : List Char) :
    (contentEvents doctype (budget + 1) (innermost :: outer) bindings events).run
        ('<' :: c :: rest) =
      (taggedEvents doctype budget innermost outer bindings events).run (c :: rest) := by
  rw [contentEvents, StateT.run_bind, StateT.run_get, pure_bind]
  dsimp only
  split
  all_goals
    next same =>
      cases same <;> first
        | exact absurd rfl ending
        | exact absurd rfl instruction
        | exact absurd rfl aside
        | rfl
        | exact ((by assumption : '<' = '<' → False) rfl).elim

theorem firm_angledContent (steady : cut.ContentSteady doctype budget budgetToo) :
    cut.Firm
      (behind '<' (contentEvents doctype (budget + 1) (innermost :: outer) bindings events))
      (behind '<' (contentEvents doctype (budgetToo + 1) (innermost :: outer) bindings events)) := by
  refine tells_of_behind rfl rfl fun c => ?_
  rcases eq_or_ne c '/' with rfl | ending
  · have ended : cut.Firm _ _ := (firm_endTagRest innermost.name).followed fun _ =>
      steady outer innermost.outside (.closed :: events)
    exact ended.toAgree
  · rcases eq_or_ne c '?' with rfl | instruction
    · have passed : cut.Firm _ _ := firm_instructionRest.followed fun _ =>
        steady (innermost :: outer) bindings events
      exact passed.toAgree
    · rcases eq_or_ne c '!' with rfl | aside
      · have passed : cut.Firm _ _ := firm_asideRest.followed fun _ =>
          steady (innermost :: outer) bindings events
        exact passed.toAgree
      · have same (budget : Nat) : behind c (behind '<'
            (contentEvents doctype (budget + 1) (innermost :: outer) bindings events)) =
              behind c (taggedEvents doctype budget innermost outer bindings events) :=
          funext (contentEvents_tag ending instruction aside)
        rw [same, same]
        exact (firm_taggedEvents steady).toAgree.behind c

theorem contentEvents_bracket (rest : List Char) :
    (contentEvents doctype (budget + 1) (innermost :: outer) bindings events).run (']' :: rest) =
        .error .malformed ∨
      (contentEvents doctype (budget + 1) (innermost :: outer) bindings events).run (']' :: rest) =
        (contentEvents doctype budget (innermost :: outer) bindings events).run rest := by
  generalize ran : (contentEvents doctype (budget + 1) (innermost :: outer) bindings events).run
    (']' :: rest) = outcome
  rw [contentEvents, StateT.run_bind, StateT.run_get, pure_bind] at ran
  dsimp only at ran
  split at ran
  all_goals
    next same =>
      cases same <;> first
        | exact .inl ran.symm
        | exact .inr ran.symm

theorem contentEvents_plain {c : Char} (tag : c ≠ '<') (reference : c ≠ '&') (bracket : c ≠ ']')
    (visible : c ≠ '\x00') (rest : List Char) :
    (contentEvents doctype (budget + 1) (innermost :: outer) bindings events).run (c :: rest) =
      (contentEvents doctype budget (innermost :: outer) bindings events).run rest := by
  rw [contentEvents, StateT.run_bind, StateT.run_get, pure_bind]
  dsimp only
  split
  all_goals
    next same =>
      cases same <;> first
        | exact absurd rfl tag
        | exact absurd rfl reference
        | exact absurd rfl bracket
        | exact congrFun (if_neg (by simpa using visible)) (c :: rest)

theorem steady_contentStep (steady : cut.ContentSteady doctype budget budgetToo) :
    cut.Firm (contentEvents doctype (budget + 1) (innermost :: outer) bindings events)
      (contentEvents doctype (budgetToo + 1) (innermost :: outer) bindings events) := by
  have further := steady (innermost :: outer) bindings events
  refine tells_of_behind rfl rfl fun c => ?_
  rcases eq_or_ne c '<' with rfl | tag
  · exact (firm_angledContent steady).toAgree
  · rcases eq_or_ne c '&' with rfl | reference
    · have referred : cut.Firm _ _ := firm_knownRef.followed fun _ => further
      exact referred.toAgree
    · rcases eq_or_ne c ']' with rfl | bracket
      · exact further.toAgree.refusing contentEvents_bracket contentEvents_bracket
      · rcases eq_or_ne c '\x00' with rfl | visible
        · exact (firm_fails (fun _ => rfl) _).toAgree
        · have same (budget : Nat) : behind c
              (contentEvents doctype (budget + 1) (innermost :: outer) bindings events) =
                contentEvents doctype budget (innermost :: outer) bindings events :=
            funext (contentEvents_plain tag reference bracket visible)
          rw [same, same]
          exact further.toAgree

end

theorem steady_contentEvents (doctype : Doctype) (budget budgetToo : Nat) :
    cut.ContentSteady doctype budget budgetToo := by
  intro stack bindings events
  refine tells_of_budgets
    (fun (i : List Open × Bindings × List Event) budget =>
      contentEvents doctype budget i.1 i.2.1 i.2.2) (fun _ _ => rfl) ?_ (stack, bindings, events)
    budget budgetToo
  rintro ⟨stack, bindings, events⟩ budget ih budgetToo
  rcases stack with _ | ⟨innermost, outer⟩
  · exact steady_pure _
  · have step : cut.ContentSteady doctype budget budgetToo :=
      fun stack bindings events => ih (stack, bindings, events) budgetToo
    exact (steady_contentStep step).tells

/-! ## Documents -/

theorem firm_rootEvents (doctype : Doctype) :
    cut.Firm (rootEvents doctype) (rootEvents doctype) := by
  unfold rootEvents
  refine (firm_expect (by decide) (by decide)).loose.firm fun _ => ?_
  refine tells_get fun text textToo => (firm_rawTag _ _).followed fun tag => ?_
  split
  · exact (firm_malformed _).tells
  · split
    · exact steady_pure _
    · exact (steady_contentEvents _ _ _ _ _ _).followed fun _ => steady_pure _

theorem firm_prolog (standalone : Bool) (budget budgetToo : Nat) (seen : Option Doctype) :
    cut.Firm (prolog standalone budget seen) (prolog standalone budgetToo seen) := by
  refine tells_of_budgets (fun seen budget => prolog standalone budget seen) (fun _ _ => rfl) ?_ seen
    budget budgetToo
  intro seen budget ih budgetToo
  unfold prolog
  refine firm_token fun token => ?_
  split
  · exact Firm.tells (ih _ _)
  · exact Firm.tells (ih _ _)
  · split
    · exact (firm_fails (fun _ => rfl) _).tells
    · exact ((firm_doctypeRest _).loose.firm fun doctype => ih _ _).tells
  · exact tells_pure rfl
  · exact (firm_malformed _).tells

/-- Nothing but markup is at fault where a reader fails. -/
def FailsInMarkup (reader : Reading α) : Prop :=
  ∀ text fault, reader.run text = .error fault → fault.isMarkup

/-- The text is cut off at its end. -/
def whole : Cut := ⟨[], [], .inl rfl⟩

theorem Tells.failsInMarkup {free idle : α → Prop} {first second : Reading α}
    (tells : cut.Tells free idle first second) : FailsInMarkup first :=
  tells.fault

theorem FailsInMarkup.followed {β : Type} {first : Reading α} {next : α → Reading β}
    (here : FailsInMarkup first) (later : ∀ found, FailsInMarkup (next found)) :
    FailsInMarkup (first >>= next) := by
  intro text fault failed
  rw [StateT.run_bind] at failed
  cases ran : first.run text with
  | error other =>
      rw [ran] at failed
      cases failed
      exact here text _ ran
  | ok middle =>
      rw [ran] at failed
      exact later middle.1 middle.2 fault failed

theorem failsInMarkup_epilog (budget : Nat) : FailsInMarkup (epilog budget) := by
  have blanks : FailsInMarkup skipSpaces := (loose_skipSpaces : whole.Loose _ _).failsInMarkup
  have comment : FailsInMarkup commentRest := (firm_commentRest : whole.Firm _ _).failsInMarkup
  have instruction : FailsInMarkup instructionRest :=
    (firm_instructionRest : whole.Firm _ _).failsInMarkup
  have refused {β : Type} : FailsInMarkup (malformed : Reading β) :=
    (firm_malformed malformed : whole.Firm _ _).failsInMarkup
  induction budget with
  | zero => exact refused
  | succ budget ih =>
      refine blanks.followed fun _ text fault failed => ?_
      rw [StateT.run_bind, StateT.run_get, pure_bind] at failed
      dsimp only at failed
      split at failed
      · cases failed
      · exact (comment.followed fun _ => ih) _ fault failed
      · exact (instruction.followed fun _ => ih) _ fault failed
      · exact refused text fault failed

theorem failsInMarkup_documentEvents (standalone : Bool) :
    FailsInMarkup (documentEvents standalone) := by
  intro text
  have prolog : FailsInMarkup (prolog standalone (text.length + 1) none) :=
    (firm_prolog _ _ (text.length + 1) _ : whole.Firm _ _).failsInMarkup
  have root (doctype : Doctype) : FailsInMarkup (rootEvents doctype) :=
    (firm_rootEvents doctype : whole.Firm _ _).failsInMarkup
  have returns (events : List Event) : FailsInMarkup (pure events) :=
    (steady_pure events : whole.Steady _ _).failsInMarkup
  have read := prolog.followed fun doctype => (root doctype).followed fun events =>
    (failsInMarkup_epilog (text.length + 1)).followed fun _ => returns events
  exact read text

/-- What stands behind the root element changes nothing. -/
theorem events_of_epilog {budget : Nat} {text left : List Char} {events found : List Event}
    (ran : (epilog budget >>= fun _ => pure events : Reading (List Event)).run text =
      .ok (found, left)) : found = events := by
  rw [StateT.run_bind] at ran
  obtain ⟨_, _, ran⟩ := ok_of_bind ran
  cases ran
  rfl

/-- A document in three parts. -/
theorem documentEvents_run (standalone : Bool) (text : List Char) :
    (documentEvents standalone).run text =
      (prolog standalone (text.length + 1) none >>= fun doctype =>
        rootEvents doctype >>= fun events =>
          epilog (text.length + 1) >>= fun _ => pure events : Reading (List Event)).run text := rfl

/-- A document that is read both from a text and from the one that was cut off is the same: all its
events are found up to the end of the root element. -/
theorem documentEvents_agree {standalone : Bool} {short whole left leftToo : List Char}
    {events eventsToo : List Event} (parted : cut.Parted short whole)
    (here : (documentEvents standalone).run short = .ok (events, left))
    (there : (documentEvents standalone).run whole = .ok (eventsToo, leftToo)) :
    events = eventsToo := by
  rw [documentEvents_run, StateT.run_bind] at here there
  obtain ⟨⟨doctype, middle⟩, begun, here⟩ := ok_of_bind here
  obtain ⟨⟨doctypeToo, middleToo⟩, begunToo, there⟩ := ok_of_bind there
  rcases (firm_prolog _ _ _ _).agree parted begun begunToo with ⟨rfl, level⟩ | ⟨none, _⟩
  · rw [StateT.run_bind] at here there
    obtain ⟨⟨found, behind⟩, read, here⟩ := ok_of_bind here
    obtain ⟨⟨foundToo, behindToo⟩, readToo, there⟩ := ok_of_bind there
    rcases (firm_rootEvents _).agree level read readToo with ⟨rfl, _⟩ | ⟨none, _⟩
    · exact (events_of_epilog here).trans (events_of_epilog there).symm
    · exact none.elim
  · exact none.elim

end SchemaSharp.Markup.Cut
