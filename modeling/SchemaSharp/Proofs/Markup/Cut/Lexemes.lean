import SchemaSharp.Proofs.Markup.Cut

/-!
The smallest parts of markup in a text that is cut off. Names and references, literals, comments and
instructions: what has an end of its own is found in both texts or missed in the short one, and only
a name may end where the text does.
-/

namespace SchemaSharp.Markup.Cut

variable {cut : Cut}

/-! ## Names -/

theorem plainName_run (before : List Char) :
    plainName.run before =
      match before with
      | [] => .error .malformed
      | first :: rest =>
          if startsName first then
            .ok (first :: rest.takeWhile continuesName, rest.dropWhile continuesName)
          else .error .malformed := by
  cases before with
  | nil => rfl
  | cons first rest =>
      change (if startsName first then (do
          set (rest.dropWhile continuesName)
          return first :: rest.takeWhile continuesName : Reading (List Char))
        else malformed).run (first :: rest) = _
      dsimp only
      split <;> rfl

theorem hungry_plainName : cut.Hungry plainName plainName := by
  refine tells_of_behind rfl rfl fun first => ?_
  have read (rest : List Char) : (behind first plainName).run rest =
      if startsName first then
        .ok (first :: rest.takeWhile continuesName, rest.dropWhile continuesName)
      else .error .malformed := plainName_run (first :: rest)
  constructor
  · intro rest fault failed
    rw [read] at failed
    split at failed <;> cases failed
    rfl
  · intro short whole left leftToo found other parted here there
    rw [read] at here there
    split at here
    · next starts =>
        rw [if_pos starts] at there
        cases here
        cases there
        rcases parted.span continuesName with ⟨same, level⟩ | none
        · exact .inl ⟨by rw [same], level⟩
        · exact .inr ⟨trivial, none⟩
    · cases here

theorem hungry_rawName : cut.Hungry rawName rawName := by
  unfold rawName
  refine hungry_plainName.followed fun first => ?_
  refine (tells_lookingAt (c := ':') rfl (by decide)).loose.followed fun labelled => ?_
  split
  · exact (hungry_plainName.followed fun second => (steady_pure _).loose).loose
  · exact (steady_pure _).loose

/-! ## Delimited texts -/

theorem textUntil_eq {stop text inner after : List Char}
    (found : textUntil stop text = some (inner, after)) :
    text = inner ++ (stop ++ after) ∧ '\x00' ∉ inner := by
  induction text generalizing inner with
  | nil => cases found
  | cons c rest ih =>
      rw [textUntil] at found
      split at found
      · next dropped =>
          cases found
          have whole : c :: rest = stop ++ after := Text.dropHead_eq_some_iff.mp dropped
          exact ⟨whole, List.not_mem_nil⟩
      · split at found
        · cases found
        · next visible =>
            obtain ⟨⟨text, later⟩, within, same⟩ := Option.map_eq_some_iff.mp found
            cases same
            obtain ⟨rfl, clean⟩ := ih within
            refine ⟨rfl, ?_⟩
            rw [List.mem_cons, not_or]
            exact ⟨fun null => visible (by simp [← null]), clean⟩

/-- Where a text is cut at does not depend on what follows. -/
theorem textUntil_congr {stop inner after : List Char} (full : stop ≠ [])
    (found : textUntil stop (inner ++ (stop ++ after)) = some (inner, after)) (other : List Char) :
    textUntil stop (inner ++ (stop ++ other)) = some (inner, other) := by
  induction inner with
  | nil =>
      obtain ⟨h, hs, rfl⟩ := List.exists_cons_of_ne_nil full
      have dropped := Text.dropHead_eq_some_iff.mpr (rfl : h :: hs ++ other = h :: hs ++ other)
      rw [List.nil_append, List.cons_append, textUntil]
      rw [List.cons_append] at dropped
      rw [dropped]
  | cons c inner ih =>
      have absent : ∀ tail, Text.dropHead (c :: (inner ++ (stop ++ tail))) stop = none := by
        intro tail
        refine Option.eq_none_iff_forall_ne_some.mpr fun rest dropped => ?_
        -- if the stop began here it would not reach the tail, so it would have been found
        have inside : stop <+: c :: (inner ++ (stop ++ tail)) :=
          ⟨rest, (Text.dropHead_eq_some_iff.mp dropped).symm⟩
        have shorter : stop.length ≤ (c :: (inner ++ stop)).length := by
          simp only [List.length_cons, List.length_append]
          omega
        obtain ⟨others, begins⟩ : stop <+: c :: (inner ++ stop) :=
          List.prefix_of_prefix_length_le inside ⟨tail, by simp⟩ shorter
        have again := Text.dropHead_eq_some_iff.mpr
          (show c :: (inner ++ (stop ++ after)) = stop ++ (others ++ after) by
            rw [← List.append_assoc stop others, begins]
            simp)
        rw [List.cons_append, textUntil, again] at found
        cases found
      rw [List.cons_append, textUntil, absent] at found ⊢
      dsimp only at found ⊢
      split at found
      · cases found
      · next visible =>
          rw [if_neg visible]
          obtain ⟨⟨text, later⟩, within, same⟩ := Option.map_eq_some_iff.mp found
          cases same
          rw [ih within]
          rfl

/-- What is clean stands before the cut. -/
theorem Parted.of_append {short whole head left : List Char} (clean : '\x00' ∉ head)
    (parted : cut.Parted short whole) (begins : short = head ++ left) :
    ∃ leftToo, whole = head ++ leftToo ∧ cut.Parted left leftToo := by
  obtain ⟨leftToo, dropped, level⟩ :=
    parted.dropHead clean (Text.dropHead_eq_some_iff.mpr begins)
  exact ⟨leftToo, Text.dropHead_eq_some_iff.mp dropped, level⟩

theorem Parted.textUntil {stop short whole inner left : List Char} (clean : '\x00' ∉ stop)
    (full : stop ≠ []) (parted : cut.Parted short whole)
    (found : Markup.textUntil stop short = some (inner, left)) :
    ∃ leftToo, Markup.textUntil stop whole = some (inner, leftToo) ∧ cut.Parted left leftToo := by
  obtain ⟨same, visible⟩ := textUntil_eq found
  have both : '\x00' ∉ inner ++ stop := by
    rw [List.mem_append, not_or]
    exact ⟨visible, clean⟩
  obtain ⟨leftToo, sameToo, level⟩ := parted.of_append both (by rw [same, List.append_assoc])
  rw [List.append_assoc] at sameToo
  rw [same] at found
  exact ⟨leftToo, by rw [sameToo]; exact textUntil_congr full found leftToo, level⟩

theorem Spent.textUntil {stop short : List Char} (clean : '\x00' ∉ stop) (full : stop ≠ [])
    (none : cut.Spent short) : Markup.textUntil stop short = .none := by
  rcases none.cases with rfl | rfl
  · rfl
  · rw [Markup.textUntil, none.dropHead clean full]
    rfl

theorem through_run (stop : String) (before : List Char) :
    (through stop).run before =
      match textUntil stop.toList before with
      | some (text, rest) => .ok (text, rest)
      | none => .error .malformed := by
  unfold through
  change (match textUntil stop.toList before with
    | some (text, rest) => (do set rest; return text : Reading (List Char))
    | none => malformed).run before = _
  rcases textUntil stop.toList before with _ | ⟨text, rest⟩ <;> rfl

theorem firm_through {stop : String} (clean : '\x00' ∉ stop.toList) (full : stop.toList ≠ []) :
    cut.Firm (through stop) (through stop) where
  fault before fault failed := by
    rw [through_run] at failed
    split at failed
    · cases failed
    · cases failed
      rfl
  agree parted here there := by
    rw [through_run] at here there
    split at here
    · next text rest found =>
        cases here
        obtain ⟨leftToo, foundToo, level⟩ := parted.textUntil clean full found
        rw [foundToo] at there
        cases there
        exact .inl ⟨rfl, level⟩
    · cases here
  spent none here := by
    rw [through_run, none.textUntil clean full] at here
    cases here

theorem firm_commentRest : cut.Firm commentRest commentRest :=
  (firm_through (by decide) (by decide)).loose.firm fun _ => firm_expect (by decide) (by decide)

theorem firm_instructionRest : cut.Firm instructionRest instructionRest := by
  unfold instructionRest
  refine hungry_plainName.firm fun target => ?_
  split
  · exact firm_fails (fun _ => rfl) _
  · refine firm_lookingAt_pair (a := '?') (b := '>') rfl (by decide) (steady_pure _) ?_ ?_
    · refine tells_of_step
        (fun c => if isSpace c then (through "?>" >>= fun _ => pure ()) else malformed) rfl rfl
        (fun _ _ => rfl) fun c => ?_
      split
      · exact ((firm_through (by decide) (by decide)).followed fun _ => steady_pure _).toAgree
      · exact (firm_malformed _).agrees
    · intro rest left result none found
      cases found

theorem firm_numberRef (base : Nat) (digit? : Char → Option Nat) :
    cut.Firm (numberRef base digit?) (numberRef base digit?) := by
  let behind (digits : List Char) : Reading Ref := do
    expect ";"
    (ofNumber? base (digits.filterMap digit?)).elim malformed fun c => return .character c
  have parts : numberRef base digit? = (do
      let text ← get
      set (text.dropWhile fun c => (digit? c).isSome)
      behind (text.takeWhile fun c => (digit? c).isSome)) := by
    refine bind_congr fun text => bind_congr fun _ => bind_congr fun _ => ?_
    cases ofNumber? base ((text.takeWhile fun c => (digit? c).isSome).filterMap digit?) <;> rfl
  rw [parts]
  refine tells_span (fun c => (digit? c).isSome) behind (fun _ => id) fun digits => ?_
  refine (firm_expect (by decide) (by decide)).followed fun _ => ?_
  cases ofNumber? base (digits.filterMap digit?) with
  | some c => exact steady_pure _
  | none => exact (firm_malformed _).tells

theorem firm_refRest : cut.Firm refRest refRest := by
  unfold refRest
  refine firm_lookingAt_pair (a := '#') (b := 'x') rfl (by decide) (firm_numberRef _ _).tells ?_ ?_
  · refine firm_lookingAt (c := '#') rfl (by decide) (firm_numberRef _ _).tells ?_
    refine hungry_plainName.firm fun name => ?_
    exact (firm_expect (by decide) (by decide)).followed fun _ => steady_pure _
  · intro rest left result none found
    rcases none.cases with rfl | rfl <;> cases found

/-! ## Attribute values -/

/-- One item of a value, and what is left behind it. -/
def itemAt (c : Char) (rest : List Char) : Option (ValueItem × List Char) :=
  if c == '<' || c == '\x00' then none
  else if c == '&' then
    match refRest.run rest with
    | .ok (ref, after) => some (.reference ref, after)
    | .error _ => none
  else if c == '\r' then some (.blank, match rest with | '\n' :: after => after | _ => rest)
  else if isSpace c then some (.blank, rest)
  else some (.plain c, rest)

theorem readItems_cons (stop : Char → Bool) (budget : Nat) (c : Char) (rest : List Char) :
    readItems stop (budget + 1) (c :: rest) =
      if stop c then some ([], c :: rest)
      else (itemAt c rest).bind fun (item, behind) =>
        (readItems stop budget behind).map fun (items, after) => (item :: items, after) := by
  change (if stop c then _ else _) = _
  unfold itemAt
  split
  · rfl
  · split
    · rfl
    · split
      · cases refRest.run rest <;> rfl
      · split
        · rfl
        · split <;> rfl

theorem Parted.itemAt {c : Char} {short whole left leftToo : List Char} {item itemToo : ValueItem}
    (parted : cut.Parted short whole) (here : Cut.itemAt c short = some (item, left))
    (there : Cut.itemAt c whole = some (itemToo, leftToo)) :
    item = itemToo ∧ cut.Parted left leftToo ∨ cut.Spent left := by
  unfold Cut.itemAt at here there
  split at here
  · cases here
  · next visible =>
      rw [if_neg visible] at there
      split at here
      · next referring =>
          rw [if_pos referring] at there
          split at here
          · next ref after found =>
              split at there
              · next refToo afterToo foundToo =>
                  cases here
                  cases there
                  rcases firm_refRest.agree parted found foundToo with ⟨rfl, level⟩ | ⟨none, _⟩
                  · exact .inl ⟨rfl, level⟩
                  · exact none.elim
              · cases there
          · cases here
      · next other =>
          rw [if_neg other] at there
          split at here
          · next returned =>
              rw [if_pos returned] at there
              cases here
              cases there
              -- the line feed that belongs to a carriage return may lie behind the cut
              rcases parted.cases with none | ⟨d, rest, restToo, rfl, rfl, level⟩
              · right
                rcases none.cases with rfl | rfl <;> exact none
              · left
                by_cases feed : d = '\n'
                · subst feed
                  exact ⟨rfl, level⟩
                · refine ⟨rfl, ?_⟩
                  split
                  · next after same => exact absurd (List.cons_eq_cons.mp same).1 feed
                  · split
                    · next after same => exact absurd (List.cons_eq_cons.mp same).1 feed
                    · exact level.cons d
          · next written =>
              rw [if_neg written] at there
              left
              split at here
              · next blank =>
                  rw [if_pos blank] at there
                  cases here
                  cases there
                  exact ⟨rfl, parted⟩
              · next plain =>
                  rw [if_neg plain] at there
                  cases here
                  cases there
                  exact ⟨rfl, parted⟩

theorem Spent.readItems {stop : Char → Bool} (clean : stop '\x00' = false) {budget : Nat}
    {short left : List Char} {items : List ValueItem} {last : Char} (none : cut.Spent short) :
    Markup.readItems stop budget short ≠ some (items, last :: left) := by
  intro found
  cases budget with
  | zero => cases found
  | succ budget =>
      rcases none.cases with rfl | rfl
      · cases found
      · rw [readItems_cons, clean] at found
        cases found

theorem Parted.readItems {stop : Char → Bool} (clean : stop '\x00' = false)
    {budget budgetToo : Nat} {short whole left leftToo : List Char} {items itemsToo : List ValueItem}
    {last : Char} (parted : cut.Parted short whole)
    (here : Markup.readItems stop budget short = some (items, last :: left))
    (there : Markup.readItems stop budgetToo whole = some (itemsToo, leftToo)) :
    items = itemsToo ∧ ∃ after, leftToo = last :: after ∧ cut.Parted left after := by
  induction budget generalizing budgetToo short whole items itemsToo with
  | zero => cases here
  | succ budget ih =>
      rcases parted.cases with none | ⟨c, rest, restToo, rfl, rfl, level⟩
      · exact (none.readItems clean here).elim
      · cases budgetToo with
        | zero => cases there
        | succ budgetToo =>
            rw [readItems_cons] at here there
            split at here
            · next stops =>
                rw [if_pos stops] at there
                cases here
                cases there
                exact ⟨rfl, _, rfl, level⟩
            · next goes =>
                rw [if_neg goes] at there
                obtain ⟨⟨item, behind⟩, first, here⟩ := Option.bind_eq_some_iff.mp here
                obtain ⟨⟨itemToo, behindToo⟩, firstToo, there⟩ := Option.bind_eq_some_iff.mp there
                obtain ⟨⟨others, after⟩, read, same⟩ := Option.map_eq_some_iff.mp here
                obtain ⟨⟨othersToo, afterToo⟩, readToo, sameToo⟩ := Option.map_eq_some_iff.mp there
                cases same
                cases sameToo
                rcases level.itemAt first firstToo with ⟨rfl, deeper⟩ | none
                · obtain ⟨rfl, ends⟩ := ih deeper read readToo
                  exact ⟨rfl, ends⟩
                · exact (none.readItems clean read).elim

theorem quotedItems_run (budget : Nat) (mark : Char) (rest : List Char) :
    (quotedItems budget).run (mark :: rest) =
      if mark == '"' || mark == '\'' then
        match readItems (· == mark) budget rest with
        | some (items, _ :: after) => .ok (items, after)
        | _ => .error .malformed
      else .error .malformed := by
  change (if mark == '"' || mark == '\'' then
      match readItems (· == mark) budget rest with
      | some (items, _ :: after) => (do set after; return items : Reading (List ValueItem))
      | _ => malformed
    else malformed).run (mark :: rest) = _
  split
  · split <;> rfl
  · rfl

theorem firm_quotedItems (budget budgetToo : Nat) :
    cut.Firm (quotedItems budget) (quotedItems budgetToo) := by
  refine tells_of_behind rfl rfl fun mark => ⟨?_, ?_⟩
  · intro rest fault failed
    change (quotedItems budget).run (mark :: rest) = _ at failed
    rw [quotedItems_run] at failed
    split at failed
    · split at failed <;> cases failed
      rfl
    · cases failed
      rfl
  · intro short whole left leftToo found other parted here there
    change (quotedItems budget).run (mark :: short) = _ at here
    change (quotedItems budgetToo).run (mark :: whole) = _ at there
    rw [quotedItems_run] at here there
    split at here
    · next quoted =>
        rw [if_pos quoted] at there
        have clean : ('\x00' == mark) = false := by
          rcases Bool.or_eq_true_iff.mp quoted with same | same <;> rw [beq_iff_eq.mp same] <;> rfl
        split at here
        · next items last after read =>
            cases here
            split at there
            · next itemsToo lastToo afterToo readToo =>
                cases there
                obtain ⟨rfl, ends, same, level⟩ := parted.readItems clean read readToo
                cases same
                exact .inl ⟨rfl, level⟩
            · cases there
        · cases here
    · cases here

end SchemaSharp.Markup.Cut
