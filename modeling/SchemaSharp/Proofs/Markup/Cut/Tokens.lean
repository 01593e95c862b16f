import Mathlib.Logic.Basic
import SchemaSharp.Proofs.Markup.Cut.Lexemes
import SchemaSharp.Markup.Doctype

/-!
The tokens of a document type in a text that is cut off. A token that ends where another character
begins may end where the text does; all others are found in both texts or missed in the short one.
-/

namespace SchemaSharp.Markup

/-- The token ends where something else begins. -/
def Token.isOpen : Token → Bool
  | .name _ => true
  | .nameToken => true
  | .hash _ => true
  | .literal _ => true
  | .closeGroup => true
  | _ => false

namespace Cut

variable {cut : Cut}

theorem followedBy_run (marks : String) (text : List Char) :
    (followedBy marks).run text =
      if text.head?.all fun c => isSpace c || marks.toList.contains c then .ok ((), text)
      else .error .malformed := by
  cases text with
  | nil => rfl
  | cons c rest =>
      change (if isSpace c || marks.toList.contains c then pure () else malformed : Reading Unit).run
        (c :: rest) = if isSpace c || marks.toList.contains c then _ else _
      split <;> rfl

theorem loose_followedBy (marks : String) : cut.Loose (followedBy marks) (followedBy marks) :=
  tells_of_check () _ (followedBy_run marks) (fun _ _ _ => trivial)

theorem tells_literalToken {mark : Char} (visible : mark ≠ '\x00') :
    cut.Tells (·.isOpen) (fun _ => False) (literalToken mark) (literalToken mark) := by
  have single : (String.singleton mark).toList = [mark] := by simp
  unfold literalToken
  refine (firm_through (by simpa [single] using visible.symm) (by simp [single])).bind
    (fun text => (loose_followedBy _).returning rfl) ?_ ?_
  · exact fun _ _ none _ => none.elim
  · exact fun _ _ none _ => none

theorem firm_percentToken : cut.Firm percentToken percentToken := by
  refine tells_of_step
    (fun c => if isSpace c || c == '%' then pure .percent
      else plainName >>= fun _ => expect ";" >>= fun _ => pure .parameterRef) rfl rfl
    (fun _ _ => rfl) fun c => ?_
  split
  · exact (steady_pure _).toAgree
  · refine (hungry_plainName.firm fun _ => ?_).toAgree
    exact (firm_expect (by decide) (by decide)).followed fun _ => steady_pure _

/-- What may stand behind the keyword of a declaration. -/
def followsKeyword : List Char → Bool
  | '%' :: next :: _ => !(isSpace next || next == '%')
  | c :: _ => isSpace c
  | [] => false

theorem firm_declarationEnd (keyword : List Char) :
    cut.Firm (declarationEnd keyword) (declarationEnd keyword) := by
  refine tells_of_check (.declaration (String.ofList keyword))
    (fun text => !keyword.isEmpty && followsKeyword text) ?_ ?_
  · intro text
    unfold declarationEnd
    cases keyword.isEmpty
    · simp only [StateT.run_bind, StateT.run_get, pure_bind, Bool.not_false, Bool.true_and,
        Bool.false_eq_true, if_false]
      split
      · next follower _ =>
          rw [followsKeyword]
          cases isSpace follower || follower == '%' <;> rfl
      · next c _ other =>
          rw [followsKeyword]
          · cases isSpace c <;> rfl
          · exact other
      · rfl
    · rfl
  · intro text none passed
    rcases none.cases with rfl | rfl <;> simp [followsKeyword] at passed
    cases passed.2

theorem firm_declarationToken : cut.Firm declarationToken declarationToken := by
  unfold declarationToken
  refine firm_lookingAt (c := '-') rfl (by decide) (Firm.tells ?_) ?_
  · refine (firm_expect (by decide) (by decide)).loose.firm fun _ => ?_
    exact firm_commentRest.followed fun _ => steady_pure _
  · exact tells_span startsName _ (fun _ => id) firm_declarationEnd

theorem groupEndToken_run (mark : Char) (rest : List Char) :
    groupEndToken.run (mark :: rest) =
      if isCountMark mark then .ok (.countedGroup mark, rest)
      else (followedBy ">,|)" >>= fun _ => pure Token.closeGroup).run (mark :: rest) := by
  change (if isCountMark mark then (do set rest; return .countedGroup mark : Reading Token)
    else (followedBy ">,|)" >>= fun _ => pure Token.closeGroup)).run (mark :: rest) = _
  split <;> rfl

theorem tells_groupEndToken :
    cut.Tells (·.isOpen) (·.isOpen) groupEndToken groupEndToken := by
  have plain : cut.Tells (·.isOpen) (·.isOpen)
      (followedBy ">,|)" >>= fun _ => pure Token.closeGroup)
      (followedBy ">,|)" >>= fun _ => pure Token.closeGroup) := (loose_followedBy _).returning rfl
  refine tells_of_heads (fun _ => id) (fun _ failed => nomatch failed) ?_ fun mark => ?_
  · intro short left found none here
    rcases none.cases with rfl | rfl <;> cases here
    exact ⟨rfl, none⟩
  · by_cases counts : isCountMark mark
    · have same : behind mark groupEndToken = pure (.countedGroup mark) := by
        funext rest
        exact (groupEndToken_run mark rest).trans (if_pos counts)
      rw [same]
      exact agree_pure _
    · have same : behind mark groupEndToken =
          behind mark (followedBy ">,|)" >>= fun _ => pure Token.closeGroup) := by
        funext rest
        exact (groupEndToken_run mark rest).trans (if_neg counts)
      rw [same]
      exact plain.behind mark

/-- The rest of a word that no mark of a count follows. -/
def plainEnd (single? : Option RawName) : Reading Token := do
  followedBy afterName
  return match single? with
    | some raw => .name raw
    | none => .nameToken

theorem tells_plainEnd (single? : Option RawName) :
    cut.Tells (·.isOpen) (·.isOpen) (plainEnd single?) (plainEnd single?) := by
  refine (loose_followedBy _).returning ?_
  cases single? <;> rfl

theorem wordEnd_run (single? : Option RawName) (mark : Char) (rest : List Char) :
    (wordEnd single?).run (mark :: rest) =
      if isCountMark mark then
        if single?.isSome then .ok (.countedName, rest) else .error .malformed
      else (plainEnd single?).run (mark :: rest) := by
  cases single? with
  | none =>
      change (if isCountMark mark then malformed >>= fun _ => plainEnd none else plainEnd none).run
        (mark :: rest) = _
      cases isCountMark mark <;> rfl
  | some raw =>
      change (if isCountMark mark then (do set rest; return .countedName : Reading Token)
        else plainEnd (some raw)).run (mark :: rest) = _
      cases isCountMark mark <;> rfl

theorem tells_wordEnd (single? : Option RawName) :
    cut.Tells (·.isOpen) (·.isOpen) (wordEnd single?) (wordEnd single?) := by
  have plain : cut.Tells (·.isOpen) (·.isOpen) (plainEnd single?) (plainEnd single?) :=
    tells_plainEnd single?
  have ended : (wordEnd single?).run [] = (plainEnd single?).run [] := by cases single? <;> rfl
  refine tells_of_heads (fun _ => id) ?_ ?_ fun mark => ?_
  · rw [ended]
    exact plain.fault []
  · intro short left found none here
    rcases none.cases with rfl | rfl
    · rw [ended] at here
      exact plain.spent none here
    · rw [wordEnd_run, if_neg (by decide)] at here
      exact plain.spent none here
  · by_cases counts : isCountMark mark
    · have read (rest : List Char) : (behind mark (wordEnd single?)).run rest =
          (if single?.isSome then pure .countedName else malformed).run rest := by
        refine (wordEnd_run single? mark rest).trans ((if_pos counts).trans ?_)
        split <;> rfl
      have same : behind mark (wordEnd single?) =
          if single?.isSome then pure .countedName else malformed := funext read
      rw [same]
      split
      · exact agree_pure _
      · exact (firm_malformed _).agrees
    · have same : behind mark (wordEnd single?) = behind mark (plainEnd single?) := by
        funext rest
        exact (wordEnd_run single? mark rest).trans (if_neg counts)
      rw [same]
      exact plain.behind mark

theorem tells_wordToken : cut.Tells (·.isOpen) (·.isOpen) wordToken wordToken :=
  tells_span (fun c => continuesName c || c == ':') _ (fun _ => id) fun word =>
    tells_wordEnd (nameOf? word)

/-! ## The next token -/

/-- What goes on behind a character that begins a token by itself. -/
def goesOn? : Char → Option (Reading Token)
  | '"' => some (literalToken '"')
  | '\'' => some (literalToken '\'')
  | '%' => some percentToken
  | ',' => some (pure .comma)
  | '[' => some (pure .openBracket)
  | '(' => some (pure .openGroup)
  | ')' => some groupEndToken
  | '|' => some (pure .bar)
  | '>' => some (pure .close)
  | '#' => some do
      let name ← plainName
      followedBy ">)%|"
      return .hash (String.ofList name)
  | _ => none

theorem tells_goesOn {c : Char} {reader : Reading Token} (going : goesOn? c = some reader) :
    cut.Tells (·.isOpen) (fun _ => True) reader reader := by
  unfold goesOn? at going
  split at going <;> cases going
  · exact (tells_literalToken (by decide)).weaken (fun _ => id) (fun _ => False.elim)
  · exact (tells_literalToken (by decide)).weaken (fun _ => id) (fun _ => False.elim)
  · exact firm_percentToken.tells
  · exact tells_pure trivial
  · exact tells_pure trivial
  · exact tells_pure trivial
  · exact tells_groupEndToken.weaken (fun _ => id) (fun _ _ => trivial)
  · exact tells_pure trivial
  · exact tells_pure trivial
  · exact hungry_plainName.bind (fun name => (loose_followedBy _).returning rfl) (fun _ _ _ => id)
      (fun _ _ none _ => none.elim)

theorem tokenHere_goesOn {c : Char} {reader : Reading Token} (going : goesOn? c = some reader)
    (rest : List Char) : tokenHere.run (c :: rest) = reader.run rest := by
  unfold goesOn? at going
  split at going <;> cases going <;> rfl

theorem tokenHere_word {c : Char} (plain : goesOn? c = none) (tag : c ≠ '<') (bracket : c ≠ ']')
    (rest : List Char) :
    tokenHere.run (c :: rest) =
      (if continuesName c || c == ':' then wordToken else malformed).run (c :: rest) := by
  unfold tokenHere
  rw [StateT.run_bind, StateT.run_get, pure_bind]
  dsimp only
  split
  -- all but the last case begin with a character that was excluded
  all_goals
    next same =>
      cases same <;> first
        | exact absurd rfl tag
        | exact absurd rfl bracket
        | cases plain
        | rfl

theorem tokenHere_bracket (rest : List Char) :
    tokenHere.run (']' :: rest) = .error .malformed ∨
      tokenHere.run (']' :: rest) = .ok (.closeBracket, rest) := by
  by_cases ends : ∃ behind, rest = ']' :: '>' :: behind
  · obtain ⟨behind, rfl⟩ := ends
    exact .inl rfl
  · right
    have single : ∀ behind, rest ≠ ']' :: '>' :: behind := fun behind same => ends ⟨behind, same⟩
    unfold tokenHere
    rw [StateT.run_bind, StateT.run_get, pure_bind]
    simp only
    rfl

theorem tokenHere_tag {c : Char} (declaration : c ≠ '!') (instruction : c ≠ '?')
    (rest : List Char) :
    tokenHere.run ('<' :: c :: rest) =
      if startsName c then .ok (.startTag, '<' :: c :: rest) else .error .malformed := by
  unfold tokenHere
  rw [StateT.run_bind, StateT.run_get, pure_bind]
  simp only
  split <;> rfl

theorem firm_angled : cut.Firm (behind '<' tokenHere) (behind '<' tokenHere) := by
  refine tells_of_behind rfl rfl fun c => ?_
  rcases eq_or_ne c '!' with rfl | declaration
  · exact (firm_declarationToken : cut.Firm declarationToken declarationToken).toAgree
  · rcases eq_or_ne c '?' with rfl | instruction
    · have instructed : cut.Firm (instructionRest >>= fun _ => pure Token.instruction)
          (instructionRest >>= fun _ => pure Token.instruction) :=
        firm_instructionRest.followed fun _ => steady_pure _
      exact instructed.toAgree
    · constructor
      · intro rest fault failed
        have same := (tokenHere_tag declaration instruction rest).symm.trans failed
        split at same <;> cases same
        rfl
      · intro short whole left leftToo found other parted here there
        have same := (tokenHere_tag declaration instruction short).symm.trans here
        have sameToo := (tokenHere_tag declaration instruction whole).symm.trans there
        split at same
        · next starts =>
            rw [if_pos starts] at sameToo
            cases same
            cases sameToo
            exact .inl ⟨rfl, (parted.cons c).cons '<'⟩
        · cases same

theorem tells_tokenHere : cut.Tells (·.isOpen) (fun _ => False) tokenHere tokenHere := by
  refine tells_of_behind rfl rfl fun c => ?_
  cases going : goesOn? c with
  | some reader =>
      have same : behind c tokenHere = reader := funext (tokenHere_goesOn going)
      rw [same]
      exact (tells_goesOn going).toAgree
  | none =>
      rcases eq_or_ne c '<' with rfl | tag
      · exact firm_angled.agrees
      · rcases eq_or_ne c ']' with rfl | bracket
        · exact (agree_pure Token.closeBracket).refusing tokenHere_bracket tokenHere_bracket
        · have same : behind c tokenHere =
              behind c (if continuesName c || c == ':' then wordToken else malformed) :=
            funext (tokenHere_word going tag bracket)
          rw [same]
          refine Agree.behind ?_ c
          split
          · exact tells_wordToken.toAgree
          · exact (firm_malformed _).agrees

theorem tells_token : cut.Tells (·.isOpen) (fun _ => False) token token :=
  loose_skipSpaces.bind (fun _ => tells_tokenHere) (fun _ _ _ => False.elim)
    (fun _ _ _ => False.elim)

theorem hungry_token : cut.Hungry token token :=
  tells_token.weaken (fun _ _ => trivial) (fun _ => id)

/-- What is read behind a token must have an end of its own where the token has none. -/
theorem firm_token {β : Type} {next nextToo : Token → Reading β}
    (following : ∀ token,
      cut.Tells (fun _ => False) (fun _ => token.isOpen = false) (next token) (nextToo token)) :
    cut.Firm (token >>= next) (token >>= nextToo) := by
  refine tells_token.bind following ?_ (fun _ _ none _ => none)
  intro token _ opened closed
  exact Bool.noConfusion (opened.symm.trans closed)

end Cut

end SchemaSharp.Markup
