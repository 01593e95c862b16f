import SchemaSharp.Proofs.Result
import SchemaSharp.Proofs.Text.Pieces
import SchemaSharp.Markup.Lexeme

/-!
Markup that is cut off. A text that was cut is read beside the whole one, from the same place on. As
long as something is left before the cut, both readers find the same; then there is nothing to find,
or a null that marks half a character. So what needs its own end is found alike in both, or not at
all. Besides, markup fails in two ways only.
-/

namespace SchemaSharp.Markup

/-- The markup is at fault, and not the name of a character set. -/
def Fault.isMarkup : Fault → Bool
  | .malformed => true
  | .entityDeclared _ _ _ => true
  | _ => false

/-- What stands at the end of a text that is cut off, and what the whole one goes on with. -/
structure Cut where
  rear : List Char
  rest : List Char
  mark : rear = [] ∨ rear = ['\x00']

namespace Cut

variable {cut : Cut}

/-- A text up to the cut, and the whole of it. -/
def Parted (cut : Cut) (short whole : List Char) : Prop :=
  ∃ common, short = common ++ cut.rear ∧ whole = common ++ cut.rest

/-- Nothing is left before the cut. -/
def Spent (cut : Cut) (text : List Char) : Prop := text <:+ cut.rear

theorem Spent.cases {text : List Char} (spent : cut.Spent text) : text = [] ∨ text = ['\x00'] := by
  unfold Spent at spent
  rcases cut.mark with none | null
  · rw [none] at spent
    exact .inl (List.eq_nil_of_suffix_nil spent)
  · rw [null] at spent
    rcases List.suffix_cons_iff.mp spent with same | none
    · exact .inr same
    · exact .inl (List.eq_nil_of_suffix_nil none)

theorem Spent.nil : cut.Spent [] := List.nil_suffix

theorem Spent.rear : cut.Spent cut.rear := List.suffix_refl _

theorem Parted.cases {short whole : List Char} (parted : cut.Parted short whole) :
    cut.Spent short ∨
      ∃ c text textToo, short = c :: text ∧ whole = c :: textToo ∧ cut.Parted text textToo := by
  obtain ⟨common, rfl, rfl⟩ := parted
  cases common with
  | nil => exact .inl Spent.rear
  | cons c common => exact .inr ⟨c, _, _, rfl, rfl, common, rfl, rfl⟩

theorem Parted.cons (c : Char) {short whole : List Char} (parted : cut.Parted short whole) :
    cut.Parted (c :: short) (c :: whole) := by
  obtain ⟨common, rfl, rfl⟩ := parted
  exact ⟨c :: common, rfl, rfl⟩

/-! ## Readers -/

variable {α β : Type}

/-- Two readers, the one for the short text and the other for the whole one. Only `free` results may
differ, and nothing is left of the short text then. -/
structure Agree (cut : Cut) (free : α → Prop) (first second : Reading α) : Prop where
  fault : ∀ text fault, first.run text = .error fault → fault.isMarkup
  agree : ∀ {short whole left leftToo : List Char} {found other : α}, cut.Parted short whole →
    first.run short = .ok (found, left) → second.run whole = .ok (other, leftToo) →
      found = other ∧ cut.Parted left leftToo ∨ free found ∧ cut.Spent left

/-- Besides, only `idle` results are found where nothing is left. -/
structure Tells (cut : Cut) (free idle : α → Prop) (first second : Reading α) : Prop
    extends cut.Agree free first second where
  spent : ∀ {short left : List Char} {found : α}, cut.Spent short →
    first.run short = .ok (found, left) → idle found ∧ cut.Spent left

/-- Both find the same, and nothing where nothing is left. -/
def Firm (cut : Cut) (first second : Reading α) : Prop :=
  cut.Tells (fun _ => False) (fun _ => False) first second

/-- Both find the same. -/
def Steady (cut : Cut) (first second : Reading α) : Prop :=
  cut.Tells (fun _ => False) (fun _ => True) first second

/-- Both find the same unless the short text ends there, and nothing where nothing is left. -/
def Hungry (cut : Cut) (first second : Reading α) : Prop :=
  cut.Tells (fun _ => True) (fun _ => False) first second

/-- Both find the same unless the short text ends there. -/
def Loose (cut : Cut) (first second : Reading α) : Prop :=
  cut.Tells (fun _ => True) (fun _ => True) first second

section Combining

variable {first second : Reading α} {next nextToo : α → Reading β} {free idle wider wide : α → Prop}

theorem Tells.weaken (tells : cut.Tells free idle first second)
    (looser : ∀ found, free found → wider found) (idler : ∀ found, idle found → wide found) :
    cut.Tells wider wide first second where
  fault := tells.fault
  agree parted here there :=
    (tells.agree parted here there).imp_right fun ⟨open_, spent⟩ => ⟨looser _ open_, spent⟩
  spent none here := (tells.spent none here).imp_left (idler _)

theorem Tells.loose (tells : cut.Tells free idle first second) : cut.Loose first second :=
  tells.weaken (fun _ _ => trivial) (fun _ _ => trivial)

theorem Firm.tells (firm : cut.Firm first second) : cut.Tells free idle first second :=
  firm.weaken (fun _ => False.elim) (fun _ => False.elim)

theorem Firm.agrees (firm : cut.Firm first second) : cut.Agree free first second where
  fault := firm.fault
  agree parted here there :=
    (firm.agree parted here there).imp_right fun found => found.1.elim

theorem Tells.bind {freeToo idleToo : β → Prop} {each : α → β → Prop}
    (tells : cut.Tells free idle first second)
    (following : ∀ found, cut.Tells freeToo (each found) (next found) (nextToo found))
    (carried : ∀ found result, free found → each found result → freeToo result)
    (idling : ∀ found result, idle found → each found result → idleToo result) :
    cut.Tells freeToo idleToo (first >>= next) (second >>= nextToo) where
  fault text fault failed := by
    rw [StateT.run_bind] at failed
    cases here : first.run text with
    | error other =>
        rw [here] at failed
        cases failed
        exact tells.fault text _ here
    | ok middle =>
        rw [here] at failed
        exact (following middle.1).fault middle.2 fault failed
  agree {short whole left leftToo found other} parted here there := by
    rw [StateT.run_bind] at here there
    obtain ⟨⟨middle, between⟩, begun, here⟩ := ok_of_bind here
    obtain ⟨⟨middleToo, betweenToo⟩, begunToo, there⟩ := ok_of_bind there
    rcases tells.agree parted begun begunToo with ⟨rfl, level⟩ | ⟨open_, none⟩
    · exact (following middle).agree level here there
    · obtain ⟨found, none⟩ := (following middle).spent none here
      exact .inr ⟨carried _ _ open_ found, none⟩
  spent none here := by
    rw [StateT.run_bind] at here
    obtain ⟨⟨middle, between⟩, begun, here⟩ := ok_of_bind here
    obtain ⟨idle, none⟩ := tells.spent none begun
    obtain ⟨found, none⟩ := (following middle).spent none here
    exact ⟨idling _ _ idle found, none⟩

/-- What ends firmly is firm, whatever stands before. -/
theorem Tells.firm (tells : cut.Tells free idle first second)
    (following : ∀ found, cut.Firm (next found) (nextToo found)) :
    cut.Firm (first >>= next) (second >>= nextToo) :=
  tells.bind following (fun _ _ _ => False.elim) (fun _ _ _ => False.elim)

theorem Firm.followed (firm : cut.Firm first second)
    (following : ∀ found, cut.Steady (next found) (nextToo found)) :
    cut.Firm (first >>= next) (second >>= nextToo) :=
  firm.bind following (fun _ _ none _ => none.elim) (fun _ _ none _ => none.elim)

theorem Steady.followed (steady : cut.Steady first second)
    (following : ∀ found, cut.Steady (next found) (nextToo found)) :
    cut.Steady (first >>= next) (second >>= nextToo) :=
  steady.bind following (fun _ _ none _ => none.elim) (fun _ _ _ _ => trivial)

theorem Tells.hungry (tells : cut.Tells free idle first second)
    (following : ∀ found, cut.Hungry (next found) (nextToo found)) :
    cut.Hungry (first >>= next) (second >>= nextToo) :=
  tells.bind following (fun _ _ _ _ => trivial) (fun _ _ _ => id)

theorem Hungry.followed (hungry : cut.Hungry first second)
    (following : ∀ found, cut.Loose (next found) (nextToo found)) :
    cut.Hungry (first >>= next) (second >>= nextToo) :=
  hungry.bind following (fun _ _ _ _ => trivial) (fun _ _ none _ => none.elim)

theorem Loose.followed (passes : cut.Loose first second)
    (following : ∀ found, cut.Loose (next found) (nextToo found)) :
    cut.Loose (first >>= next) (second >>= nextToo) :=
  passes.bind following (fun _ _ _ _ => trivial) (fun _ _ _ _ => trivial)

theorem agree_pure (value : α) : cut.Agree free (pure value) (pure value) where
  fault text fault failed := by cases failed
  agree parted here there := by
    cases here
    cases there
    exact .inl ⟨rfl, parted⟩

theorem tells_pure {value : α} (allowed : idle value) :
    cut.Tells free idle (pure value) (pure value) where
  toAgree := agree_pure value
  spent none here := by
    cases here
    exact ⟨allowed, none⟩

theorem steady_pure (value : α) : cut.Steady (pure value) (pure value) := tells_pure trivial

theorem firm_fails (fails : ∀ text, first.run text = .error .malformed) (second : Reading α) :
    cut.Firm first second where
  fault text fault failed := by
    rw [fails] at failed
    cases failed
    rfl
  agree _ here := by
    rw [fails] at here
    cases here
  spent _ here := by
    rw [fails] at here
    cases here

theorem firm_malformed (second : Reading α) : cut.Firm malformed second :=
  firm_fails (fun _ => rfl) second

/-- A reader that finds nothing anywhere contradicts no other. -/
theorem Tells.vain {third : Reading α} (tells : cut.Tells free idle first second)
    (fails : ∀ text, third.run text = .error .malformed) : cut.Tells free idle first third where
  fault := tells.fault
  agree _ _ there := by
    rw [fails] at there
    cases there
  spent := tells.spent

/-- What is found without looking at the text any further. -/
theorem Loose.returning {allowed : β → Prop} {value : β} (passes : cut.Loose first second)
    (holds : allowed value) :
    cut.Tells allowed allowed (first >>= fun _ => pure value) (second >>= fun _ => pure value) :=
  passes.bind (fun _ => tells_pure holds) (fun _ _ _ => id) (fun _ _ _ => id)

/-- The text may be measured. -/
theorem tells_get {next nextToo : List Char → Reading α}
    (following : ∀ text textToo, cut.Tells free idle (next text) (nextToo textToo)) :
    cut.Tells free idle (get >>= next) (get >>= nextToo) where
  fault text := (following text text).fault text
  agree {short whole _ _ _ _} := (following short whole).agree
  spent {short _ _} := (following short short).spent

/-- Readers that only refuse more than others. -/
theorem Agree.refusing {third fourth : Reading α} (agree : cut.Agree free first second)
    (here : ∀ text, third.run text = .error .malformed ∨ third.run text = first.run text)
    (there : ∀ text, fourth.run text = .error .malformed ∨ fourth.run text = second.run text) :
    cut.Agree free third fourth where
  fault text fault failed := by
    rcases here text with goes | goes
    · cases goes.symm.trans failed
      rfl
    · exact agree.fault text fault (goes.symm.trans failed)
  agree {short whole _ _ _ _} parted found foundToo := by
    rcases here short with goes | goes
    · cases goes.symm.trans found
    · rcases there whole with goesToo | goesToo
      · cases goesToo.symm.trans foundToo
      · exact agree.agree parted (goes.symm.trans found) (goesToo.symm.trans foundToo)

/-- What a reader does with a text behind its first character. -/
def behind (c : Char) (reader : Reading α) : Reading α := fun rest => reader (c :: rest)

theorem Agree.behind (agree : cut.Agree free first second) (c : Char) :
    cut.Agree free (behind c first) (behind c second) where
  fault text := agree.fault (c :: text)
  agree parted := agree.agree (parted.cons c)

/-- A reader that chooses by the first character. -/
theorem tells_of_heads (idler : ∀ found, idle found → free found)
    (empty : ∀ fault, first.run [] = .error fault → fault.isMarkup)
    (spent : ∀ {short left : List Char} {found : α}, cut.Spent short →
      first.run short = .ok (found, left) → idle found ∧ cut.Spent left)
    (each : ∀ c, cut.Agree free (behind c first) (behind c second)) :
    cut.Tells free idle first second where
  fault
    | [], fault, failed => empty fault failed
    | c :: rest, fault, failed => (each c).fault rest fault failed
  agree parted here there := by
    rcases parted.cases with none | ⟨c, text, textToo, rfl, rfl, level⟩
    · exact .inr ((spent none here).imp_left (idler _))
    · exact (each c).agree level here there
  spent := spent

/-- A reader that chooses by the first character, and that needs one. -/
theorem tells_of_behind (empty : first.run [] = .error .malformed)
    (null : first.run ['\x00'] = .error .malformed)
    (each : ∀ c, cut.Agree free (behind c first) (behind c second)) :
    cut.Tells free idle first second where
  fault
    | [], fault, failed => by
        rw [empty] at failed
        cases failed
        rfl
    | c :: rest, fault, failed => (each c).fault rest fault failed
  agree parted here there := by
    rcases parted.cases with none | ⟨c, text, textToo, rfl, rfl, level⟩
    · rcases none.cases with rfl | rfl
      · rw [empty] at here
        cases here
      · rw [null] at here
        cases here
    · exact (each c).agree level here there
  spent none here := by
    rcases none.cases with rfl | rfl
    · rw [empty] at here
      cases here
    · rw [null] at here
      cases here

/-- The character that is chosen by may stay where it is. -/
theorem tells_of_step (step : Char → Reading α) (empty : first.run [] = .error .malformed)
    (null : first.run ['\x00'] = .error .malformed)
    (goes : ∀ c rest, first.run (c :: rest) = (step c).run (c :: rest))
    (each : ∀ c, cut.Agree free (step c) (step c)) : cut.Tells free idle first first := by
  refine tells_of_behind empty null fun c => ?_
  have same : behind c first = behind c (step c) := funext (goes c)
  rw [same]
  exact (each c).behind c

/-- A reader that only checks what comes next. -/
theorem tells_of_check (value : α) (check : List Char → Bool)
    (goes : ∀ text, first.run text = if check text then .ok (value, text) else .error .malformed)
    (idles : ∀ text, cut.Spent text → check text → idle value) :
    cut.Tells free idle first first where
  fault text fault failed := by
    rw [goes] at failed
    split at failed <;> cases failed
    rfl
  agree parted here there := by
    rw [goes] at here there
    split at here <;> cases here
    split at there <;> cases there
    exact .inl ⟨rfl, parted⟩
  spent none here := by
    rw [goes] at here
    split at here
    · next passed =>
        cases here
        exact ⟨idles _ none passed, none⟩
    · cases here

/-- The recursion of readers that count. A budget that is spent finds nothing; so what one step
keeps is kept with any two budgets. -/
theorem tells_of_budgets {ι : Type} (reader : ι → Nat → Reading α)
    (nothing : ∀ i text, (reader i 0).run text = .error .malformed)
    (step : ∀ i budget,
      (∀ j budgetToo, cut.Tells free idle (reader j budget) (reader j budgetToo)) →
        ∀ budgetToo, cut.Tells free idle (reader i (budget + 1)) (reader i (budgetToo + 1)))
    (i : ι) (budget budgetToo : Nat) :
    cut.Tells free idle (reader i budget) (reader i budgetToo) := by
  induction budget generalizing i budgetToo with
  | zero => exact (firm_fails (nothing i) _).tells
  | succ budget ih =>
      cases budgetToo with
      | zero => exact (step i budget ih 0).vain (nothing i)
      | succ budgetToo => exact step i budget ih budgetToo

end Combining

/-! ## Characters -/

section Characters

variable {short whole left : List Char} {head : List Char}

theorem Parted.span (parted : cut.Parted short whole) (test : Char → Bool) :
    short.takeWhile test = whole.takeWhile test ∧
        cut.Parted (short.dropWhile test) (whole.dropWhile test) ∨
      cut.Spent (short.dropWhile test) := by
  obtain ⟨common, rfl, rfl⟩ := parted
  induction common with
  | nil => exact .inr (List.dropWhile_suffix _)
  | cons c common ih =>
      by_cases passed : test c
      · simpa [passed] using ih
      · left
        simp only [List.cons_append, List.takeWhile_cons_of_neg passed,
          List.dropWhile_cons_of_neg passed, true_and]
        exact ⟨c :: common, rfl, rfl⟩

theorem Spent.dropWhile (spent : cut.Spent short) (test : Char → Bool) :
    cut.Spent (short.dropWhile test) :=
  (List.dropWhile_suffix _).trans spent

theorem Parted.dropHead (clean : '\x00' ∉ head) (parted : cut.Parted short whole)
    (dropped : Text.dropHead short head = some left) :
    ∃ leftToo, Text.dropHead whole head = some leftToo ∧ cut.Parted left leftToo := by
  induction head generalizing short whole with
  | nil =>
      rw [Text.dropHead] at dropped ⊢
      cases dropped
      exact ⟨whole, rfl, parted⟩
  | cons h hs ih =>
      rcases parted.cases with none | ⟨c, text, textToo, rfl, rfl, level⟩
      · rcases none.cases with rfl | rfl
        · cases dropped
        · rw [Text.dropHead, if_neg (by simpa using List.ne_of_not_mem_cons clean |>.symm)] at dropped
          cases dropped
      · rw [Text.dropHead] at dropped ⊢
        split at dropped
        · next same =>
            rw [if_pos same]
            exact ih (List.not_mem_of_not_mem_cons clean) level dropped
        · cases dropped

/-- A text that begins the whole one begins the short one too, or the short one ends in it. -/
theorem Parted.begun {rest : List Char} (parted : cut.Parted short (head ++ rest)) :
    (∃ shortRest, short = head ++ shortRest ∧ cut.Parted shortRest rest) ∨
      ∃ n < head.length, ∃ rear, cut.Spent rear ∧ short = head.take n ++ rear := by
  induction head generalizing short with
  | nil => exact .inl ⟨short, rfl, parted⟩
  | cons h head ih =>
      rcases parted.cases with none | ⟨c, text, textToo, rfl, same, level⟩
      · exact .inr ⟨0, Nat.succ_pos _, short, none, rfl⟩
      · cases same
        rcases ih level with ⟨shortRest, rfl, rest⟩ | ⟨n, fewer, rear, none, rfl⟩
        · exact .inl ⟨shortRest, rfl, rest⟩
        · exact .inr ⟨n + 1, Nat.succ_lt_succ fewer, rear, none, rfl⟩

theorem Spent.dropHead (clean : '\x00' ∉ head) (full : head ≠ []) (spent : cut.Spent short) :
    Text.dropHead short head = none := by
  obtain ⟨h, hs, rfl⟩ := List.exists_cons_of_ne_nil full
  rcases spent.cases with rfl | rfl
  · rfl
  · rw [Text.dropHead, if_neg (by simpa using List.ne_of_not_mem_cons clean |>.symm)]

theorem loose_skipSpaces : cut.Loose skipSpaces skipSpaces where
  fault text fault failed := by cases failed
  agree parted here there := by
    cases here
    cases there
    exact (parted.span isSpace).imp (fun level => ⟨rfl, level.2⟩) (fun none => ⟨trivial, none⟩)
  spent none here := by
    cases here
    exact ⟨trivial, none.dropWhile isSpace⟩

/-- A run of characters is the same up to the cut, or nothing is left behind it. -/
theorem tells_span (test : Char → Bool) {α : Type} {free idle : α → Prop}
    (next : List Char → Reading α)
    (idler : ∀ found, idle found → free found)
    (following : ∀ word, cut.Tells free idle (next word) (next word)) :
    cut.Tells free idle
      (get >>= fun text => set (text.dropWhile test) >>= fun _ => next (text.takeWhile test))
      (get >>= fun text => set (text.dropWhile test) >>= fun _ => next (text.takeWhile test)) where
  fault text := (following (text.takeWhile test)).fault (text.dropWhile test)
  agree {short whole left leftToo found other} parted here there := by
    change (next (short.takeWhile test)).run (short.dropWhile test) = _ at here
    change (next (whole.takeWhile test)).run (whole.dropWhile test) = _ at there
    rcases parted.span test with ⟨same, level⟩ | none
    · rw [same] at here
      exact (following _).agree level here there
    · exact .inr (((following _).spent none here).imp_left (idler _))
  spent {short left found} none here :=
    (following (short.takeWhile test)).spent (none.dropWhile test) here

theorem lookingAt_run (text : String) (before : List Char) :
    (lookingAt text).run before =
      match Text.dropHead before text.toList with
      | some rest => .ok (true, rest)
      | none => .ok (false, before) := by
  unfold lookingAt
  change (match Text.dropHead before text.toList with
    | some rest => (do set rest; return true : Reading Bool)
    | none => return false).run before = _
  cases Text.dropHead before text.toList <;> rfl

theorem expect_run (text : String) (before : List Char) :
    (expect text).run before =
      match Text.dropHead before text.toList with
      | some rest => .ok ((), rest)
      | none => .error .malformed := by
  unfold expect
  rw [StateT.run_bind, lookingAt_run]
  cases Text.dropHead before text.toList <;> rfl

theorem firm_expect {text : String} (clean : '\x00' ∉ text.toList) (full : text.toList ≠ []) :
    cut.Firm (expect text) (expect text) where
  fault before fault failed := by
    rw [expect_run] at failed
    split at failed
    · cases failed
    · cases failed
      rfl
  agree parted here there := by
    rw [expect_run] at here there
    split at here
    · next rest dropped =>
        cases here
        obtain ⟨leftToo, droppedToo, level⟩ := parted.dropHead clean dropped
        rw [droppedToo] at there
        cases there
        exact .inl ⟨rfl, level⟩
    · cases here
  spent none here := by
    rw [expect_run, none.dropHead clean full] at here
    cases here

theorem tells_lookingAt {text : String} {c : Char} (single : text.toList = [c])
    (visible : c ≠ '\x00') :
    cut.Tells (· = false) (· = false) (lookingAt text) (lookingAt text) := by
  have clean : '\x00' ∉ text.toList := by simpa [single] using visible.symm
  have fault (before : List Char) (fault : Fault) :
      (lookingAt text).run before = .error fault → fault.isMarkup := by
    intro failed
    rw [lookingAt_run] at failed
    split at failed <;> cases failed
  refine tells_of_heads (fun _ => id) (fault []) ?_ fun first =>
    ⟨fun rest => fault (first :: rest), ?_⟩
  · intro short left found none here
    rw [lookingAt_run, none.dropHead clean (by simp [single])] at here
    cases here
    exact ⟨rfl, none⟩
  · intro short whole left leftToo found other parted here there
    left
    change (lookingAt text).run (first :: short) = _ at here
    change (lookingAt text).run (first :: whole) = _ at there
    rw [lookingAt_run, single] at here there
    by_cases same : c == first
    · simp only [Text.dropHead, same, if_true] at here there
      cases here
      cases there
      exact ⟨rfl, parted⟩
    · simp only [Text.dropHead, same, Bool.false_eq_true, if_false] at here there
      cases here
      cases there
      exact ⟨rfl, parted.cons first⟩

/-- A text is looked for. What is read instead of it needs an end of its own, and must not take a
part of that text at the end. -/
theorem firm_lookingAt_text {text : String} (letters : text.toList = head) (full : head ≠ [])
    (visible : '\x00' ∉ head) {α : Type} {yes yesToo no noToo : Reading α}
    (found : cut.Steady yes yesToo) (missed : cut.Firm no noToo)
    (halved : ∀ n rear left result, 0 < n → n < head.length → cut.Spent rear →
      no.run (head.take n ++ rear) ≠ .ok (result, left)) :
    cut.Firm (lookingAt text >>= fun there => if there then yes else no)
      (lookingAt text >>= fun there => if there then yesToo else noToo) where
  fault before fault failed := by
    rw [StateT.run_bind, lookingAt_run] at failed
    split at failed
    · exact found.fault _ _ failed
    · exact missed.fault _ _ failed
  agree {short whole left leftToo result other} parted here there := by
    rw [StateT.run_bind, lookingAt_run, letters] at here there
    cases dropped : Text.dropHead short head with
    | some rest =>
        obtain ⟨restToo, droppedToo, level⟩ := parted.dropHead visible dropped
        rw [dropped] at here
        rw [droppedToo] at there
        exact found.agree level here there
    | none =>
        rw [dropped] at here
        cases droppedToo : Text.dropHead whole head with
        | none =>
            rw [droppedToo] at there
            exact missed.agree parted here there
        | some restToo =>
            -- the whole text has it, so that the short one ends in it
            obtain rfl := Text.dropHead_eq_some_iff.mp droppedToo
            rcases parted.begun with ⟨shortRest, same, _⟩ | ⟨n, fewer, rear, none, rfl⟩
            · cases dropped.symm.trans (Text.dropHead_eq_some_iff.mpr same)
            · rcases Nat.eq_zero_or_pos n with rfl | some
              · exact (missed.spent none here).1.elim
              · exact (halved n rear left result some fewer none here).elim
  spent {short left result} none here := by
    rw [StateT.run_bind, lookingAt_run, letters, none.dropHead visible full] at here
    exact missed.spent none here

/-- One character is looked for. What is read instead of it needs an end of its own. -/
theorem firm_lookingAt {text : String} {c : Char} (single : text.toList = [c])
    (visible : c ≠ '\x00') {yes yesToo no noToo : Reading α} (found : cut.Steady yes yesToo)
    (missed : cut.Firm no noToo) :
    cut.Firm (lookingAt text >>= fun there => if there then yes else no)
      (lookingAt text >>= fun there => if there then yesToo else noToo) := by
  apply firm_lookingAt_text single (by simp) (by simpa using visible.symm) found missed
  intro n rear left result some fewer
  rw [List.length_singleton] at fewer
  omega

/-- Two characters are looked for. What is read instead of them must not take the first one at the
end of a text. -/
theorem firm_lookingAt_pair {text : String} {a b : Char} (pair : text.toList = [a, b])
    (visible : '\x00' ∉ [a, b]) {yes yesToo no noToo : Reading α} (found : cut.Steady yes yesToo)
    (missed : cut.Firm no noToo)
    (halved : ∀ rest left result, cut.Spent rest → no.run (a :: rest) ≠ .ok (result, left)) :
    cut.Firm (lookingAt text >>= fun there => if there then yes else no)
      (lookingAt text >>= fun there => if there then yesToo else noToo) := by
  apply firm_lookingAt_text pair (by simp) visible found missed
  intro n rear left result some fewer none
  obtain rfl : n = 1 := by
    rw [List.length_cons, List.length_singleton] at fewer
    omega
  exact halved rear left result none

end Characters

end Cut

end SchemaSharp.Markup
