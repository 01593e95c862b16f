import SchemaSharp.Proofs.Task.Keeping

/-!
Tasks that are repeated. A loop does its body again and again until the body answers that nothing is
left to do, or fails; only a loop that ends has a course. A bounded number of rounds is the whole
loop if each round makes something smaller, and nothing is left to do when that is zero.
-/

namespace SchemaSharp.Task

variable {σ α : Type} {body : Task σ Bool}

/-- The course of a loop, from where it starts to how it ends. The rounds in which there was
something to do are counted, also one that failed. -/
inductive Loop (body : Task σ Bool) :
    Nat → Logged σ → Except Failure Unit × Logged σ → Prop where
  | idle {before after : Logged σ} (ran : body.run before = (.ok false, after)) :
      Loop body 0 before (.ok (), after)
  | broken {before after : Logged σ} {failure : Failure}
      (ran : body.run before = (.error failure, after)) :
      Loop body 1 before (.error failure, after)
  | round {rounds : Nat} {before middle : Logged σ} {outcome : Except Failure Unit × Logged σ}
      (ran : body.run before = (.ok true, middle)) (further : Loop body rounds middle outcome) :
      Loop body (rounds + 1) before outcome

/-- The rounds of a loop, but no more than a given number of them. -/
def repeatWithin (body : Task σ Bool) : Nat → Task σ Unit
  | 0 => return
  | budget + 1 => do
      if ← body then repeatWithin body budget else return

theorem run_repeatWithin (body : Task σ Bool) (budget : Nat) (before : Logged σ) :
    (repeatWithin body (budget + 1)).run before =
      match body.run before with
      | (.ok true, middle) => (repeatWithin body budget).run middle
      | (.ok false, after) => (.ok (), after)
      | (.error failure, after) => (.error failure, after) := by
  rw [repeatWithin, run_bind]
  cases body.run before with
  | mk result middle =>
    cases result with
    | error failure => rfl
    | ok more => cases more <;> rfl

/-- One round of work on what is taken out, as long as there is anything. -/
def takeRound (take : Task σ (Option α)) (work : α → Task σ Unit) : Task σ Bool := do
  match ← take with
  | none => return false
  | some item =>
      work item
      return true

theorem repeatWithin_takeRound (take : Task σ (Option α)) (work : α → Task σ Unit)
    (budget : Nat) :
    repeatWithin (takeRound take work) (budget + 1) = (do
      match ← take with
      | none => return
      | some item => do
          work item
          repeatWithin (takeRound take work) budget) := by
  rw [repeatWithin]
  generalize repeatWithin (takeRound take work) budget = further
  rw [takeRound, bind_assoc]
  congr 1
  funext taken
  cases taken with
  | none => simp
  | some item => simp

/-- The outcome of a round that had something to do. -/
def busy (outcome : Except Failure Unit × Logged σ) : Except Failure Bool × Logged σ :=
  (outcome.1.map fun _ => true, outcome.2)

theorem busy_ne_idle (outcome : Except Failure Unit × Logged σ) :
    (busy outcome).1 ≠ .ok false := by
  obtain ⟨result, after⟩ := outcome
  cases result with
  | ok value => simp [busy, Except.map]
  | error failure => simp [busy, Except.map]

theorem run_takeRound (take : Task σ (Option α)) (work : α → Task σ Unit) (before : Logged σ) :
    (takeRound take work).run before =
      match take.run before with
      | (.ok none, after) => (.ok false, after)
      | (.ok (some item), middle) => busy ((work item).run middle)
      | (.error failure, after) => (.error failure, after) := by
  rw [takeRound, run_bind]
  cases take.run before with
  | mk result middle =>
    cases result with
    | error failure => rfl
    | ok taken =>
      cases taken with
      | none => rfl
      | some item =>
          simp only [run_bind]
          cases (work item).run middle with
          | mk result after => cases result <;> rfl

/-- With at least as many rounds as there is weight, the loop comes to its end. -/
theorem repeatWithin_loop (holds : σ → Prop) (weight : σ → Nat)
    (idle : ∀ state, holds state → weight state = 0 → ∀ journal,
      body.run ⟨state, journal⟩ = (.ok false, ⟨state, journal⟩))
    (lighter : ∀ before after, holds before → Returns body before true after →
      holds after ∧ weight after < weight before)
    {budget : Nat} {state : σ} (fits : holds state) (enough : weight state ≤ budget)
    (journal : List Notice) :
    ∃ rounds, rounds ≤ weight state ∧
      Loop body rounds ⟨state, journal⟩ ((repeatWithin body budget).run ⟨state, journal⟩) := by
  induction budget generalizing state journal with
  | zero => exact ⟨0, Nat.zero_le _, .idle (idle state fits (Nat.le_zero.mp enough) journal)⟩
  | succ budget ih =>
      rw [run_repeatWithin]
      cases ran : body.run ⟨state, journal⟩ with
      | mk result middle =>
        cases result with
        | error failure =>
            -- without weight there would have been nothing to do
            have heavy : weight state ≠ 0 := by
              intro weightless
              rw [idle state fits weightless journal] at ran
              cases ran
            exact ⟨1, Nat.one_le_iff_ne_zero.mpr heavy, .broken ran⟩
        | ok more =>
            cases more with
            | false => exact ⟨0, Nat.zero_le _, .idle ran⟩
            | true =>
                obtain ⟨kept, less⟩ :=
                  lighter state middle.state fits ⟨journal, middle.journal, ran⟩
                obtain ⟨rounds, few, loop⟩ := ih kept (by omega) middle.journal
                exact ⟨rounds + 1, by omega, .round ran loop⟩

/-- With more rounds than a loop takes, the repetition is the whole loop. -/
theorem Loop.run_eq {rounds budget : Nat} {before : Logged σ}
    {outcome : Except Failure Unit × Logged σ} (loop : Loop body rounds before outcome)
    (enough : rounds < budget) : (repeatWithin body budget).run before = outcome := by
  obtain ⟨budget, rfl⟩ := Nat.exists_eq_add_one_of_ne_zero (Nat.ne_zero_of_lt enough)
  induction loop generalizing budget with
  | idle ran => rw [run_repeatWithin, ran]
  | broken ran => rw [run_repeatWithin, ran]
  | round ran _ ih =>
      obtain ⟨budget, rfl⟩ := Nat.exists_eq_add_one_of_ne_zero (by omega : budget ≠ 0)
      rw [run_repeatWithin, ran]
      exact ih budget (by omega)

/-- What grows by one in each round that has something to do counts the rounds. -/
theorem Loop.count (size : Logged σ → Nat) {rounds : Nat} {before : Logged σ}
    {outcome : Except Failure Unit × Logged σ} (loop : Loop body rounds before outcome)
    (rests : ∀ before after, body.run before = (.ok false, after) → size after = size before)
    (grows : ∀ before result after, body.run before = (result, after) → result ≠ .ok false →
      size after = size before + 1) :
    size outcome.2 = size before + rounds := by
  induction loop with
  | idle ran => exact rests _ _ ran
  | broken ran => exact grows _ _ _ ran (by simp)
  | round ran _ ih =>
      rw [ih, grows _ _ _ ran (by simp)]
      omega

/-- What every round keeps is kept by the loop. -/
theorem Loop.keeps {kept : Logged σ → Logged σ → Prop} [IsPreorder (Logged σ) kept]
    {rounds : Nat} {before : Logged σ} {outcome : Except Failure Unit × Logged σ}
    (loop : Loop body rounds before outcome) (each : Keeps kept body) : kept before outcome.2 := by
  have next {first last : Logged σ} {result : Except Failure Bool}
      (ran : body.run first = (result, last)) : kept first last := by
    have related := each first
    rwa [ran] at related
  induction loop with
  | idle ran => exact next ran
  | broken ran => exact next ran
  | round ran _ ih => exact trans_of kept (next ran) ih

/-- A loop that does not fail ends where nothing is left to do. -/
theorem Loop.last_idle {rounds : Nat} {before : Logged σ}
    {outcome : Except Failure Unit × Logged σ} (loop : Loop body rounds before outcome)
    (returned : outcome.1 = .ok ()) :
    ∃ last, body.run last = (.ok false, outcome.2) := by
  induction loop with
  | idle ran => exact ⟨_, ran⟩
  | broken ran => cases returned
  | round _ _ ih => exact ih returned

end SchemaSharp.Task
