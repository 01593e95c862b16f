import SchemaSharp.Failure

/-!
Results that are no failures, taken apart along the ways in which they are made.
-/

namespace SchemaSharp

theorem ok_of_bind {ε α β : Type} {result : Except ε α} {next : α → Except ε β} {value : β}
    (computed : (result >>= next) = .ok value) :
    ∃ middle, result = .ok middle ∧ next middle = .ok value := by
  cases result with
  | error fault => cases computed
  | ok middle => exact ⟨middle, rfl, computed⟩

theorem bind_of_ok {ε α β : Type} {result : Except ε α} {next : α → Except ε β} {middle : α}
    (computed : result = .ok middle) : (result >>= next) = next middle := by
  rw [computed]
  rfl

theorem ok_of_map {ε α β : Type} {result : Except ε α} {wrap : α → β} {value : β}
    (mapped : result.map wrap = .ok value) : ∃ inner, result = .ok inner ∧ wrap inner = value := by
  cases result with
  | error fault => cases mapped
  | ok inner => exact ⟨inner, rfl, Except.ok.inj mapped⟩

theorem ok_of_orFail {ε α : Type} {wrap : ε → Failure} {result : Except ε α} {value : α}
    (computed : orFail wrap result = .ok value) : result = .ok value := by
  cases result with
  | error fault => cases computed
  | ok middle =>
      cases computed
      rfl

theorem ok_of_toOption {ε α : Type} {result : Except ε α} {value : α}
    (computed : result.toOption = some value) : result = .ok value := by
  cases result with
  | error fault => cases computed
  | ok middle =>
      cases computed
      rfl

end SchemaSharp
