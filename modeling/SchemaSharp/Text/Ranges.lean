/-!
Sets of characters given as ascending runs of code points, both ends included.
-/

namespace SchemaSharp.Text

def covers (runs : List (Nat × Nat)) (c : Char) : Bool :=
  runs.any fun run => run.1 ≤ c.toNat && c.toNat ≤ run.2

theorem covers_iff (runs : List (Nat × Nat)) (c : Char) :
    covers runs c = true ↔ ∃ run ∈ runs, run.1 ≤ c.toNat ∧ c.toNat ≤ run.2 := by
  simp [covers]

end SchemaSharp.Text
