import SchemaSharp.Proofs.Conversion.Runs

/-!
The order of discovery. What a document uses does not depend on the state in which it is
translated, so that the queue goes through the graph of uses breadth first: it takes out exactly
what the seeds lead to, and a document that is only referred to is never taken.
-/

namespace SchemaSharp.Conversion

open SchemaSharp.Task (Returns)
open Traversal (Edge breadthFirst)
open Relation (ReflTransGen)

variable {job : Job} {begun after : Conversion} {paths : List String}

/-- In a run that returns, the documents come out of the queue in the breadth-first order of the
graph of uses, from the seeds in input order: each once, each that can be reached, no other, and
the classes of all of them are written. -/
theorem run_breadthFirst (started : start job = .ok begun)
    (returned : Returns (run job) begun paths after) :
    ∃ seeds, seedKeys job job.settings.inputs = .ok seeds ∧
      after.dequeued.Nodup ∧
      (∀ rounds, after.store.entries.length ≤ rounds →
        after.dequeued = breadthFirst after.store.uses rounds [] seeds.eraseDups) ∧
      (∀ location, location ∈ after.dequeued ↔
        ∃ seed ∈ seeds, ReflTransGen (Edge after.store.uses) seed location) ∧
      ∃ outlines, after.dequeued.mapM (storedOutlines? job after.store) = some outlines ∧
        after.record = outlines.flatten.flatMap ClassOutline.calls := by
  obtain ⟨seeds, outlines, completed⟩ := run_returns started returned
  have all : after.met = after.dequeued := by rw [met, completed.queue, List.append_nil]
  refine ⟨seeds, completed.seeded, ?_, fun rounds enough => ?_, fun location => ?_, outlines,
    completed.outlined, completed.record⟩
  · rw [← all]
    exact completed.orderly.nodup
  · have bound := completed.orderly.length_le
    rw [all] at bound
    have whole := completed.visits.eq_breadthFirst rounds (by simp only [List.length_nil]; omega)
    rwa [List.nil_append] at whole
  · rw [completed.visits.mem_iff_reachable]
    simp only [List.mem_eraseDups]

theorem pair_run_breadthFirst :
    ∃ begun after, start pair = .ok begun ∧
      Returns (run pair) begun ["a.cs", "b.cs"] after ∧
        after.dequeued = ["file:///a", "file:///b"] ∧
          ∃ seeds, seedKeys pair pair.settings.inputs = .ok seeds ∧
            ∀ rounds, after.store.entries.length ≤ rounds →
              after.dequeued = breadthFirst after.store.uses rounds [] seeds.eraseDups := by
  obtain ⟨begun, started, returned, dequeued⟩ := pair_returns
  obtain ⟨seeds, seeded, _, ordered, _⟩ := run_breadthFirst started returned
  exact ⟨begun, _, started, returned, dequeued, seeds, seeded, ordered⟩

end SchemaSharp.Conversion
