import Mathlib.Data.List.Nodup
import Mathlib.Logic.Relation

/-!
Queues and the orders they make. A queue over a forest takes its nodes out generation by
generation; a queue over a graph that takes each node once does so breadth first, one round of
neighbours after the other, and reaches exactly what can be reached.
-/

namespace SchemaSharp.Traversal

open Relation (ReflTransGen)

variable {α : Type}

/-! ## Forests -/

/-- The nodes in the order in which a queue takes them out, `budget` of them at most. -/
def inQueueOrder (next : α → List α) : Nat → List α → List α
  | 0, _ => []
  | _ + 1, [] => []
  | budget + 1, first :: rest => first :: inQueueOrder next budget (rest ++ next first)

/-- The nodes, their children, the children of those, and so on down to some depth. -/
def generations (next : α → List α) : Nat → List α → List α
  | 0, _ => []
  | depth + 1, nodes => nodes ++ generations next depth (nodes.flatMap next)

def totalWeight (weight : α → Nat) : List α → Nat
  | [] => 0
  | first :: rest => weight first + totalWeight weight rest

theorem totalWeight_append (weight : α → Nat) (left right : List α) :
    totalWeight weight (left ++ right) = totalWeight weight left + totalWeight weight right := by
  induction left with
  | nil => simp [totalWeight]
  | cons first rest ih => rw [List.cons_append, totalWeight, totalWeight, ih, Nat.add_assoc]

theorem inQueueOrder_append (next : α → List α) (front back : List α) (budget : Nat)
    (enough : front.length ≤ budget) :
    inQueueOrder next budget (front ++ back) =
      front ++ inQueueOrder next (budget - front.length) (back ++ front.flatMap next) := by
  induction front generalizing back budget with
  | nil => simp
  | cons first rest ih =>
      cases budget with
      | zero => simp at enough
      | succ budget =>
          have fewer : rest.length ≤ budget := by simpa using enough
          simp only [List.cons_append, inQueueOrder, List.append_assoc, List.flatMap_cons,
            List.length_cons, Nat.add_sub_add_right]
          rw [ih (back ++ next first) budget fewer, List.append_assoc]

/-- Each node weighs at least one more than its children. -/
theorem totalWeight_children_le {next : α → List α} {weight : α → Nat}
    (heavier : ∀ node, totalWeight weight (next node) < weight node) (nodes : List α) :
    totalWeight weight (nodes.flatMap next) + nodes.length ≤ totalWeight weight nodes := by
  induction nodes with
  | nil => simp [totalWeight]
  | cons first rest ih =>
      have less := heavier first
      have split : totalWeight weight (first :: rest) =
          weight first + totalWeight weight rest := rfl
      simp only [List.flatMap_cons, totalWeight_append, List.length_cons]
      omega

/-- Where every node weighs more than its children, the weight bounds both the queue and the
number of generations. -/
theorem inQueueOrder_eq_generations {next : α → List α} {weight : α → Nat}
    (heavier : ∀ node, totalWeight weight (next node) < weight node) (depth : Nat) :
    ∀ budget nodes, totalWeight weight nodes ≤ budget → totalWeight weight nodes ≤ depth →
      inQueueOrder next budget nodes = generations next depth nodes := by
  induction depth with
  | zero =>
      intro budget nodes _ shallow
      cases nodes with
      | nil => cases budget <;> rfl
      | cons first rest =>
          have bound := totalWeight_children_le heavier (first :: rest)
          simp only [List.length_cons] at bound
          omega
  | succ depth ih =>
      intro budget nodes enough shallow
      have bound := totalWeight_children_le heavier nodes
      cases nodes with
      | nil =>
          -- the induction also tells what no nodes lead to
          have done : generations next depth [] = [] := by
            rw [← ih 0 [] (by simp [totalWeight]) (by simp [totalWeight])]
            rfl
          rw [generations, List.flatMap_nil, done]
          cases budget <;> rfl
      | cons first rest =>
          have queued := inQueueOrder_append next (first :: rest) [] budget (by omega)
          rw [List.append_nil, List.nil_append] at queued
          rw [queued, generations]
          simp only [List.length_cons] at bound ⊢
          rw [ih _ _ (by omega) (by omega)]

/-! ## Graphs -/

variable [DecidableEq α]

/-- What is new among the nodes, each once, in the order of its first mention. -/
def unseen (seen nodes : List α) : List α :=
  (nodes.filter fun node => decide (node ∉ seen)).eraseDups

/-- The frontier, then what it leads to and has not been seen, and so on for some rounds. -/
def breadthFirst (next : α → List α) : Nat → List α → List α → List α
  | 0, _, _ => []
  | rounds + 1, seen, frontier =>
      frontier ++ breadthFirst next rounds (seen ++ frontier)
        (unseen (seen ++ frontier) (frontier.flatMap next))

theorem mem_unseen_iff {seen nodes : List α} {node : α} :
    node ∈ unseen seen nodes ↔ node ∈ nodes ∧ node ∉ seen := by
  simp [unseen]

theorem unseen_nil (seen : List α) : unseen seen [] = [] := by simp [unseen]

theorem unseen_empty (nodes : List α) : unseen [] nodes = nodes.eraseDups := by simp [unseen]

theorem unseen_singleton (seen : List α) (node : α) :
    unseen seen [node] = if node ∈ seen then [] else [node] := by
  by_cases known : node ∈ seen
  · simp [unseen, known]
  · rw [if_neg known, unseen, List.filter_cons_of_pos (by simpa using known), List.filter_nil]
    simp [List.eraseDups_cons]

theorem unseen_append (seen left right : List α) :
    unseen seen (left ++ right) = unseen seen left ++ unseen (seen ++ unseen seen left) right := by
  simp only [unseen, List.filter_append, List.eraseDups_append, List.removeAll, List.filter_filter]
  congr 2
  apply List.filter_congr
  intro node _
  by_cases known : node ∈ seen
  · simp [known]
  · simp [known]

theorem unseen_cons (seen : List α) (node : α) (rest : List α) :
    unseen seen (node :: rest) =
      if node ∈ seen then unseen seen rest else node :: unseen (seen ++ [node]) rest := by
  have apart := unseen_append seen [node] rest
  rw [unseen_singleton] at apart
  split
  · next known => simpa [known] using apart
  · next new => simpa [new] using apart

/-- A queue at work: with some nodes taken out and some waiting, it goes on to take out `last` in
all. A node that is taken out adds what it leads to and was never in the queue. -/
inductive Visits (next : α → List α) : List α → List α → List α → Prop where
  | finished {done : List α} : Visits next done [] done
  | visit {done rest last : List α} {node : α}
      (further : Visits next (done ++ [node])
        (rest ++ unseen (done ++ node :: rest) (next node)) last) :
      Visits next done (node :: rest) last

variable {next : α → List α} {done queue last : List α}

/-- Taking out a part of the queue adds all that it leads to. -/
theorem Visits.advance {front back : List α} (visits : Visits next done (front ++ back) last) :
    Visits next (done ++ front)
      (back ++ unseen (done ++ front ++ back) (front.flatMap next)) last := by
  induction front generalizing done back with
  | nil => simpa [unseen_nil] using visits
  | cons node rest ih =>
      cases visits with
      | visit further =>
          change Visits next (done ++ [node])
            ((rest ++ back) ++ unseen (done ++ node :: (rest ++ back)) (next node)) last at further
          rw [List.append_assoc] at further
          have advanced := ih further
          have seen : done ++ [node] ++ rest ++ (back ++ unseen (done ++ node :: (rest ++ back))
              (next node)) = done ++ node :: (rest ++ back) ++
                unseen (done ++ node :: (rest ++ back)) (next node) := by simp
          rw [seen, List.append_assoc back, ← unseen_append] at advanced
          simpa using advanced

theorem Visits.done_append_queue (visits : Visits next done queue last) :
    done ++ queue <+: last := by
  induction visits with
  | finished => simp
  | visit _ ih =>
      rw [← List.append_assoc] at ih
      simpa using (List.prefix_append _ _).trans ih

/-- A queue over a graph goes through it breadth first. -/
theorem Visits.eq_breadthFirst (visits : Visits next done queue last) (rounds : Nat)
    (enough : last.length ≤ done.length + rounds) :
    last = done ++ breadthFirst next rounds done queue := by
  induction rounds generalizing done queue with
  | zero =>
      have longer := visits.done_append_queue.length_le
      cases visits with
      | finished => simp [breadthFirst]
      | visit _ =>
          simp only [List.length_append, List.length_cons] at longer
          omega
  | succ rounds ih =>
      cases queue with
      | nil =>
          cases visits
          have still := ih .finished (Nat.le_add_right _ _)
          rw [breadthFirst, List.append_nil, List.nil_append, List.flatMap_nil, unseen_nil]
          exact still
      | cons node rest =>
          have whole : Visits next done ((node :: rest) ++ []) last := by simpa using visits
          have advanced := whole.advance
          rw [List.append_nil, List.nil_append] at advanced
          have shorter : last.length ≤ (done ++ node :: rest).length + rounds := by
            simp only [List.length_append, List.length_cons]
            omega
          rw [breadthFirst, ← List.append_assoc]
          exact ih advanced shorter

/-! ## What is reached -/

def Edge (next : α → List α) (source target : α) : Prop := target ∈ next source

theorem Visits.closed (visits : Visits next done queue last)
    (closed : ∀ node ∈ done, ∀ target ∈ next node, target ∈ done ++ queue) :
    ∀ node ∈ last, ∀ target ∈ next node, target ∈ last := by
  induction visits with
  | finished => simpa using closed
  | @visit done rest last node _ ih =>
      apply ih
      intro known member target edge
      by_cases old : target ∈ done ++ node :: rest
      · simp only [List.mem_append, List.mem_cons] at old ⊢
        tauto
      · rcases List.mem_append.mp member with earlier | new
        · exact absurd (closed known earlier target edge) old
        · rw [List.mem_singleton.mp new] at edge
          have added := mem_unseen_iff.mpr ⟨edge, old⟩
          simp only [List.mem_append]
          exact .inr (.inr added)

theorem Visits.reached (visits : Visits next done queue last) :
    ∀ node ∈ last, node ∈ done ∨ ∃ root ∈ queue, ReflTransGen (Edge next) root node := by
  induction visits with
  | finished => exact fun node member => .inl member
  | @visit done rest last node _ ih =>
      intro target member
      rcases ih target member with old | ⟨root, queued, path⟩
      · rcases List.mem_append.mp old with earlier | new
        · exact .inl earlier
        · rw [List.mem_singleton.mp new]
          exact .inr ⟨node, by simp, ReflTransGen.refl⟩
      · rcases List.mem_append.mp queued with waiting | added
        · exact .inr ⟨root, List.mem_cons_of_mem _ waiting, path⟩
        · exact .inr ⟨node, by simp, ReflTransGen.head (mem_unseen_iff.mp added).1 path⟩

/-- From an empty start exactly what the roots lead to is taken out. -/
theorem Visits.mem_iff_reachable {roots : List α} (visits : Visits next [] roots last)
    (node : α) : node ∈ last ↔ ∃ root ∈ roots, ReflTransGen (Edge next) root node := by
  constructor
  · intro member
    rcases visits.reached node member with none | found
    · cases none
    · exact found
  · rintro ⟨root, queued, path⟩
    have started : root ∈ last := visits.done_append_queue.subset (by simpa using queued)
    induction path with
    | refl => exact started
    | tail _ edge ih => exact visits.closed (by simp) _ ih _ edge

end SchemaSharp.Traversal
