import Mathlib.Data.List.Lex
import Mathlib.Data.List.Sort
import SchemaSharp.Proofs.Lists
import SchemaSharp.Proofs.Schema.Particles

/-!
Where particles stand. A path leads from a sequence to whatever is written in it, however deep, by
the number of an item in each sequence on the way. The order of the document is the lexicographic
order of paths, which has a sequence before all that it holds. Flattening gives the elements in this
order, each of them once, or stops at the first particle that is unsupported.
-/

namespace SchemaSharp.Schema

/-! ## Paths -/

/-- The particle that a path leads to. -/
def Particle.at? (item : Particle) : List Nat → Option Particle
  | [] => some item
  | index :: path =>
      match item with
      | .sequence items => items[index]?.bind fun inner => inner.at? path
      | _ => none

def Particle.isLeaf : Particle → Bool
  | .sequence _ => false
  | _ => true

mutual

/-- The leaves, each with the path that leads to it. -/
def Particle.sites : Particle → List (List Nat × Particle)
  | .element decl => [([], .element decl)]
  | .sequence items => sitesFrom 0 items
  | .unsupported tag => [([], .unsupported tag)]

def sitesFrom (index : Nat) : List Particle → List (List Nat × Particle)
  | [] => []
  | item :: rest =>
      item.sites.map (fun site => (index :: site.1, site.2)) ++ sitesFrom (index + 1) rest

end

mutual

theorem Particle.sites_leaves : (item : Particle) → item.sites.map Prod.snd = item.leaves
  | .element decl => rfl
  | .sequence items => by
      rw [Particle.sites, Particle.leaves]
      exact sitesFrom_leaves 0 items
  | .unsupported tag => rfl

theorem sitesFrom_leaves (index : Nat) :
    (items : List Particle) → (sitesFrom index items).map Prod.snd = leavesAll items
  | [] => rfl
  | item :: rest => by
      rw [sitesFrom, leavesAll, List.map_append, List.map_map, sitesFrom_leaves (index + 1) rest,
        ← item.sites_leaves]
      rfl

end

/-- The first number of a path is that of the item it leads into. -/
theorem mem_sitesFrom_iff {start : Nat} {items : List Particle} {path : List Nat}
    {leaf : Particle} : (path, leaf) ∈ sitesFrom start items ↔
      ∃ index inner rest, items[index]? = some inner ∧ (rest, leaf) ∈ inner.sites ∧
        path = (start + index) :: rest := by
  induction items generalizing start with
  | nil => simp [sitesFrom]
  | cons item others ih =>
      rw [sitesFrom, List.mem_append, ih]
      constructor
      · rintro (here | ⟨index, inner, rest, found, member, rfl⟩)
        · obtain ⟨site, member, same⟩ := List.mem_map.mp here
          cases same
          exact ⟨0, item, site.1, rfl, member, rfl⟩
        · exact ⟨index + 1, inner, rest, found, member, by rw [Nat.add_right_comm, Nat.add_assoc]⟩
      · rintro ⟨index, inner, rest, found, member, rfl⟩
        cases index with
        | zero =>
            cases found
            exact .inl (List.mem_map.mpr ⟨(rest, leaf), member, rfl⟩)
        | succ index =>
            exact .inr ⟨index, inner, rest, found, member, by rw [Nat.add_right_comm, Nat.add_assoc]⟩

theorem Particle.leaf_or_sequence (item : Particle) :
    item.isLeaf ∨ ∃ items, item = .sequence items := by
  cases item with
  | element decl => exact .inl rfl
  | sequence items => exact .inr ⟨items, rfl⟩
  | unsupported tag => exact .inl rfl

theorem Particle.sites_of_isLeaf {item : Particle} (alone : item.isLeaf) :
    item.sites = [([], item)] := by
  cases item with
  | element decl => rfl
  | sequence items => cases alone
  | unsupported tag => rfl

theorem Particle.at?_of_isLeaf {item : Particle} (alone : item.isLeaf) (index : Nat)
    (path : List Nat) : item.at? (index :: path) = none := by
  cases item with
  | element decl => rfl
  | sequence items => cases alone
  | unsupported tag => rfl

/-- The sites are the paths that lead to a leaf. -/
theorem Particle.mem_sites_iff {item leaf : Particle} {path : List Nat} :
    (path, leaf) ∈ item.sites ↔ item.at? path = some leaf ∧ leaf.isLeaf := by
  induction path generalizing item with
  | nil =>
      -- the empty path leads to the item itself, any other into a sequence
      rcases item.leaf_or_sequence with alone | ⟨items, rfl⟩
      · rw [Particle.sites_of_isLeaf alone, List.mem_singleton, Particle.at?]
        constructor
        · intro same
          cases same
          exact ⟨rfl, alone⟩
        · rintro ⟨same, _⟩
          cases same
          rfl
      · rw [Particle.sites, mem_sitesFrom_iff]
        constructor
        · rintro ⟨_, _, _, _, _, same⟩
          cases same
        · rintro ⟨same, flat⟩
          cases same
          cases flat
  | cons index path ih =>
      rcases item.leaf_or_sequence with alone | ⟨items, rfl⟩
      · simp [Particle.sites_of_isLeaf alone, Particle.at?_of_isLeaf alone]
      · rw [Particle.sites, mem_sitesFrom_iff, Particle.at?, Option.bind_eq_some_iff]
        constructor
        · rintro ⟨_, inner, _, found, member, same⟩
          rw [Nat.zero_add] at same
          cases same
          obtain ⟨leads, flat⟩ := ih.mp member
          exact ⟨⟨inner, found, leads⟩, flat⟩
        · rintro ⟨⟨inner, found, leads⟩, flat⟩
          exact ⟨index, inner, path, found, ih.mpr ⟨leads, flat⟩, by rw [Nat.zero_add]⟩

mutual

theorem Particle.sites_ordered :
    (item : Particle) → item.sites.Pairwise fun site other => site.1 < other.1
  | .element decl => List.pairwise_singleton _ _
  | .sequence items => by
      rw [Particle.sites]
      exact sitesFrom_ordered 0 items
  | .unsupported tag => List.pairwise_singleton _ _

theorem sitesFrom_ordered (start : Nat) :
    (items : List Particle) → (sitesFrom start items).Pairwise fun site other => site.1 < other.1
  | [] => List.Pairwise.nil
  | item :: rest => by
      rw [sitesFrom, List.pairwise_append]
      refine ⟨?_, sitesFrom_ordered (start + 1) rest, ?_⟩
      · refine List.pairwise_map.mpr (item.sites_ordered.imp fun before => ?_)
        exact List.cons_lt_cons_iff.mpr (.inr ⟨rfl, before⟩)
      · rintro site here ⟨path, leaf⟩ later
        obtain ⟨inner, _, rfl⟩ := List.mem_map.mp here
        obtain ⟨index, _, _, _, _, rfl⟩ := mem_sitesFrom_iff.mp later
        exact List.cons_lt_cons_iff.mpr (.inl (by omega))

end

/-! ## What flattening finds -/

variable {items : List Particle} {decls others : List ElementDecl} {tag : String}

/-- Nothing stands anywhere in the sequence that is unsupported. -/
def AllSupported (items : List Particle) : Prop :=
  ∀ path tag, (Particle.sequence items).at? path ≠ some (.unsupported tag)

/-- These are the elements at any depth, in the order of the document: they stand at increasing
paths, and no other path leads to an element. -/
def InDocumentOrder (items : List Particle) (decls : List ElementDecl) : Prop :=
  ∃ paths : List (List Nat), paths.Pairwise (· < ·) ∧
    List.Forall₂ (fun path decl => (Particle.sequence items).at? path = some (.element decl))
      paths decls ∧
    ∀ path decl, (Particle.sequence items).at? path = some (.element decl) → path ∈ paths

/-- Nothing that is unsupported stands before this. -/
def FirstUnsupported (items : List Particle) (tag : String) : Prop :=
  ∃ path, (Particle.sequence items).at? path = some (.unsupported tag) ∧
    ∀ earlier < path, ∀ other,
      (Particle.sequence items).at? earlier ≠ some (.unsupported other)

theorem inDocumentOrder_of_leaves (elements : leavesAll items = decls.map .element) :
    InDocumentOrder items decls := by
  let sites := (Particle.sequence items).sites
  have leads : ∀ site ∈ sites, (Particle.sequence items).at? site.1 = some site.2 :=
    fun site member => (Particle.mem_sites_iff.mp member).1
  have leaves : sites.map Prod.snd = decls.map .element :=
    (Particle.sequence items).sites_leaves.trans elements
  have leafwise : List.Forall₂ (fun path leaf => (Particle.sequence items).at? path = some leaf)
      (sites.map Prod.fst) (decls.map .element) := by
    rw [← leaves, List.forall₂_map_left_iff, List.forall₂_map_right_iff]
    exact List.forall₂_same.mpr leads
  rw [List.forall₂_map_right_iff] at leafwise
  refine ⟨sites.map Prod.fst, List.pairwise_map.mpr (Particle.sites_ordered _), leafwise,
    fun path decl found => ?_⟩
  exact List.mem_map.mpr ⟨_, Particle.mem_sites_iff.mpr ⟨found, rfl⟩, rfl⟩

/-- There is one such list. -/
theorem InDocumentOrder.unique (first : InDocumentOrder items decls)
    (second : InDocumentOrder items others) : decls = others := by
  obtain ⟨paths, ordered, found, all⟩ := first
  obtain ⟨pathsOther, orderedOther, foundOther, allOther⟩ := second
  have same : paths = pathsOther := by
    refine ordered.eq_of_mem_iff orderedOther fun path => ⟨fun member => ?_, fun member => ?_⟩
    · obtain ⟨decl, _, leads⟩ := exists_of_forall₂ found.flip member
      exact allOther path decl leads
    · obtain ⟨decl, _, leads⟩ := exists_of_forall₂ foundOther.flip member
      exact all path decl leads
  subst same
  refine List.right_unique_forall₂' ?_ found foundOther
  intro path decl other leads leadsOther
  cases leads.symm.trans leadsOther
  rfl

theorem firstUnsupported_of_leaves {rest : List Particle}
    (elements : leavesAll items = decls.map .element ++ .unsupported tag :: rest) :
    FirstUnsupported items tag := by
  have ordered := (Particle.sequence items).sites_ordered
  have leaves := (Particle.sequence items).sites_leaves.trans elements
  obtain ⟨front, back, split, before, behind⟩ := List.map_eq_append_iff.mp leaves
  obtain ⟨site, later, rfl, here, _⟩ := List.map_eq_cons_iff.mp behind
  rw [split, List.pairwise_append] at ordered
  have mine : site ∈ (Particle.sequence items).sites := by simp [split]
  refine ⟨site.1, here ▸ (Particle.mem_sites_iff.mp mine).1, fun path earlier other found => ?_⟩
  have member := Particle.mem_sites_iff.mpr ⟨found, rfl⟩
  rw [split] at member
  rcases List.mem_append.mp member with inFront | inBack
  · -- all leaves in front are elements
    have leaf := List.mem_map_of_mem (f := Prod.snd) inFront
    rw [before] at leaf
    simp at leaf
  · have forward : ∀ site' ∈ later, site.1 < site'.1 := (List.pairwise_cons.mp ordered.2.1).1
    rcases List.mem_cons.mp inBack with same | after
    · rw [← same] at earlier
      exact lt_irrefl _ earlier
    · exact lt_asymm earlier (forward _ after)

theorem FirstUnsupported.not_allSupported (first : FirstUnsupported items tag) :
    ¬ AllSupported items := by
  obtain ⟨path, found, _⟩ := first
  exact fun supported => supported path tag found

/-- There is one such particle. -/
theorem FirstUnsupported.unique {tagOther : String} (first : FirstUnsupported items tag)
    (second : FirstUnsupported items tagOther) : tag = tagOther := by
  obtain ⟨path, found, before⟩ := first
  obtain ⟨pathOther, foundOther, beforeOther⟩ := second
  rcases lt_trichotomy path pathOther with earlier | same | later
  · exact absurd found (beforeOther path earlier tag)
  · subst same
    cases found.symm.trans foundOther
    rfl
  · exact absurd foundOther (before pathOther later tagOther)

theorem allSupported_of_leaves (elements : leavesAll items = decls.map .element) :
    AllSupported items := by
  intro path tag found
  have member := Particle.mem_sites_iff.mpr ⟨found, rfl⟩
  have leaf := List.mem_map_of_mem (f := Prod.snd) member
  rw [Particle.sites_leaves, Particle.leaves, elements] at leaf
  simp at leaf

/-! ## Flattening -/

theorem inDocumentOrder_of_flattened (computed : flattenAll items = .ok decls) :
    AllSupported items ∧ InDocumentOrder items decls := by
  have flat := flattenAll_leaves items
  rw [computed] at flat
  exact ⟨allSupported_of_leaves flat, inDocumentOrder_of_leaves flat⟩

theorem firstUnsupported_of_cut (computed : flattenAll items = .error tag) :
    FirstUnsupported items tag := by
  have flat := flattenAll_leaves items
  rw [computed] at flat
  obtain ⟨_, _, split⟩ := flat
  exact firstUnsupported_of_leaves split

/-- Flattening succeeds exactly if nothing is unsupported. -/
theorem flattens_iff : (∃ decls, flattenAll items = .ok decls) ↔ AllSupported items := by
  constructor
  · rintro ⟨decls, computed⟩
    exact (inDocumentOrder_of_flattened computed).1
  · intro supported
    cases computed : flattenAll items with
    | ok decls => exact ⟨decls, rfl⟩
    | error tag => exact absurd supported (firstUnsupported_of_cut computed).not_allSupported

theorem flattenAll_eq_ok_iff :
    flattenAll items = .ok decls ↔ AllSupported items ∧ InDocumentOrder items decls := by
  refine ⟨inDocumentOrder_of_flattened, ?_⟩
  rintro ⟨supported, ordered⟩
  obtain ⟨others, computed⟩ := flattens_iff.mpr supported
  rw [computed, (inDocumentOrder_of_flattened computed).2.unique ordered]

theorem flattenAll_eq_error_iff : flattenAll items = .error tag ↔ FirstUnsupported items tag := by
  refine ⟨firstUnsupported_of_cut, fun first => ?_⟩
  cases computed : flattenAll items with
  | ok decls =>
      exact absurd (inDocumentOrder_of_flattened computed).1 first.not_allSupported
  | error other => rw [(firstUnsupported_of_cut computed).unique first]

theorem flattenAll_cons (item : Particle) (rest : List Particle) :
    flattenAll (item :: rest) = do return (← item.flatten) ++ (← flattenAll rest) := by
  rw [flattenAll]
  cases item.flatten with
  | error tag => rfl
  | ok decls => cases flattenAll rest <;> rfl

/-- Content models one behind the other are flattened one after the other. -/
theorem flattenAll_append (front back : List Particle) :
    flattenAll (front ++ back) = do return (← flattenAll front) ++ (← flattenAll back) := by
  induction front with
  | nil =>
      rw [List.nil_append, flattenAll]
      cases flattenAll back <;> rfl
  | cons item rest ih =>
      rw [List.cons_append, flattenAll_cons, flattenAll_cons, ih]
      simp only [bind_assoc, pure_bind, List.append_assoc]

/-- A sequence in a sequence may as well be written out in its place. -/
theorem flattenAll_inline (front inner back : List Particle) :
    flattenAll (front ++ .sequence inner :: back) = flattenAll (front ++ (inner ++ back)) := by
  rw [flattenAll_append, flattenAll_append front, flattenAll_append inner, flattenAll_cons,
    Particle.flatten]

end SchemaSharp.Schema
