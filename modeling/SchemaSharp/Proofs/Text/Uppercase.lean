import Mathlib.Data.Bool.AllAny
import Mathlib.Data.List.Basic
import SchemaSharp.Text.Uppercase

/-!
What upper case leaves alone. There are characters that it has nothing to do with: none of them has
another form, and they are in the form of no other character. And what the form of a character begins
with is not changed by writing it in upper case again.
-/

namespace SchemaSharp.Text

/-- Where the upper case of a character comes from: from the letters of ASCII or from one of the
tables, unless there is none and the character stays. -/
inductive Upper (c : Char) : List Char → Prop where
  | ascii (low : 0x61 ≤ c.toNat) (high : c.toNat ≤ 0x7a) : Upper c [Char.ofNat (c.toNat - 0x20)]
  | long {forms : List Nat} (beyond : 0x80 ≤ c.toNat) (listed : (c.toNat, forms) ∈ longUppercase) :
      Upper c (forms.map Char.ofNat)
  | run {run : CaseRun} {upper : Nat} (beyond : 0x80 ≤ c.toNat) (listed : run ∈ caseRuns)
      (shifted : run.upper? c.toNat = some upper) : Upper c [Char.ofNat upper]
  | none (stays : uppercase c = [c]) : Upper c [c]

theorem upper_of_uppercase {c : Char} {form : List Char} (same : uppercase c = form) :
    Upper c form := by
  have whole := same
  unfold uppercase at same
  split at same
  · split at same
    · next small =>
        subst same
        exact .ascii small.1 small.2
    · subst same
      exact .none whole
  · next beyond =>
      have beyond : 0x80 ≤ c.toNat := Nat.le_of_not_lt beyond
      split at same
      · next forms found =>
          subst same
          obtain ⟨_, _, parts, _⟩ := List.lookup_eq_some_iff.mp found
          exact .long beyond (by simp [parts])
      · split at same
        · next upper found =>
            subst same
            obtain ⟨run, listed, shifted⟩ := List.exists_of_findSome?_eq_some found
            exact .run beyond listed shifted
        · subst same
          exact .none whole

theorem uppercase_ne_nil (c : Char) : uppercase c ≠ [] := by
  have full : ∀ entry ∈ longUppercase, entry.2 ≠ [] := by decide
  have upper := @upper_of_uppercase c _ rfl
  intro empty
  generalize uppercase c = form at upper empty
  cases upper with
  | ascii low high => cases empty
  | long beyond listed => exact full _ listed (List.map_eq_nil_iff.mp empty)
  | run beyond listed shifted => cases empty
  | none stays => cases empty

theorem CaseRun.upper?_eq_some {run : CaseRun} {code upper : Nat}
    (shifted : run.upper? code = some upper) :
    (run.first ≤ code ∧ code ≤ run.last) ∧ run.step ∣ code - run.first ∧
      upper = code - run.first + run.target := by
  unfold CaseRun.upper? at shifted
  split at shifted
  · next inside =>
      cases shifted
      simp only [Bool.and_eq_true, decide_eq_true_eq, beq_iff_eq] at inside
      exact ⟨inside.1, Nat.dvd_of_mod_eq_zero inside.2, rfl⟩
  · cases shifted

/-- None of the code points lies within the run, or within what it is shifted to. -/
def CaseRun.Aside (codes : List Nat) (run : CaseRun) : Prop :=
  ∀ code ∈ codes, (code < run.first ∨ run.last < code) ∧
    (code < run.target ∨ run.last - run.first + run.target < code)

instance (codes : List Nat) (run : CaseRun) : Decidable (run.Aside codes) :=
  inferInstanceAs (Decidable (∀ code ∈ codes, _ ∧ _))

section Aside

variable {marks : List Char}

theorem toNat_mem_map {c : Char} : c.toNat ∈ marks.map Char.toNat ↔ c ∈ marks :=
  List.mem_map_of_injective fun _ _ => Char.toNat_inj.mp

theorem CaseRun.Aside.upper {codes : List Nat} {run : CaseRun} (aside : run.Aside codes)
    {code upper : Nat} (shifted : run.upper? code = some upper) : code ∉ codes ∧ upper ∉ codes := by
  obtain ⟨⟨low, high⟩, -, rfl⟩ := CaseRun.upper?_eq_some shifted
  constructor
  · intro member
    have outside := (aside code member).1
    omega
  · intro member
    have outside := (aside _ member).2
    omega

theorem toNat_ofNat {code : Nat} (valid : code.isValidChar) : (Char.ofNat code).toNat = code := by
  rw [show Char.ofNat code = Char.ofNatAux code valid from dif_pos valid]
  rfl

theorem ofNat_notMem (zero : Char.ofNat 0 ∉ marks) {code : Nat}
    (other : code ∉ marks.map Char.toNat) : Char.ofNat code ∉ marks := by
  by_cases valid : code.isValidChar
  · rwa [← toNat_mem_map, toNat_ofNat valid]
  · have same : Char.ofNat code = Char.ofNat 0 := dif_neg valid
    rw [same]
    exact zero

/-- What the tables have nothing of is neither changed nor made, if that is so within ASCII. -/
theorem uppercase_avoids_iff (zero : Char.ofNat 0 ∉ marks)
    (ascii : ∀ code < 0x80,
      (uppercase (Char.ofNat code)).all (· ∉ marks) ↔ Char.ofNat code ∉ marks)
    (long : ∀ entry ∈ longUppercase,
      entry.1 ∉ marks.map Char.toNat ∧ ∀ code ∈ entry.2, code ∉ marks.map Char.toNat)
    (runs : ∀ run ∈ caseRuns, run.Aside (marks.map Char.toNat)) (c : Char) :
    (∀ upper ∈ uppercase c, upper ∉ marks) ↔ c ∉ marks := by
  by_cases small : c.toNat < 0x80
  · have same := ascii c.toNat small
    rwa [Char.ofNat_toNat, List.all_iff_forall_prop] at same
  · have upper := @upper_of_uppercase c _ rfl
    generalize uppercase c = form at upper ⊢
    cases upper with
    | ascii low high => omega
    | @long forms beyond listed =>
        obtain ⟨here, there⟩ := long _ listed
        refine iff_of_true ?_ (toNat_mem_map.not.mp here)
        intro upper member
        obtain ⟨code, listed, rfl⟩ := List.mem_map.mp member
        exact ofNat_notMem zero (there code listed)
    | run beyond listed shifted =>
        obtain ⟨here, there⟩ := (runs _ listed).upper shifted
        refine iff_of_true ?_ (toNat_mem_map.not.mp here)
        exact List.forall_mem_singleton.mpr (ofNat_notMem zero there)
    | none stays => exact List.forall_mem_singleton

end Aside

/-! ## Upper case twice -/

/-- What the one run shifts to is not shifted by the other, for it lies outside of it or between its
characters. -/
def CaseRun.misses (run other : CaseRun) : Bool :=
  other.last.blt run.target || (run.last - run.first + run.target).blt other.first ||
    (run.step == 2 || run.first == run.last) && other.step == 2 &&
      (run.target + other.first) % 2 == 1

theorem CaseRun.upper?_of_misses {run other : CaseRun} (misses : run.misses other = true)
    {code upper : Nat} (shifted : run.upper? code = some upper) : other.upper? upper = none := by
  obtain ⟨⟨low, high⟩, whole, rfl⟩ := CaseRun.upper?_eq_some shifted
  simp only [CaseRun.misses, Bool.or_eq_true, Bool.and_eq_true, Nat.blt_eq, beq_iff_eq] at misses
  rw [Option.eq_none_iff_forall_ne_some]
  intro again shiftedAgain
  obtain ⟨⟨lowAgain, highAgain⟩, wholeAgain, -⟩ := CaseRun.upper?_eq_some shiftedAgain
  rcases misses with (above | below) | ⟨⟨even, step⟩, parity⟩
  · omega
  · omega
  · rw [step] at wholeAgain
    have offset : 2 ∣ code - run.first := by
      rcases even with even | single
      · rwa [even] at whole
      · omega
    omega

/-- A character that is in none of the tables. -/
theorem uppercase_eq_self {c : Char} (small : c.toNat < 0x61 ∨ 0x7a < c.toNat)
    (long : longUppercase.lookup c.toNat = none) (runs : ∀ run ∈ caseRuns, run.upper? c.toNat = none) :
    uppercase c = [c] := by
  unfold uppercase
  split
  · have other : ¬('a' ≤ c ∧ c ≤ 'z') := by
      rintro ⟨low, high⟩
      have above : 0x61 ≤ c.toNat := low
      have below : c.toNat ≤ 0x7a := high
      omega
    rw [if_neg other]
  · rw [long, List.findSome?_eq_none_iff.mpr runs]

/-- What a run shifts to is not shifted any further: it is no letter of ASCII in lower case, it has no
long form, and it is in no run. -/
theorem uppercase_of_shifted {run : CaseRun} (listed : run ∈ caseRuns) {code upper : Nat}
    (shifted : run.upper? code = some upper) :
    uppercase (Char.ofNat upper) = [Char.ofNat upper] := by
  -- Pairs of runs are compared by Booleans, since there are many of them.
  have missed : caseRuns.all (fun run => caseRuns.all run.misses) = true := by decide +kernel
  have apart : caseRuns.all (fun run =>
      let last := run.last - run.first + run.target
      (last.blt 0x61 || Nat.blt 0x7a run.target) && longUppercase.all fun entry =>
        entry.1.blt run.target || last.blt entry.1) = true := by decide +kernel
  simp only [List.all_eq_true, Bool.and_eq_true, Bool.or_eq_true, Nat.blt_eq] at missed apart
  obtain ⟨⟨low, high⟩, -, landed⟩ := CaseRun.upper?_eq_some shifted
  obtain ⟨letters, longs⟩ := apart run listed
  by_cases valid : upper.isValidChar
  · apply uppercase_eq_self
    · rw [toNat_ofNat valid]
      omega
    · rw [toNat_ofNat valid, List.lookup_eq_none_iff]
      intro entry member
      have outside := longs entry member
      exact bne_iff_ne.mpr (by omega)
    · rw [toNat_ofNat valid]
      exact fun other member => CaseRun.upper?_of_misses (missed run listed other member) shifted
  · have same : Char.ofNat upper = Char.ofNat 0 := dif_neg valid
    rw [same]
    decide

theorem uppercase_capital {c : Char} (ascii : c.toNat < 0x80) (capital : ¬('a' ≤ c ∧ c ≤ 'z')) :
    uppercase c = [c] := by
  rw [uppercase, if_pos ascii, if_neg capital]

/-- The first character of an upper-case form is its own upper-case form. -/
theorem uppercase_of_uppercase {c first : Char} {rest : List Char}
    (form : uppercase c = first :: rest) : uppercase first = [first] := by
  have long : ∀ entry ∈ longUppercase, ∀ code ∈ entry.2.head?,
      uppercase (Char.ofNat code) = [Char.ofNat code] := by decide +kernel
  have upper := upper_of_uppercase form
  generalize chosen : first :: rest = made at upper
  cases upper with
  | ascii low high =>
      cases chosen
      have same : (Char.ofNat (c.toNat - 0x20)).toNat = c.toNat - 0x20 :=
        toNat_ofNat (.inl (by omega))
      refine uppercase_capital (by omega) fun again => ?_
      have lowAgain : 0x61 ≤ (Char.ofNat (c.toNat - 0x20)).toNat := again.1
      omega
  | @long forms beyond listed =>
      cases forms with
      | nil => cases chosen
      | cons code codes =>
          cases chosen
          exact long _ listed code rfl
  | run beyond listed shifted =>
      cases chosen
      exact uppercase_of_shifted listed shifted
  | none stays =>
      cases chosen
      exact stays

end SchemaSharp.Text
