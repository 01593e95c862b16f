import Mathlib.Tactic.IntervalCases
import SchemaSharp.Text.Utf8

/-!
Text written as UTF-8 is read back as it was. The bytes of one character open it, give its bits from
the highest to the lowest, and leave nothing over; the narrow ranges behind some first bytes are met
because a character is neither a long form nor a surrogate.
-/

namespace SchemaSharp.Text.Utf8

/-! ## One byte at a time -/

section Bytes

variable {state : Pending} {byte : UInt8} (rest : List UInt8)

theorem scan_opened (opens : opening byte = .pending state) :
    scan none (byte :: rest) = scan (some state) rest := by
  rw [scan, opens]

theorem scan_ascii (ascii : byte.toNat < 0x80) :
    scan none (byte :: rest) = some (Char.ofNat byte.toNat) :: scan none rest := by
  rw [scan, opening]
  simp [ascii]

end Bytes

/-! ## First bytes -/

theorem opening_two {n : Nat} (low : 2 ≤ n) (high : n < 32) :
    opening (UInt8.ofNat (n + 0xc0)) = .pending ⟨1, n, 0x80, 0xbf⟩ := by
  interval_cases n <;> rfl

theorem opening_three {n : Nat} (high : n < 16) :
    opening (UInt8.ofNat (n + 0xe0)) =
      .pending ⟨2, n, if n = 0 then 0xa0 else 0x80, if n = 13 then 0x9f else 0xbf⟩ := by
  interval_cases n <;> rfl

theorem opening_four {n : Nat} (high : n < 5) :
    opening (UInt8.ofNat (n + 0xf0)) =
      .pending ⟨3, n, if n = 0 then 0x90 else 0x80, if n = 4 then 0x8f else 0xbf⟩ := by
  interval_cases n <;> rfl

/-! ## Later bytes -/

section Tails

variable {state : Pending} (n : Nat) (rest : List UInt8)

theorem toNat_tail : (UInt8.ofNat (n % 64 + 128)).toNat = n % 64 + 128 := by
  rw [UInt8.toNat_ofNat']
  omega

theorem scan_tail (fits : state.low ≤ n % 64 + 128 ∧ n % 64 + 128 ≤ state.high)
    (more : 1 < state.missing) :
    scan (some state) (UInt8.ofNat (n % 64 + 128) :: rest) =
      scan (some ⟨state.missing - 1, state.bits * 64 + n % 64, 0x80, 0xbf⟩) rest := by
  have unfinished : ¬ state.missing ≤ 1 := by omega
  rw [scan, toNat_tail]
  simp [fits, unfinished]

theorem scan_last_tail (fits : state.low ≤ n % 64 + 128 ∧ n % 64 + 128 ≤ state.high)
    (last : state.missing ≤ 1) :
    scan (some state) (UInt8.ofNat (n % 64 + 128) :: rest) =
      some (Char.ofNat (state.bits * 64 + n % 64)) :: scan none rest := by
  rw [scan, toNat_tail]
  simp [fits, last]

end Tails

/-! ## Characters -/

theorem scan_utf8EncodeChar (c : Char) (rest : List UInt8) :
    scan none (String.utf8EncodeChar c ++ rest) = some c :: scan none rest := by
  have valid : c.val.toNat < 0xd800 ∨ 0xdfff < c.val.toNat ∧ c.val.toNat < 0x110000 := c.valid
  have same : Char.ofNat c.val.toNat = c := Char.ofNat_toNat c
  unfold String.utf8EncodeChar
  generalize c.val.toNat = v at valid same
  dsimp only
  by_cases one : v ≤ 127
  · have byte : (UInt8.ofNat v).toNat = v := by
      rw [UInt8.toNat_ofNat']
      omega
    rw [if_pos one, List.singleton_append, scan_ascii rest (by omega), byte, same]
  by_cases two : v ≤ 2047
  · have bits : v / 64 % 32 * 64 + v % 64 = v := by omega
    rw [if_neg one, if_pos two, List.cons_append, List.singleton_append,
      scan_opened _ (opening_two (by omega) (by omega)),
      scan_last_tail v rest (by dsimp only; omega) le_rfl, bits, same]
  by_cases three : v ≤ 65535
  · have bits : (v / 4096 % 16 * 64 + v / 64 % 64) * 64 + v % 64 = v := by omega
    rw [if_neg one, if_neg two, if_pos three, List.cons_append, List.cons_append,
      List.singleton_append, scan_opened _ (opening_three (by omega)),
      scan_tail (v / 64) _ ?_ Nat.one_lt_two, scan_last_tail v rest (by dsimp only; omega) le_rfl,
      bits, same]
    -- the second byte is narrowed behind 0xe0, by `two`, and behind 0xed, where `valid` is needed
    dsimp only
    constructor <;> split <;> omega
  · have bits : ((v / 262144 % 8 * 64 + v / 4096 % 64) * 64 + v / 64 % 64) * 64 + v % 64 = v := by
      omega
    rw [if_neg one, if_neg two, if_neg three, List.cons_append, List.cons_append, List.cons_append,
      List.singleton_append, scan_opened _ (opening_four (by omega)),
      scan_tail (v / 4096) _ ?_ (by dsimp only; omega),
      scan_tail (v / 64) _ (by dsimp only; omega) (by dsimp only; omega),
      scan_last_tail v rest (by dsimp only; omega) le_rfl, bits, same]
    -- and behind 0xf0, by `three`, and 0xf4, where the characters end
    dsimp only
    constructor <;> split <;> omega

theorem decodeLossy_encode (text : List Char) : decodeLossy (encode text) = text := by
  have scanned : scan none (encode text) = text.map some := by
    induction text with
    | nil => rfl
    | cons c rest ih =>
        rw [encode, List.flatMap_cons, scan_utf8EncodeChar, List.map_cons]
        exact congrArg (some c :: ·) ih
  rw [decodeLossy, scanned, List.map_map]
  exact List.map_id text

/-! ## Lengths -/

/-- A character under way counts as one. -/
theorem length_scan_le (under : Option Pending) (bytes : List UInt8) :
    (scan under bytes).length ≤ bytes.length + under.toList.length := by
  fun_induction scan under bytes <;> simp at * <;> omega

theorem length_decodeLossy_le (bytes : List UInt8) : (decodeLossy bytes).length ≤ bytes.length := by
  rw [decodeLossy, List.length_map]
  exact length_scan_le none bytes

/-! ## ASCII -/

theorem decodeLossy_cons {byte : UInt8} (ascii : byte.toNat < 0x80) (bytes : List UInt8) :
    decodeLossy (byte :: bytes) = Char.ofNat byte.toNat :: decodeLossy bytes := by
  rw [decodeLossy, scan_ascii bytes ascii]
  rfl

theorem ofNat_toNat_ascii {c : Char} (ascii : c.toNat < 0x80) :
    (UInt8.ofNat c.toNat).toNat = c.toNat := by
  rw [UInt8.toNat_ofNat']
  omega

theorem decodeLossy_ascii {text : List Char} (ascii : ∀ c ∈ text, c.toNat < 0x80) :
    decodeLossy (text.map fun c => UInt8.ofNat c.toNat) = text := by
  induction text with
  | nil => rfl
  | cons c rest ih =>
      have small := ascii c (by simp)
      rw [List.map_cons, decodeLossy_cons (by rwa [ofNat_toNat_ascii small]),
        ofNat_toNat_ascii small, Char.ofNat_toNat,
        ih fun other member => ascii other (List.mem_cons_of_mem _ member)]

end SchemaSharp.Text.Utf8
