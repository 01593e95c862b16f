import SchemaSharp.Location.Percent
import SchemaSharp.Proofs.Text.Utf8

/-!
Percent escapes and their reading. What was escaped is read back as it was, whatever characters it
had. A text that is read without having been escaped stays as it is exactly if nothing in it looks
like an escape: each escape that is undone makes it shorter.
-/

namespace SchemaSharp.Location

open Text

/-! ## Escaped bytes -/

theorem hexValue?_upperHexDigit {n : Nat} (digit : n < 16) :
    hexValue? (upperHexDigit n) = some n := by
  interval_cases n <;> rfl

theorem ascii_of_hexValue? {c : Char} (digit : (hexValue? c).isSome) : c.toNat < 0x80 := by
  by_contra beyond
  have unread : hexValue? c = none := by
    have above : ∀ last : Char, last.toNat < 0x80 → ¬ c ≤ last := by
      intro last low same
      have below : c.toNat ≤ last.toNat := same
      omega
    simp [hexValue?, above '9' (by decide), above 'f' (by decide), above 'F' (by decide)]
  rw [unread] at digit
  cases digit

/-- What the escapes of a byte are written in: visible ASCII that ends neither a path nor a
query. -/
def isQuiet (c : Char) : Bool := 0x20 < c.toNat && c.toNat < 0x7f && c != '#' && c != '?'

theorem quiet_escapeByte (byte : UInt8) : ∀ c ∈ escapeByte byte, isQuiet c := by
  have every : ∀ n < 256, (escapeByte (UInt8.ofNat n)).all isQuiet := by decide +kernel
  have quiet := every byte.toNat byte.toNat_lt
  rw [UInt8.ofNat_toNat] at quiet
  exact List.all_eq_true.mp quiet

theorem quiet_escape (text : List Char) : ∀ c ∈ escape text, isQuiet c := by
  intro c member
  obtain ⟨byte, _, here⟩ := List.mem_flatMap.mp member
  exact quiet_escapeByte byte c here

/-! ## Escapes in a text -/

def startsEscape : List Char → Bool
  | '%' :: high :: low :: _ => (hexValue? high).isSome && (hexValue? low).isSome
  | _ => false

/-- Whether the text has a percent sign with two digits behind it. -/
def holdsEscape : List Char → Bool
  | [] => false
  | c :: rest => startsEscape (c :: rest) || holdsEscape rest

theorem startsEscape_of_ne {c : Char} (other : c ≠ '%') (rest : List Char) :
    startsEscape (c :: rest) = false := by
  unfold startsEscape
  split
  · next same => exact absurd (List.cons.inj same).1 other
  · rfl

theorem exists_of_startsEscape {text : List Char} (starts : startsEscape text) :
    ∃ high low rest, text = '%' :: high :: low :: rest ∧ (hexValue? high).isSome ∧
      (hexValue? low).isSome := by
  unfold startsEscape at starts
  split at starts
  · next high low rest => exact ⟨high, low, rest, rfl, by simpa using starts⟩
  · cases starts

theorem startsEscape_append_cons {c : Char} (beyond : 0x80 ≤ c.toNat) (before after : List Char) :
    startsEscape (before ++ c :: after) = startsEscape before := by
  have digit : (hexValue? c).isSome = false := by
    by_contra digit
    have ascii := ascii_of_hexValue? (Bool.of_not_eq_false digit)
    omega
  have other : c ≠ '%' := by
    rintro rfl
    exact absurd beyond (by decide)
  match before with
  | [] => exact startsEscape_of_ne other after
  | [d] => by_cases percent : d = '%' <;> cases after <;> simp [startsEscape, percent, digit]
  | [d, e] => by_cases percent : d = '%' <;> simp [startsEscape, percent, digit]
  | d :: e :: f :: rest => by_cases percent : d = '%' <;> simp [startsEscape, percent]

/-- Behind a character that no escape can have the text begins anew. -/
theorem holdsEscape_append_cons {c : Char} (beyond : 0x80 ≤ c.toNat) (before after : List Char) :
    holdsEscape (before ++ c :: after) = (holdsEscape before || holdsEscape after) := by
  induction before with
  | nil =>
      have starts : startsEscape (c :: after) = false := startsEscape_append_cons beyond [] after
      rw [List.nil_append, holdsEscape, holdsEscape, starts]
  | cons d rest ih =>
      have starts := startsEscape_append_cons beyond (d :: rest) after
      rw [List.cons_append] at starts ⊢
      rw [holdsEscape, holdsEscape, ih, starts, Bool.or_assoc]

/-! ## Reading bytes -/

theorem unescapeBytes_escape {high low : Char} {rest : List Char} {h l : Nat}
    (first : hexValue? high = some h) (second : hexValue? low = some l) :
    unescapeBytes ('%' :: high :: low :: rest) =
      UInt8.ofNat (16 * h + l) :: unescapeBytes rest := by
  rw [unescapeBytes, first, second]

theorem unescapeBytes_cons {c : Char} {rest : List Char}
    (plain : startsEscape (c :: rest) = false) :
    unescapeBytes (c :: rest) = UInt8.ofNat c.toNat :: unescapeBytes rest := by
  conv_lhs => unfold unescapeBytes
  split
  · next high low others same =>
      cases same
      simp only [startsEscape] at plain
      cases first : hexValue? high with
      | none => rfl
      | some h =>
          cases second : hexValue? low with
          | none => rfl
          | some l => simp [first, second] at plain
  · next same =>
      cases same
      rfl
  · next same => cases same

theorem unescapeBytes_escapeByte (byte : UInt8) (rest : List Char) :
    unescapeBytes (escapeByte byte ++ rest) = byte :: unescapeBytes rest := by
  have small := byte.toNat_lt
  unfold escapeByte
  split
  · next plain =>
      have every : ∀ n < 256, isPlainByte (UInt8.ofNat n) = true →
          (Char.ofNat n).toNat = n ∧ Char.ofNat n ≠ '%' := by decide +kernel
      obtain ⟨same, other⟩ := every byte.toNat small (by rwa [UInt8.ofNat_toNat])
      rw [List.singleton_append, unescapeBytes_cons (startsEscape_of_ne other rest), same,
        UInt8.ofNat_toNat]
  · have whole : 16 * (byte.toNat / 16) + byte.toNat % 16 = byte.toNat := by omega
    have high : hexValue? (upperHexDigit (byte.toNat / 16)) = some (byte.toNat / 16) :=
      hexValue?_upperHexDigit (by omega)
    have low : hexValue? (upperHexDigit (byte.toNat % 16)) = some (byte.toNat % 16) :=
      hexValue?_upperHexDigit (by omega)
    rw [List.cons_append, List.cons_append, List.cons_append, List.nil_append,
      unescapeBytes_escape high low, whole, UInt8.ofNat_toNat]

/-- Each escape is undone and stands for one byte. -/
theorem length_unescapeBytes (text : List Char) :
    (unescapeBytes text).length ≤ text.length ∧
      (holdsEscape text → (unescapeBytes text).length < text.length) := by
  -- behind an escape the reader goes on three characters later, so the list's own induction fails
  match text with
  | [] => exact ⟨le_rfl, nofun⟩
  | c :: rest =>
      by_cases starts : startsEscape (c :: rest)
      · obtain ⟨high, low, others, same, first, second⟩ := exists_of_startsEscape starts
        obtain ⟨h, first⟩ := Option.isSome_iff_exists.mp first
        obtain ⟨l, second⟩ := Option.isSome_iff_exists.mp second
        have size : rest.length = others.length + 2 := by simp [(List.cons.inj same).2]
        have fewer := (length_unescapeBytes others).1
        rw [same, unescapeBytes_escape first second]
        simp only [List.length_cons]
        exact ⟨by omega, fun _ => by omega⟩
      · have plain : startsEscape (c :: rest) = false := by simpa using starts
        obtain ⟨most, fewer⟩ := length_unescapeBytes rest
        rw [unescapeBytes_cons plain, holdsEscape, plain, Bool.false_or]
        simp only [List.length_cons]
        exact ⟨by omega, fun later => Nat.succ_lt_succ (fewer later)⟩
termination_by text.length

theorem unescapeBytes_plain {text : List Char} (plain : holdsEscape text = false) :
    unescapeBytes text = text.map fun c => UInt8.ofNat c.toNat := by
  induction text with
  | nil => rfl
  | cons c rest ih =>
      rw [holdsEscape, Bool.or_eq_false_iff] at plain
      rw [unescapeBytes_cons plain.1, ih plain.2, List.map_cons]

/-! ## Reading text -/

theorem unescapeFrom_append {part : List Char} (ascii : ∀ c ∈ part, c.toNat < 0x80)
    (stretch rest : List Char) :
    unescapeFrom stretch (part ++ rest) = unescapeFrom (part.reverse ++ stretch) rest := by
  induction part generalizing stretch with
  | nil => rfl
  | cons c others ih =>
      rw [List.cons_append, unescapeFrom, if_pos (ascii c (by simp)),
        ih fun other member => ascii other (List.mem_cons_of_mem _ member)]
      simp

/-- The part stands for the character, whatever bytes come behind it. -/
def StandsFor (part : List Char) (c : Char) : Prop :=
  ∀ bytes, Utf8.decodeLossy (unescapeBytes (part ++ bytes)) =
    c :: Utf8.decodeLossy (unescapeBytes bytes)

theorem unescapeFrom_standsFor {part : List Char} {c : Char} (stands : StandsFor part c)
    (stretch rest : List Char) :
    unescapeFrom (stretch ++ part.reverse) rest = c :: unescapeFrom stretch rest := by
  induction rest generalizing stretch with
  | nil =>
      rw [unescapeFrom, unescapeFrom, List.reverse_append, List.reverse_reverse]
      exact stands stretch.reverse
  | cons other rest ih =>
      rw [unescapeFrom, unescapeFrom]
      split
      · exact ih (other :: stretch)
      · rw [List.reverse_append, List.reverse_reverse]
        exact congrArg (· ++ _) (stands stretch.reverse)

theorem StandsFor.unescape_append {part : List Char} {c : Char} (stands : StandsFor part c)
    (ascii : ∀ c ∈ part, c.toNat < 0x80) (rest : List Char) :
    unescape (part ++ rest) = c :: unescape rest := by
  rw [unescape, unescapeFrom_append ascii, List.append_nil]
  exact unescapeFrom_standsFor stands [] rest

theorem ascii_escape (text : List Char) : ∀ c ∈ escape text, c.toNat < 0x80 := by
  intro c member
  have quiet := quiet_escape text c member
  simp only [isQuiet, Bool.and_eq_true, decide_eq_true_eq] at quiet
  omega

theorem standsFor_escape (c : Char) : StandsFor (escape [c]) c := by
  have bytes : ∀ encoded rest, unescapeBytes (encoded.flatMap escapeByte ++ rest) =
      encoded ++ unescapeBytes rest := by
    intro encoded rest
    induction encoded with
    | nil => rfl
    | cons byte others ih =>
        rw [List.flatMap_cons, List.append_assoc, unescapeBytes_escapeByte, ih, List.cons_append]
  intro rest
  rw [escape, bytes, Utf8.encode, List.flatMap_singleton, Utf8.decodeLossy,
    Utf8.scan_utf8EncodeChar]
  rfl

theorem escape_cons (c : Char) (text : List Char) : escape (c :: text) = escape [c] ++ escape text := by
  simp [escape, Utf8.encode]

/-- What was escaped is read back, whatever comes behind it. -/
theorem unescape_escape_append (text rest : List Char) :
    unescape (escape text ++ rest) = text ++ unescape rest := by
  induction text with
  | nil => rfl
  | cons c others ih =>
      rw [escape_cons, List.append_assoc,
        (standsFor_escape c).unescape_append (ascii_escape [c]), ih, List.cons_append]

/-- What was escaped is read back, whatever it was. -/
theorem unescape_escape (text : List Char) : unescape (escape text) = text := by
  have whole := unescape_escape_append text []
  rwa [List.append_nil, show unescape [] = [] from rfl, List.append_nil] at whole

theorem escape_injective : Function.Injective escape :=
  Function.LeftInverse.injective unescape_escape

theorem unescapeFrom_plain {stretch text : List Char} (ascii : ∀ c ∈ stretch, c.toNat < 0x80)
    (plain : holdsEscape (stretch.reverse ++ text) = false) :
    unescapeFrom stretch text = stretch.reverse ++ text := by
  induction text generalizing stretch with
  | nil =>
      rw [List.append_nil] at plain ⊢
      rw [unescapeFrom, unescapeBytes_plain plain, Utf8.decodeLossy_ascii (by simpa using ascii)]
  | cons c rest ih =>
      rw [unescapeFrom]
      split
      · next small =>
          rw [ih (by simpa using ⟨small, ascii⟩) (by simpa using plain)]
          simp
      · next beyond =>
          -- the stretch ends here, and no escape reaches across its end
          rw [holdsEscape_append_cons (by omega), Bool.or_eq_false_iff] at plain
          have behind : unescapeFrom [] rest = rest := @ih [] nofun plain.2
          rw [behind, unescapeBytes_plain plain.1, Utf8.decodeLossy_ascii (by simpa using ascii)]

theorem length_unescapeFrom (stretch text : List Char) :
    (unescapeFrom stretch text).length ≤ stretch.length + text.length ∧
      (holdsEscape (stretch.reverse ++ text) →
        (unescapeFrom stretch text).length < stretch.length + text.length) := by
  induction text generalizing stretch with
  | nil =>
      obtain ⟨most, fewer⟩ := length_unescapeBytes stretch.reverse
      have chars := Utf8.length_decodeLossy_le (unescapeBytes stretch.reverse)
      rw [List.length_reverse] at most fewer
      rw [unescapeFrom, List.append_nil]
      exact ⟨chars.trans most, fun holds => chars.trans_lt (fewer holds)⟩
  | cons c rest ih =>
      rw [unescapeFrom]
      split
      · obtain ⟨most, fewer⟩ := @ih (c :: stretch)
        simp only [List.length_cons, List.reverse_cons, List.append_assoc, List.singleton_append]
          at most fewer ⊢
        exact ⟨by omega, fun holds => by have := fewer holds; omega⟩
      · next beyond =>
          obtain ⟨most, fewer⟩ := length_unescapeBytes stretch.reverse
          obtain ⟨mostBehind, fewerBehind⟩ := @ih []
          have chars := Utf8.length_decodeLossy_le (unescapeBytes stretch.reverse)
          rw [List.length_reverse] at most fewer
          rw [holdsEscape_append_cons (by omega), Bool.or_eq_true]
          simp only [List.length_append, List.length_cons, List.length_nil, List.reverse_nil,
            List.nil_append] at mostBehind fewerBehind ⊢
          refine ⟨by omega, ?_⟩
          rintro (holds | holds)
          · have := fewer holds
            omega
          · have := fewerBehind holds
            omega

theorem length_unescape_lt {text : List Char} (holds : holdsEscape text) :
    (unescape text).length < text.length := by
  have shorter := (length_unescapeFrom [] text).2 holds
  rwa [List.length_nil, Nat.zero_add] at shorter

/-- A text stays as it is exactly if it has nothing to undo. -/
theorem unescape_eq_iff (text : List Char) : unescape text = text ↔ holdsEscape text = false := by
  constructor
  · intro same
    by_contra holds
    have shorter := length_unescape_lt (Bool.of_not_eq_false holds)
    rw [same] at shorter
    omega
  · exact fun plain => unescapeFrom_plain (by simp) plain

/-- A character that begins no escape is read on its own. -/
theorem unescape_cons {c : Char} (other : c ≠ '%') (text : List Char) :
    unescape (c :: text) = c :: unescape text := by
  by_cases ascii : c.toNat < 0x80
  · have stands : StandsFor [c] c := by
      intro bytes
      rw [List.singleton_append, unescapeBytes_cons (startsEscape_of_ne other bytes),
        Utf8.decodeLossy_cons (by rwa [Utf8.ofNat_toNat_ascii ascii]), Utf8.ofNat_toNat_ascii ascii,
        Char.ofNat_toNat]
    exact stands.unescape_append (by simpa using ascii) text
  · rw [unescape, unescapeFrom, if_neg ascii]
    rfl

theorem unescape_append {plain : List Char} (nothing : '%' ∉ plain) (rest : List Char) :
    unescape (plain ++ rest) = plain ++ unescape rest := by
  induction plain with
  | nil => rfl
  | cons c others ih =>
      rw [List.mem_cons, not_or] at nothing
      rw [List.cons_append, unescape_cons (Ne.symm nothing.1), ih nothing.2, List.cons_append]

theorem unescape_of_plain {text : List Char} (nothing : '%' ∉ text) : unescape text = text := by
  have whole := unescape_append nothing []
  rwa [List.append_nil, show unescape [] = [] from rfl, List.append_nil] at whole

end SchemaSharp.Location
