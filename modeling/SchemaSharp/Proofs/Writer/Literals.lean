import Mathlib.Algebra.Ring.Parity
import SchemaSharp.Writer

/-!
Texts as arguments of markers. A literal is ended by its last quote and by no other: each quote inside
has an odd number of backslashes right before it, and the last one an even number. Reading the escapes
from left to right gives the text back, however many backslashes and quotes it has in a row.
-/

namespace SchemaSharp.Writer

/-- Each occurrence of a character replaced by a text. -/
def replaceEach (old : Char) (new text : List Char) : List Char :=
  text.flatMap fun c => if c = old then new else [c]

/-- Reads escapes from left to right. A backslash before any other character stands for itself. -/
def unescapeLiteral : List Char → List Char
  | '\\' :: '\\' :: rest => '\\' :: unescapeLiteral rest
  | '\\' :: '"' :: rest => '"' :: unescapeLiteral rest
  | c :: rest => c :: unescapeLiteral rest
  | [] => []

/-- The length of the run of backslashes that a text ends in. -/
def closingSlashes (text : List Char) : Nat := (text.reverse.takeWhile (· == '\\')).length

/-- A text and what stands for it between the quotes of a literal. -/
inductive Escapes : List Char → List Char → Prop where
  | nil : Escapes [] []
  | slash {text body : List Char} (rest : Escapes text body) :
      Escapes ('\\' :: text) ('\\' :: '\\' :: body)
  | quote {text body : List Char} (rest : Escapes text body) :
      Escapes ('"' :: text) ('\\' :: '"' :: body)
  | plain {c : Char} {text body : List Char} (noSlash : c ≠ '\\') (noQuote : c ≠ '"')
      (rest : Escapes text body) : Escapes (c :: text) (c :: body)

theorem escapes_escapeLiteral (text : List Char) : Escapes text (escapeLiteral text) := by
  induction text with
  | nil => exact .nil
  | cons c rest ih =>
      by_cases slash : c = '\\'
      · exact slash ▸ .slash ih
      · by_cases quote : c = '"'
        · exact quote ▸ .quote ih
        · have alone : escapeLiteral (c :: rest) = c :: escapeLiteral rest := by
            simp [escapeLiteral, slash, quote]
          exact alone ▸ .plain slash quote ih

/-- Backslashes are doubled first, and then each quote gets one. -/
theorem Escapes.replaced {text body : List Char} (escapes : Escapes text body) :
    body = replaceEach '"' ['\\', '"'] (replaceEach '\\' ['\\', '\\'] text) := by
  induction escapes with
  | nil => rfl
  | slash _ ih =>
      rw [ih]
      rfl
  | quote _ ih =>
      rw [ih]
      rfl
  | plain noSlash noQuote _ ih =>
      rw [ih]
      simp [replaceEach, noSlash, noQuote]

/-- The other way round a quote ends up behind two backslashes, where it ends the literal. -/
example : replaceEach '\\' ['\\', '\\'] (replaceEach '"' ['\\', '"'] ['"']) =
    ['\\', '\\', '"'] := rfl

theorem Escapes.unescape {text body : List Char} (escapes : Escapes text body) :
    unescapeLiteral body = text := by
  induction escapes with
  | nil => rfl
  | slash _ ih => exact congrArg ('\\' :: ·) ih
  | quote _ ih => exact congrArg ('"' :: ·) ih
  | plain noSlash _ _ ih =>
      unfold unescapeLiteral
      split <;> simp_all

/-! ## Runs of backslashes -/

/-- A run of backslashes does not reach over another character. -/
theorem closingSlashes_append_cons {c : Char} (other : c ≠ '\\') (front back : List Char) :
    closingSlashes (front ++ c :: back) = closingSlashes back := by
  unfold closingSlashes
  rw [List.reverse_append, List.reverse_cons, List.append_assoc, List.takeWhile_append]
  split
  · simp [*]
  · rfl

theorem closingSlashes_cons {c : Char} (other : c ≠ '\\') (back : List Char) :
    closingSlashes (c :: back) = closingSlashes back :=
  closingSlashes_append_cons other [] back

theorem closingSlashes_quote (back : List Char) :
    closingSlashes ('\\' :: '"' :: back) = closingSlashes back :=
  closingSlashes_append_cons (by decide) ['\\'] back

/-- Two more backslashes in front make the run longer by two, or not at all. -/
theorem even_closingSlashes_pair (back : List Char) :
    Even (closingSlashes ('\\' :: '\\' :: back)) ↔ Even (closingSlashes back) := by
  unfold closingSlashes
  rw [List.reverse_cons, List.reverse_cons, List.append_assoc, List.takeWhile_append]
  split
  · next whole =>
      rw [List.length_append, whole, Nat.even_add]
      simp +decide
  · rfl

/-- So the quote that ends the literal is not taken for one of the text. -/
theorem Escapes.even_closingSlashes {text body : List Char} (escapes : Escapes text body) :
    Even (closingSlashes body) := by
  induction escapes with
  | nil => decide
  | slash _ ih => exact (even_closingSlashes_pair _).mpr ih
  | quote _ ih => rwa [closingSlashes_quote]
  | plain noSlash _ _ ih => rwa [closingSlashes_cons noSlash]

/-- A quote of the text stands behind its own backslash and pairs of them. -/
theorem Escapes.odd_closingSlashes {text body front back : List Char} (escapes : Escapes text body)
    (split : body = front ++ '"' :: back) : Odd (closingSlashes front) := by
  induction escapes generalizing front with
  | nil => simp at split
  | slash _ ih =>
      -- The first two characters are no quotes, so the quote is further behind.
      match front with
      | [] => simp at split
      | [_] => simp at split
      | _ :: _ :: front =>
          obtain ⟨rfl, rfl, later⟩ : _ ∧ _ ∧ _ := by simpa using split
          rw [← Nat.not_even_iff_odd, even_closingSlashes_pair, Nat.not_even_iff_odd]
          exact ih later
  | quote _ ih =>
      -- The quote is the one that was escaped here, or one behind it.
      match front with
      | [] => simp at split
      | [_] =>
          obtain ⟨rfl, -⟩ : _ ∧ _ := by simpa using split
          decide
      | _ :: _ :: front =>
          obtain ⟨rfl, rfl, later⟩ : _ ∧ _ ∧ _ := by simpa using split
          rw [closingSlashes_quote]
          exact ih later
  | plain noSlash noQuote _ ih =>
      match front with
      | [] => simp [noQuote] at split
      | _ :: front =>
          obtain ⟨rfl, later⟩ : _ ∧ _ := by simpa using split
          rw [closingSlashes_cons noSlash]
          exact ih later

/-! ## Literals -/

theorem toList_textLiteral (text : String) :
    (textLiteral text).toList = '"' :: escapeLiteral text.toList ++ ['"'] := by
  simp [textLiteral]

/-- The literal of a text begins and ends with a quote. In between, backslashes are doubled and then
each quote gets one; so none of those quotes ends the literal, the last one does, and undoing the
escapes from left to right gives the text. Different texts have different literals. -/
theorem literals_hold_texts (text : String) :
    (∃ body, (ArgumentValue.text text).literal.toList = '"' :: body ++ ['"'] ∧
      body = replaceEach '"' ['\\', '"'] (replaceEach '\\' ['\\', '\\'] text.toList) ∧
      (∀ front back, body = front ++ '"' :: back → Odd (closingSlashes ('"' :: front))) ∧
      Even (closingSlashes ('"' :: body)) ∧ unescapeLiteral body = text.toList) ∧
    ∀ other : String, (ArgumentValue.text other).literal = (ArgumentValue.text text).literal →
      other = text := by
  have quote : '"' ≠ '\\' := by decide
  have escapes := escapes_escapeLiteral text.toList
  constructor
  · refine ⟨escapeLiteral text.toList, toList_textLiteral text, escapes.replaced, ?_, ?_,
      escapes.unescape⟩
    · intro front back split
      rw [closingSlashes_cons quote]
      exact escapes.odd_closingSlashes split
    · rw [closingSlashes_cons quote]
      exact escapes.even_closingSlashes
  · intro other same
    have bodies : escapeLiteral other.toList = escapeLiteral text.toList := by
      have whole := congrArg String.toList same
      simp only [ArgumentValue.literal, toList_textLiteral] at whole
      exact List.append_cancel_right (List.cons.inj whole).2
    have undone := (escapes_escapeLiteral other.toList).unescape
    rw [bodies, escapes.unescape] at undone
    exact String.toList_inj.mp undone.symm

end SchemaSharp.Writer
