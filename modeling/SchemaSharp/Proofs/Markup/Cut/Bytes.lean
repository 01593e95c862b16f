import Mathlib.Data.List.Infix
import SchemaSharp.Proofs.Markup.Cut.Contents
import SchemaSharp.Proofs.Markup.Encodings
import SchemaSharp.Markup.Element

/-!
Documents of which only the first bytes are left. They are read in the same coding, and the
characters up to the cut are the same; so the root element is the one of the whole document, or the
markup is at fault.
-/

namespace SchemaSharp.Markup

/-! ## Characters -/

/-- What the first bytes are read as, and what all of them are: the same characters up to the cut,
where one may be left unfinished. -/
inductive ScanParted : List (Option Char) → List (Option Char) → Prop where
  | spent (rest : List (Option Char)) : ScanParted [] rest
  | unfinished (rest : List (Option Char)) : ScanParted [none] rest
  | cons (c : Option Char) {short whole : List (Option Char)} (parted : ScanParted short whole) :
      ScanParted (c :: short) (c :: whole)

theorem ScanParted.legalPart {short whole : List (Option Char)} (parted : ScanParted short whole) :
    ∃ cut : Cut, cut.Parted (legalPart short) (legalPart whole) := by
  induction parted with
  | spent rest => exact ⟨⟨[], Markup.legalPart rest, .inl rfl⟩, [], rfl, rfl⟩
  | unfinished rest => exact ⟨⟨['\x00'], Markup.legalPart rest, .inr rfl⟩, [], rfl, rfl⟩
  | cons c parted ih =>
      -- what may not occur ends both texts with a null, so that neither is cut
      have null : Cut.whole.Parted ['\x00'] ['\x00'] := ⟨['\x00'], rfl, rfl⟩
      cases c with
      | none => exact ⟨Cut.whole, null⟩
      | some c =>
          rw [Markup.legalPart, Markup.legalPart]
          split
          · exact ih.imp fun _ level => level.cons c
          · exact ⟨Cut.whole, null⟩

theorem ScanParted.append {short whole : List (Option Char)} (parted : ScanParted short whole)
    (found : List (Option Char)) : ScanParted (found ++ short) (found ++ whole) := by
  induction found with
  | nil => exact parted
  | cons c found ih => exact .cons c ih

/-- A byte completes some characters and may leave another one under way. -/
theorem utf8_step (under : Option Text.Utf8.Pending) (byte : UInt8) :
    ∃ found next, ∀ rest,
      Text.Utf8.scan under (byte :: rest) = found ++ Text.Utf8.scan next rest := by
  cases under with
  | none =>
      cases opens : Text.Utf8.opening byte with
      | scalar c => exact ⟨[some c], none, fun rest => by simp [Text.Utf8.scan, opens]⟩
      | stray => exact ⟨[none], none, fun rest => by simp [Text.Utf8.scan, opens]⟩
      | pending state => exact ⟨[], some state, fun rest => by simp [Text.Utf8.scan, opens]⟩
  | some state =>
      by_cases fits : state.low ≤ byte.toNat ∧ byte.toNat ≤ state.high
      · by_cases last : state.missing ≤ 1
        · exact ⟨[_], none, fun rest => by rw [Text.Utf8.scan]; simp [fits, last]; rfl⟩
        · exact ⟨[], some _, fun rest => by rw [Text.Utf8.scan]; simp [fits, last]; rfl⟩
      · cases opens : Text.Utf8.opening byte with
        | scalar c =>
            exact ⟨[none, some c], none, fun rest => by simp [Text.Utf8.scan, fits, opens]⟩
        | stray =>
            exact ⟨[none, none], none, fun rest => by simp [Text.Utf8.scan, fits, opens]⟩
        | pending next =>
            exact ⟨[none], some next, fun rest => by simp [Text.Utf8.scan, fits, opens]⟩

theorem utf8_parted (under : Option Text.Utf8.Pending) (front more : List UInt8) :
    ScanParted (Text.Utf8.scan under front) (Text.Utf8.scan under (front ++ more)) := by
  induction front generalizing under with
  | nil =>
      cases under with
      | none => exact .spent _
      | some state => exact .unfinished _
  | cons byte front ih =>
      obtain ⟨found, next, steps⟩ := utf8_step under byte
      rw [List.cons_append, steps, steps]
      exact (ih next).append found

theorem units_step (bigEndian : Bool) (lead : Option Nat) (first second : UInt8) :
    ∃ found next, ∀ rest,
      scanUnits bigEndian lead (first :: second :: rest) =
        found ++ scanUnits bigEndian next rest := by
  cases lead with
  | some high =>
      simp only [scanUnits]
      generalize (if bigEndian then 256 * first.toNat + second.toNat
        else 256 * second.toNat + first.toNat) = unit
      split
      · exact ⟨[_], none, fun rest => rfl⟩
      · exact ⟨[none], none, fun rest => rfl⟩
  | none =>
      simp only [scanUnits]
      generalize (if bigEndian then 256 * first.toNat + second.toNat
        else 256 * second.toNat + first.toNat) = unit
      split
      · exact ⟨[], some unit, fun rest => rfl⟩
      · split
        · exact ⟨[none], none, fun rest => rfl⟩
        · exact ⟨[some _], none, fun rest => rfl⟩

theorem units_parted (bigEndian : Bool) (lead : Option Nat) :
    (front more : List UInt8) →
      ScanParted (scanUnits bigEndian lead front) (scanUnits bigEndian lead (front ++ more))
  | [], more => by
      cases lead with
      | none => exact .spent _
      | some high => exact .unfinished _
  | [_], more => by
      rw [scanUnits]
      exact .unfinished _
  | first :: second :: front, more => by
      obtain ⟨found, next, steps⟩ := units_step bigEndian lead first second
      rw [List.cons_append, List.cons_append, steps, steps]
      exact (units_parted bigEndian next front more).append found

theorem page_parted (upper : List Char) (lost : List Nat) (front more : List UInt8) :
    ScanParted (front.map (pageChar upper lost)) ((front ++ more).map (pageChar upper lost)) := by
  induction front with
  | nil => exact .spent _
  | cons byte front ih => exact .cons _ ih

theorem Coding.read_parted (coding : Coding) {front content : List UInt8}
    (cut : front <+: content) :
    ∃ cut : Cut, cut.Parted (coding.read front) (coding.read content) := by
  obtain ⟨more, rfl⟩ := cut
  apply ScanParted.legalPart
  cases coding with
  | utf8 => exact utf8_parted none front more
  | utf16 bigEndian => exact units_parted bigEndian none front more
  | page upper lost => exact page_parted upper.toList lost front more

/-! ## The coding -/

/-- Two bytes show the coding unless they may be half a mark, and three always do. -/
theorem detect_append {front : List UInt8} (enough : 2 ≤ front.length)
    (other : front ≠ [0xef, 0xbb]) (more : List UInt8) :
    Coding.detect (front ++ more) =
      ((Coding.detect front).1, (Coding.detect front).2 ++ more) := by
  match front with
  | [] => simp at enough
  | [_] => simp at enough
  -- half a mark would be taken for text, which `other` excludes
  | [first, second] =>
      unfold Coding.detect
      split
      all_goals
        split
        all_goals simp_all
  | first :: second :: third :: rest =>
      unfold Coding.detect
      split
      all_goals
        split
        all_goals simp_all

/-! ## The declaration -/

variable {cut : Cut} {short whole : List Char}

/-- The text ends before it is clear whether it begins with a declaration. -/
def HalfDeclared (text : List Char) : Prop :=
  ∃ n ≤ "<?xml".length, ∃ rear ∈ [[], ['\x00']], text = "<?xml".toList.take n ++ rear

theorem declarationRest?_of_short {shortRest : List Char} (parted : cut.Parted short whole)
    (declared : declarationRest? short = some shortRest) :
    ∃ rest, declarationRest? whole = some rest ∧ cut.Parted shortRest rest := by
  obtain ⟨begins, head⟩ := declarationRest?_eq_some.mp declared
  obtain ⟨rest, beginsToo, level⟩ :=
    parted.dropHead (by decide) (Text.dropHead_eq_some_iff.mpr begins)
  refine ⟨rest, declarationRest?_eq_some.mpr ⟨Text.dropHead_eq_some_iff.mp beginsToo, ?_⟩, level⟩
  rcases level.cases with none | ⟨c, text, textToo, rfl, rfl, _⟩
  · rcases none.cases with rfl | rfl <;> cases head
  · exact head

theorem declarationRest?_of_whole {rest : List Char} (parted : cut.Parted short whole)
    (declared : declarationRest? whole = some rest) :
    (∃ shortRest, declarationRest? short = some shortRest ∧ cut.Parted shortRest rest) ∨
      HalfDeclared short := by
  obtain ⟨rfl, head⟩ := declarationRest?_eq_some.mp declared
  have either {rear : List Char} (none : cut.Spent rear) : rear ∈ [[], ['\x00']] := by
    simpa using none.cases
  rcases parted.begun with ⟨shortRest, rfl, level⟩ | ⟨n, fewer, rear, none, rfl⟩
  · rcases level.cases with none | ⟨c, text, textToo, rfl, rfl, _⟩
    · exact .inr ⟨5, Nat.le_refl 5, shortRest, either none, rfl⟩
    · exact .inl ⟨c :: text, declarationRest?_eq_some.mpr ⟨rfl, head⟩, level⟩
  · exact .inr ⟨n, Nat.le_of_lt fewer, rear, either none, rfl⟩

theorem declarationRest?_of_half (half : HalfDeclared short) : declarationRest? short = none := by
  have every : ∀ n ≤ 5, ∀ rear ∈ [[], ['\x00']],
      declarationRest? ("<?xml".toList.take n ++ rear) = none := by decide
  obtain ⟨n, few, rear, last, rfl⟩ := half
  exact every n few rear last

theorem decodeRest_parted {body bodyToo : List UInt8} {coding : Coding} {declaration : Declaration}
    {standalone : Bool} {inner left leftToo : List Char} (part : body <+: bodyToo)
    (level : cut.Parted left leftToo)
    (decoded : decodeRest coding bodyToo inner leftToo declaration = .ok (standalone, whole)) :
    ∃ short, decodeRest coding body inner left declaration = .ok (standalone, short) ∧
      ∃ cut : Cut, cut.Parted short whole := by
  unfold decodeRest at decoded ⊢
  cases named : declaration.encoding with
  | none =>
      rw [named] at decoded
      cases decoded
      exact ⟨left, rfl, cut, level⟩
  | some name =>
      rw [named] at decoded
      dsimp only at decoded ⊢
      cases chosen : coding.named name with
      | error fault =>
          rw [chosen] at decoded
          cases decoded
      | ok chosenCoding =>
          rw [chosen] at decoded
          cases decoded
          exact ⟨_, rfl, chosenCoding.read_parted (part.drop _)⟩

/-- What is decoded of the first bytes: nothing, the text up to the cut, or too little to tell. -/
theorem decode_parted {front content body bodyToo : List UInt8} {coding : Coding}
    {standalone : Bool} (detected : Coding.detect front = (coding, body))
    (detectedToo : Coding.detect content = (coding, bodyToo)) (part : body <+: bodyToo)
    (decoded : decode content = .ok (standalone, whole)) :
    decode front = .error .malformed ∨
      (∃ short, decode front = .ok (standalone, short) ∧ ∃ cut : Cut, cut.Parted short whole) ∨
      ∃ short, decode front = .ok (false, short) ∧ HalfDeclared short := by
  obtain ⟨cut, parted⟩ := coding.read_parted part
  cases declared : declarationRest? (coding.read bodyToo) with
  | none =>
      -- then there is none in the short text, which has nothing else in front
      cases here : declarationRest? (coding.read body) with
      | some shortRest =>
          obtain ⟨rest, there, _⟩ := declarationRest?_of_short parted here
          cases declared.symm.trans there
      | none =>
          rw [decode_undeclared detectedToo declared] at decoded
          cases decoded
          exact .inr (.inl ⟨_, decode_undeclared detected here, cut, parted⟩)
  | some rest =>
      rcases declarationRest?_of_whole parted declared with ⟨shortRest, here, level⟩ | half
      · -- where the declaration ends before the cut, both name the same coding
        rw [decode_declared detectedToo declared] at decoded
        rw [decode_declared detected here]
        cases ended : textUntil ['?', '>'] shortRest with
        | none => exact .inl rfl
        | some found =>
            obtain ⟨inner, left⟩ := found
            obtain ⟨leftToo, endedToo, behind⟩ := level.textUntil (by decide) (by decide) ended
            rw [endedToo] at decoded
            dsimp only at decoded ⊢
            cases told : Declaration.ofChars inner with
            | none =>
                rw [told] at decoded
                cases decoded
            | some declaration =>
                rw [told] at decoded
                exact .inr (.inl (decodeRest_parted part behind decoded))
      · have here := declarationRest?_of_half half
        exact .inr (.inr ⟨_, decode_undeclared detected here, half⟩)

/-! ## Documents -/

/-- Is the markup at fault? -/
def isMalformed {α : Type} : Except Fault α → Bool
  | .error .malformed => true
  | _ => false

theorem isMalformed_iff {α : Type} {result : Except Fault α} :
    isMalformed result ↔ result = .error .malformed := by
  rcases result with (_ | _ | _ | _ | _) | _ <;> simp [isMalformed]

/-- No document is shorter than a mark of byte order. -/
theorem eventsOf_short {front : List UInt8} (short : ¬ (2 ≤ front.length ∧ front ≠ [0xef, 0xbb])) :
    eventsOf front = .error .malformed := by
  -- one byte may be the first half of a character, so that the coding seen is another one
  have single : ∀ byte : Fin 256, isMalformed (eventsOf [UInt8.ofFin byte]) := by decide +kernel
  have half : isMalformed (eventsOf [0xef, 0xbb]) := by decide +kernel
  match front with
  | [] => rfl
  | [byte] => exact isMalformed_iff.mp (single byte.toFin)
  | first :: second :: rest =>
      have same : first :: second :: rest = [0xef, 0xbb] := by simpa using short
      rw [same]
      exact isMalformed_iff.mp half

/-- The beginning of a declaration is no document either. -/
theorem documentEvents_half (half : HalfDeclared short) :
    (documentEvents false).run short = .error .malformed := by
  have every : ∀ n ≤ 5, ∀ rear ∈ [[], ['\x00']],
      isMalformed ((documentEvents false).run ("<?xml".toList.take n ++ rear)) := by
    decide +kernel
  obtain ⟨n, few, rear, last, rfl⟩ := half
  exact isMalformed_iff.mp (every n few rear last)

theorem eventsOf_decoded {content : List UInt8} {standalone : Bool}
    (decoded : decode content = .ok (standalone, whole)) :
    eventsOf content = ((documentEvents standalone).run whole).map Prod.fst := by
  rw [eventsOf, decoded]
  rfl

/-- The events of the first bytes are those of the whole document, or the markup is at fault. -/
theorem eventsOf_prefix {front content : List UInt8} {events : List Event} (part : front <+: content)
    (read : eventsOf content = .ok events) :
    eventsOf front = .ok events ∨ ∃ fault, fault.isMarkup ∧ eventsOf front = .error fault := by
  by_cases enough : 2 ≤ front.length ∧ front ≠ [0xef, 0xbb]
  · obtain ⟨more, rfl⟩ := part
    have detected := detect_append enough.1 enough.2 more
    cases decoded : decode (front ++ more) with
    | error fault =>
        rw [eventsOf, decoded] at read
        cases read
    | ok found =>
        obtain ⟨standalone, whole⟩ := found
        rw [eventsOf_decoded decoded] at read
        obtain ⟨⟨_, left⟩, there, rfl⟩ := ok_of_map read
        rcases decode_parted rfl detected (List.prefix_append _ _) decoded with
          failed | ⟨short, decodedShort, cut, parted⟩ | ⟨short, decodedShort, half⟩
        · exact .inr ⟨.malformed, rfl, by rw [eventsOf, failed]⟩
        · rw [eventsOf_decoded decodedShort]
          cases here : (documentEvents standalone).run short with
          | error fault =>
              exact .inr ⟨fault, Cut.failsInMarkup_documentEvents _ _ _ here, rfl⟩
          | ok found =>
              exact .inl (congrArg Except.ok (Cut.documentEvents_agree parted here there))
        · rw [eventsOf_decoded decodedShort, documentEvents_half half]
          exact .inr ⟨.malformed, rfl, rfl⟩
  · exact .inr ⟨.malformed, rfl, eventsOf_short enough⟩

namespace Element

/-- The root element of a document that is cut off is the one of the whole document, or the markup
is at fault. -/
theorem ofBytes_prefix {front content : List UInt8} {root : Element} (part : front <+: content)
    (read : ofBytes content = .ok root) :
    ofBytes front = .ok root ∨ ∃ fault, fault.isMarkup ∧ ofBytes front = .error fault := by
  unfold ofBytes at read ⊢
  cases parsed : eventsOf content with
  | error fault =>
      rw [parsed] at read
      cases read
  | ok events =>
      rw [parsed] at read
      rcases eventsOf_prefix part parsed with same | ⟨fault, markup, failed⟩
      · rw [same]
        exact .inl read
      · rw [failed]
        exact .inr ⟨fault, markup, rfl⟩

/-- A document fails for the encoding that it names, or as any markup does. -/
theorem ofBytes_fails_iff {content : List UInt8} {fault : CharsetFault} :
    ofBytes content = .error (.ofCharset fault) ↔
      (declaredEncoding? content).bind encodingFault? = some fault := by
  rw [← decode_fails_iff, ofBytes]
  cases decoded : decode content with
  | error other =>
      rw [eventsOf, decoded]
      constructor
      · rintro ⟨⟩
        rfl
      · rintro ⟨⟩
        rfl
  | ok found =>
      have foreign := Fault.ofCharset_not_isMarkup fault
      rw [eventsOf_decoded decoded]
      constructor
      · intro failed
        cases ran : (documentEvents found.1).run found.2 with
        | error other =>
            rw [ran] at failed
            cases failed
            exact absurd (Cut.failsInMarkup_documentEvents _ _ _ ran) foreign
        | ok result =>
            -- the events are there, so that only the tree can be missing
            rw [ran] at failed
            dsimp only [Except.map] at failed
            split at failed
            · cases failed
            · exact absurd (Except.error.inj failed) (Fault.malformed_ne_ofCharset fault)
      · intro failed
        cases failed

end Element

end SchemaSharp.Markup
