import SchemaSharp.Proofs.Markup.Cut
import SchemaSharp.Markup.Coding

/-!
Encodings that a document names. A text that begins with a declaration is read on in the coding
named there, if any; what is wrong with a name can be told from the name alone. No other part of
decoding fails in a way of its own.
-/

namespace SchemaSharp.Markup

/-! ## Declarations -/

/-- What stands behind the beginning of a declaration, if the text begins with one. -/
def declarationRest? (text : List Char) : Option (List Char) :=
  match Text.dropHead text "<?xml".toList with
  | some (c :: rest) => if isSpace c || c == '?' then some (c :: rest) else none
  | _ => none

theorem declarationRest?_eq_some {text rest : List Char} :
    declarationRest? text = some rest ↔
      text = "<?xml".toList ++ rest ∧ rest.head?.any fun c => isSpace c || c == '?' := by
  rw [← Text.dropHead_eq_some_iff, declarationRest?]
  cases Text.dropHead text "<?xml".toList with
  | none => simp
  | some found =>
      cases found with
      | nil =>
          constructor
          · intro found
            cases found
          · rintro ⟨same, head⟩
            cases same
            cases head
      | cons c behind =>
          dsimp only
          split
          · next declares =>
              constructor
              · rintro ⟨⟩
                exact ⟨rfl, declares⟩
              · rintro ⟨same, -⟩
                exact same
          · next other =>
              constructor
              · intro found
                cases found
              · rintro ⟨same, head⟩
                cases same
                exact absurd head other

/-- What follows a declaration, in the coding that it names. -/
def decodeRest (coding : Coding) (body : List UInt8) (inner after : List Char)
    (declaration : Declaration) : Except Fault (Bool × List Char) :=
  match declaration.encoding with
  | none => .ok (declaration.standalone, after)
  | some name =>
      match coding.named name with
      | .error fault => .error fault
      | .ok chosen =>
          let length := "<?xml".length + inner.length + "?>".length
          .ok (declaration.standalone, chosen.read (body.drop (coding.width * length)))

theorem decode_undeclared {bytes body : List UInt8} {coding : Coding}
    (detected : Coding.detect bytes = (coding, body))
    (bare : declarationRest? (coding.read body) = none) :
    decode bytes = .ok (false, coding.read body) := by
  rw [decode, detected]
  rw [declarationRest?] at bare
  dsimp only
  cases dropped : Text.dropHead (coding.read body) "<?xml".toList with
  | none => rfl
  | some found =>
      cases found with
      | nil => rfl
      | cons c rest =>
          rw [dropped] at bare
          dsimp only at bare ⊢
          split at bare
          · cases bare
          · next other => rw [if_pos (by simpa using other)]

theorem decode_declared {bytes body : List UInt8} {coding : Coding} {rest : List Char}
    (detected : Coding.detect bytes = (coding, body))
    (declared : declarationRest? (coding.read body) = some rest) :
    decode bytes =
      match textUntil ['?', '>'] rest with
      | none => .error .malformed
      | some (inner, after) =>
          match Declaration.ofChars inner with
          | none => .error .malformed
          | some declaration => decodeRest coding body inner after declaration := by
  obtain ⟨begins, head⟩ := declarationRest?_eq_some.mp declared
  cases rest with
  | nil => cases head
  | cons c rest =>
      have declares : (isSpace c || c == '?') = true := head
      rw [decode, detected]
      dsimp only
      rw [Text.dropHead_eq_some_iff.mpr begins]
      dsimp only
      rw [declares]
      rfl

/-! ## Names of encodings -/

/-- The declaration that a document begins with. -/
def declaration? (content : List UInt8) : Option Declaration := do
  let rest ← declarationRest? ((Coding.detect content).1.read (Coding.detect content).2)
  let (inner, _) ← textUntil ['?', '>'] rest
  Declaration.ofChars inner

/-- The encoding that a document names. -/
def declaredEncoding? (content : List UInt8) : Option String :=
  (declaration? content).bind Declaration.encoding

/-- The encodings that every reader of markup knows. -/
def nativeEncodings : List String :=
  ["utf-8", "iso-8859-1", "us-ascii", "utf-16", "utf-16be", "utf-16le"]

def isNative (name : String) : Bool :=
  nativeEncodings.contains (String.ofList (name.toList.map Char.toLower))

/-- What is wrong with the name of an encoding: nobody knows it, it is none of texts, or it needs
several bytes for a character. -/
def encodingFault? (name : String) : Option CharsetFault :=
  if isNative name then none
  else
    match charset? name with
    | none => some (.unknown name)
    | some .notText => some (.notText name)
    | some .multiByte => some .multiByte
    | some _ => none

def Fault.ofCharset : CharsetFault → Fault
  | .unknown name => .unknownCharset name
  | .notText name => .notTextCharset name
  | .multiByte => .multiByteCharset

theorem Fault.ofCharset_inj {fault other : CharsetFault} :
    ofCharset fault = ofCharset other ↔ fault = other := by
  cases fault <;> cases other <;> simp [ofCharset]

theorem Fault.malformed_ne_ofCharset (fault : CharsetFault) : .malformed ≠ ofCharset fault := by
  cases fault <;> simp [ofCharset]

theorem Fault.isMarkup_or_ofCharset (fault : Fault) :
    fault.isMarkup ∨ ∃ other, fault = ofCharset other := by
  cases fault with
  | malformed => exact .inl rfl
  | entityDeclared name systemId publicId => exact .inl rfl
  | unknownCharset name => exact .inr ⟨.unknown name, rfl⟩
  | notTextCharset name => exact .inr ⟨.notText name, rfl⟩
  | multiByteCharset => exact .inr ⟨.multiByte, rfl⟩

theorem Fault.ofCharset_not_isMarkup (fault : CharsetFault) : ¬ (ofCharset fault).isMarkup := by
  cases fault <;> exact Bool.false_ne_true

variable {name : String} {coding : Coding}

/-- A native encoding may only be of the wrong width. -/
theorem named_native {fault : Fault} (native : isNative name)
    (failed : coding.named name = .error fault) : fault = .malformed := by
  unfold isNative at native
  unfold Coding.named at failed
  generalize String.ofList (name.toList.map Char.toLower) = folded at native failed
  simp only [nativeEncodings, List.contains_eq_mem, List.mem_cons, List.not_mem_nil, or_false,
    decide_eq_true_eq] at native
  rcases native with rfl | rfl | rfl | rfl | rfl | rfl
  all_goals
    rcases coding with _ | (_ | _) | _ <;> cases failed <;> rfl

theorem named_foreign (foreign : ¬ isNative name) :
    coding.named name =
      match charset? name with
      | none => .error (.unknownCharset name)
      | some .notText => .error (.notTextCharset name)
      | some .multiByte => .error .multiByteCharset
      | some .clash => .error .malformed
      | some (.page upper lost) => .ok (.page upper lost) := by
  unfold isNative at foreign
  unfold Coding.named
  generalize String.ofList (name.toList.map Char.toLower) = folded at foreign
  dsimp only
  split
  iterate 9 exact absurd rfl foreign
  rfl

theorem named_of_fault {fault : CharsetFault} (wrong : encodingFault? name = some fault) :
    coding.named name = .error (.ofCharset fault) := by
  unfold encodingFault? at wrong
  split at wrong
  · cases wrong
  · next foreign =>
      rw [named_foreign foreign]
      split at wrong <;> cases wrong
      all_goals
        next found => rw [found, Fault.ofCharset]

theorem named_of_faultless {fault : Fault} (known : encodingFault? name = none)
    (failed : coding.named name = .error fault) : fault = .malformed := by
  unfold encodingFault? at known
  split at known
  · next native => exact named_native native failed
  · next foreign =>
      rw [named_foreign foreign] at failed
      cases found : charset? name with
      | none =>
          rw [found] at known
          cases known
      | some charset =>
          rw [found] at known failed
          cases charset with
          | page upper lost => cases failed
          | clash =>
              cases failed
              rfl
          | multiByte => cases known
          | notText => cases known

/-! ## Decoding -/

theorem declaration?_eq {content body : List UInt8}
    (detected : Coding.detect content = (coding, body)) :
    declaration? content =
      (declarationRest? (coding.read body)).bind fun rest =>
        (textUntil ['?', '>'] rest).bind fun found => Declaration.ofChars found.1 := by
  rw [declaration?, detected]
  rfl

theorem decodeRest_fails_iff {body : List UInt8} {inner after : List Char}
    {declaration : Declaration} {fault : CharsetFault} :
    decodeRest coding body inner after declaration = .error (.ofCharset fault) ↔
      ∃ name, declaration.encoding = some name ∧ encodingFault? name = some fault := by
  unfold decodeRest
  cases declaration.encoding with
  | none => simp
  | some name =>
      cases wrong : encodingFault? name with
      | some other =>
          dsimp only
          rw [named_of_fault wrong]
          simp [wrong, Fault.ofCharset_inj]
      | none =>
          cases failed : coding.named name with
          | ok chosen => simp [wrong, failed]
          | error other =>
              rw [named_of_faultless wrong failed] at failed
              simp [wrong, failed, Fault.malformed_ne_ofCharset]

/-- Decoding fails for the encoding that the document names, or as any markup does. -/
theorem decode_fails_iff {content : List UInt8} {fault : CharsetFault} :
    decode content = .error (.ofCharset fault) ↔
      (declaredEncoding? content).bind encodingFault? = some fault := by
  rcases detected : Coding.detect content with ⟨coding, body⟩
  rw [declaredEncoding?, declaration?_eq detected]
  cases declared : declarationRest? (coding.read body) with
  | none => simp [decode_undeclared detected declared]
  | some rest =>
      rw [decode_declared detected declared, Option.bind_some]
      cases textUntil ['?', '>'] rest with
      | none => simp [Fault.malformed_ne_ofCharset]
      | some found =>
          dsimp only [Option.bind_some]
          cases Declaration.ofChars found.1 with
          | none => simp [Fault.malformed_ne_ofCharset]
          | some declaration => simp [decodeRest_fails_iff, Option.bind_eq_some_iff]

end SchemaSharp.Markup
