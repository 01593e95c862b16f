import SchemaSharp.Proofs.Conversion.Contents
import SchemaSharp.Proofs.Schema.DocumentOrder

/-!
The elements that become the members of a class. They are all the elements of the content model in
the order of the document, however deep its sequences are nested. If something else stands among
them the type is refused, and the refusal names the first such particle and the type.
-/

namespace SchemaSharp.Conversion

open Schema (ComplexType ElementDecl Particle Home flattenAll AllSupported InDocumentOrder
  FirstUnsupported flattenAll_eq_ok_iff flattenAll_eq_error_iff)

variable {job : Job} {before : Conversion} {type : ComplexType} {items : List Particle}
  {name className : Option String} {tag : String}

theorem requireMembers_run (model : type.model = some (.sequence items)) (place : String)
    (logged : Logged Conversion) :
    (requireMembers type place).run logged =
      match flattenAll items with
      | .ok decls => (.ok decls, logged)
      | .error tag => (.error (.unsupported (.particle tag) (some place)), logged) := by
  have elements : memberElements type = flattenAll items := by rw [memberElements, model]
  rw [requireMembers, elements]
  cases flattenAll items <;> rfl

theorem requireSupported_sure {kind : Failure → Prop} (supported : unsupportedPart? type = none)
    (place : String) : Task.FailsOnly kind (requireSupported type place) := by
  rw [requireSupported, supported]
  exact Task.failsOnly_pure _

/-- Once everything else is in order, a type is refused for the particle that cuts its members. -/
theorem translateComplexType_cut (cut : memberElements type = .error tag)
    (unmarked : type.identity ∉ before.translated) (supported : unsupportedPart? type = none)
    (called : (className? job (rawClassName type name) className).isSome)
    (derived : (baseName? job before.store type).isSome) (journal : List Notice) :
    ((translateComplexType job type name className).run ⟨before, journal⟩).1 =
      .error (.unsupported (.particle tag) (some (placeOf type name))) := by
  let refusal : Failure := .unsupported (.particle tag) (some (placeOf type name))
  have members : Task.FailsOnly (· = refusal) (requireMembers type (placeOf type name)) := by
    rw [requireMembers, cut]
    exact Task.failsOnly_throw rfl
  have fails : Task.FailsFrom (· = refusal) (translateNew job type name className)
      (before.markTranslated type) :=
    translateNew_cut (requireSupported_sure supported _) members cut called derived
  cases answered : ((translateComplexType job type name className).run ⟨before, journal⟩).1 with
  | ok value =>
      obtain ⟨outline, made, _⟩ :=
        translateComplexType_returns ⟨journal, _, Prod.ext answered rfl⟩ unmarked
      -- a type with an outline has elements for leaves only
      have whole := (classOutline?_supported made).2
      have flat := memberElements_leaves type
      rw [cut] at flat
      obtain ⟨decls, rest, leaves⟩ := flat
      exact absurd (by simp [leaves]) (whole.supported tag)
  | error failure =>
      rw [run_translateComplexType unmarked] at answered
      rw [fails journal failure answered]

/-- Flattening a content model succeeds exactly if nothing in it is unsupported at any depth, and
then it gives the elements of the model in the order of the document, each once; otherwise it fails
with the first particle that is unsupported. It keeps to the parts of a model: to models one behind
the other, and to a sequence written out in its place. These elements become the members of a type
with the model, or the type is refused for that particle, at its own place. -/
theorem flattening_keeps_document_order (items : List Particle) :
    ((∃ decls, flattenAll items = .ok decls) ↔ AllSupported items) ∧
    (∀ decls, flattenAll items = .ok decls ↔ AllSupported items ∧ InDocumentOrder items decls) ∧
    (∀ tag, flattenAll items = .error tag ↔ FirstUnsupported items tag) ∧
    (∀ others, flattenAll (items ++ others) =
      do return (← flattenAll items) ++ (← flattenAll others)) ∧
    (∀ front back, flattenAll (front ++ .sequence items :: back) =
      flattenAll (front ++ (items ++ back))) ∧
    ∀ type : ComplexType, type.model = some (.sequence items) →
      (∀ place logged, (requireMembers type place).run logged =
        match flattenAll items with
        | .ok decls => (.ok decls, logged)
        | .error tag => (.error (.unsupported (.particle tag) (some place)), logged)) ∧
      ∀ tag, FirstUnsupported items tag → ∀ job before journal name className,
        type.identity ∉ before.translated → unsupportedPart? type = none →
          (className? job (rawClassName type name) className).isSome →
            (baseName? job before.store type).isSome →
              ((translateComplexType job type name className).run ⟨before, journal⟩).1 =
                .error (.unsupported (.particle tag) (some (placeOf type name))) := by
  refine ⟨Schema.flattens_iff, fun decls => flattenAll_eq_ok_iff,
    fun tag => flattenAll_eq_error_iff, Schema.flattenAll_append items,
    fun front back => Schema.flattenAll_inline front items back, fun type model => ⟨?_, ?_⟩⟩
  · exact requireMembers_run model
  · intro tag first job before journal name className unmarked supported called derived
    have cut : memberElements type = .error tag := by
      rw [memberElements, model]
      exact flattenAll_eq_error_iff.mpr first
    exact translateComplexType_cut cut unmarked supported called derived journal

/-- An element in no document, without a type. -/
def plainElement (name : String) : ElementDecl :=
  { name := some name, ref := none, typeRef := none, inlineType := none, minOccurs := 1,
    maxOccurs := some 1, isAbstract := false, home := ⟨"file:///a", 0⟩ }

/-- A choice stands in an inner sequence, and a wildcard behind that. -/
def cutItems : List Particle :=
  [.element (plainElement "x"), .sequence [.element (plainElement "y"), .unsupported "choice"],
    .unsupported "any"]

def cutType : ComplexType :=
  { name := some "A", isAbstract := false, isMixed := false, base := none, derivation := none,
    content := none, model := some (.sequence cutItems), attributes := [], owner := none,
    ordinal := 0, home := ⟨"file:///a", 0⟩ }

/-- The inner particle comes first, and the type is refused for it. -/
theorem cutItems_keep_document_order :
    cutType.model = some (.sequence cutItems) ∧ FirstUnsupported cutItems "choice" ∧
      ∃ begun, start pair = .ok begun ∧ cutType.identity ∉ begun.translated ∧
        unsupportedPart? cutType = none ∧
        (className? pair (rawClassName cutType none) none).isSome ∧
        (baseName? pair begun.store cutType).isSome ∧
        ((translateComplexType pair cutType none none).run ⟨begun, []⟩).1 =
          .error (.unsupported (.particle "choice") (some "type A in file:///a")) := by
  obtain ⟨_, _, stops, _, _, members⟩ := flattening_keeps_document_order cutItems
  have first : FirstUnsupported cutItems "choice" := (stops "choice").mp rfl
  have called : (className? pair (rawClassName cutType none) none).isSome := by decide +kernel
  obtain ⟨begun, started, _⟩ := pair_returns
  have idle : begun.translated = [] := by
    unfold start at started
    split at started
    · cases started
    · cases started
      rfl
  have unmarked : cutType.identity ∉ begun.translated := by simp [idle]
  exact ⟨rfl, first, begun, started, unmarked, rfl, called, rfl,
    (members cutType rfl).2 "choice" first pair begun [] none none unmarked rfl called rfl⟩

end SchemaSharp.Conversion
