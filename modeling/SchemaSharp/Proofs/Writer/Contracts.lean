import SchemaSharp.Proofs.Writer.Levels

/-!
Data contracts in what is written. They add annotations and one directive. A writer without them
refuses the same calls and writes the same lines but for these.
-/

namespace SchemaSharp.Writer

/-! ## Lines for contracts -/

/-- A line that is there for data contracts: an annotation or the directive for their namespace. -/
def Mark.isContract : Mark → Bool
  | .line .classMarker _ => true
  | .line .memberMarker _ => true
  | .line .directive text => text == "using System.Runtime.Serialization;"
  | _ => false

def withoutContracts (marks : List Mark) : List Mark := marks.filter fun mark => !mark.isContract

theorem withoutContracts_append (first second : List Mark) :
    withoutContracts (first ++ second) = withoutContracts first ++ withoutContracts second :=
  List.filter_append ..

theorem withoutContracts_of_none {marks : List Mark}
    (none : ∀ mark ∈ marks, mark.isContract = false) : withoutContracts marks = marks := by
  unfold withoutContracts
  rw [List.filter_eq_self]
  intro mark listed
  rw [none mark listed]
  rfl

theorem withoutContracts_flatten (parts : List (List Mark)) :
    withoutContracts parts.flatten = (parts.map withoutContracts).flatten := by
  induction parts with
  | nil => rfl
  | cons part rest ih => rw [List.flatten_cons, withoutContracts_append, ih]; rfl

/-! ## Writers without contracts -/

/-- The writer as it is without data contracts and the directive for them. -/
def plain (writer : Writer) : Writer :=
  { writer with
    options := { writer.options with dataContracts := false }
    references := writer.references.filter fun space => space != contractSpace }

/-- All markers of the call are for data contracts, and it is no directive. -/
def Call.isContractual : Call → Bool
  | .declareReference _ => false
  | .writeMarker kind _ => kind.options.dataContracts
  | .writeMember _ _ markers => markers.all fun marked => marked.1.options.dataContracts
  | _ => true

variable {writer : Writer}

theorem qualify_plain {space : String} (other : space ≠ contractSpace) (name : String) :
    writer.plain.qualify space name = writer.qualify space name := by
  have known : writer.plain.references.contains space = writer.references.contains space := by
    rw [Bool.eq_iff_iff, List.contains_iff_mem, List.contains_iff_mem, plain, List.mem_filter]
    simp [other]
  rw [qualify, known]
  rfl

theorem scaffoldingBases_plain : writer.plain.scaffoldingBases = writer.scaffoldingBases := by
  unfold scaffoldingBases
  rw [qualify_plain (by decide), qualify_plain (by decide)]
  rfl

theorem classLine_plain (name : String) (base : Option String) (isAbstract : Bool)
    (interfaces : List String) :
    writer.plain.classLine name base isAbstract interfaces =
      writer.classLine name base isAbstract interfaces := by
  unfold classLine
  rw [scaffoldingBases_plain]

theorem notificationLines_plain : writer.plain.notificationLines = writer.notificationLines := by
  unfold notificationLines
  rw [qualify_plain (by decide), qualify_plain (by decide)]

theorem accessorLines_plain (type name : String) :
    writer.plain.accessorLines type name = writer.accessorLines type name := by
  have registration : writer.plain.registrationLine type name =
      writer.registrationLine type name := by
    unfold registrationLine
    rw [qualify_plain (by decide)]
    rfl
  unfold accessorLines
  rw [registration]
  rfl

theorem markerMarks_plain {kind : LineKind} {markers : List (Marker × Arguments)}
    (contractual : ∀ marked ∈ markers, marked.1.options.dataContracts = true) :
    writer.plain.markerMarks kind markers = [] := by
  unfold markerMarks
  rw [List.map_eq_nil_iff, List.filter_eq_nil_iff]
  intro marked listed
  simp [EmitOptions.includes, plain, contractual marked listed]

theorem withoutContracts_markerMarks {kind : LineKind}
    (attached : kind = .classMarker ∨ kind = .memberMarker)
    (markers : List (Marker × Arguments)) :
    withoutContracts (writer.markerMarks kind markers) = [] := by
  unfold withoutContracts
  rw [List.filter_eq_nil_iff]
  intro mark listed
  obtain ⟨marked, _, rfl⟩ := List.mem_map.mp listed
  rcases attached with rfl | rfl
  · simp [Mark.isContract]
  · simp [Mark.isContract]

theorem memberMarks_plain {markers : List (Marker × Arguments)}
    (contractual : ∀ marked ∈ markers, marked.1.options.dataContracts = true)
    (type name : String) :
    writer.plain.memberMarks type name markers =
      withoutContracts (writer.memberMarks type name markers) := by
  have contracts : withoutContracts (writer.markerMarks .memberMarker markers) = [] :=
    withoutContracts_markerMarks (.inr rfl) markers
  have styles : writer.plain.options.dependencyProperties = writer.options.dependencyProperties ∧
      writer.plain.options.notifyProperties = writer.options.notifyProperties := ⟨rfl, rfl⟩
  unfold memberMarks
  rw [markerMarks_plain contractual, accessorLines_plain, styles.1, styles.2]
  split
  · rw [withoutContracts_append, contracts]
    rfl
  · have members : ∀ backing rest, withoutContracts (.line .member backing ::
        writer.markerMarks .memberMarker markers ++ rest) =
          .line .member backing :: withoutContracts rest := by
      intro backing rest
      rw [withoutContracts_append, ← List.singleton_append, withoutContracts_append, contracts]
      rfl
    rw [members]
    rfl

/-! ## Calls -/

theorem refusal?_plain (call : Call) : call.refusal? writer.plain = call.refusal? writer := by
  cases call <;> rfl

theorem marks_plain {call : Call} (contractual : call.isContractual) :
    call.marks writer.plain = withoutContracts (call.marks writer) := by
  cases call with
  | declareReference name => cases contractual
  | openNamespace name => rfl
  | openType name base isAbstract interfaces =>
      have notifying : writer.plain.options.notifyProperties = writer.options.notifyProperties := rfl
      simp only [Call.marks, classLine_plain, notificationLines_plain, notifying]
      -- neither what opens a class nor what tells of its changes is a marker
      refine (withoutContracts_of_none fun mark listed => ?_).symm
      rcases List.mem_cons.mp listed with rfl | telling
      · rfl
      · split at telling
        · obtain ⟨text, _, rfl⟩ := List.mem_map.mp telling
          rfl
        · cases telling
  | writeMarker kind arguments =>
      have contract : kind.options.dataContracts = true := contractual
      have attached : (if writer.level = .namespaceBody then LineKind.classMarker
          else .memberMarker) = .classMarker ∨ (if writer.level = .namespaceBody then
            LineKind.classMarker else .memberMarker) = .memberMarker := by
        split
        · exact .inl rfl
        · exact .inr rfl
      simp only [Call.marks]
      rw [withoutContracts_markerMarks attached]
      exact markerMarks_plain (by simpa using contract)
  | openMember type name => rfl
  | writeLine text => rfl
  | writeMember type name markers =>
      exact memberMarks_plain (by simpa [Call.isContractual] using contractual) type name
  | close => rfl
  | finish =>
      refine (withoutContracts_of_none fun mark listed => ?_).symm
      simp only [Call.marks] at listed
      split at listed
      · cases listed
      · rw [List.eq_of_mem_replicate listed]
        rfl

theorem settled_plain {call : Call} (contractual : call.isContractual) :
    call.settled writer.plain = (call.settled writer).plain := by
  cases call with
  | declareReference name => cases contractual
  | finish => cases finished : writer.finished <;> simp [Call.settled, plain, finished]
  | _ => rfl

theorem plain_accept {call : Call} (contractual : call.isContractual) :
    (writer.plain.accept call).blank = (writer.accept call).plain.blank := by
  -- The lines are all that differs, and a blank writer has none.
  change (call.settled writer.plain).blank = (call.settled writer).plain.blank
  rw [settled_plain contractual]

/-- Without data contracts the same calls write the same lines but those that are there for
contracts. -/
theorem marksOf_plain {calls : List Call} (contractual : ∀ call ∈ calls, call.isContractual)
    (writer : Writer) : writer.plain.marksOf calls = withoutContracts (writer.marksOf calls) := by
  induction calls generalizing writer with
  | nil => rfl
  | cons call rest ih =>
      obtain ⟨here, later⟩ := List.forall_mem_cons.mp contractual
      have alike : (writer.plain.perform call).2.marksOf rest =
          (writer.perform call).2.plain.marksOf rest := by
        refine (marksOf_congr ?_ rest).1
        rw [perform_eq, perform_eq, outcome, outcome, refusal?_plain]
        cases call.refusal? writer with
        | some fault => rfl
        | none => exact plain_accept here
      rw [marksOf, marksOf, withoutContracts_append, refusal?_plain, marks_plain here, alike,
        ih later]
      split
      · rfl
      · rfl

end SchemaSharp.Writer
