import SchemaSharp.Proofs.Conversion.Bench

/-!
What translating writes, whether it ends well or not. Names are resolved and documents scheduled
without writing; a member is one call or none; a class is written as a whole, or it is cut off
behind some of its members; and what is written for a document are whole classes, of which the last
may be cut off if the translation fails there.
-/

namespace SchemaSharp.Conversion

open Schema (ComplexType ElementDecl)
open Writer (At levelAfter? levelAfter?_append)

variable {job : Job}

theorem namesAs_mild (job : Job) : job.NamesAs (·.isWriting = false) :=
  ⟨fun _ _ => rfl, fun _ => rfl, fun _ _ _ => rfl⟩

/-! ## Members -/

/-- The calls for some members of one class. -/
def memberScript : Script where
  level := .classBody
  fits _ calls := ∃ members : List MemberOutline, calls = members.map MemberOutline.call
  nil := ⟨[], rfl⟩
  cut fits := fits
  append := by
    rintro _ _ _ ⟨first, rfl⟩ ⟨second, rfl⟩
    exact ⟨first ++ second, by simp⟩
  returns := by
    rintro _ ⟨members, rfl⟩
    induction members with
    | nil => rfl
    | cons member rest ih => exact ih

theorem translateMember_scripted (element : ElementDecl) (scope : String) (before : Conversion) :
    Scripted memberScript (translateMember job element scope) before := by
  have names := namesAs_mild job
  have translates := scripted_translates memberScript
  have composes := translates.toComposes
  refine composes.chain (targetOf_composed composes names _ _) fun target middle => ?_
  refine composes.chain (outcome_composed composes (ofMember_fails names _ _) _) fun name _ => ?_
  refine composes.chain (typeOfMember_composed translates names _ _ _ _) fun type middle => ?_
  let outline : MemberOutline :=
    ⟨if element.isRepeated then type ++ "[]" else type, name, wireName target.name name, none⟩
  exact ⟨.ok (), middle, [outline.call], failsOnly_ok (), rfl, ⟨[outline], rfl⟩,
    runs_write middle rfl⟩

/-! ## Classes -/

/-- The calls for a class that is never closed. -/
def ClassOutline.begun (outline : ClassOutline) : List Writer.Call :=
  .writeMarker dataContract outline.marker ::
    .openType outline.name outline.base outline.type.isAbstract [] ::
      outline.members.map MemberOutline.call

theorem ClassOutline.calls_eq (outline : ClassOutline) :
    outline.calls = outline.begun ++ [.close] := rfl

theorem levelAfter?_begun (outline : ClassOutline) :
    levelAfter? .namespaceBody outline.begun = some .classBody :=
  memberScript.returns ⟨outline.members, rfl⟩

theorem levelAfter?_calls (outlines : List ClassOutline) :
    levelAfter? .namespaceBody (outlines.flatMap ClassOutline.calls) = some .namespaceBody := by
  induction outlines with
  | nil => rfl
  | cons outline rest ih =>
      rw [List.flatMap_cons, outline.calls_eq, levelAfter?_append, levelAfter?_append,
        levelAfter?_begun]
      exact ih

/-- The calls for whole classes, and for one more that is cut off. -/
def draftCalls (classes : List ClassOutline) (cut : Option ClassOutline) : List Writer.Call :=
  classes.flatMap ClassOutline.calls ++ cut.toList.flatMap ClassOutline.begun

/-- The calls for some classes of one namespace. Only a task that fails leaves one cut off. -/
def classScript : Script where
  level := .namespaceBody
  fits ended calls := ∃ classes cut, calls = draftCalls classes cut ∧ (ended = true → cut = none)
  nil := ⟨[], none, rfl, fun _ => rfl⟩
  cut := by
    rintro _ ⟨classes, cut, rfl, _⟩
    exact ⟨classes, cut, rfl, fun ended => by cases ended⟩
  append := by
    rintro _ _ _ ⟨first, cut, rfl, whole⟩ ⟨second, last, rfl, ends⟩
    obtain rfl := whole rfl
    exact ⟨first ++ second, last, by simp [draftCalls], ends⟩
  returns := by
    rintro _ ⟨classes, cut, rfl, whole⟩
    obtain rfl := whole rfl
    simpa [draftCalls] using levelAfter?_calls classes

theorem runs_say {fits : Bench → Prop} (notice : Notice) (before : Conversion) :
    Runs fits (Task.say notice) before (.ok ()) before id :=
  fun _ _ journal => ⟨journal ++ [notice], rfl⟩

theorem runs_openClass (name : String) (base : Option String) (isAbstract : Bool)
    (before : Conversion) :
    Runs (Bench.Ready .namespaceBody) (openClass name base isAbstract) before (.ok ()) before
      (Bench.write [.openType name base isAbstract []]) := by
  intro bench ready journal
  obtain ⟨artifact, others, attached, desk, here⟩ := id ready
  have current : (before.on bench).current? = some artifact := by
    simp [current?, on, attached, desk]
  have opens : Runs (Bench.Ready .namespaceBody) (write (.openType name base isAbstract [])) before
      (.ok ()) before (Bench.write [.openType name base isAbstract []]) := runs_write before rfl
  obtain ⟨said, wrote⟩ := opens bench ready journal
  unfold openClass
  rw [Task.run_bind, run_openArtifact? journal current]
  dsimp only
  rw [Task.run_bind, wrote]
  dsimp only
  -- Whether the class is there already shows in the journal only.
  split
  · exact ⟨_, rfl⟩
  · exact ⟨said, rfl⟩

theorem runs_marker (marker : Arguments) (before : Conversion) :
    Runs (Bench.Ready .namespaceBody) (write (.writeMarker dataContract marker)) before (.ok ())
      before (Bench.write [.writeMarker dataContract marker]) :=
  runs_write before rfl

theorem runs_close (before : Conversion) :
    Runs (Bench.Ready .classBody) (write .close) before (.ok ()) before (Bench.write [.close]) :=
  runs_write before rfl

/-- The head of a class in front of what is written inside, however that ends. -/
theorem runs_headed {inside : Work Unit} {result : Except Failure Unit}
    {calls : List Writer.Call} {before after : Conversion}
    (runs : Runs (Bench.Ready .classBody) inside before result after (Bench.write calls))
    (marker : Arguments) (className : String) (base : Option String) (isAbstract : Bool)
    (count : Nat) :
    Runs (Bench.Ready .namespaceBody) (do
      write (.writeMarker dataContract marker)
      openClass className base isAbstract
      Task.say (.classWritten className count)
      inside) before result after
      (Bench.write (.writeMarker dataContract marker ::
        .openType className base isAbstract [] :: calls)) := by
  have told := (runs_say (.classWritten className count) before).seq runs fun _ ready => ready
  have opened := (runs_openClass className base isAbstract before).seq told
    fun _ ready => ready.write rfl
  have whole := (runs_marker marker before).seq opened fun _ ready => ready.write rfl
  simp only [id, Bench.write_write] at whole
  exact whole

theorem writeClass_scripted (type : ComplexType) (marker : Arguments) (className : String)
    (base : Option String) (members : List ElementDecl) (before : Conversion) :
    Scripted classScript (writeClass job type marker className base members) before := by
  obtain ⟨result, after, _, proper, store, ⟨outlines, rfl⟩, runs⟩ :=
    forM_composed (scripted_translates memberScript).toComposes before fun element state =>
      @translateMember_scripted job element className state
  -- cut off or not, the class has the members that were written
  let outline : ClassOutline := ⟨type, className, base, marker, outlines⟩
  cases result with
  | error failure =>
      exact ⟨.error failure, after, outline.begun, failsOnly_error (proper failure rfl), store,
        ⟨[], some outline, by simp [draftCalls], fun ended => by cases ended⟩,
        runs_headed runs.bind_error marker className base type.isAbstract members.length⟩
  | ok value =>
      have closed := runs.seq (runs_close after) fun _ ready =>
        ready.write (memberScript.returns ⟨outlines, rfl⟩)
      simp only [Bench.write_write] at closed
      exact ⟨.ok (), after, outline.calls, failsOnly_ok (), store,
        ⟨[outline], none, by simp [draftCalls], fun _ => rfl⟩,
        runs_headed closed marker className base type.isAbstract members.length⟩

/-! ## Types and documents -/

/-- Looking for the artifact at hand finds one and changes nothing. -/
theorem openArtifact?_scripted {script : Script} {next : Artifact → Work Unit} {rest : Work Unit}
    {before : Conversion} (same : ∀ artifact, next artifact = rest)
    (scripted : Scripted script rest before) : Scripted script (openArtifact? >>= next) before := by
  obtain ⟨result, after, calls, proper, store, fits, runs⟩ := scripted
  refine ⟨result, after, calls, proper, store, fits, fun bench ready journal => ?_⟩
  obtain ⟨artifact, others, attached, desk, here⟩ := id ready
  have current : (before.on bench).current? = some artifact := by
    simp [current?, on, attached, desk]
  obtain ⟨said, ran⟩ := runs bench ready journal
  refine ⟨said, ?_⟩
  rw [Task.run_bind, run_openArtifact? journal current]
  exact (congrArg (fun task : Work Unit => task.run _) (same artifact)).trans ran

theorem translateNew_scripted (type : ComplexType) (name className : Option String)
    (before : Conversion) : Scripted classScript (translateNew job type name className) before := by
  have names := namesAs_mild job
  have composes := (scripted_translates classScript).toComposes
  refine composes.chain (requireSupported_composed composes (fun _ => rfl) _) fun _ _ => ?_
  refine composes.chain (classIdentifier_composed composes names _ _ _) fun _ _ => ?_
  refine composes.chain (baseClass_composed composes names (fun _ _ => rfl) _ _ _) fun _ _ => ?_
  refine composes.chain (requireMembers_composed composes (fun _ => rfl) _) fun _ _ => ?_
  refine openArtifact?_scripted (fun _ => rfl) ?_
  exact composes.look (fun _ => rfl) (writeClass_scripted _ _ _ _ _ _)

theorem translateComplexType_scripted (type : ComplexType) (name className : Option String)
    (before : Conversion) :
    Scripted classScript (translateComplexType job type name className) before := by
  have translates := scripted_translates classScript
  refine translates.look (fun _ => rfl) ?_
  split
  · exact translates.report _ (.inl rfl)
  · next unmarked =>
      refine translates.chain (translates.marked (by simpa using unmarked)) fun _ _ => ?_
      exact translateNew_scripted _ _ _ _

theorem translateStored_scripted (location : String) (before : Conversion) :
    Scripted classScript (translateStored job location) before :=
  translateStored_composed (scripted_translates _) translateComplexType_scripted (namesAs_mild job)
    (fun _ _ => rfl) location before

end SchemaSharp.Conversion
