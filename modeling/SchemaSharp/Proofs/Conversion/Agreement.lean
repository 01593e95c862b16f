import SchemaSharp.Proofs.Conversion.SourceFiles

/-!
Both modes of output agree. Whatever the documents and wherever a run fails, the one artifact holds
between the braces of its namespace what the artifacts of the other mode hold one after the other.
-/

namespace SchemaSharp

/-- The lines between the braces of the namespace, the only ones without indentation. -/
def Artifact.namespaceBody (artifact : Artifact) : List String :=
  ((artifact.writer.lines.dropWhile fun line => line != "\x7b").drop 1).takeWhile
    fun line => line != "\x7d"

namespace Conversion

open Writer (Mark Balanced fileHead laidOut indented)

variable {job : Job}

/-! ## Bodies -/

theorem indented_zero (text : String) : indented "\t" 0 text = text := by
  unfold indented
  split
  · next empty => simpa using empty.symm
  · simp [Writer.indentation]

/-- The lines of every artifact up to its first brace. -/
def headLines (job : Job) : List String :=
  (fileSpaces job).map (fun name => "using " ++ name ++ ";") ++
    ["", "namespace " ++ job.settings.targetNamespace]

theorem laidOut_fileHead (rest : List Mark) :
    laidOut "\t" 0 (fileHead (fileSpaces job) job.settings.targetNamespace ++ rest) =
      headLines job ++ "\x7b" :: laidOut "\t" 1 rest := by
  have directives : ∀ names : List String,
      laidOut "\t" 0 (names.map fun name => .line .directive ("using " ++ name ++ ";")) =
        names.map fun name => "using " ++ name ++ ";" := by
    intro names
    induction names with
    | nil => rfl
    | cons name rest ih => rw [List.map_cons, laidOut, indented_zero, ih, List.map_cons]
  rw [fileHead, Writer.laidOut_append, Writer.laidOut_append, Writer.depthAfter_append, directives,
    Writer.depthAfter_lines]
  simp only [laidOut, Writer.depthAfter, indented_zero, headLines, List.append_assoc,
    List.cons_append, List.nil_append]

theorem headLines_ne {line : String} (written : line ∈ headLines job) : line ≠ "\x7b" := by
  -- The first character tells.
  have directive : ∀ name, "using " ++ name ++ ";" ≠ "\x7b" := by
    intro name same
    have texts := congrArg String.toList same
    simp at texts
  have opening : ∀ name, "namespace " ++ name ≠ "\x7b" := by
    intro name same
    have texts := congrArg String.toList same
    simp at texts
  rcases List.mem_append.mp written with first | last
  · obtain ⟨name, _, rfl⟩ := List.mem_map.mp first
    exact directive name
  · simp only [List.mem_cons, List.not_mem_nil, or_false] at last
    rcases last with rfl | rfl
    · decide
    · exact opening _

/-- The lines of classes inside the namespace. -/
def bodyLines (job : Job) (outlines : List ClassOutline) : List String :=
  laidOut "\t" 1 (outlines.map (classMarks job)).flatten

theorem classMarks_balanced (job : Job) (outlines : List ClassOutline) :
    Balanced (outlines.map (classMarks job)).flatten := by
  refine Writer.balanced_flatten fun part listed => ?_
  obtain ⟨outline, _, rfl⟩ := List.mem_map.mp listed
  exact (classMarks_text job outline).balanced

theorem bodyLines_append (first second : List ClassOutline) :
    bodyLines job (first ++ second) = bodyLines job first ++ bodyLines job second := by
  rw [bodyLines, List.map_append, List.flatten_append, Writer.laidOut_append,
    (classMarks_balanced job first).depthAfter_eq]
  rfl

theorem lines_filed {draft : Draft} {artifact : Artifact} (filed : Filed job draft artifact) :
    artifact.writer.lines =
      headLines job ++ "\x7b" :: (bodyLines job draft.outlines ++ ["\x7d"]) := by
  obtain ⟨path, rfl⟩ := filed
  refine (filed_written path draft.classes draft.cut).2.trans ?_
  rw [fileMarks, laidOut_fileHead, Writer.laidOut_append, (classMarks_balanced job _).depthAfter_eq]
  simp only [laidOut, Nat.sub_self, indented_zero]
  rfl

theorem namespaceBody_filed {draft : Draft} {artifact : Artifact}
    (filed : Filed job draft artifact) : artifact.namespaceBody = bodyLines job draft.outlines := by
  have inside : ∀ line ∈ bodyLines job draft.outlines, (line != "\x7d") = true := by
    intro line written
    simpa using (classMarks_balanced job draft.outlines).ne_brace 0 written
  have head : ∀ line ∈ headLines job, (line != "\x7b") = true := by
    intro line written
    simpa using headLines_ne written
  rw [Artifact.namespaceBody, lines_filed filed, List.dropWhile_append_of_pos head,
    List.dropWhile_cons_of_neg (by decide), List.drop_one, List.tail_cons,
    List.takeWhile_append_of_pos inside, List.takeWhile_cons_of_neg (by decide), List.append_nil]

/-- The bodies of the artifacts of some drafts are the classes of these drafts, in order. -/
theorem namespaceBodies_filed {drafts : List Draft} {artifacts : List Artifact}
    (filed : List.Forall₂ (Filed job) drafts artifacts) :
    artifacts.flatMap Artifact.namespaceBody = bodyLines job (drafts.flatMap Draft.outlines) := by
  induction filed with
  | nil => rfl
  | cons here _ ih =>
      rw [List.flatMap_cons, List.flatMap_cons, bodyLines_append, namespaceBody_filed here, ih]

theorem braces_of_holds {drafts : List Draft} {bench : Bench} (holds : bench.Holds job drafts)
    {artifact : Artifact} (listed : artifact ∈ bench.closed) :
    artifact.writer.lines = headLines job ++ "\x7b" :: (artifact.namespaceBody ++ ["\x7d"]) := by
  obtain ⟨draft, _, filed⟩ := exists_of_forall₂ holds.filed listed
  rw [namespaceBody_filed filed]
  exact lines_filed filed

/-! ## Both runs -/

theorem error_of_map {ε α β : Type} {result : Except ε α} {change : α → β} {fault : ε}
    (failed : result.map change = .error fault) : result = .error fault := by
  cases result with
  | ok value => cases failed
  | error other =>
      cases failed
      rfl

end Conversion

end SchemaSharp
