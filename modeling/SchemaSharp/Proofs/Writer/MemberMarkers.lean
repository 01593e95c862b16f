import SchemaSharp.Proofs.Writer.Levels

/-!
Markers of members. Whatever the style of a member, its markers stand right above the line of its
property, behind the field or the registration that some styles need. They are the lines that the
markers write by themselves, and nothing else about the member or the writer has to do with them.
-/

namespace SchemaSharp.Writer

variable {writer : Writer} {type name : String} {markers : List (Marker × Arguments)}

/-- The member is a property by itself. -/
def isAutomatic (options : EmitOptions) : Bool :=
  !options.dependencyProperties && !options.notifyProperties

/-- What is written above the markers of a member: its field or its registration. -/
def backing (writer : Writer) (type name : String) : List String :=
  if isAutomatic writer.options then [] else [(writer.accessorLines type name).1]

/-- The line of a property. -/
def propertyHead (options : EmitOptions) (type name : String) : String :=
  "public " ++ type ++ " " ++ name ++ if isAutomatic options then " \x7b get; set; \x7d" else ""

/-- The property, with its accessors if they do more than get and set. -/
def propertyMarks (writer : Writer) (type name : String) : List Mark :=
  if isAutomatic writer.options then [.line .member (propertyHead writer.options type name)]
  else
    let (_, getter, setter) := writer.accessorLines type name
    [.opens .property (propertyHead writer.options type name), .line .accessor getter,
      .line .accessor setter, .closes]

theorem memberMarks_eq :
    writer.memberMarks type name markers =
      (writer.backing type name).map (.line .member) ++ writer.markerMarks .memberMarker markers ++
        writer.propertyMarks type name := by
  unfold memberMarks backing propertyMarks propertyHead isAutomatic
  split
  · simp [propertyLine]
  · simp

theorem laidOut_lines {α : Type} {unit : String} {depth : Nat} {kind : LineKind} {text : α → String}
    {items : List α} (given : ∀ item ∈ items, text item ≠ "") :
    laidOut unit depth (items.map fun item => .line kind (text item)) =
      items.map fun item => indentation unit depth ++ text item := by
  induction items with
  | nil => rfl
  | cons item rest ih =>
      obtain ⟨here, later⟩ := List.forall_mem_cons.mp given
      simp [laidOut, indented, here, ih later]

theorem markerLine_ne_empty (kind : Marker) (arguments : Arguments) :
    writer.markerLine kind arguments ≠ "" := by
  unfold markerLine
  dsimp only
  split <;> simp

/-- What the markers look like in a class, those that are not enabled left out. -/
def shownMarkers (writer : Writer) (markers : List (Marker × Arguments)) : List String :=
  (markers.filter fun (kind, _) => writer.options.includes kind.options).map
    fun (kind, arguments) => indentation writer.indent 2 ++ writer.markerLine kind arguments

theorem laidOut_markerMarks :
    laidOut writer.indent 2 (writer.markerMarks .memberMarker markers) =
      writer.shownMarkers markers :=
  laidOut_lines fun marked _ => markerLine_ne_empty marked.1 marked.2

theorem laidOut_backing :
    laidOut writer.indent 2 ((writer.backing type name).map (.line .member)) =
      (writer.backing type name).map (indentation writer.indent 2 ++ ·) := by
  refine laidOut_lines fun line listed => ?_
  unfold backing accessorLines registrationLine at listed
  split at listed
  · cases listed
  · rw [List.mem_singleton.mp listed]
    dsimp only
    split <;> simp

theorem laidOut_propertyMarks :
    ∃ below, laidOut writer.indent 2 (writer.propertyMarks type name) =
      (indentation writer.indent 2 ++ propertyHead writer.options type name) :: below := by
  have given : propertyHead writer.options type name ≠ "" := by simp [propertyHead]
  unfold propertyMarks
  split
  · simp [laidOut, indented, given]
  · simp [laidOut, indented, given]

/-! ## Lines that are added -/

/-- The writer with more lines, and otherwise as it is. -/
def adding (lines : List String) (writer : Writer) : Writer :=
  { writer with lines := writer.lines ++ lines }

theorem shownMarkers_adding (lines : List String) :
    (writer.adding lines).shownMarkers markers = writer.shownMarkers markers := by
  simp only [adding, shownMarkers, markerLine_lines]

theorem shownMarkers_append (first second : List (Marker × Arguments)) :
    writer.shownMarkers (first ++ second) =
      writer.shownMarkers first ++ writer.shownMarkers second := by
  simp only [shownMarkers, List.filter_append, List.map_append]

theorem adding_nil : writer.adding [] = writer := by
  rw [adding, List.append_nil]

theorem adding_adding (first second : List String) :
    (writer.adding first).adding second = writer.adding (first ++ second) := by
  simp only [adding, List.append_assoc]

/-- The calls that write markers by themselves. -/
def markerCalls (markers : List (Marker × Arguments)) : List Call :=
  markers.map fun (kind, arguments) => .writeMarker kind arguments

theorem At.adds_marker (here : At .classBody writer) (kind : Marker) (arguments : Arguments) :
    writer.perform (.writeMarker kind arguments) =
      (.ok (), writer.adding (writer.shownMarkers [(kind, arguments)])) := by
  rw [perform_of_accepted (here.accepts rfl).1, ← laidOut_markerMarks]
  simp [accept, append, adding, Call.settled, Call.marks, here.level, Level.depth]

theorem At.adds_markers (here : At .classBody writer) (markers : List (Marker × Arguments)) :
    writer.afterCalls (markerCalls markers) = writer.adding (writer.shownMarkers markers) := by
  induction markers generalizing writer with
  | nil => exact adding_nil.symm
  | cons marked rest ih =>
      obtain ⟨kind, arguments⟩ := marked
      have there : At .classBody (writer.adding (writer.shownMarkers [(kind, arguments)])) :=
        ⟨here.unfinished, here.level⟩
      change (writer.perform (.writeMarker kind arguments)).2.afterCalls (markerCalls rest) = _
      rw [here.adds_marker, ih there, shownMarkers_adding, adding_adding, ← shownMarkers_append,
        List.singleton_append]

theorem At.adds_member (here : At .classBody writer) (markers : List (Marker × Arguments)) :
    writer.perform (.writeMember type name markers) =
      (.ok (), writer.adding ((writer.backing type name).map (indentation writer.indent 2 ++ ·) ++
        writer.shownMarkers markers ++
          laidOut writer.indent 2 (writer.propertyMarks type name))) := by
  have depth : depthAfter 2 ((writer.backing type name).map (.line .member)) = 2 :=
    depthAfter_lines .member id _ 2
  rw [perform_of_accepted (here.accepts rfl).1, ← laidOut_markerMarks, ← laidOut_backing]
  simp [accept, append, adding, Call.settled, Call.marks, here.level, Level.depth, memberMarks_eq,
    laidOut_append, depthAfter_markerMarks, depth]

/-- Inside a class a writer takes any member, and is then as it was but for the lines that it has
written. Without markers these are the field or the registration, if the style needs one, and the
property with what follows it. Markers only add the lines that they write by themselves, those that
are enabled in the order given, right above the line of the property. -/
theorem member_markers_only_add {options : EmitOptions} {unit : String} {calls : List Call}
    (inClass : ((start options unit).afterCalls calls).level = .classBody) (type name : String) :
    let writer := (start options unit).afterCalls calls
    let margin := indentation writer.indent 2
    let above := (writer.backing type name).map (margin ++ ·)
    let property := margin ++ propertyHead writer.options type name
    ∃ below,
      writer.perform (.writeMember type name []) =
        (.ok (), writer.adding (above ++ property :: below)) ∧
      ∀ markers,
        let enabled := markers.filter fun (kind, _) => writer.options.includes kind.options
        let shown := enabled.map fun (kind, arguments) => margin ++ writer.markerLine kind arguments
        writer.afterCalls (markerCalls markers) = writer.adding shown ∧
          writer.perform (.writeMember type name markers) =
            (.ok (), writer.adding (above ++ shown ++ property :: below)) := by
  intro writer margin above property
  have here : At .classBody writer := by
    refine ⟨?_, inClass⟩
    cases finished : writer.finished with
    | false => rfl
    | true =>
        -- finishing closes whatever is open, so that no class is left
        have outside := ((formed_start options unit).afterCalls calls).oriented.outside finished
        rw [inClass] at outside
        cases outside
  obtain ⟨below, headed⟩ := @laidOut_propertyMarks writer type name
  refine ⟨below, ?_, fun markers => ⟨here.adds_markers markers, ?_⟩⟩
  · rw [here.adds_member, headed]
    simp [shownMarkers, above, property, margin]
  · rw [here.adds_member, headed]
    rfl

/-- In a class with data contracts whose members give notice, a member gets the marker for contracts
and one that asks for nothing, but not the one for dependency properties between them. -/
theorem noticed_member_markers :
    let calls : List Call := [.openNamespace "N", .openType "A" (some "B") false []]
    let writer := (start ⟨true, true, false⟩ "\t").afterCalls calls
    let markers : List (Marker × Arguments) :=
      [(dataMember, [("Name", .text "m")]),
        (⟨"S", "E", { EmitOptions.none with dependencyProperties := true }⟩, []),
        (⟨"S", "FAttribute", .none⟩, [])]
    writer.level = .classBody ∧ ∃ below,
      writer.perform (.writeMember "T" "M" []) =
        (.ok (), writer.adding ("\t\tT _M;" :: "\t\tpublic T M" :: below)) ∧
      writer.perform (.writeMember "T" "M" markers) =
        (.ok (), writer.adding ("\t\tT _M;" ::
          "\t\t[System.Runtime.Serialization.DataMember(Name = \"m\")]" :: "\t\t[S.F]" ::
            "\t\tpublic T M" :: below)) := by
  intro calls writer markers
  have inClass : writer.level = .classBody := rfl
  obtain ⟨below, bare, marked⟩ := member_markers_only_add inClass "T" "M"
  have above : (writer.backing "T" "M").map (indentation writer.indent 2 ++ ·) = ["\t\tT _M;"] := by
    decide +kernel
  have property : indentation writer.indent 2 ++ propertyHead writer.options "T" "M" =
      "\t\tpublic T M" := by
    decide +kernel
  have shown : writer.shownMarkers markers =
      ["\t\t[System.Runtime.Serialization.DataMember(Name = \"m\")]", "\t\t[S.F]"] := by
    decide +kernel
  refine ⟨inClass, below, ?_, ?_⟩
  · rw [above, property] at bare
    exact bare
  · have written := (marked markers).2
    rw [above, property] at written
    change _ = (_, writer.adding (_ ++ writer.shownMarkers markers ++ _)) at written
    rw [shown] at written
    exact written

end SchemaSharp.Writer
