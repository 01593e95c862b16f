import SchemaSharp.Proofs.Location.Escapes
import SchemaSharp.Proofs.Location.Paths
import SchemaSharp.Proofs.Schema.Reading
import SchemaSharp.Proofs.Text.Pieces
import SchemaSharp.Resolver
import SchemaSharp.Store

/-!
The canonical location of an absolute path, and the way back. The path is resolved and escaped; on
the way back escapes are undone twice, so that the location leads to the path it was made from
exactly if that path has nothing in it that looks like an escape, and to another path otherwise.
-/

namespace SchemaSharp.Location

open Text
open FilePath (ofChars ofString absolute Plain)

/-! ## Reading a file location -/

theorem tidy_of_visible {text : List Char} (visible : ∀ c ∈ text, 0x20 < c.toNat) :
    tidy text = text := by
  have begun : text.dropWhile (fun c => c.toNat ≤ 0x20) = text := by
    cases text with
    | nil => rfl
    | cons c rest =>
        have first := visible c (by simp)
        exact List.dropWhile_cons_of_neg (by simpa using first)
  rw [tidy, begun, List.filter_eq_self]
  intro c member
  have seen := visible c member
  have others : ∀ blank : Char, blank.toNat ≤ 0x20 → c ≠ blank := by
    rintro blank low rfl
    omega
  simp [others '\t' (by decide), others '\r' (by decide), others '\n' (by decide)]

theorem notMem_of_quiet {text : List Char} (quiet : ∀ c ∈ text, isQuiet c) {c : Char}
    (loud : isQuiet c = false) : c ∉ text := by
  intro member
  rw [quiet c member] at loud
  cases loud

theorem read_fileLocation {rest : List Char} (visible : ∀ c ∈ '/' :: rest, 0x20 < c.toNat)
    (noFragment : '#' ∉ '/' :: rest) (noQuery : '?' ∉ '/' :: rest) :
    Reference.read ("file://".toList ++ '/' :: rest) [] =
      .ok ⟨"file".toList, [], '/' :: rest, [], [], []⟩ := by
  have letters : "file://".toList.all (fun c => 0x20 < c.toNat) := by decide
  have seen : ∀ c ∈ "file://".toList ++ '/' :: rest, 0x20 < c.toNat := by
    intro c member
    rcases List.mem_append.mp member with scheme | path
    · simpa using List.all_eq_true.mp letters c scheme
    · exact visible c path
  have scheme : takeScheme ("file://".toList ++ '/' :: rest) =
      some ("file".toList, '/' :: '/' :: '/' :: rest) := rfl
  have parameters : listed schemesWithParameters "file".toList = false := by decide
  unfold Reference.read
  simp only [tidy_of_visible seen, scheme, Option.getD_some, List.takeWhile_cons,
    List.dropWhile_cons, endsHost, beq_self_eq_true, Bool.true_or, Bool.not_true,
    Bool.false_eq_true, if_false, cutFirst_of_notMem noFragment, cutFirst_of_notMem noQuery,
    parameters]
  rfl

/-! ## From a path to its location and back -/

theorem escape_slash (rest : List Char) : escape ('/' :: rest) = '/' :: escape rest := by
  have slash : (String.utf8EncodeChar '/').flatMap escapeByte = ['/'] := by decide +kernel
  rw [escape, Utf8.encode, List.flatMap_cons, List.flatMap_append, slash]
  rfl

theorem toList_fileLocation (directory path : FilePath) :
    (fileLocation directory path).toList =
      "file://".toList ++ '/' :: escape (joinWith ['/'] (path.resolve directory)) := by
  have rooted : escape (absolute (path.resolve directory)) =
      '/' :: escape (joinWith ['/'] (path.resolve directory)) := escape_slash _
  rw [← rooted]
  exact String.toList_ofList

theorem visible_escape {text : List Char} {c : Char} (member : c ∈ escape text) :
    0x20 < c.toNat := by
  have quiet := quiet_escape text c member
  simp only [isQuiet, Bool.and_eq_true, decide_eq_true_eq] at quiet
  exact quiet.1.1.1

theorem read_of_path (directory path : FilePath) :
    Reference.read (fileLocation directory path).toList [] =
      .ok ⟨"file".toList, [], escape (absolute (path.resolve directory)), [], [], []⟩ := by
  have quiet := quiet_escape (absolute (path.resolve directory))
  have visible : ∀ c ∈ escape (absolute (path.resolve directory)), 0x20 < c.toNat :=
    fun _ => visible_escape
  rw [absolute, escape_slash] at quiet visible ⊢
  rw [toList_fileLocation, read_fileLocation visible (notMem_of_quiet quiet (by decide))
    (notMem_of_quiet quiet (by decide))]

theorem isRemote_fileLocation (directory path : FilePath) :
    isRemote (fileLocation directory path) = .ok false := by
  rw [isRemote, schemeOf, read_of_path]
  rfl

/-- What a file location leads to: the path it was made from, read as if it had been escaped. -/
theorem localPath_fileLocation (directory path : FilePath) :
    localPath (fileLocation directory path) =
      .ok (ofChars (unescape (absolute (path.resolve directory)))) := by
  have begins : isFileLocation (fileLocation directory path) = true := by
    rw [isFileLocation, toList_fileLocation]
    rfl
  rw [localPath, if_pos begins, namedPath, read_of_path, Except.map, unescape_escape]

theorem canonical_fileLocation (directory other path : FilePath) :
    canonical directory (fileLocation other path) none =
      .ok (fileLocation directory (ofChars (unescape (absolute (path.resolve other))))) := by
  unfold canonical relativeTo
  simp only [isRemote_fileLocation, localPath_fileLocation, bind, Except.bind, pure, Except.pure,
    Bool.false_eq_true, if_false]

/-! ## Paths -/

/-- The location is taken for a path: it is neither a web address nor a `file:` location. -/
structure IsPath (location : String) : Prop where
  offline : isRemote location ≠ .ok true
  unnamed : isFileLocation location = false

theorem IsPath.canonical_eq {location : String} (path : IsPath location) (directory : FilePath) :
    canonical directory location none =
      (isRemote location).map fun _ => fileLocation directory (ofString location) := by
  have here : localPath location = .ok (ofString location) := by
    rw [localPath, path.unnamed]
    rfl
  unfold canonical relativeTo
  cases remote : isRemote location with
  | error fault => simp [remote, Except.map, bind, Except.bind]
  | ok web =>
      cases web with
      | true => exact absurd remote path.offline
      | false => simp [remote, here, Except.map, bind, Except.bind, pure, Except.pure]

/-! ## Absolute paths -/

section AbsolutePaths

variable {location : String} {rest : List Char}

theorem tidy_slash (rest : List Char) : ∃ others, tidy ('/' :: rest) = '/' :: others := by
  refine ⟨rest.filter fun c => c != '\t' && c != '\r' && c != '\n', ?_⟩
  rw [tidy, List.dropWhile_cons_of_neg (by decide), List.filter_cons_of_pos (by decide)]

theorem takeScheme_slash (rest : List Char) : takeScheme ('/' :: rest) = none := by
  simp only [takeScheme, cutFirst]
  cases cutFirst ':' rest with
  | mk before after => cases after <;> rfl

/-- A path has no scheme, if it can be taken apart at all. -/
theorem schemeOf_slash (written : location.toList = '/' :: rest) {scheme : List Char}
    (found : schemeOf location = .ok scheme) : scheme = [] := by
  obtain ⟨others, tidied⟩ := tidy_slash rest
  rw [schemeOf, written, Reference.read, tidied, takeScheme_slash] at found
  obtain ⟨reference, read, rfl⟩ := ok_of_map found
  obtain ⟨_, _, read⟩ := ok_of_bind read
  obtain ⟨_, _, read⟩ := ok_of_bind read
  cases read
  rfl

theorem isRemote_slash (written : location.toList = '/' :: rest) :
    isRemote location ≠ .ok true := by
  intro remote
  obtain ⟨scheme, found, web⟩ := ok_of_map remote
  rw [schemeOf_slash written found] at web
  cases web

/-- Two slashes at the front are needed for anything to be taken for a host. -/
theorem isRemote_of_one_slash (written : location.toList = '/' :: rest)
    (single : ¬ ['/', '/'] <+: tidy location.toList) : isRemote location = .ok false := by
  obtain ⟨others, tidied⟩ := tidy_slash rest
  rw [written, tidied] at single
  have alone : ∀ more, others ≠ '/' :: more := by
    rintro more rfl
    exact single ⟨more, rfl⟩
  rw [isRemote, schemeOf, written, Reference.read, tidied, takeScheme_slash]
  dsimp only [Option.getD_none]
  split
  · next more same => exact absurd (List.cons.inj same).2 (alone more)
  · rfl

theorem isPath_slash (written : location.toList = '/' :: rest) : IsPath location where
  offline := isRemote_slash written
  unnamed := by
    rw [isFileLocation, written]
    rfl

end AbsolutePaths

/-! ## The way back -/

section WayBack

variable {location : String} (directory : FilePath)

/-- The path that the location of a path leads to. -/
def namedBy (path : FilePath) : FilePath := ofChars (unescape (absolute (path.resolve directory)))

theorem namedBy_of_plain {path : FilePath}
    (plain : ∀ segment ∈ path.resolve directory, Plain segment)
    (nothing : holdsEscape (absolute (path.resolve directory)) = false) :
    namedBy directory path = ⟨['/'], path.resolve directory⟩ := by
  rw [namedBy, (unescape_eq_iff _).mpr nothing, FilePath.ofChars_absolute plain]

/-- An escape makes the text shorter, and no shorter text names the same path. -/
theorem resolve_namedBy_ne {path : FilePath}
    (holds : holdsEscape (absolute (path.resolve directory))) (other : FilePath) :
    (namedBy directory path).resolve other ≠ path.resolve directory := by
  intro same
  have shorter := length_unescape_lt holds
  -- resolving takes pieces out of the shorter text and adds none
  have bound : (absolute ((namedBy directory path).resolve other)).length ≤
      (unescape (absolute (path.resolve directory))).length := by
    have rooted : unescape (absolute (path.resolve directory)) =
        '/' :: unescape (joinWith ['/'] (path.resolve directory)) := unescape_cons (by decide) _
    rw [namedBy, rooted]
    exact FilePath.length_absolute_resolve_le _ other
  rw [same] at bound
  omega

theorem resolve_namedBy_iff {path : FilePath}
    (plain : ∀ segment ∈ path.resolve directory, Plain segment) (other : FilePath) :
    (namedBy directory path).resolve other = path.resolve directory ↔
      holdsEscape (absolute (path.resolve directory)) = false := by
  constructor
  · intro same
    by_contra holds
    exact resolve_namedBy_ne directory (Bool.of_not_eq_false holds) other same
  · intro nothing
    rw [namedBy_of_plain directory plain nothing, FilePath.resolve_of_plain plain]

theorem plain_namedBy {path : FilePath} {segment : List Char}
    (member : segment ∈ (namedBy directory path).resolve directory) : Plain segment := by
  refine FilePath.plain_of_mem_resolve (FilePath.isAbsolute_ofChars.mpr ?_) member
  exact ⟨_, unescape_cons (by decide) (joinWith ['/'] (path.resolve directory))⟩

theorem fileLocation_congr {directory first second : FilePath}
    (same : first.resolve directory = second.resolve directory) :
    fileLocation directory first = fileLocation directory second :=
  congrArg (fun segments => String.ofList ("file://".toList ++ escape (absolute segments))) same

/-- Different resolved paths have different locations. -/
theorem fileLocation_eq_iff {first second : FilePath}
    (plain : ∀ segment ∈ first.resolve directory, Plain segment)
    (plainToo : ∀ segment ∈ second.resolve directory, Plain segment) :
    fileLocation directory first = fileLocation directory second ↔
      first.resolve directory = second.resolve directory := by
  constructor
  · intro same
    have texts := List.append_cancel_left (String.ofList_injective same)
    have paths := congrArg ofChars (escape_injective texts)
    rw [FilePath.ofChars_absolute plain, FilePath.ofChars_absolute plainToo] at paths
    exact congrArg FilePath.segments paths
  · exact fileLocation_congr

theorem load_file_iff {world : World} {key : String} {named : FilePath}
    (leads : localPath key = .ok named) (content : List UInt8) :
    Resolver.load .file world key = .ok (.ok content) ↔ world.content? named = some content := by
  have read : Resolver.load .file world key = .ok (world.readFile key) := rfl
  rw [read, World.readFile, leads]
  cases stored : world.content? named with
  | some other => simp [stored]
  | none =>
      simp only [stored, Except.ok.injEq]
      split <;> simp

theorem probe_file_eq {world : World} {key : String} {named : FilePath}
    (leads : localPath key = .ok named) :
    Resolver.probe .file world key = .ok ([], .ok (world.isFile named)) := by
  have asked : Resolver.probe .file world key = .ok (world.probeFile key) := rfl
  rw [asked, World.probeFile, leads]

end WayBack

end SchemaSharp.Location
