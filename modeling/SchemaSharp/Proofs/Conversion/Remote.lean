import SchemaSharp.Command.Execution
import SchemaSharp.Proofs.Conversion.Offline
import SchemaSharp.Proofs.Conversion.Queue

/-!
Runs that are not allowed web documents. Servers may then be probed but are never asked for a
document, and a source answers from its files and from the outcome of probes alone. So what a
server would send has no part in a run: in two worlds that differ in nothing else, any run is the
same, whatever its inputs, its bases and the references of its documents are.
-/

namespace SchemaSharp

open SchemaSharp.Task (Keeps KeepsFrom Says)

/-! ## Worlds -/

namespace World

/-- The outcome of a probe: whether the server reports success, and nothing if none answers. -/
def probed (world : World) (address : String) : Option Bool :=
  match world.web.lookup address with
  | none => none
  | some answer => if answer.probeStatus == 0 then none else some (isSuccess answer.probeStatus)

/-- The worlds have the same files and probes have the same outcomes. With which status a document
is sent, and which document, may be different for any address. -/
structure AlikeButSent (world other : World) : Prop where
  directory : world.directory = other.directory
  files : world.files = other.files
  probed : ∀ address, world.probed address = other.probed address

variable {world other : World}

theorem probeWeb_eq (world : World) (address : String) :
    world.probeWeb address =
      match world.probed address with
      | none => ([.probeFailed address], .ok false)
      | some success => ([], .ok success) := by
  rw [probeWeb, probed]
  cases world.web.lookup address with
  | none => rfl
  | some answer => cases silent : answer.probeStatus == 0 <;> simp only [silent] <;> rfl

theorem AlikeButSent.content? (alike : world.AlikeButSent other) (path : FilePath) :
    world.content? path = other.content? path := by
  rw [World.content?, World.content?, segmentsOf, segmentsOf, alike.directory, alike.files]

theorem AlikeButSent.probe (alike : world.AlikeButSent other) (location : String) :
    world.probe location = other.probe location := by
  unfold World.probe
  split
  · rfl
  · rw [probeWeb_eq, probeWeb_eq, alike.probed]
  · simp only [probeFile, isFile, alike.content?]

theorem AlikeButSent.isDirectory (alike : world.AlikeButSent other) (path : FilePath) :
    world.isDirectory path = other.isDirectory path := by
  rw [World.isDirectory, World.isDirectory, segmentsOf, segmentsOf, alike.directory, alike.files]

theorem AlikeButSent.readFile (alike : world.AlikeButSent other) (location : String) :
    world.readFile location = other.readFile location := by
  simp only [World.readFile, alike.content?, alike.isDirectory]

theorem AlikeButSent.fetch (alike : world.AlikeButSent other) (location : String) :
    world.fetch false location = other.fetch false location := by
  unfold World.fetch
  split
  · rfl
  -- a web document is refused in both worlds, without a look at the server
  · rfl
  · rw [alike.readFile]

/-- Every answer is the same, and so is the number of documents that a load may bring in. -/
theorem AlikeButSent.source (alike : world.AlikeButSent other) :
    world.source false = other.source false := by
  have probes : world.probe = other.probe := funext alike.probe
  have fetches : world.fetch false = other.fetch false := funext alike.fetch
  have patience : world.patience false = other.patience false := by
    simp only [World.patience, alike.files, Bool.false_eq_true, if_false]
  simp only [World.source, alike.directory, probes, fetches, patience]

end World

/-! ## What is reported -/

/-- A request for a document goes to the files, not to a server. -/
def KeepsToFiles (notice : Notice) : Prop :=
  ∀ location, notice = .fetching location → Location.isRemote location = .ok false

theorem keepsToFiles_of_speaker {notice : Notice} (other : notice.speaker ≠ .loader) :
    KeepsToFiles notice := by
  rintro location rfl
  exact absurd rfl other

/-- Whatever the source is asked, it reports notices of this kind only. -/
structure Source.SaysOnly (source : Source) (kind : Notice → Prop) : Prop where
  probe : ∀ location, ∀ notice ∈ (source.probe location).1, kind notice
  fetch : ∀ location, ∀ notice ∈ (source.fetch location).1, kind notice

theorem World.probe_keepsToFiles (world : World) (location : String) :
    ∀ notice ∈ (world.probe location).1, KeepsToFiles notice := by
  have quiet : ∀ notice ∈ (world.probe location).1, notice = .probeFailed location := by
    unfold World.probe
    split
    · simp
    · rw [probeWeb_eq]
      split <;> simp
    · unfold probeFile
      split <;> simp
  intro notice member place same
  rw [quiet notice member] at same
  cases same

/-- A location is refused before a server is asked for it. -/
theorem World.fetch_keepsToFiles (world : World) (location : String) :
    ∀ notice ∈ (world.fetch false location).1, KeepsToFiles notice := by
  unfold World.fetch
  split
  · simp
  · simp
  · next file =>
      intro notice member place same
      rw [List.mem_singleton.mp member] at same
      cases same
      exact file

theorem World.source_keepsToFiles (world : World) :
    (world.source false).SaysOnly KeepsToFiles where
  probe := world.probe_keepsToFiles
  fetch := world.fetch_keepsToFiles

/-! ## Loading -/

namespace Store

open Schema (Document)

section Says

variable {kind : Notice → Prop} {source : Source}
  (own : ∀ notice : Notice, notice.speaker = .store → kind notice)

include own in
theorem register_speaks (document : Document) (inherited : Option String) :
    Keeps (Says kind) (register document inherited) := by
  refine Task.keeps_current_bind fun store => ?_
  split
  · exact Task.keeps_throw _
  · refine Task.keeps_bind (Task.says_change _) fun _ => Task.says_notices fun notice member => ?_
    exact own notice (add_speaker _ _ _ notice member)

variable (asked : source.SaysOnly kind)

include own asked

theorem loadOne_speaks (location : String) (inherited : Option String) :
    Keeps (Says kind) (loadOne source location inherited) := by
  refine Task.keeps_bind (Task.says_ask (asked.fetch location)) fun content => ?_
  refine Task.keeps_current_bind fun store => ?_
  refine Task.keeps_bind (Task.keeps_outcome _) fun document => ?_
  refine Task.keeps_bind (register_speaks own _ _) fun _ => ?_
  exact Task.keeps_bind (Task.says_say (own _ rfl)) fun _ => Task.keeps_pure _

/-- A load reports what its source reports, and has its own to say. -/
theorem load_speaks (location : String) : Keeps (Says kind) (load source location) := by
  have loads : Loads source (fun _ => True) (fun _ => True) fun task before =>
      KeepsFrom (fun _ => True) (Says kind) task before :=
    { answer := fun value => (Task.keeps_pure value).from
      fail := fun before _ => (Task.keeps_throw _).from before
      report := fun before spoken => (Task.says_say (own _ spoken)).from before
      chain := Task.keepsFrom_bind
      look := Task.keepsFrom_current_bind
      faults := fun _ _ _ _ => trivial
      probed := fun location => (Task.says_ask (asked.probe location)).from
      opened := fun inherited _ => (loadOne_speaks own asked _ inherited).from _
      marked := fun _ _ => (Task.says_change _).from _ }
  exact Task.keeps_of_from (load_composed loads (fun _ => trivial) trivial location)

end Says

end Store

/-! ## Runs -/

namespace Conversion

section Says

variable {kind : Notice → Prop} {job : Job}

variable (own : ∀ notice : Notice, notice.speaker ≠ .loader → kind notice)

include own

theorem own_of_ownNotice {notice : Notice} (spoken : OwnNotice notice) : kind notice := by
  refine own notice ?_
  rcases spoken with conversion | writer
  · simp [conversion]
  · simp [writer]

theorem says_of_unloaded {α : Type} {task : Work α} (unloaded : Keeps Unloaded task) :
    Keeps (Says kind) task :=
  unloaded.of_imp fun _ _ left => left.journal.of_imp fun _ => own_of_ownNotice own

variable (asked : job.source.SaysOnly kind)

include asked

theorem seed_speaks : Keeps (Says kind) (seed job) := by
  have loads := Store.load_speaks (fun notice spoken => own notice (by simp [spoken])) asked
  have seeds : Seeds (fun _ => True)
      (fun task before => KeepsFrom (fun _ => True) (Says kind) task before) job :=
    { toComposes := keepsFrom_composes (fun spoken => Task.says_say (own_of_ownNotice own spoken))
        fun _ => Task.says_change _
      onward := Task.keepsFrom_bind
      faults := fun _ _ _ _ => trivial
      missing := fun _ => trivial
      probed := fun key => (Task.says_ask (asked.probe key)).from
      loaded := fun location => (Task.says_within (loads location)).from }
  exact Task.keeps_of_from (seed_composed seeds)

/-- However it ends, a run reports what its source reports, and has its own to say. -/
theorem run_speaks : Keeps (Says kind) (run job) := by
  -- Only probing and loading the inputs ask the source; what follows reports its own.
  have begins : Keeps (Says kind) begin := by
    refine Task.keeps_current_bind fun conversion => ?_
    split
    · exact Task.keeps_throw _
    · exact Task.says_change _
  refine Task.keeps_bind begins fun _ => ?_
  refine Task.keeps_bind (seed_speaks own asked) fun seeds => ?_
  refine Task.keeps_bind (says_of_unloaded own (translateFrom_unloaded seeds)) fun _ => ?_
  refine Task.keeps_current_bind fun conversion => ?_
  refine Task.keeps_bind (says_of_unloaded own ?_) fun _ => Task.keeps_pure _
  exact unloaded_of_offline (offline_say (.inl rfl))

end Says

/-- A file that includes a document from a server, which is there, and may be sent. -/
def lured (status : Nat) (content : List UInt8) : World where
  directory := ⟨['/'], []⟩
  files := [(["a".toList], pairText "<s:include schemaLocation='HTTP://h/b#c'/>")]
  web := [("http://h/b", ⟨200, status, content⟩)]

theorem lured_alike (status otherStatus : Nat) (content otherContent : List UInt8) :
    (lured status content).AlikeButSent (lured otherStatus otherContent) := by
  refine ⟨rfl, rfl, fun address => ?_⟩
  simp only [World.probed, lured, List.lookup_cons]
  cases address == "http://h/b" <;> rfl

def luredJob (allowRemote : Bool) (world : World) : Job :=
  ⟨{ inputs := ["a"], allowRemote := allowRemote }, world.source allowRemote⟩

def serving : World := lured 200 (pairText "<s:complexType name='B'/>")

def refusing : World := lured 404 []

set_option maxRecDepth 100000 in
theorem lured_runs :
    ((start (luredJob false serving)).toOption.map fun begun =>
      let outcome (allowRemote : Bool) (world : World) :=
        (run (luredJob allowRemote world)).perform begun
      ((outcome false serving).1, (outcome false serving).2.journal, (outcome true serving).1,
        (outcome true refusing).1)) =
      some (.error (.unsupported .remoteLoading (some "http://h/b")),
        [.fetching "file:///a", .loaded "file:///a"], .ok ["a.cs"],
        .error (.fetch (.status 404) "http://h/b")) := by
  simp only [luredJob, serving, lured, refusing, pairText, Text.Utf8.encode_toList]
  decide +kernel

end Conversion

/-! ## Command lines -/

/-- The whole execution of a command line that does not allow web documents is the same. -/
theorem Command.execute_ignores_servers {world other : World} {words : List String}
    (disallowed : ∀ request, read words = .ok request → request.settings.allowRemote = false)
    (alike : world.AlikeButSent other) : execute world words = execute other words := by
  unfold execute
  cases asked : read words with
  | error refusal => cases refusal <;> rfl
  | ok request => simp only [convert, disallowed request asked, alike.source]

end SchemaSharp
