import Switchboard.Proofs.Journal.HalfSetUp

/-!
Journal files that cannot be had. Some troubles are foreseen: a set-up warns of them once and is completed
without a file. The others stop it. `file_trouble_met` tells the ones from the others, once the file that was
there before is closed.
-/

namespace Switchboard.Journal

open Step

namespace Storage

theorem path_of_root {s s' : Storage} (same : s'.root = s.root) (r : Route) : s'.path r = s.path r := by
  unfold path
  rw [same]

theorem makeFolder_root {s s' : Storage} {r : Route} (made : s.makeFolder r = .ok s') : s'.root = s.root := by
  obtain ⟨direct, -, made⟩ := except_bind_ok made
  split at made
  · cases made
  · cases made
    rfl

theorem unlessFolder_root (s : Storage) (r : Route) (o : Obstacle) : (s.unlessFolder r o).2.root = s.root := by
  unfold unlessFolder
  split <;> rfl

theorem ensureFolderBack_root (s : Storage) (names : List String) :
    (s.ensureFolderBack names).2.root = s.root := by
  induction names generalizing s with
  | nil => rfl
  | cons name parents ih =>
    have above := ih s
    unfold ensureFolderBack
    dsimp only
    split
    · rename_i made
      exact makeFolder_root made
    · split
      · rename_i stopped
        rwa [stopped] at above
      · rename_i reached
        rw [reached] at above
        split
        · rename_i made
          exact (makeFolder_root made).trans above
        · exact (unlessFolder_root _ _ _).trans above
    · exact unlessFolder_root s _ _

theorem ensureFolder_root (s : Storage) (r : Route) : (s.ensureFolder r).2.root = s.root :=
  ensureFolderBack_root s r.reverse

end Storage

namespace Logbook

/-! ### Troubles -/

inductive FileTrouble where
  | foreseen (folder : Route) (problem : FileProblem)
  | unforeseen (fault : Fault)

/-- The folder of the journal file is found in the one storage and is there in the other. -/
def FolderReady (storage : Storage) (s : JournalSettings) (folder : Route) (made : Storage) : Prop :=
  storage.folder? s.fileDirectory = some folder ∧ storage.ensureFolder folder = (none, made)

/-- What can go wrong on the way to a journal file, from its folder to its lines. -/
inductive Troubled (storage : Storage) (s : JournalSettings) (app : Data) : FileTrouble → Prop
  | noHome (missing : storage.folder? s.fileDirectory = none) : Troubled storage s app (.unforeseen .unknownHome)
  | noFolder {folder : Route} {e : StorageError} {made : Storage}
      (found : storage.folder? s.fileDirectory = some folder)
      (blocked : storage.ensureFolder folder = (some e, made)) :
      Troubled storage s app (.foreseen folder (.storage e))
  | noName {folder : Route} {made : Storage} {p : Template.Problem} (ready : FolderReady storage s folder made)
      (unwritten : nameOf s app = .error p) (expected : isMistake p = false) :
      Troubled storage s app (.foreseen folder (.name p))
  | mistakenName {folder : Route} {made : Storage} {p : Template.Problem}
      (ready : FolderReady storage s folder made) (unwritten : nameOf s app = .error p)
      (mistake : isMistake p = true) : Troubled storage s app (.unforeseen (.unusableFileName p))
  | noFile {folder : Route} {made : Storage} {name : String} {e : StorageError}
      (ready : FolderReady storage s folder made) (written : nameOf s app = .ok name)
      (blocked : made.openFile (made.direct (Route.fromFolder folder name)) = .error e) :
      Troubled storage s app (.foreseen folder (.storage e))
  | noLines {folder : Route} {made : Storage} {name : String} {opened : Route × Storage} {fault : Fault}
      (ready : FolderReady storage s folder made) (written : nameOf s app = .ok name)
      (opening : made.openFile (made.direct (Route.fromFolder folder name)) = .ok opened)
      (invalid : checkPattern s.filePattern = .error fault) : Troubled storage s app (.unforeseen fault)

/-! ### The file -/

section file

variable {b : Logbook} {s : JournalSettings} {app : Data} {folder : Route} {made : Storage}

theorem findFolder_answers (found : b.storage.folder? s.fileDirectory = some folder) :
    Answers (findFolder s) b folder b := by
  refine answers_bind.mpr ⟨b, b, answers_get.mpr ⟨rfl, rfl⟩, ?_⟩
  rw [found]
  exact answers_pure.mpr ⟨rfl, rfl⟩

theorem openFile_blocked {e : StorageError} (blocked : b.storage.ensureFolder folder = (some e, made)) :
    Answers (openFile s folder app) b (.error (.storage e)) { b with storage := made } := by
  refine answers_bind.mpr ⟨b, b, answers_get.mpr ⟨rfl, rfl⟩, ?_⟩
  rw [blocked]
  exact answers_bind.mpr ⟨(), _, answers_modify.mpr rfl, answers_pure.mpr ⟨rfl, rfl⟩⟩

theorem openFile_ensured (ensured : b.storage.ensureFolder folder = (none, made)) :
    EndsAs (openFile s folder app) b (openNamed s folder app) { b with storage := made } := by
  refine (bind_run_ok (answers_get.mpr ⟨rfl, rfl⟩)).trans ?_
  rw [ensured]
  exact bind_run_ok (answers_modify.mpr rfl)

theorem openNamed_unnamed {p : Template.Problem} (unwritten : nameOf s app = .error p) :
    EndsAs (openNamed s folder app) b
      (if isMistake p then Step.fail (.unusableFileName p) else pure (.error (.name p))) b := by
  refine (bind_run_ok (answers_get.mpr ⟨rfl, rfl⟩)).trans ?_
  rw [unwritten]
  exact ⟨rfl, rfl⟩

theorem openNamed_blocked {name : String} (written : nameOf s app = .ok name) {e : StorageError}
    (blocked : b.storage.openFile (b.storage.direct (Route.fromFolder folder name)) = .error e) :
    Answers (openNamed s folder app) b (.error (.storage e)) b := by
  refine answers_bind.mpr ⟨b, b, answers_get.mpr ⟨rfl, rfl⟩, ?_⟩
  rw [written]
  dsimp only
  rw [blocked]
  exact answers_pure.mpr ⟨rfl, rfl⟩

theorem openNamed_opened {name : String} (written : nameOf s app = .ok name) {opened : Route × Storage}
    (opening : b.storage.openFile (b.storage.direct (Route.fromFolder folder name)) = .ok opened) :
    Answers (openNamed s folder app) b (.ok (Route.fromFolder folder name, opened.1))
      { b with storage := opened.2 } := by
  refine answers_bind.mpr ⟨b, b, answers_get.mpr ⟨rfl, rfl⟩, ?_⟩
  rw [written]
  dsimp only
  rw [opening]
  exact answers_bind.mpr ⟨(), _, answers_modify.mpr rfl, answers_pure.mpr ⟨rfl, rfl⟩⟩

/-- What the terminal is told of a trouble that is foreseen. -/
def warning (folder : String) (problem : FileProblem) : String :=
  s!"Warning: Cannot set up log file in {folder}: {problem.message}\n"

theorem openFile_foreseen {problem : FileProblem} (troubled : Troubled b.storage s app (.foreseen folder problem)) :
    b.storage.folder? s.fileDirectory = some folder ∧ ∃ made, made.root = b.storage.root ∧
      Answers (openFile s folder app) b (.error problem) { b with storage := made } := by
  have root := b.storage.ensureFolder_root folder
  cases troubled with
  | noFolder found blocked =>
    rw [blocked] at root
    exact ⟨found, _, root, openFile_blocked blocked⟩
  | noName ready unwritten expected =>
    rw [ready.2] at root
    have named := (openFile_ensured ready.2).trans (openNamed_unnamed unwritten)
    rw [expected] at named
    exact ⟨ready.1, _, root, named.answers (answers_pure.mpr ⟨rfl, rfl⟩)⟩
  | noFile ready written blocked =>
    rw [ready.2] at root
    exact ⟨ready.1, _, root, (openFile_ensured ready.2).answers (openNamed_blocked written blocked)⟩

theorem attachFile_warns {problem : FileProblem} (troubled : Troubled b.storage s app (.foreseen folder problem)) :
    ∃ b', Answers (attachFile s app) b () b' ∧ b.Undisturbed b' ∧ b'.channels = b.channels ∧
      b'.terminal = b.terminal ++ warning (b.storage.path folder) problem := by
  obtain ⟨found, made, root, unopened⟩ := openFile_foreseen troubled
  refine ⟨{ b with storage := made, terminal := b.terminal ++ warning (b.storage.path folder) problem }, ?_,
    ⟨rfl, rfl, rfl⟩, rfl, rfl⟩
  refine answers_bind.mpr ⟨folder, b, findFolder_answers found, ?_⟩
  refine answers_bind.mpr ⟨_, _, unopened, answers_modify.mpr ?_⟩
  rw [← Storage.path_of_root root]
  rfl

theorem attachFile_unforeseen {fault : Fault} (troubled : Troubled b.storage s app (.unforeseen fault)) :
    ∃ b', Faults (attachFile s app) b fault b' := by
  cases troubled with
  | noHome missing =>
    have homeless : Faults (findFolder s) b .unknownHome b := by
      refine faults_bind.mpr (.inr ⟨b, b, answers_get.mpr ⟨rfl, rfl⟩, ?_⟩)
      rw [missing]
      exact ⟨rfl, rfl⟩
    exact ⟨b, faults_bind.mpr (.inl homeless)⟩
  | mistakenName ready unwritten mistake =>
    have named := (openFile_ensured ready.2).trans (openNamed_unnamed unwritten)
    rw [mistake] at named
    have stopped := named.faults ⟨rfl, rfl⟩
    exact ⟨_, faults_bind.mpr (.inr ⟨_, b, findFolder_answers ready.1, faults_bind.mpr (.inl stopped)⟩)⟩
  | @noLines _ _ _ opened _ ready written opening invalid =>
    refine ⟨{ b with storage := opened.2 }, ?_⟩
    refine faults_bind.mpr (.inr ⟨_, b, findFolder_answers ready.1, ?_⟩)
    have opened := (openFile_ensured ready.2).answers (openNamed_opened written opening)
    refine faults_bind.mpr (.inr ⟨_, _, opened, ?_⟩)
    exact faults_bind.mpr (.inl (faults_ofExcept.mpr ⟨invalid, rfl⟩))

theorem attachOpened_answers (valid : checkPattern s.filePattern = .ok ()) (shown route : Route) (b : Logbook) :
    ∃ b', Answers (attachOpened s shown route) b () b' ∧ b'.setup.path.isSome = true :=
  ⟨_, answers_bind.mpr ⟨(), b, answers_ofExcept.mpr ⟨valid, rfl⟩, answers_modify.mpr rfl⟩, rfl⟩

theorem attachFile_attaches (ready : FolderReady b.storage s folder made) {name : String}
    (written : nameOf s app = .ok name) {opened : Route × Storage}
    (opening : made.openFile (made.direct (Route.fromFolder folder name)) = .ok opened)
    (valid : checkPattern s.filePattern = .ok ()) :
    ∃ b', Answers (attachFile s app) b () b' ∧ b'.setup.path.isSome = true := by
  obtain ⟨b', attached, some⟩ :=
    attachOpened_answers valid (Route.fromFolder folder name) opened.1 { b with storage := opened.2 }
  have opened := (openFile_ensured ready.2).answers (openNamed_opened written opening)
  refine ⟨b', answers_bind.mpr ⟨folder, b, findFolder_answers ready.1, ?_⟩, some⟩
  exact answers_bind.mpr ⟨_, _, opened, attached⟩

theorem attachFile_untroubled (untroubled : ∀ trouble, ¬Troubled b.storage s app trouble) :
    ∃ b', Answers (attachFile s app) b () b' ∧ b'.setup.path.isSome = true := by
  cases found : b.storage.folder? s.fileDirectory with
  | none => exact (untroubled _ (.noHome found)).elim
  | some folder =>
    cases ensured : b.storage.ensureFolder folder with
    | mk stopped made =>
      cases stopped with
      | some e => exact (untroubled _ (.noFolder found ensured)).elim
      | none =>
        have ready : FolderReady b.storage s folder made := ⟨found, ensured⟩
        cases written : nameOf s app with
        | error p =>
          cases expected : isMistake p with
          | false => exact (untroubled _ (.noName ready written expected)).elim
          | true => exact (untroubled _ (.mistakenName ready written expected)).elim
        | ok name =>
          cases opening : made.openFile (made.direct (Route.fromFolder folder name)) with
          | error e => exact (untroubled _ (.noFile ready written opening)).elim
          | ok opened =>
            cases valid : checkPattern s.filePattern with
            | error fault => exact (untroubled _ (.noLines ready written opening valid)).elim
            | ok _ => exact attachFile_attaches ready written opening valid

end file

/-! ### The set-up with and without the file -/

/-- A logbook at some point of its use. -/
def Reached (b : Logbook) : Prop :=
  ∃ channels storage terminal events, after (blank channels storage terminal) events = b

theorem Reached.orderly {b : Logbook} (reached : b.Reached) : b.Orderly := by
  obtain ⟨channels, storage, terminal, events, rfl⟩ := reached
  exact (after_gains (blank_orderly channels storage terminal) events).1

/-- What an outlet shows of a record on the terminal. -/
def shownBy (r : Record) : Destination → String
  | .console c => (Console.line? c r).getD ""
  | .file _ => ""
  | .foreign _ => ""

theorem writeTo_terminal (r : Record) (b : Logbook) (d : Destination) :
    (writeTo r b d).terminal = b.terminal ++ shownBy r d := by
  cases d with
  | console c =>
    dsimp only [writeTo, shownBy]
    cases Console.line? c r with
    | none => exact String.append_empty.symm
    | some line => rfl
  | file f =>
    dsimp only [writeTo, shownBy]
    cases FileOutlet.line? f r <;> exact String.append_empty.symm
  | foreign kind => exact String.append_empty.symm

theorem writeTo_channels (r : Record) (b : Logbook) (d : Destination) :
    (writeTo r b d).channels = b.channels := by
  unfold writeTo
  split
  · split <;> rfl
  · split <;> rfl
  · rfl

def SameChannels (b b' : Logbook) : Prop := b'.channels = b.channels

instance : Trans SameChannels SameChannels SameChannels := ⟨fun h h' => Eq.trans h' h⟩

theorem deliver_channels (b : Logbook) (r : Record) : (b.deliver r).channels = b.channels :=
  deliver_keeps (R := SameChannels) (fun _ => rfl) r (writeTo_channels r) b

/-- What a row of outlets shows of a record. -/
def shownAll (r : Record) : List Outlet → String
  | [] => ""
  | o :: rest => shownBy r o.destination ++ shownAll r rest

theorem deliver_shownAll (b : Logbook) (r : Record) :
    (b.deliver r).terminal = b.terminal ++ shownAll r b.outlets := by
  have along (outlets : List Outlet) : ∀ b : Logbook,
      (outlets.foldl (fun b o => writeTo r b o.destination) b).terminal = b.terminal ++ shownAll r outlets := by
    induction outlets with
    | nil => exact fun b => String.append_empty.symm
    | cons o rest ih =>
      intro b
      rw [List.foldl_cons, ih, writeTo_terminal, String.append_assoc, shownAll]
  exact along b.outlets b

theorem shownBy_foreign (r : Record) {o : Outlet} (foreign : o.isForeign = true) : shownBy r o.destination = "" := by
  unfold Outlet.isForeign at foreign
  cases d : o.destination with
  | foreign kind => rfl
  | console c => rw [d] at foreign; cases foreign
  | file f => rw [d] at foreign; cases foreign

/-- Outlets of others show nothing, so that a console behind them is the only one to show a record. -/
theorem deliver_terminal {b : Logbook} {others : List Outlet} (foreign : ∀ o ∈ others, o.isForeign = true)
    {own : Outlet} (outlets : b.outlets = others ++ [own]) (r : Record) :
    (b.deliver r).terminal = b.terminal ++ shownBy r own.destination := by
  rw [deliver_shownAll, outlets]
  congr 1
  clear outlets
  induction others with
  | nil => exact String.append_empty
  | cons o rest ih =>
    obtain ⟨other, later⟩ := List.forall_mem_cons.mp foreign
    rw [List.cons_append, shownAll, shownBy_foreign r other, ih later, String.empty_append]

theorem noted_outlets (b : Logbook) (e : Entry) : (b.noted e).outlets = b.outlets := by
  unfold noted
  split
  · exact (deliver_undisturbed _ _).outlets
  · rfl

theorem noted_channels (b : Logbook) (e : Entry) : (b.noted e).channels = b.channels.mention e.channel := by
  unfold noted
  split
  · exact deliver_channels _ _
  · rfl

theorem noted_terminal {b : Logbook} {others : List Outlet} (foreign : ∀ o ∈ others, o.isForeign = true)
    {own : Outlet} (outlets : b.outlets = others ++ [own]) (e : Entry) :
    (b.noted e).terminal = b.terminal ++
      if (b.noted e).channels.admits e.channel e.level then shownBy (.ofEntry e) own.destination else "" := by
  rw [noted_channels]
  unfold noted
  by_cases admitted : (b.mention e.channel).channels.admits e.channel e.level = true
  · rw [if_pos admitted, if_pos (by exact admitted)]
    exact deliver_terminal (b := b.mention e.channel) foreign outlets _
  · rw [if_neg admitted, if_neg (by exact admitted)]
    exact String.append_empty.symm

theorem finished_terminal {b : Logbook} {others : List Outlet} (foreign : ∀ o ∈ others, o.isForeign = true)
    {own : Outlet} (outlets : b.outlets = others ++ [own]) (path : b.setup.path = none) (app : Data) :
    (b.finished app).terminal = b.terminal ++
      if (b.finished app).channels.admits Channel.journal.name Level.debug
      then shownBy (.ofEntry (closing app none)) own.destination else "" := by
  unfold finished
  rw [path]
  exact noted_terminal (b := { b with setup := { b.setup with isDone := true } }) foreign outlets (closing app none)

/-- The levels that the settings give to channels, in order. All else comes through to the outlets. -/
def levelsOf (s : JournalSettings) : List (String × Rank) :=
  (ChannelTree.rootName, Level.debug) ::
    s.components.map fun e => (e.1, (levelOf e.2 defaultComponentLevel : Level))

theorem applyComponents_channels (s : JournalSettings) {b b' : Logbook}
    (restarted : b'.channels = b.restarted.channels) :
    (applyComponents s b').state.channels = ChannelTree.setLevels (levelsOf s) b.channels := by
  unfold ChannelTree.setLevels levelsOf
  rw [List.foldl_cons, List.foldl_map, ← restarted_channels, ← restarted]
  rfl

theorem applyComponents_given (s : JournalSettings) {b b' : Logbook} (restarted : b'.channels = b.restarted.channels) :
    LevelsGiven (levelsOf s) b.channels (applyComponents s b').state.channels := by
  rw [applyComponents_channels s restarted]
  exact setLevels_given (levelsOf s) b.channels

/-- The console shows the line that the journal is told at the end if its settings let it. -/
def closingLine (s : JournalSettings) (app : Data) (t : ChannelTree) : String :=
  if t.admits Channel.journal.name Level.debug then (Console.line? (consoleOf s) (.ofEntry (closing app none))).getD ""
  else ""

/-- The set-up is complete but for the file, of which the terminal is told once. -/
structure SetUpWithoutFile (s : JournalSettings) (app : Data) (folder : Route) (problem : FileProblem)
    (b b' : Logbook) : Prop where
  setup : b'.setup = { isDone := true, console := some ⟨b.next, .console (consoleOf s)⟩ }
  outlets : b'.outlets = b.foreign ++ [⟨b.next, .console (consoleOf s)⟩]
  levels : LevelsGiven (levelsOf s) b.channels b'.channels
  terminal : b'.terminal =
    b.terminal ++ warning (b.storage.path folder) problem ++ closingLine s app b'.channels

section setUp

variable {b : Logbook} {s : JournalSettings} {app : Data}

theorem setUp_attaches (free : b.closed.1 = none) (enabled : s.fileEnabled = true)
    (valid : checkPattern s.consolePattern = .ok ()) (app : Data) :
    EndsAs (setUp s app) b (attachFile s app >>= fun _ => applyComponents s >>= fun _ => finish app)
      (b.restarted.withConsole s) := by
  have console := attachConsole_answers_iff.mpr (And.intro valid (Eq.refl (b.restarted.withConsole s)))
  refine (bind_run_ok (restart_answers free)).trans ((bind_run_ok console).trans ?_)
  rw [if_pos enabled]
  exact ⟨rfl, rfl⟩

theorem setUp_without_file (orderly : b.Orderly) (free : b.closed.1 = none) (enabled : s.fileEnabled = true)
    (valid : checkPattern s.consolePattern = .ok ()) {folder : Route} {problem : FileProblem}
    (troubled : Troubled b.storage s app (.foreseen folder problem)) :
    ∃ b', Answers (setUp s app) b none b' ∧ SetUpWithoutFile s app folder problem b b' := by
  have storage : (b.restarted.withConsole s).storage = b.storage := restarted_storage b
  have outlets : (b.restarted.withConsole s).outlets = b.foreign ++ [⟨b.next, .console (consoleOf s)⟩] := by
    rw [withConsole_outlets, withdrawn_outlets orderly]
  -- Taking the old outlets away and attaching the console leaves the storage to the file as it was.
  rw [← storage] at troubled
  obtain ⟨b₁, warned, same, channels, terminal⟩ := attachFile_warns troubled
  have told := settle_answers s app b₁
  have path : b₁.setup.path = none := by
    rw [same.setup, withConsole_setup]
  rw [path] at told
  have foreign : ∀ o ∈ b.foreign, o.isForeign = true := fun o listed => (List.mem_filter.mp listed).2
  have attached : (applyComponents s b₁).state.outlets = b.foreign ++ [⟨b.next, .console (consoleOf s)⟩] :=
    same.outlets.trans outlets
  refine ⟨_, (setUp_attaches free enabled valid app).answers (answers_bind.mpr ⟨(), b₁, warned, told⟩), ?_, ?_, ?_, ?_⟩
  · refine (noted_setup _ _).trans ?_
    show { b₁.setup with isDone := true } = _
    rw [same.setup, withConsole_setup]
  · exact (noted_outlets _ _).trans attached
  · refine (applyComponents_given s channels).of_same ?_
    unfold finished
    rw [noted_channels]
    exact ChannelTree.mention_sameLevels _ _
  · have last := finished_terminal foreign attached path app
    have before : (applyComponents s b₁).state.terminal = b.terminal ++ warning (b.storage.path folder) problem := by
      rw [← storage, ← restarted_terminal b]
      exact terminal
    rw [before] at last
    exact last

theorem setUp_with_file (free : b.closed.1 = none) (enabled : s.fileEnabled = true)
    (valid : checkPattern s.consolePattern = .ok ()) (untroubled : ∀ trouble, ¬Troubled b.storage s app trouble) :
    ∃ path b', Answers (setUp s app) b (some path) b' := by
  have storage : (b.restarted.withConsole s).storage = b.storage := restarted_storage b
  rw [← storage] at untroubled
  obtain ⟨b₁, attached, some⟩ := attachFile_untroubled untroubled
  obtain ⟨path, found⟩ := Option.isSome_iff_exists.mp some
  have told := settle_answers s app b₁
  rw [found] at told
  exact ⟨path, _, (setUp_attaches free enabled valid app).answers (answers_bind.mpr ⟨(), b₁, attached, told⟩)⟩

theorem setUp_unforeseen (free : b.closed.1 = none) (enabled : s.fileEnabled = true)
    (valid : checkPattern s.consolePattern = .ok ()) {fault : Fault}
    (troubled : Troubled b.storage s app (.unforeseen fault)) : ∃ b', Faults (setUp s app) b fault b' := by
  have storage : (b.restarted.withConsole s).storage = b.storage := restarted_storage b
  rw [← storage] at troubled
  obtain ⟨b', stopped⟩ := attachFile_unforeseen troubled
  exact ⟨b', (setUp_attaches free enabled valid app).faults (faults_bind.mpr (.inl stopped))⟩

/-- What becomes of a set-up that is to attach a journal file, with settings whose console is in order: it
ends with a path if the file is no trouble; it warns once, and is complete but for the file, if the
trouble is foreseen; and it stops if it is not. A file of before that cannot be closed stops it at once. -/
theorem file_trouble_met {input : SettingsInput} {force : Bool} (reached : b.Reached) (takes : b.Takes force)
    (read : input.read = .ok s) (enabled : s.fileEnabled = true)
    (valid : checkPattern s.consolePattern = .ok ()) (app : Data) :
    match b.closed.1 with
    | some e => Faults (configure app input force) b (.storage e) b.stranded
    | none =>
      ((∀ trouble, ¬Troubled b.storage s app trouble) →
        ∃ path b', Answers (configure app input force) b (some path) b') ∧
      ∀ trouble, Troubled b.storage s app trouble → match trouble with
        | .foreseen folder problem => ∃ b', Answers (configure app input force) b none b' ∧
            SetUpWithoutFile s app folder problem b b'
        | .unforeseen fault => ∃ b', Faults (configure app input force) b fault b' := by
  have run := configure_of_read takes app read
  cases closing : b.closed.1 with
  | some e => exact run.faults (setUp_faults closing s app)
  | none =>
    refine ⟨fun untroubled => ?_, fun trouble troubled => ?_⟩
    · obtain ⟨path, b', answers⟩ := setUp_with_file closing enabled valid untroubled
      exact ⟨path, b', run.answers answers⟩
    · cases trouble with
      | foreseen folder problem =>
        obtain ⟨b', answers, complete⟩ := setUp_without_file reached.orderly closing enabled valid troubled
        exact ⟨b', run.answers answers, complete⟩
      | unforeseen fault =>
        obtain ⟨b', stopped⟩ := setUp_unforeseen closing enabled valid troubled
        exact ⟨b', run.faults stopped⟩

end setUp

/-! ### A name that asks for a place, and one that asks for a field -/

def filed (fileName : String) : JournalSettings := { fileEnabled := true, fileDirectory := "logs", fileName }

theorem filed_console (fileName : String) : checkPattern (filed fileName).consolePattern = .ok () := by
  have valid : Pattern.isValid "%(levelname)s - %(message)s" = true := by decide +kernel
  exact if_pos (by simp [filed, valid])

theorem logs_ready (fileName : String) : ∃ made, FolderReady fresh.storage (filed fileName) ["logs"] made := by
  have found : fresh.storage.folder? "logs" = some ["logs"] := by decide +kernel
  have made : (fresh.storage.ensureFolder ["logs"]).1 = none := by decide +kernel
  exact ⟨_, found, Prod.ext made rfl⟩

theorem empty_braces_stop_setup :
    (∃ b', Faults (configure defaultApplication (.settings (filed "\x7b\x7d.log")) false) fresh
      (.unusableFileName (.noPosition 0)) b') ∧
    ∃ b', Answers (configure defaultApplication (.settings (filed "\x7bday\x7d.log")) false) fresh none b' ∧
      b'.setup.isDone = true := by
  have reached : fresh.Reached := ⟨{}, { root := "root" }, "", [], rfl⟩
  have takes : fresh.Takes false := nofun
  have read (fileName : String) : (SettingsInput.settings (filed fileName)).read = .ok (filed fileName) := rfl
  have met (fileName : String) :=
    file_trouble_met reached takes (read fileName) rfl (filed_console fileName) defaultApplication
  constructor
  · obtain ⟨made, ready⟩ := logs_ready "\x7b\x7d.log"
    have unwritten : nameOf (filed "\x7b\x7d.log") defaultApplication = .error (.noPosition 0) := rfl
    exact (met _).2 _ (.mistakenName ready unwritten rfl)
  · obtain ⟨made, ready⟩ := logs_ready "\x7bday\x7d.log"
    have unwritten : nameOf (filed "\x7bday\x7d.log") defaultApplication = .error (.unknownField "day") := rfl
    obtain ⟨b', answers, complete⟩ := (met _).2 _ (.noName ready unwritten rfl)
    exact ⟨b', answers, congrArg Setup.isDone complete.setup⟩

end Logbook
end Switchboard.Journal
