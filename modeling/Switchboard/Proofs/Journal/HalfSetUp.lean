import Switchboard.Proofs.Journal.Levels
import Switchboard.Proofs.Journal.Outlets

/-!
Set-ups that stop. Settings that cannot be read stop a set-up before it has begun, and a file that was there
before and cannot be closed stops it as it would a reset. Any later fault leaves the logbook half set up, with
what others put there; `failed_configure` says in which state exactly.
-/

namespace Switchboard.Journal

open Step

namespace Logbook

/-! ### What a set-up consists of -/

/-- The call is not skipped. -/
def Takes (b : Logbook) (force : Bool) : Prop := b.setup.isDone = true → force = true

theorem configure_takes {b : Logbook} {force : Bool} (takes : b.Takes force) (app : Data) (input : SettingsInput) :
    EndsAs (configure app input force) b (Step.ofExcept input.read >>= fun s => setUp s app) b := by
  have skipped : (b.setup.isDone && !force) = false := by
    cases done : b.setup.isDone with
    | false => rfl
    | true => simp [takes done]
  have got : Answers (Step.get : Step Logbook Logbook) b b b := answers_get.mpr ⟨rfl, rfl⟩
  unfold configure
  refine (bind_run_ok got).trans ?_
  rw [skipped]
  exact ⟨rfl, rfl⟩

theorem takes_of_faults {b b' : Logbook} {app : Data} {input : SettingsInput} {force : Bool} {fault : Fault}
    (h : Faults (configure app input force) b fault b') : b.Takes force := by
  intro done
  by_contra unforced
  rw [Bool.not_eq_true] at unforced
  subst unforced
  have skipped := configure_again done app input
  rw [Faults, skipped] at h
  cases h.1

theorem configure_of_read {b : Logbook} {force : Bool} (takes : b.Takes force) (app : Data)
    {input : SettingsInput} {s : JournalSettings} (read : input.read = .ok s) :
    EndsAs (configure app input force) b (setUp s app) b :=
  (configure_takes takes app input).trans (bind_run_ok (answers_ofExcept.mpr ⟨read, rfl⟩))

/-- The logbook with the console of the settings behind its other outlets. -/
def withConsole (s : JournalSettings) (b : Logbook) : Logbook :=
  { (b.attach (.console (consoleOf s))).2 with
    setup := { b.setup with console := some ⟨b.next, .console (consoleOf s)⟩ } }

theorem restarted_eq (b : Logbook) : b.restarted = { b with
    outlets := b.withdrawn.outlets
    channels := b.channels.setLevel ChannelTree.rootName Level.debug
    setup := {} } := by
  rw [restarted, cleared, withdrawn_eq]

theorem restarted_next (b : Logbook) : b.restarted.next = b.next := by rw [restarted_eq]

theorem restarted_storage (b : Logbook) : b.restarted.storage = b.storage := by rw [restarted_eq]

theorem restarted_terminal (b : Logbook) : b.restarted.terminal = b.terminal := by rw [restarted_eq]

theorem restarted_channels (b : Logbook) :
    b.restarted.channels = b.channels.setLevel ChannelTree.rootName Level.debug := by rw [restarted_eq]

theorem restarted_level (b : Logbook) {name : String} (below : ¬ChannelTree.isRoot name = true) :
    b.restarted.channels.ownLevel name = b.channels.ownLevel name := by
  rw [restarted_channels]
  refine ChannelTree.ownLevel_setLevel_other _ ?_
  rintro (rfl | ⟨-, root⟩)
  · exact below rfl
  · exact below root

theorem attachConsole_answers_iff {s : JournalSettings} {b b' : Logbook} :
    Answers (attachConsole s) b () b' ↔ checkPattern s.consolePattern = .ok () ∧ b' = b.withConsole s := by
  constructor
  · intro h
    obtain ⟨_, _, checked, attached⟩ := answers_bind.mp h
    obtain ⟨valid, rfl⟩ := answers_ofExcept.mp checked
    exact ⟨valid, answers_modify.mp attached⟩
  · rintro ⟨valid, rfl⟩
    exact answers_bind.mpr ⟨(), b, answers_ofExcept.mpr ⟨valid, rfl⟩, answers_modify.mpr rfl⟩

theorem attachConsole_faults {s : JournalSettings} {b b' : Logbook} {fault : Fault}
    (h : Faults (attachConsole s) b fault b') : checkPattern s.consolePattern = .error fault ∧ b' = b := by
  rcases faults_bind.mp h with checked | ⟨_, _, -, attached⟩
  · exact faults_ofExcept.mp checked
  · cases attached.1

theorem withConsole_outlets (s : JournalSettings) (b : Logbook) :
    (b.restarted.withConsole s).outlets = b.withdrawn.outlets ++ [⟨b.next, .console (consoleOf s)⟩] := by
  rw [← restarted_next b]
  rfl

theorem withConsole_setup (s : JournalSettings) (b : Logbook) :
    (b.restarted.withConsole s).setup = { console := some ⟨b.next, .console (consoleOf s)⟩ } := by
  rw [← restarted_next b]
  rfl

/-! ### Where a set-up stops -/

/-- A file that stops the set-up is not attached. -/
theorem attachFile_stops {s : JournalSettings} {app : Data} {b b' : Logbook} {fault : Fault}
    (h : Faults (attachFile s app) b fault b') : b.OnlyStorage b' := by
  rcases faults_bind.mp h with stopped | ⟨folder, b₁, found, h⟩
  · exact stopped.2 ▸ findFolder_onlyStorage s b
  have first : b.OnlyStorage b₁ := found.2 ▸ findFolder_onlyStorage s b
  rcases faults_bind.mp h with stopped | ⟨opened, b₂, opening, h⟩
  · exact first.trans (stopped.2 ▸ openFile_onlyStorage s folder app b₁)
  have second : b₁.OnlyStorage b₂ := opening.2 ▸ openFile_onlyStorage s folder app b₁
  cases opened with
  -- A problem that is foreseen is printed, and no fault.
  | error problem => cases h.1
  | ok routes =>
    rcases faults_bind.mp h with stopped | ⟨_, b₃, -, attached⟩
    · obtain ⟨-, rfl⟩ := faults_ofExcept.mp stopped
      exact first.trans second
    · cases attached.1

/-! ### What is said at the end -/

/-- The logbook after an entry, which is delivered if its channel lets it through. -/
def noted (b : Logbook) (e : Entry) : Logbook :=
  if (b.mention e.channel).channels.admits e.channel e.level then (b.mention e.channel).deliver (.ofEntry e)
  else b.mention e.channel

/-- An entry has no fields of its own, so that none of them can clash with those of every entry. -/
theorem log_entry_answers (e : Entry) (b : Logbook) : ∃ r, Answers (log (.ofEntry e)) b r (b.noted e) := by
  have mentioned : Answers (Step.modify (·.mention e.channel)) b () (b.mention e.channel) :=
    answers_modify.mpr rfl
  refine mentioned.ends ((answers_get.mpr ⟨rfl, rfl⟩ : Answers Step.get _ _ _).ends ?_)
  unfold noted
  by_cases admitted : (b.mention e.channel).channels.admits e.channel e.level = true
  · rw [if_pos admitted, if_pos (by exact admitted)]
    exact ⟨some (.ofEntry e), rfl, rfl⟩
  · rw [if_neg admitted, if_neg (by exact admitted)]
    exact ⟨none, rfl, rfl⟩

/-- What the journal is told once it is set up. -/
def closing (app : Data) (path : Option String) : Entry :=
  let shown := path.getD "None"
  Channel.journal.debug s!"Logging configured for {app.shown}. Log file: {shown}"

def finished (app : Data) (b : Logbook) : Logbook :=
  { b with setup := { b.setup with isDone := true } }.noted (closing app b.setup.path)

theorem noted_setup (b : Logbook) (e : Entry) : (b.noted e).setup = b.setup := by
  unfold noted
  split
  · exact (deliver_undisturbed _ _).setup
  · rfl

theorem finish_answers (app : Data) (b : Logbook) : Answers (finish app) b b.setup.path (b.finished app) := by
  obtain ⟨r, logged⟩ := log_entry_answers (closing app b.setup.path)
    { b with setup := { b.setup with isDone := true } }
  refine answers_bind.mpr ⟨(), _, answers_modify.mpr rfl, ?_⟩
  refine answers_bind.mpr ⟨_, _, answers_get.mpr ⟨rfl, rfl⟩, ?_⟩
  exact answers_bind.mpr ⟨r, _, logged, answers_pure.mpr ⟨rfl, rfl⟩⟩

theorem settle_answers (s : JournalSettings) (app : Data) (b : Logbook) :
    Answers (applyComponents s >>= fun _ => finish app) b b.setup.path
      ((applyComponents s b).state.finished app) :=
  answers_bind.mpr ⟨(), _, ⟨rfl, rfl⟩, finish_answers app _⟩

/-! ### A set-up that stops -/

/-- The logbook is half set up: its own outlets of before are gone, and the console is there unless that is
where the set-up stopped. -/
structure HalfSetUp (s : JournalSettings) (fault : Fault) (b b' : Logbook) : Prop where
  outlets : b'.outlets =
    (b.outlets.filter fun o => b.setup.outlets.all fun own => o.number != own.number) ++ b'.setup.console.toList
  console : checkPattern s.consolePattern = .error fault ∧ b'.setup.console = none ∨
    checkPattern s.consolePattern = .ok () ∧ s.fileEnabled = true ∧
      b'.setup.console = some ⟨b.next, .console (consoleOf s)⟩
  file : b'.setup.file = none
  path : b'.setup.path = none
  notDone : b'.setup.isDone = false
  root : b'.channels.root = Level.debug
  levels : ∀ name, ¬ChannelTree.isRoot name = true → b'.channels.ownLevel name = b.channels.ownLevel name
  terminal : b'.terminal = b.terminal

theorem setUp_stops {s : JournalSettings} {app : Data} {b b' : Logbook} {fault : Fault}
    (free : b.closed.1 = none) (h : Faults (setUp s app) b fault b') : HalfSetUp s fault b b' := by
  replace h := (bind_run_ok (restart_answers free)).symm.faults h
  have outlets := withdrawn_outlets_eq b
  rcases faults_bind.mp h with stopped | ⟨_, b₂, attached, h⟩
  · obtain ⟨invalid, rfl⟩ := attachConsole_faults stopped
    refine ⟨?_, .inl ⟨invalid, rfl⟩, rfl, rfl, rfl, rfl, fun _ => restarted_level b, restarted_terminal b⟩
    exact outlets.trans (List.append_nil _).symm
  · obtain ⟨valid, rfl⟩ := attachConsole_answers_iff.mp attached
    split at h
    · rename_i enabled
      rcases faults_bind.mp h with stopped | ⟨_, b₃, -, settling⟩
      · obtain ⟨storage, rfl⟩ := attachFile_stops stopped
        have setup := withConsole_setup s b
        refine ⟨?_, .inr ⟨valid, enabled, congrArg Setup.console setup⟩, congrArg Setup.file setup,
          congrArg Setup.path setup, congrArg Setup.isDone setup, rfl, fun _ => restarted_level b,
          restarted_terminal b⟩
        rw [setup, ← outlets]
        exact withConsole_outlets s b
      -- Neither the components nor the closing entry can stop a set-up.
      · exact ((settle_answers s app b₃).not_faults settling).elim
    · exact ((settle_answers s app _).not_faults h).elim

theorem setUp_faults {b : Logbook} {e : StorageError} (clogged : b.closed.1 = some e) (s : JournalSettings)
    (app : Data) : Faults (setUp s app) b (.storage e) b.stranded :=
  bind_run_error (restart_faults clogged)

theorem console_refused {s : JournalSettings} {input : SettingsInput} {fault : Fault} {b : Logbook}
    {force : Bool} (takes : b.Takes force) (free : b.closed.1 = none) (read : input.read = .ok s)
    (invalid : checkPattern s.consolePattern = .error fault) (app : Data) :
    Faults (configure app input force) b fault b.restarted := by
  have refused : Faults (attachConsole s) b.restarted fault b.restarted :=
    faults_bind.mpr (.inl (faults_ofExcept.mpr ⟨invalid, rfl⟩))
  refine (configure_of_read takes app read).faults (faults_bind.mpr (.inr ⟨(), _, restart_answers free, ?_⟩))
  exact faults_bind.mpr (.inl refused)

def unlined : JournalSettings := { fileEnabled := true, fileDirectory := "logs", filePattern := "plain" }

def fresh : Logbook := blank {} { root := "root" } ""

/-- What can be told of the set-up from outside is as it was. -/
structure Unmoved (b b' : Logbook) : Prop where
  root : b'.channels.root = b.channels.root
  levels : ∀ name, b'.channels.ownLevel name = b.channels.ownLevel name
  outlets : b'.outlets = b.outlets
  setup : b'.setup = b.setup

end Logbook
end Switchboard.Journal
