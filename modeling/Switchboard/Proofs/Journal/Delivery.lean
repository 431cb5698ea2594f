import Switchboard.Journal.Note
import Switchboard.Proofs.Journal.EffectiveLevel
import Switchboard.Proofs.Journal.FileTrouble

/-!
Which records the console shows. `console_delivery` names every gate between a channel and the terminal: the
level that counts for the channel, the level of the console if it is on, and the mark for display if it is off.
-/

namespace Switchboard.Journal

open Step ChannelTree

namespace Logbook

/-! ### The tree of channels in use -/

/-- The channels hang together as before. -/
def Links (b b' : Logbook) : Prop := b.channels.Linked → b'.channels.Linked

theorem Links.refl (b : Logbook) : b.Links b := id

theorem Links.of_eq {b b' : Logbook} (same : b'.channels = b.channels) : b.Links b' := by
  intro linked
  rwa [same]

instance : Trans Links Links Links := ⟨fun h h' linked => h' (h linked)⟩

theorem clear_links : Keeps Links clear := by
  intro b
  refine Links.of_eq ?_
  cases closing : b.closed.1 with
  | none => rw [(clear_answers closing).2, cleared, withdrawn_eq]
  | some e => rw [(clear_faults closing).2, stranded, withdrawn_eq]

/-- The logbook after a record, which is delivered if the level of its channel admits it and none of its fields
stands in the way. -/
def logged (b : Logbook) (r : Record) : Logbook :=
  if (b.mention r.channel).channels.admits r.channel r.level.level ∧ r.clash? = none then
    (b.mention r.channel).deliver r
  else b.mention r.channel

theorem log_ends (r : Record) (b : Logbook) : EndsAs (log r) b
    (if (b.mention r.channel).channels.admits r.channel r.level.level then
      match r.clash? with
      | some name => Step.fail (.reservedField name)
      | none => do
        Step.modify (·.deliver r)
        return some r
    else pure none) (b.mention r.channel) := by
  have mentioned : Answers (Step.modify (·.mention r.channel)) b () (b.mention r.channel) := answers_modify.mpr rfl
  have got : Answers Step.get (b.mention r.channel) _ _ := answers_get.mpr ⟨rfl, rfl⟩
  exact (bind_run_ok mentioned).trans (bind_run_ok got)

theorem log_leaves (r : Record) (b : Logbook) : (log r b).state = b.logged r := by
  rw [(log_ends r b).2]
  unfold logged
  cases admitted : (b.mention r.channel).channels.admits r.channel r.level.level with
  | false => rfl
  | true =>
    cases clash : r.clash? with
    | none => rfl
    | some name => rfl

theorem logged_channels (b : Logbook) (r : Record) : (b.logged r).channels = b.channels.mention r.channel := by
  unfold logged
  split
  · exact deliver_channels _ r
  · rfl

theorem log_links (r : Record) : Keeps Links (log r) := by
  intro b linked
  rw [log_leaves, logged_channels]
  exact mention_linked linked r.channel

theorem OnlyStorage.links {b b' : Logbook} (h : b.OnlyStorage b') : b.Links b' := by
  obtain ⟨storage, rfl⟩ := h
  exact Links.refl b

theorem attachFile_links (s : JournalSettings) (app : Data) : Keeps Links (attachFile s app) := by
  refine Keeps.bind (fun b => (findFolder_onlyStorage s b).links) fun folder => ?_
  refine Keeps.bind (fun b => (openFile_onlyStorage s folder app b).links) fun opened => ?_
  cases opened with
  | error problem => exact fun b => Links.of_eq rfl
  | ok routes => exact Keeps.bind Links.refl fun _ => fun b => Links.of_eq rfl

theorem configure_links (app : Data) (input : SettingsInput) (force : Bool) :
    Keeps Links (configure app input force) := by
  have settled (s : JournalSettings) : Keeps Links (applyComponents s >>= fun _ => finish app) := by
    refine Keeps.bind (fun b linked => ?_) fun _ => ?_
    · have given := setLevels_linked (s.components.map fun e => (e.1, (levelOf e.2 defaultComponentLevel : Level)))
        linked
      rwa [setLevels, List.foldl_map] at given
    · exact Keeps.bind (fun b => Links.of_eq rfl) fun _ => Keeps.bind Links.refl fun b =>
        Keeps.bind (log_links _) fun _ => Links.refl
  refine Keeps.bind Links.refl fun b => ?_
  split
  · exact Links.refl
  refine Keeps.bind Links.refl fun s => ?_
  refine Keeps.bind (Keeps.bind clear_links fun _ b linked => ?_) fun _ => ?_
  · show (b.channels.setLevel rootName Level.debug).Linked
    exact setLevel_linked linked _ _
  refine Keeps.bind (Keeps.bind Links.refl fun _ b => Links.of_eq rfl) fun _ => ?_
  split
  · exact Keeps.bind (attachFile_links s app) fun _ => settled s
  · exact settled s

theorem event_links (e : Event) (b : Logbook) : b.Links (e.step b).state := by
  cases e with
  | configure app input force => exact Keeps.quietly Links.refl (configure_links app input force) b
  | reset => exact clear_links b
  | foreign kind => exact Links.of_eq rfl
  | log r => exact Keeps.quietly Links.refl (log_links r) b
  | level channel l =>
    show b.Links (quietly (setComponentLevel channel l) b).state
    rw [quietly_leaves]
    exact fun linked => setLevel_linked linked channel _

theorem after_links (b : Logbook) (events : List Event) : b.Links (after b events) := by
  induction events generalizing b with
  | nil => exact Links.refl b
  | cons e rest ih => exact fun linked => ih _ (event_links e b linked)

/-- A logbook at some point of its use that began without channels. -/
def Grown (b : Logbook) : Prop :=
  ∃ root storage terminal events, after (blank { root } storage terminal) events = b

theorem Grown.orderly {b : Logbook} (grown : b.Grown) : b.Orderly := by
  obtain ⟨root, storage, terminal, events, rfl⟩ := grown
  exact (after_gains (blank_orderly { root } storage terminal) events).1

theorem Grown.linked {b : Logbook} (grown : b.Grown) : b.channels.Linked := by
  obtain ⟨root, storage, terminal, events, rfl⟩ := grown
  exact after_links (blank { root } storage terminal) events (linked_empty root)

/-! ### A logbook whose console is of these settings -/

/-- The one outlet of the logbook that shows anything is the console of the settings. -/
structure Shows (s : JournalSettings) (b : Logbook) : Prop where
  orderly : b.Orderly
  settled : ¬b.Bare
  console : ∃ n, b.setup.console = some ⟨n, .console (consoleOf s)⟩
  file : ∀ o ∈ b.setup.file, ∃ f, o.destination = .file f

theorem shownAll_own (r : Record) (outlets : List Outlet) :
    shownAll r (outlets.filter fun o => !o.isForeign) = shownAll r outlets := by
  induction outlets with
  | nil => rfl
  | cons o rest ih =>
    cases foreign : o.isForeign with
    | true =>
      rw [List.filter_cons, foreign, Bool.not_true, if_neg Bool.false_ne_true, ih, shownAll, shownBy_foreign r foreign,
        String.empty_append]
    | false => rw [List.filter_cons, foreign, Bool.not_false, if_pos rfl, shownAll, shownAll, ih]

theorem deliver_shown {s : JournalSettings} {b : Logbook} (shows : Shows s b) (r : Record) :
    (b.deliver r).terminal = b.terminal ++ shownBy r (.console (consoleOf s)) := by
  obtain ⟨n, console⟩ := shows.console
  have silent : shownAll r b.setup.file.toList = "" := by
    cases file : b.setup.file with
    | none => rfl
    | some o =>
      obtain ⟨f, destination⟩ := shows.file o file
      rw [Option.toList_some, shownAll, destination]
      rfl
  rw [deliver_shownAll, ← shownAll_own, ← Logbook.own, shows.orderly.own.resolve_right shows.settled, Setup.outlets, console]
  rw [Option.toList_some, List.singleton_append, shownAll, silent, String.append_empty]

theorem Shows.of_undisturbed {s : JournalSettings} {b b' : Logbook} (shows : Shows s b) (same : b.Undisturbed b') :
    Shows s b' where
  orderly := (same.tends shows.orderly).1
  settled := mt same.bare_iff.mp shows.settled
  console := by rw [same.setup]; exact shows.console
  file := by rw [same.setup]; exact shows.file

/-! ### What a set-up leaves -/

/-- The console is attached, nothing else that shows anything, and no level was given yet. -/
structure Attached (s : JournalSettings) (b b' : Logbook) : Prop where
  console : ∃ n, b'.setup.console = some ⟨n, .console (consoleOf s)⟩
  file : ∀ o ∈ b'.setup.file, ∃ f, o.destination = .file f
  channels : b'.channels = b.restarted.channels

theorem withConsole_attached (s : JournalSettings) (b : Logbook) : Attached s b (b.restarted.withConsole s) := by
  have setup := withConsole_setup s b
  constructor
  case console => exact ⟨b.next, congrArg Setup.console setup⟩
  case file =>
    intro o remembered
    rw [setup] at remembered
    cases remembered
  case channels => rfl

theorem attachFile_attached {s : JournalSettings} {app : Data} {b b₁ b' : Logbook} (attached : Attached s b b₁)
    (h : Answers (attachFile s app) b₁ () b') : Attached s b b' := by
  obtain ⟨folder, b₂, found, h⟩ := answers_bind.mp h
  obtain ⟨opened, b₃, opening, h⟩ := answers_bind.mp h
  obtain ⟨storage, rfl⟩ : b₁.OnlyStorage b₃ :=
    .trans (found.2 ▸ findFolder_onlyStorage s b₁) (opening.2 ▸ openFile_onlyStorage s folder app b₂)
  cases opened with
  | error problem =>
    obtain rfl := answers_modify.mp h
    exact ⟨attached.console, attached.file, attached.channels⟩
  | ok routes =>
    obtain ⟨_, b₄, checked, h⟩ := answers_bind.mp h
    obtain ⟨-, rfl⟩ := answers_ofExcept.mp checked
    obtain rfl := answers_modify.mp h
    refine ⟨attached.console, fun o remembered => ?_, attached.channels⟩
    obtain rfl := Option.some.inj remembered
    exact ⟨_, rfl⟩

/-- The logbook shows what the settings let through, and its channels have the levels that were given. -/
structure Stands (s : JournalSettings) (levels : List (String × Rank)) (t : ChannelTree) (b : Logbook) : Prop where
  shows : Shows s b
  linked : b.channels.Linked
  levels : (setLevels levels t).SameLevels b.channels

theorem setUp_free {s : JournalSettings} {app : Data} {b b' : Logbook} {path : Option String}
    (h : Answers (setUp s app) b path b') : b.closed.1 = none := by
  cases closing : b.closed.1 with
  | none => rfl
  | some e => exact (h.not_faults (setUp_faults closing s app)).elim

theorem setUp_attached {s : JournalSettings} {app : Data} {b b' : Logbook} {path : Option String}
    (h : Answers (setUp s app) b path b') :
    ∃ b₁, Attached s b b₁ ∧ b' = (applyComponents s b₁).state.finished app := by
  replace h := (bind_run_ok (restart_answers (setUp_free h))).symm.answers h
  obtain ⟨_, b₂, consoled, h⟩ := answers_bind.mp h
  obtain ⟨-, rfl⟩ := attachConsole_answers_iff.mp consoled
  have attached := withConsole_attached s b
  split at h
  · obtain ⟨_, b₃, filed, h⟩ := answers_bind.mp h
    exact ⟨b₃, attachFile_attached attached filed, (h.unique (settle_answers s app b₃)).2⟩
  · exact ⟨_, attached, (h.unique (settle_answers s app _)).2⟩

theorem configure_stands {s : JournalSettings} {app : Data} {input : SettingsInput} {force : Bool}
    {b b' : Logbook} {path : Option String} (grown : b.Grown) (takes : b.Takes force) (read : input.read = .ok s)
    (h : Answers (configure app input force) b path b') : Stands s (levelsOf s) b.channels b' := by
  have run := (configure_of_read takes app read).symm.answers h
  obtain ⟨b₁, attached, ended⟩ := setUp_attached run
  -- The note that ends a set-up may add a channel, but neither an outlet nor a level.
  have setup : b'.setup = { b₁.setup with isDone := true } := by
    rw [ended]
    exact noted_setup _ _
  obtain ⟨orderly, -, bare⟩ := setUp_course grown.orderly s app
  have linked := configure_links app input force b grown.linked
  rw [run.2] at orderly bare
  rw [h.2] at linked
  refine ⟨⟨orderly, ?_, ?_, ?_⟩, linked, ?_⟩
  · rw [bare, setUp_free run]
    exact Bool.false_ne_true
  · rw [setup]
    exact attached.console
  · rw [setup]
    exact attached.file
  · rw [ended, finished, noted_channels, ← applyComponents_channels s attached.channels]
    exact mention_sameLevels _ _

/-! ### Further use -/

/-- Neither a set-up nor a reset. -/
def Event.isUse : Event → Bool
  | configure _ _ _ => false
  | reset => false
  | _ => true

/-- The level that is given to a channel. -/
def Event.given? : Event → Option (String × Rank)
  | level channel l => some (channel, l.resolve defaultComponentLevel)
  | _ => none

theorem Stands.step {s : JournalSettings} {levels : List (String × Rank)} {t : ChannelTree} {b : Logbook}
    (stands : Stands s levels t b) {e : Event} (used : e.isUse = true) :
    Stands s (levels ++ e.given?.toList) t (e.step b).state := by
  have linked := event_links e b stands.linked
  cases e with
  | configure app input force => cases used
  | reset => cases used
  | foreign kind =>
    have course := event_course stands.shows.orderly (.foreign kind)
    refine ⟨⟨course.orderly, mt course.bare.mp stands.shows.settled, stands.shows.console, stands.shows.file⟩, linked, ?_⟩
    rw [show (Event.foreign kind).given? = none from rfl, Option.toList_none, List.append_nil]
    exact stands.levels
  | log r =>
    have same := Keeps.quietly Undisturbed.refl (log_undisturbed r) b
    refine ⟨stands.shows.of_undisturbed same, linked, ?_⟩
    rw [show (Event.log r).given? = none from rfl, Option.toList_none, List.append_nil, Event.step, quietly_leaves,
      log_leaves, logged_channels]
    exact stands.levels.trans (mention_sameLevels _ _)
  | level channel l =>
    have same := Keeps.quietly Undisturbed.refl (setComponentLevel_undisturbed channel l) b
    refine ⟨stands.shows.of_undisturbed same, linked, ?_⟩
    rw [Event.given?, Option.toList_some, setLevels_append, Event.step, quietly_leaves]
    exact setLevel_sameLevels stands.levels channel _

theorem Stands.after {s : JournalSettings} {levels : List (String × Rank)} {t : ChannelTree} {b : Logbook}
    (stands : Stands s levels t b) {later : List Event} (used : ∀ e ∈ later, e.isUse = true) :
    Stands s (levels ++ later.filterMap Event.given?) t (after b later) := by
  induction later generalizing levels b with
  | nil =>
    rw [List.filterMap_nil, List.append_nil]
    exact stands
  | cons e rest ih =>
    obtain ⟨first, others⟩ := List.forall_mem_cons.mp used
    have stepped := ih (stands.step first) others
    have gathered : (e :: rest).filterMap Event.given? = e.given?.toList ++ rest.filterMap Event.given? := by
      rw [List.filterMap_cons]
      cases e.given? <;> rfl
    rwa [List.append_assoc, ← gathered] at stepped

/-! ### What a record has to pass -/

/-- The record passes every gate on its way to the console, the level that counts for its channel being known. -/
structure Passes (s : JournalSettings) (threshold : Level) (r : Record) : Prop where
  positive : 0 < r.level.level
  channel : threshold ≤ r.level.level
  console : s.consoleEnabled = true ∧ levelOf s.consoleLevel .warning ≤ r.level.level ∨
    s.consoleEnabled = false ∧ r.isMarked = true ∧ levelOf s.displayLevel .info ≤ r.level.level ∧
      .debug ≤ r.level.level

instance (s : JournalSettings) (threshold : Level) (r : Record) : Decidable (Passes s threshold r) :=
  decidable_of_iff
    (0 < r.level.level ∧ threshold ≤ r.level.level ∧
      (s.consoleEnabled = true ∧ levelOf s.consoleLevel .warning ≤ r.level.level ∨
        s.consoleEnabled = false ∧ r.isMarked = true ∧ levelOf s.displayLevel .info ≤ r.level.level ∧
          .debug ≤ r.level.level))
    ⟨fun h => ⟨h.1, h.2.1, h.2.2⟩, fun h => ⟨h.positive, h.channel, h.console⟩⟩

theorem consoleOf_admits_iff (s : JournalSettings) (r : Record) :
    (decide ((consoleOf s).level ≤ r.level.level) && (consoleOf s).gate.admits r.isMarked r.level.level) = true ↔
      (s.consoleEnabled = true ∧ levelOf s.consoleLevel .warning ≤ r.level.level ∨
        s.consoleEnabled = false ∧ r.isMarked = true ∧ levelOf s.displayLevel .info ≤ r.level.level ∧
          .debug ≤ r.level.level) := by
  rw [Bool.and_eq_true, decide_eq_true_iff, Gate.admits_iff]
  cases enabled : s.consoleEnabled with
  | true => simp [consoleOf, enabled]
  | false =>
    simp only [consoleOf, enabled, Bool.false_eq_true, if_false, false_or, false_and, true_and]
    tauto

theorem passes_iff (s : JournalSettings) (t : ChannelTree) (r : Record) :
    Passes s (t.effective r.channel).level r ↔ t.admits r.channel r.level.level = true ∧
      (decide ((consoleOf s).level ≤ r.level.level) && (consoleOf s).gate.admits r.isMarked r.level.level) = true := by
  rw [consoleOf_admits_iff, admits, Bool.and_eq_true, decide_eq_true_iff, decide_eq_true_iff]
  constructor
  · intro passes
    exact ⟨⟨passes.positive, passes.channel⟩, passes.console⟩
  · rintro ⟨⟨positive, channel⟩, console⟩
    exact ⟨positive, channel, console⟩

theorem logged_terminal {s : JournalSettings} {b : Logbook} (shows : Shows s b) (r : Record) :
    (b.logged r).terminal = b.terminal ++
      if Passes s ((b.channels.mention r.channel).effective r.channel).level r ∧ r.clash? = none then
        (r.line? s.consolePattern).getD ""
      else "" := by
  have mentioned : Shows s (b.mention r.channel) := shows.of_undisturbed ⟨rfl, rfl, rfl⟩
  unfold logged
  simp only [passes_iff]
  by_cases admitted : (b.mention r.channel).channels.admits r.channel r.level.level = true ∧ r.clash? = none
  · rw [if_pos admitted, deliver_shown mentioned, shownBy, Console.line?]
    simp only [show (b.channels.mention r.channel).admits r.channel r.level.level = true from admitted.1,
      admitted.2, true_and, and_true]
    split <;> rfl
  · rw [if_neg admitted, if_neg fun both => admitted ⟨both.1.1, both.2⟩]
    exact String.append_empty.symm

/-- What a name of a level stands for where the setting has this default. -/
structure Resolved (name : String) (default : Level) (l : Level) : Prop where
  known : ∀ e ∈ Level.named, e.1 = LevelSpec.capitalized name → l = e.2
  unknown : (∀ e ∈ Level.named, e.1 ≠ LevelSpec.capitalized name) → l = default

theorem levelOf_resolved (name : String) (default : Level) : Resolved name default (levelOf name default) := by
  unfold levelOf LevelSpec.known?
  constructor
  case known =>
    have found : ∀ e ∈ Level.named, (Level.named.find? (·.1 == e.1)).map Prod.snd = some e.2 := by decide
    intro e member same
    rw [← same, found e member]
    rfl
  case unknown =>
    intro foreign
    have none : Level.named.find? (·.1 == LevelSpec.capitalized name) = none := by
      refine List.find?_eq_none.mpr fun e member same => foreign e member (beq_iff_eq.mp same)
    rw [none]
    rfl

/-! ### Records for display -/

/-- What is asked for is of use: a channel, a level, arguments, and fields that take a mark. -/
structure Usable (n : Note) (r : Record) : Prop where
  channel : Note.channelName n.channel = .ok r.channel
  level : Note.levelOf n.level = .ok r.level
  text : n.text = r.text
  arguments : Argument.spread s!"{Channel.journal.name}.log_display" n.arguments = .ok r.arguments
  extra : Note.displayed n.extra = .ok (.object r.extra)

theorem displayed_marks {extra d : Data} (marked : Note.displayed extra = .ok d) :
    ∃ fs, d = .object fs ∧ Entries.get? fs "display" = some (.bool true) := by
  unfold Note.displayed at marked
  split at marked
  · obtain rfl := Except.ok.inj marked
    exact ⟨_, rfl, Entries.get?_put_self _ _ _⟩
  · split at marked
    · cases marked
    · obtain rfl := Except.ok.inj marked
      exact ⟨_, rfl, rfl⟩

theorem Usable.marked {n : Note} {r : Record} (usable : Usable n r) : r.isMarked = true := by
  obtain ⟨fs, same, found⟩ := displayed_marks usable.extra
  obtain rfl := Data.object.inj same
  rw [Record.isMarked, found]
  rfl

theorem log_mentioned (r : Record) (b : Logbook) : EndsAs (log r) (b.mention r.channel) (log r) b := by
  have again : (b.mention r.channel).mention r.channel = b.mention r.channel := by
    unfold mention
    rw [mention_mention]
  have ends := log_ends r (b.mention r.channel)
  rw [again] at ends
  exact ends.trans (log_ends r b).symm

theorem noteDisplay_logs {n : Note} {r : Record} (usable : Usable n r) (b : Logbook) :
    EndsAs (noteDisplay n) b (log r) b := by
  have prepared : Answers (prepare s!"{Channel.journal.name}.log_display" n) b (r.channel, r.arguments)
      (b.mention r.channel) :=
    answers_bind.mpr ⟨r.channel, b, answers_ofExcept.mpr ⟨usable.channel, rfl⟩,
      answers_bind.mpr ⟨(), _, answers_modify.mpr rfl,
        answers_bind.mpr ⟨r.arguments, _, answers_ofExcept.mpr ⟨usable.arguments, rfl⟩, answers_pure.mpr ⟨rfl, rfl⟩⟩⟩⟩
  have marked := answers_ofExcept (s := b.mention r.channel).mpr ⟨usable.extra, rfl⟩
  have leveled := answers_ofExcept (s := b.mention r.channel).mpr ⟨usable.level, rfl⟩
  have got : Answers Step.get (b.mention r.channel) _ _ := answers_get.mpr ⟨rfl, rfl⟩
  refine (bind_run_ok prepared).trans ((bind_run_ok marked).trans ?_)
  refine (bind_run_ok leveled).trans ((bind_run_ok got).trans ?_)
  cases admitted : (b.mention r.channel).channels.admits r.channel r.level.level with
  | true =>
    have fielded : Answers (Step.ofExcept (Note.extraFields (.object r.extra))) (b.mention r.channel) r.extra
        (b.mention r.channel) := answers_ofExcept.mpr ⟨rfl, rfl⟩
    rw [if_pos rfl]
    refine (bind_run_ok fielded).trans ?_
    -- The record asks once more for its channel, which is there by now.
    rw [usable.text]
    exact log_mentioned r b
  | false =>
    have dropped := log_ends r b
    rw [admitted] at dropped
    exact dropped.symm

theorem resolve_name (name : String) (default : Level) :
    (LevelSpec.name name).resolve default = (levelOf name default : Level) := by
  show ((LevelSpec.known? name).map fun l => ({ level := l } : Rank)).getD default = _
  unfold levelOf
  cases LevelSpec.known? name <;> rfl

/-- After a set-up by these settings, and any further use, the channels have the levels of the settings and those
given since, and for a plain name the first level up its beginnings counts. A record adds its line to the terminal
if it passes every gate, and nothing otherwise. A note for display is a record with the mark. -/
theorem console_delivery {b b₁ : Logbook} {app : Data} {input : SettingsInput} {force : Bool} {s : JournalSettings}
    {path : Option String} {later : List Event} (grown : b.Grown) (takes : b.Takes force)
    (read : input.read = .ok s) (configured : Answers (configure app input force) b path b₁)
    (used : ∀ e ∈ later, e.isUse = true) :
    let b' := after b₁ later
    let threshold (name : String) : Level := ((b'.channels.mention name).effective name).level
    LevelsGiven (levelsOf s ++ later.filterMap Event.given?) b.channels b'.channels ∧
    (∀ name, Plain name → threshold name = (b'.channels.firstLevel (name :: ancestors name)).level) ∧
    (∀ name default, Resolved name default (levelOf name default) ∧
      (LevelSpec.name name).resolve default = (levelOf name default : Level)) ∧
    (∀ r, (log r b').state.terminal = b'.terminal ++
      if Passes s (threshold r.channel) r ∧ r.clash? = none then (r.line? s.consolePattern).getD "" else "") ∧
    ∀ n r, Usable n r → r.isMarked = true ∧ EndsAs (noteDisplay n) b' (log r) b' := by
  intro b' threshold
  have stands : Stands s (levelsOf s ++ later.filterMap Event.given?) b.channels b' :=
    (configure_stands grown takes read configured).after used
  refine ⟨(setLevels_given _ b.channels).of_same stands.levels, fun name plain => ?_, fun name default => ?_,
    fun r => ?_, fun n r usable => ⟨usable.marked, noteDisplay_logs usable b'⟩⟩
  · exact congrArg Rank.level (effective_eq stands.linked plain)
  · exact ⟨levelOf_resolved name default, resolve_name name default⟩
  · rw [log_leaves]
    exact logged_terminal stands.shows r

/-! ### A note among the chatter, and records that go astray -/

def quiet : JournalSettings := { components := [("relay", "ERROR")] }

def ready : Record :=
  { channel := "relay.routing", level := Level.info, text := .text "ready", extra := [("display", .bool true)] }

theorem marked_record_shown : ∃ path b₁, Answers (configure defaultApplication (.settings quiet) false) fresh path b₁ ∧
    let b' := after b₁ [.level "relay.routing" (.name "info")]
    (log ready b').state.terminal = b'.terminal ++ "INFO - ready\n" ∧
    (log { ready with extra := [] } b').state.terminal = b'.terminal := by
  have ok : (configure defaultApplication (.settings quiet) false fresh).answer.isOk = true := by decide +kernel
  obtain ⟨path, b₁, configured⟩ := answers_of_isOk ok
  have grown : fresh.Grown := ⟨Level.warning, { root := "root" }, "", [], rfl⟩
  have takes : fresh.Takes false := nofun
  have used : ∀ e ∈ [Event.level "relay.routing" (.name "info")], e.isUse = true := by simp [Event.isUse]
  obtain ⟨-, -, -, shown, -⟩ := console_delivery grown takes rfl configured used
  obtain rfl := configured.2
  refine ⟨path, _, configured, ?_, ?_⟩
  · rw [shown, if_pos (by decide +kernel)]
    exact congrArg _ (by decide +kernel)
  · rw [shown, if_neg (by decide +kernel), String.append_empty]

def loud (components : Entries String String) : JournalSettings :=
  { consoleEnabled := true, consoleLevel := "NOTSET", components }

/-- A logbook that was set up with its console on, all levels being let through there. -/
def loudly (components : Entries String String) : Logbook :=
  (configure defaultApplication (.settings (loud components)) false fresh).state

def hello (channel : String) (level : Level) : Record := { channel, level, text := .text "hello" }

/-- Three records that the levels of names say nothing of: one at level zero, which is off although nothing keeps it
out; one whose channel does not hang below `ro`, which begins like the name of the root; and one whose channel does
not hang below `a`, with two points between. And a set-up that is not forced leaves one that is done as it is. -/
theorem records_that_go_astray :
    (let b := loudly [("root", "NOTSET")];
      ((b.channels.mention "x").effective "x").level = Level.unset ∧ levelOf "NOTSET" .warning = Level.unset ∧
        (hello "x" .unset).line? (loud []).consolePattern = some "NOTSET - hello\n" ∧
        (log (hello "x" .unset) b).state.terminal = b.terminal) ∧
    (let b := loudly [("ro.x", "NOTSET"), ("ro", "ERROR")];
      (b.channels.ownLevel "ro.x").level = Level.unset ∧ (b.channels.ownLevel "ro").level = Level.error ∧
        (log (hello "ro.x" .info) b).state.terminal = b.terminal ++ "INFO - hello\n") ∧
    (let b := loudly [("a", "ERROR")];
      (b.channels.ownLevel "a..b").level = Level.unset ∧ (b.channels.ownLevel "a.").level = Level.unset ∧
        (b.channels.ownLevel "a").level = Level.error ∧
        (log (hello "a..b" .info) b).state.terminal = b.terminal ++ "INFO - hello\n") ∧
    (let b := (configure defaultApplication (.settings {}) false (loudly [])).state;
      (log (hello "a" .info) b).state.terminal = b.terminal ++ "INFO - hello\n") := by
  refine ⟨?_, ?_, ?_, ?_⟩
  all_goals decide +kernel

end Logbook
end Switchboard.Journal
