import Mathlib.Data.List.Nodup
import Switchboard.Journal.Configure
import Switchboard.Proofs.Step

/-!
Which outlets are at the root of a logbook. However often it is set up, half set up and reset, its own
outlets are among those that its set-up remembers, and those of others stay where they are. A file that
cannot be closed stops a set-up or a reset half-way: the set-up goes on remembering outlets that are no
longer there. `outlets_after_use` says when this is so.
-/

namespace Switchboard.Journal

open Step

def Destination.isForeign : Destination → Bool
  | console _ => false
  | file _ => false
  | foreign _ => true

def Outlet.isForeign (o : Outlet) : Bool := o.destination.isForeign

theorem Storage.close_of_free {s : Storage} {direct : Route} (free : (s.close direct).1 = none) :
    (s.close direct).2 = s := by
  unfold close at free ⊢
  split
  · rename_i held
    rw [if_pos held] at free
    cases free
  · rfl

/-- The outlets that a set-up remembers. -/
def Setup.outlets (s : Setup) : List Outlet := s.console.toList ++ s.file.toList

namespace Logbook

/-- The outlets that others attached. -/
def foreign (b : Logbook) : List Outlet := b.outlets.filter (·.isForeign)

/-- The outlets that the logbook attached itself. -/
def own (b : Logbook) : List Outlet := b.outlets.filter fun o => !o.isForeign

/-- The outlets of others and the remembered ones. -/
def known (b : Logbook) : List Outlet := b.foreign ++ b.setup.outlets

/-- The set-up remembers a file, but nothing of what it attached is there. -/
def Bare (b : Logbook) : Prop := b.own = [] ∧ b.setup.file.isSome = true

structure Orderly (b : Logbook) : Prop where
  own : b.own = b.setup.outlets ∨ b.Bare
  kinds : ∀ o ∈ b.setup.outlets, o.isForeign = false
  fresh : ∀ o ∈ b.known, o.number < b.next
  distinct : (b.known.map Outlet.number).Nodup
  done : b.setup.isDone = true → b.setup.console.isSome = true

/-- The logbook stays in order, the outlets of others are the same as before, and no outlet that is remembered gets
lost. -/
def Tends (b b' : Logbook) : Prop := b.Orderly → b'.Orderly ∧ b'.foreign = b.foreign ∧ (b'.Bare → b.Bare)

theorem Tends.refl (b : Logbook) : b.Tends b := fun h => ⟨h, rfl, id⟩

theorem Tends.trans {b b' b'' : Logbook} (h : b.Tends b') (h' : b'.Tends b'') : b.Tends b'' := by
  intro orderly
  obtain ⟨orderly', same, bare⟩ := h orderly
  obtain ⟨orderly'', same', bare'⟩ := h' orderly'
  exact ⟨orderly'', same'.trans same, bare ∘ bare'⟩

instance : Trans Tends Tends Tends := ⟨Tends.trans⟩

/-! ### What does not touch the outlets -/

structure Undisturbed (b b' : Logbook) : Prop where
  outlets : b'.outlets = b.outlets
  next : b'.next = b.next
  setup : b'.setup = b.setup

theorem Undisturbed.refl (b : Logbook) : b.Undisturbed b := ⟨rfl, rfl, rfl⟩

theorem Undisturbed.trans {b b' b'' : Logbook} (h : b.Undisturbed b') (h' : b'.Undisturbed b'') :
    b.Undisturbed b'' :=
  ⟨h'.outlets.trans h.outlets, h'.next.trans h.next, h'.setup.trans h.setup⟩

instance : Trans Undisturbed Undisturbed Undisturbed := ⟨Undisturbed.trans⟩

theorem Undisturbed.own {b b' : Logbook} (h : b.Undisturbed b') : b'.own = b.own := by
  rw [Logbook.own, h.outlets, Logbook.own]

theorem Undisturbed.foreign {b b' : Logbook} (h : b.Undisturbed b') : b'.foreign = b.foreign := by
  rw [Logbook.foreign, h.outlets, Logbook.foreign]

theorem Undisturbed.known {b b' : Logbook} (h : b.Undisturbed b') : b'.known = b.known := by
  rw [Logbook.known, h.foreign, h.setup, Logbook.known]

theorem Undisturbed.bare_iff {b b' : Logbook} (h : b.Undisturbed b') : b'.Bare ↔ b.Bare := by
  rw [Bare, h.own, h.setup, Bare]

theorem Undisturbed.tends {b b' : Logbook} (h : b.Undisturbed b') : b.Tends b' := by
  intro orderly
  refine ⟨⟨?_, ?_, ?_, ?_, ?_⟩, h.foreign, h.bare_iff.mp⟩
  · rw [h.own, h.setup, h.bare_iff]
    exact orderly.own
  · rw [h.setup]
    exact orderly.kinds
  · rw [h.known, h.next]
    exact orderly.fresh
  · rw [h.known]
    exact orderly.distinct
  · rw [h.setup]
    exact orderly.done

theorem writeTo_undisturbed (r : Record) (b : Logbook) (d : Destination) :
    b.Undisturbed (writeTo r b d) := by
  unfold writeTo
  split
  · split
    · exact ⟨rfl, rfl, rfl⟩
    · exact .refl b
  · split
    · exact ⟨rfl, rfl, rfl⟩
    · exact .refl b
  · exact .refl b

/-- What writing to one outlet keeps, delivering to all of them keeps. -/
theorem deliver_keeps {R : Logbook → Logbook → Prop} [Trans R R R] (refl : ∀ b, R b b) (r : Record)
    (writes : ∀ b d, R b (writeTo r b d)) (b : Logbook) : R b (b.deliver r) := by
  have along (outlets : List Outlet) :
      ∀ b : Logbook, R b (outlets.foldl (fun b o => writeTo r b o.destination) b) := by
    induction outlets with
    | nil => exact refl
    | cons o rest ih =>
      intro b
      exact Trans.trans (writes b o.destination) (ih _)
  exact along b.outlets b

theorem deliver_undisturbed (b : Logbook) (r : Record) : b.Undisturbed (b.deliver r) :=
  deliver_keeps Undisturbed.refl r (writeTo_undisturbed r) b

theorem log_undisturbed (r : Record) : Keeps Undisturbed (log r) := by
  refine Keeps.bind (fun b => ⟨rfl, rfl, rfl⟩) fun _ => Keeps.bind Undisturbed.refl fun b => ?_
  split
  · split
    · exact Undisturbed.refl
    · refine Keeps.bind (fun b => deliver_undisturbed b r) fun _ => Undisturbed.refl
  · exact Undisturbed.refl

theorem setComponentLevel_undisturbed (channel : String) (l : LevelSpec) :
    Keeps Undisturbed (setComponentLevel channel l) :=
  Keeps.bind (fun _ => ⟨rfl, rfl, rfl⟩) fun _ => Keeps.bind Undisturbed.refl fun _ => Undisturbed.refl

/-- Nothing but the storage may differ. -/
def OnlyStorage (b b' : Logbook) : Prop := ∃ storage, b' = { b with storage }

theorem OnlyStorage.refl (b : Logbook) : b.OnlyStorage b := ⟨b.storage, rfl⟩

theorem OnlyStorage.trans {b b' b'' : Logbook} (h : b.OnlyStorage b') (h' : b'.OnlyStorage b'') :
    b.OnlyStorage b'' := by
  obtain ⟨storage, rfl⟩ := h
  obtain ⟨storage', rfl⟩ := h'
  exact ⟨storage', rfl⟩

instance : Trans OnlyStorage OnlyStorage OnlyStorage := ⟨OnlyStorage.trans⟩

theorem OnlyStorage.undisturbed {b b' : Logbook} (h : b.OnlyStorage b') : b.Undisturbed b' := by
  obtain ⟨storage, rfl⟩ := h
  exact ⟨rfl, rfl, rfl⟩

theorem findFolder_onlyStorage (s : JournalSettings) : Keeps OnlyStorage (findFolder s) := by
  refine Keeps.bind OnlyStorage.refl fun b => ?_
  split
  · exact OnlyStorage.refl
  · exact OnlyStorage.refl

theorem openNamed_onlyStorage (s : JournalSettings) (folder : Route) (app : Data) :
    Keeps OnlyStorage (openNamed s folder app) := by
  refine Keeps.bind OnlyStorage.refl fun b => ?_
  split
  · split
    · exact OnlyStorage.refl
    · exact OnlyStorage.refl
  · simp only
    split
    · exact OnlyStorage.refl
    · exact Keeps.bind (fun _ => ⟨_, rfl⟩) fun _ => OnlyStorage.refl

theorem openFile_onlyStorage (s : JournalSettings) (folder : Route) (app : Data) :
    Keeps OnlyStorage (openFile s folder app) := by
  refine Keeps.bind OnlyStorage.refl fun b => Keeps.bind (fun _ => ⟨_, rfl⟩) fun _ => ?_
  split
  · exact OnlyStorage.refl
  · exact openNamed_onlyStorage s folder app

/-! ### Attaching and taking away -/

theorem Orderly.own_remembered {b : Logbook} (h : b.Orderly) {o : Outlet} (own : o ∈ b.own) : o ∈ b.setup.outlets := by
  rcases h.own with same | ⟨none, -⟩
  · rwa [← same]
  · rw [none] at own
    cases own

/-- The remembered outlets are told by their numbers, which no outlet of someone else has. -/
theorem Orderly.remembers_iff {b : Logbook} (h : b.Orderly) {p : Outlet} (attached : p ∈ b.outlets) :
    (∀ o ∈ b.setup.outlets, p.number ≠ o.number) ↔ p.isForeign = true := by
  constructor
  · intro unlike
    by_contra own
    have own : p ∈ b.own := List.mem_filter.mpr ⟨attached, by simpa using own⟩
    exact unlike p (h.own_remembered own) rfl
  · intro foreign o remembered
    have listed : p ∈ b.foreign := List.mem_filter.mpr ⟨attached, foreign⟩
    have distinct := h.distinct
    rw [known, List.map_append, List.nodup_append] at distinct
    exact distinct.2.2 _ (List.mem_map_of_mem listed) _ (List.mem_map_of_mem remembered)

theorem withdrawn_outlets_eq (b : Logbook) :
    b.withdrawn.outlets = b.outlets.filter fun p => b.setup.outlets.all fun o => p.number != o.number := by
  unfold withdrawn detach Setup.outlets
  cases b.setup.console <;> cases b.setup.file <;>
    simp [List.filter_filter, Bool.and_comm, List.filter_true]

theorem withdrawn_outlets {b : Logbook} (h : b.Orderly) : b.withdrawn.outlets = b.foreign := by
  rw [withdrawn_outlets_eq, foreign]
  apply List.filter_congr
  intro p attached
  rw [Bool.eq_iff_iff, ← h.remembers_iff attached]
  simp

theorem withdrawn_eq (b : Logbook) : b.withdrawn = { b with outlets := b.withdrawn.outlets } := by
  unfold withdrawn detach
  cases b.setup.console <;> cases b.setup.file <;> rfl

section attach

variable {b b' : Logbook} {d : Destination} (h : b.Orderly) (outlets : b'.outlets = b.outlets ++ [⟨b.next, d⟩])

include outlets in
theorem attach_foreign : b'.foreign = b.foreign ++ if d.isForeign then [⟨b.next, d⟩] else [] := by
  rw [foreign, outlets, List.filter_append, foreign, List.filter_cons]
  rfl

include outlets in
theorem attach_own : b'.own = b.own ++ if d.isForeign then [] else [⟨b.next, d⟩] := by
  rw [Logbook.own, outlets, List.filter_append, Logbook.own, List.filter_cons, Outlet.isForeign]
  cases d.isForeign <;> rfl

include h in
/-- The numbers stay apart when an outlet with the next one becomes known. -/
theorem Orderly.numbered (next : b'.next = b.next + 1) (known : b'.known.Perm (b.known ++ [⟨b.next, d⟩])) :
    (∀ o ∈ b'.known, o.number < b'.next) ∧ (b'.known.map Outlet.number).Nodup := by
  constructor
  · rw [next]
    intro o listed
    rcases List.mem_append.mp (known.mem_iff.mp listed) with old | new
    · exact Nat.lt_succ_of_lt (h.fresh o old)
    · obtain rfl := List.mem_singleton.mp new
      exact Nat.lt_succ_self _
  · rw [(known.map _).nodup_iff, List.map_append, List.nodup_append]
    refine ⟨h.distinct, List.nodup_singleton _, ?_⟩
    rintro n old _ new rfl
    obtain rfl := List.mem_singleton.mp new
    obtain ⟨o, listed, same⟩ := List.mem_map.mp old
    exact absurd same (Nat.ne_of_lt (h.fresh o listed))

include h outlets in
/-- An outlet of the logbook joins, and the set-up follows, which remembered no file until then. -/
theorem Orderly.join (next : b'.next = b.next + 1) (own : d.isForeign = false) (vacant : b.setup.file = none)
    (remembered : b'.setup.outlets = b.setup.outlets ++ [⟨b.next, d⟩])
    (done : b'.setup.isDone = true → b'.setup.console.isSome = true) :
    b'.Orderly ∧ b'.foreign = b.foreign ∧ (b'.Bare → b.Bare) := by
  have foreign := attach_foreign outlets
  have owned := attach_own outlets
  rw [own] at foreign owned
  have foreign : b'.foreign = b.foreign := foreign.trans (List.append_nil _)
  have settled : b.own = b.setup.outlets := h.own.resolve_right fun bare => by
    rw [Bare, vacant] at bare
    cases bare.2
  have known : b'.known = b.known ++ [⟨b.next, d⟩] := by
    rw [known, foreign, remembered, ← List.append_assoc, Logbook.known]
  obtain ⟨fresh, distinct⟩ := h.numbered next (.of_eq known)
  refine ⟨⟨.inl ?_, ?_, fresh, distinct, done⟩, foreign, fun bare => ?_⟩
  · rw [owned, remembered, settled]
    rfl
  · rw [remembered]
    intro o listed
    rcases List.mem_append.mp listed with old | new
    · exact h.kinds o old
    · obtain rfl := List.mem_singleton.mp new
      exact own
  · rw [Bare, owned] at bare
    exact absurd bare.1 (List.append_ne_nil_of_right_ne_nil _ (List.cons_ne_nil _ _))

include h outlets in
/-- An outlet of someone else joins. -/
theorem Orderly.attach (next : b'.next = b.next + 1) (foreign : d.isForeign = true) (setup : b'.setup = b.setup) :
    b'.Orderly ∧ b'.foreign = b.foreign ++ [⟨b.next, d⟩] ∧ (b'.Bare ↔ b.Bare) := by
  have joined := attach_foreign outlets
  have owned := attach_own outlets
  rw [foreign] at joined owned
  have joined : b'.foreign = b.foreign ++ [⟨b.next, d⟩] := joined
  have owned : b'.own = b.own := owned.trans (List.append_nil _)
  have known : b'.known.Perm (b.known ++ [⟨b.next, d⟩]) := by
    rw [known, joined, setup, Logbook.known, List.append_assoc, List.append_assoc]
    exact .append_left _ List.perm_append_comm
  have bare : b'.Bare ↔ b.Bare := by rw [Bare, owned, setup, Bare]
  obtain ⟨fresh, distinct⟩ := h.numbered next known
  refine ⟨⟨?_, ?_, fresh, distinct, ?_⟩, joined, bare⟩
  · rw [owned, setup, bare]
    exact h.own
  · rw [setup]
    exact h.kinds
  · rw [setup]
    exact h.done

end attach

/-! ### Closing the file -/

theorem closed_of_free {b : Logbook} (free : b.closed.1 = none) : b.closed.2 = b := by
  unfold closed at free ⊢
  split
  · rename_i f remembered
    rw [remembered] at free
    have same : (b.storage.close f.file.route).2 = b.storage := Storage.close_of_free free
    dsimp only
    rw [same]
  · rfl

theorem closed_file {b : Logbook} {e : StorageError} (clogged : b.closed.1 = some e) :
    b.setup.file.isSome = true := by
  unfold closed at clogged
  split at clogged
  · rename_i remembered
    rw [remembered]
    rfl
  · cases clogged

/-- The outlets have no part in closing the file. -/
theorem closed_withdrawn (b : Logbook) :
    b.withdrawn.closed = (b.closed.1, { b.withdrawn with storage := b.closed.2.storage }) := by
  rw [withdrawn_eq]
  unfold closed
  dsimp only
  split <;> rfl

/-- The logbook without its own outlets and without a set-up. -/
def cleared (b : Logbook) : Logbook := { b.withdrawn with setup := {} }

/-- The logbook without its own outlets, which its set-up goes on remembering since the file could not be closed. -/
def stranded (b : Logbook) : Logbook := { b.withdrawn with storage := b.closed.2.storage }

theorem clear_answers {b : Logbook} (free : b.closed.1 = none) : Answers clear b () b.cleared := by
  have got : Answers Step.get b b b := answers_get.mpr ⟨rfl, rfl⟩
  have same : b.closed.2.storage = b.storage := by rw [closed_of_free free]
  have storage : b.withdrawn.storage = b.storage := by rw [withdrawn_eq]
  refine (bind_run_ok got).answers ?_
  rw [closed_withdrawn, free, same, ← storage]
  exact ⟨rfl, rfl⟩

theorem clear_faults {b : Logbook} {e : StorageError} (clogged : b.closed.1 = some e) :
    Faults clear b (.storage e) b.stranded := by
  have got : Answers Step.get b b b := answers_get.mpr ⟨rfl, rfl⟩
  refine (bind_run_ok got).faults ?_
  rw [closed_withdrawn, clogged]
  exact ⟨rfl, rfl⟩

section withdrawn

variable {b b' : Logbook} (h : b.Orderly) (outlets : b'.outlets = b.withdrawn.outlets)

include h outlets

theorem Orderly.withdrawn_foreign : b'.foreign = b.foreign := by
  rw [foreign, outlets, withdrawn_outlets h, foreign, List.filter_filter]
  simp

theorem Orderly.withdrawn_own : b'.own = [] := by
  rw [Logbook.own, outlets, withdrawn_outlets h, foreign, List.filter_filter]
  simp

end withdrawn

theorem cleared_orderly {b : Logbook} (h : b.Orderly) :
    b.cleared.Orderly ∧ b.cleared.foreign = b.foreign ∧ ¬b.cleared.Bare := by
  have foreign : b.cleared.foreign = b.foreign := h.withdrawn_foreign rfl
  have kept : b.cleared.known.Sublist b.known := by
    rw [known, foreign, known]
    exact .append_left (List.nil_sublist _) _
  have next : b.cleared.next = b.next := by rw [cleared, withdrawn_eq]
  refine ⟨⟨.inl (h.withdrawn_own rfl), fun _ => nofun, ?_, h.distinct.sublist (kept.map _), nofun⟩, foreign, ?_⟩
  · intro o listed
    rw [next]
    exact h.fresh o (kept.subset listed)
  · rintro ⟨-, remembered⟩
    cases remembered

theorem stranded_orderly {b : Logbook} {e : StorageError} (h : b.Orderly) (clogged : b.closed.1 = some e) :
    b.stranded.Orderly ∧ b.stranded.foreign = b.foreign ∧ b.stranded.Bare := by
  have foreign : b.stranded.foreign = b.foreign := h.withdrawn_foreign rfl
  have setup : b.stranded.setup = b.setup := by rw [stranded, withdrawn_eq]
  have next : b.stranded.next = b.next := by rw [stranded, withdrawn_eq]
  have known : b.stranded.known = b.known := by rw [known, foreign, setup, known]
  have bare : b.stranded.Bare := ⟨h.withdrawn_own rfl, by rw [setup, closed_file clogged]⟩
  refine ⟨⟨.inr bare, ?_, ?_, ?_, ?_⟩, foreign, bare⟩
  · rw [setup]
    exact h.kinds
  · rw [known, next]
    exact h.fresh
  · rw [known]
    exact h.distinct
  · rw [setup]
    exact h.done

/-! ### Setting up, step by step -/

/-- The logbook without its own outlets, letting everything through. -/
def restarted (b : Logbook) : Logbook :=
  { b.cleared with channels := b.channels.setLevel ChannelTree.rootName Level.debug }

theorem restart_answers {b : Logbook} (free : b.closed.1 = none) : Answers restart b () b.restarted := by
  refine (bind_run_ok (clear_answers free)).answers (answers_modify.mpr ?_)
  rw [restarted, cleared, withdrawn_eq]

theorem restart_faults {b : Logbook} {e : StorageError} (clogged : b.closed.1 = some e) :
    Faults restart b (.storage e) b.stranded :=
  bind_run_error (clear_faults clogged)

theorem restarted_undisturbed (b : Logbook) : b.cleared.Undisturbed b.restarted := ⟨rfl, rfl, rfl⟩

theorem attachConsole_tends (s : JournalSettings) {b : Logbook} (vacant : b.setup = {}) :
    b.Tends (attachConsole s b).state ∧ (attachConsole s b).state.setup.file = none := by
  refine bind_leaves (P := fun b' => b.Tends b' ∧ b'.setup.file = none) (fun fault b' run => ?_)
    fun _ b' run => ?_
  · obtain ⟨-, rfl⟩ := faults_ofExcept.mp run
    exact ⟨.refl b', by rw [vacant]⟩
  · obtain ⟨-, rfl⟩ := answers_ofExcept.mp run
    refine ⟨fun h => h.join rfl rfl rfl ?_ ?_ fun _ => rfl, ?_⟩
    all_goals simp [Step.modify, vacant, Setup.outlets, Logbook.attach]

theorem attachConsole_answers {s : JournalSettings} {b b' : Logbook}
    (h : Answers (attachConsole s) b () b') : b'.setup.console.isSome = true := by
  obtain ⟨_, _, -, last⟩ := answers_bind.mp h
  rw [answers_modify.mp last]
  rfl

theorem attachFile_tends (s : JournalSettings) (app : Data) {b : Logbook} (vacant : b.setup.file = none) :
    b.Tends (attachFile s app b).state ∧
      (attachFile s app b).state.setup.console = b.setup.console := by
  refine bind_leaves (P := fun b' => b.Tends b' ∧ b'.setup.console = b.setup.console)
    (fun fault b' run => ?_) fun folder b₀ run => ?_
  all_goals
    have found : b.Undisturbed _ := run.2 ▸ (findFolder_onlyStorage s b).undisturbed
  · exact ⟨found.tends, by rw [found.setup]⟩
  refine bind_leaves (P := fun b' => b.Tends b' ∧ b'.setup.console = b.setup.console)
    (fun fault b' run => ?_) fun opened b' run => ?_
  all_goals
    have same : b.Undisturbed b' := found.trans (run.2 ▸ (openFile_onlyStorage s folder app b₀).undisturbed)
  · exact ⟨same.tends, by rw [same.setup]⟩
  · cases opened with
    | error problem => exact ⟨same.tends.trans (Undisturbed.tends ⟨rfl, rfl, rfl⟩), by rw [← same.setup]; rfl⟩
    | ok routes =>
      -- A line of the file that cannot be laid out stops the set-up after the file was opened.
      refine bind_leaves (P := fun b' => b.Tends b' ∧ b'.setup.console = b.setup.console)
        (fun fault b'' checked => ?_) fun _ b'' checked => ?_
      · obtain ⟨-, rfl⟩ := faults_ofExcept.mp checked
        exact ⟨same.tends, by rw [same.setup]⟩
      · obtain ⟨-, rfl⟩ := answers_ofExcept.mp checked
        rw [← same.setup] at vacant
        refine ⟨same.tends.trans fun h => h.join rfl rfl rfl vacant ?_ h.done, by rw [← same.setup]; rfl⟩
        simp [Step.modify, vacant, Setup.outlets, Logbook.attach]

theorem applyComponents_undisturbed (s : JournalSettings) : Keeps Undisturbed (applyComponents s) :=
  fun _ => ⟨rfl, rfl, rfl⟩

theorem finish_tends (app : Data) {b : Logbook} (attached : b.setup.console.isSome = true) :
    b.Tends (finish app b).state := by
  have marked : b.Tends { b with setup := { b.setup with isDone := true } } := fun h =>
    ⟨⟨h.own, h.kinds, h.fresh, h.distinct, fun _ => attached⟩, rfl, id⟩
  have logged : Keeps Undisturbed (do
      let b ← Step.get
      let shown := b.setup.path.getD "None"
      let _ ← log (.ofEntry (Channel.journal.debug s!"Logging configured for {app.shown}. Log file: {shown}"))
      return b.setup.path) :=
    Keeps.bind Undisturbed.refl fun b => Keeps.bind (log_undisturbed _) fun _ => Undisturbed.refl
  exact marked.trans (logged _).tends

theorem setUp_tends {b : Logbook} (free : b.closed.1 = none) (s : JournalSettings) (app : Data) :
    b.restarted.Tends (setUp s app b).state := by
  have vacant : b.restarted.setup = {} := rfl
  unfold setUp
  rw [(bind_run_ok (restart_answers free)).2]
  refine bind_leaves (x := attachConsole s) (fun fault b' run => ?_) fun _ b' run => ?_
  all_goals
    obtain ⟨tended, noFile⟩ := attachConsole_tends s vacant
    rw [run.2] at tended noFile
  · exact tended
  have attached := attachConsole_answers run
  have settled {b' : Logbook} (attached : b'.setup.console.isSome = true) :
      b'.Tends ((applyComponents s >>= fun _ => finish app) b').state :=
    (applyComponents_undisturbed s b').tends.trans (finish_tends app attached)
  refine tended.trans ?_
  split
  · obtain ⟨tended, same⟩ := attachFile_tends s app noFile
    refine bind_leaves (fun fault b'' run => ?_) fun _ b'' run => ?_
    · rwa [run.2] at tended
    · rw [run.2] at tended same
      exact tended.trans (settled (same ▸ attached))
  · exact settled attached

/-- A set-up gets no further than the file that was there before if that one cannot be closed, and else starts from a
logbook without outlets of its own. -/
theorem setUp_course {b : Logbook} (h : b.Orderly) (s : JournalSettings) (app : Data) :
    (setUp s app b).state.Orderly ∧ (setUp s app b).state.foreign = b.foreign ∧
      ((setUp s app b).state.Bare ↔ b.closed.1.isSome = true) := by
  cases closing : b.closed.1 with
  | some e =>
    obtain ⟨orderly, same, bare⟩ := stranded_orderly h closing
    rw [show (setUp s app b).state = b.stranded from (bind_run_error (restart_faults closing)).2]
    exact ⟨orderly, same, iff_of_true bare rfl⟩
  | none =>
    obtain ⟨orderly, same, settled⟩ := cleared_orderly h
    obtain ⟨orderly', same', bare⟩ := (restarted_undisturbed b).tends.trans (setUp_tends closing s app) orderly
    exact ⟨orderly', same'.trans same, iff_of_false (settled ∘ bare) Bool.false_ne_true⟩

/-! ### Any use -/

/-- What is done with a logbook, by those who set it up, those who write to it and those who attach
outlets of their own. -/
inductive Event where
  | configure (app : Data) (input : SettingsInput) (force : Bool)
  | reset
  | foreign (kind : String)
  | log (r : Record)
  | level (channel : String) (l : LevelSpec)

def Event.step : Event → Step Logbook Unit
  | configure app input force => quietly (Logbook.configure app input force)
  | reset => Logbook.reset
  | foreign kind => Step.modify (·.attachForeign kind)
  | log r => quietly (Logbook.log r)
  | level channel l => quietly (setComponentLevel channel l)

/-- The kind of the outlet that someone attaches. -/
def Event.attaches? : Event → Option String
  | foreign kind => some kind
  | _ => none

/-- The event begins by taking the logbook's own outlets away. -/
def Event.clears (b : Logbook) : Event → Bool
  | configure _ input force => (!b.setup.isDone || force) && input.read.isOk
  | reset => true
  | _ => false

/-- The logbook after one event after the other, however each of them ends. -/
def after (b : Logbook) (events : List Event) : Logbook := events.foldl (fun b e => (e.step b).state) b

/-- Outlets of these kinds, and no others, were attached behind those of others. -/
def Gains (kinds : List String) (b b' : Logbook) : Prop :=
  ∃ added, b'.foreign = b.foreign ++ added ∧ added.map (·.destination.kind) = kinds

theorem Gains.none {b b' : Logbook} (same : b'.foreign = b.foreign) : Gains [] b b' :=
  ⟨[], by rw [same, List.append_nil], rfl⟩

/-- What an event does to the outlets. -/
structure Course (e : Event) (b b' : Logbook) : Prop where
  orderly : b'.Orderly
  gains : Gains e.attaches?.toList b b'
  bare : b'.Bare ↔ if e.clears b then b.closed.1.isSome = true else b.Bare

theorem Undisturbed.course {b b' : Logbook} (same : b.Undisturbed b') (h : b.Orderly) {e : Event}
    (attaches : e.attaches? = none) (clears : e.clears b = false) : Course e b b' where
  orderly := (same.tends h).1
  gains := attaches ▸ .none same.foreign
  bare := by
    rw [clears, same.bare_iff]
    rfl

theorem configure_course {b : Logbook} (h : b.Orderly) (app : Data) (input : SettingsInput) (force : Bool) :
    Course (.configure app input force) b (configure app input force b).state := by
  have got : Answers (Step.get : Step Logbook Logbook) b b b := answers_get.mpr ⟨rfl, rfl⟩
  unfold configure
  rw [(bind_run_ok got).2]
  cases skipped : b.setup.isDone && !force with
  | true =>
    refine (Undisturbed.refl b).course h rfl ?_
    cases done : b.setup.isDone <;> cases force <;> simp_all [Event.clears]
  | false =>
    cases read : input.read with
    | error fault =>
      refine (Undisturbed.refl b).course h rfl ?_
      simp [Event.clears, read, Except.isOk, Except.toBool]
    | ok s =>
      obtain ⟨orderly, same, bare⟩ := setUp_course h s app
      have clears : (Event.configure app input force).clears b = true := by
        cases done : b.setup.isDone <;> cases force <;> simp_all [Event.clears, Except.isOk, Except.toBool]
      exact ⟨orderly, .none same, by rw [clears]; exact bare⟩

theorem reset_course {b : Logbook} (h : b.Orderly) : Course .reset b (reset b).state := by
  cases closing : b.closed.1 with
  | none =>
    obtain ⟨orderly, same, settled⟩ := cleared_orderly h
    rw [show (reset b).state = b.cleared from (clear_answers closing).2]
    exact ⟨orderly, .none same, iff_of_false settled (by simp [Event.clears, closing])⟩
  | some e =>
    obtain ⟨orderly, same, bare⟩ := stranded_orderly h closing
    rw [show (reset b).state = b.stranded from (clear_faults closing).2]
    exact ⟨orderly, .none same, iff_of_true bare (by simp [Event.clears, closing])⟩

theorem event_course {b : Logbook} (h : b.Orderly) (e : Event) : Course e b (e.step b).state := by
  cases e with
  | configure app input force =>
    rw [Event.step, quietly_leaves]
    exact configure_course h app input force
  | reset => exact reset_course h
  | foreign kind =>
    have outlets : (b.attachForeign kind).outlets = b.outlets ++ [⟨b.next, .foreign kind⟩] := rfl
    obtain ⟨orderly, joined, bare⟩ := h.attach outlets rfl rfl rfl
    exact ⟨orderly, ⟨_, joined, rfl⟩, bare⟩
  | log r => exact (Keeps.quietly Undisturbed.refl (log_undisturbed r) b).course h rfl rfl
  | level channel l =>
    exact (Keeps.quietly Undisturbed.refl (setComponentLevel_undisturbed channel l) b).course h rfl rfl

theorem after_gains {b : Logbook} (h : b.Orderly) (events : List Event) :
    (after b events).Orderly ∧ Gains (events.filterMap Event.attaches?) b (after b events) := by
  induction events generalizing b with
  | nil => exact ⟨h, .none rfl⟩
  | cons e rest ih =>
    obtain ⟨orderly, ⟨added, foreign, kinds⟩, -⟩ := event_course h e
    obtain ⟨orderly', later, foreign', kinds'⟩ := ih orderly
    refine ⟨orderly', added ++ later, ?_, ?_⟩
    · show (after (e.step b).state rest).foreign = _
      rw [foreign', foreign, List.append_assoc]
    · rw [List.map_append, kinds, kinds']
      cases attached : e.attaches? <;> simp [attached]

/-- A logbook as it is before anyone attached anything. -/
def blank (channels : ChannelTree) (storage : Storage) (terminal : String) : Logbook :=
  { channels, storage, terminal }

theorem blank_orderly (channels : ChannelTree) (storage : Storage) (terminal : String) :
    (blank channels storage terminal).Orderly :=
  ⟨.inl rfl, fun _ => nofun, fun _ => nofun, List.nodup_nil, nofun⟩

theorem configure_again {b : Logbook} (done : b.setup.isDone = true) (app : Data) (input : SettingsInput) :
    configure app input false b = ⟨.ok b.setup.path, b, []⟩ := by
  have got : (Step.get : Step Logbook Logbook) b = ⟨.ok b, b, []⟩ := rfl
  unfold configure
  rw [bind_apply_ok got, done]
  rfl

theorem reset_outlets {b : Logbook} (h : b.Orderly) : (reset b).state.outlets = b.foreign := by
  cases closing : b.closed.1 with
  | none => exact (congrArg outlets (clear_answers closing).2).trans (withdrawn_outlets h)
  | some e => exact (congrArg outlets (clear_faults closing).2).trans (withdrawn_outlets h)

/-- An outlet that the set-up remembers is attached unless the logbook is bare. -/
theorem Orderly.remembered_iff {b : Logbook} (h : b.Orderly) {o : Outlet} (remembered : o ∈ b.setup.outlets) :
    o ∈ b.outlets ↔ ¬b.Bare := by
  constructor
  · intro attached bare
    have own : o ∈ b.own := List.mem_filter.mpr ⟨attached, by simp [h.kinds o remembered]⟩
    rw [bare.1] at own
    cases own
  · intro settled
    rw [← h.own.resolve_right settled] at remembered
    exact (List.mem_filter.mp remembered).1

def onFullDevice : JournalSettings :=
  { fileEnabled := true, fileDirectory := "logs", fileName := "/dev/full", components := [] }

/-- The line that ends the set-up is held back from a full device, so that the reset cannot close the file. -/
theorem full_device_outlasts_reset :
    let b := after (blank {} { root := "root" } "") [.configure defaultApplication (.settings onFullDevice) false]
    b.setup.isDone = true ∧ b.outlets.length = 2 ∧ b.closed.1 = some ⟨.noSpace, "/dev/full"⟩ ∧
      let b' := (reset b).state
      b'.setup.isDone = true ∧ b'.setup.console.isSome = true ∧ b'.outlets = [] ∧
        (reset b').state.setup.isDone = false := by
  decide +kernel

end Logbook
end Switchboard.Journal
