import Switchboard.Proofs.Relay.WriteBack

/-!
Chats that are aborted. A message that cannot be read stops a chat before it has looked at anything; a
caller who gives up during a send stops it there. `aborted_chats` says what either leaves behind.
-/

namespace Switchboard

open Step

/-! ### Messages that cannot be read -/

/-- The value is a message: two items, a known role and a text. -/
def MessageInput.Fits : MessageInput → Prop
  | message _ => True
  | parts d => ∃ name role content, d.items? = some [.text name, .text content] ∧ Role.ofName? name = some role

theorem Argument.couple_ok {d first second : Data} (h : couple d = .ok (first, second)) :
    d.items? = some [first, second] := by
  unfold couple at h
  split at h <;> cases h
  assumption

theorem Message.reader_good_iff {first second : Data} {m : Message} :
    reader (.object [("role", first), ("content", second)]) = .good m ↔
      Role.reader first = .good m.role ∧ second = .text m.content := by
  constructor
  · intro h
    obtain ⟨_, content, read, last, built⟩ := Reading.seq_good h
    obtain ⟨role, first, rfl⟩ := Reading.map_good read
    subst built
    exact ⟨(Reader.required_eq rfl).mp first, Reader.text_good_iff.mp ((Reader.required_eq rfl).mp last)⟩
  · rintro ⟨role, rfl⟩
    have first : Reader.required "role" Role.reader [("role", first), ("content", .text m.content)] =
      .good m.role := (Reader.required_eq rfl).mpr role
    unfold reader Reader.record
    dsimp only
    rw [first]
    rfl

theorem MessageInput.coerce_answers_iff (m : MessageInput) : (∃ message, m.coerce = .ok message) ↔ m.Fits := by
  cases m with
  | message m => exact ⟨fun _ => trivial, fun _ => ⟨m, rfl⟩⟩
  | parts d =>
    constructor
    · rintro ⟨message, read⟩
      obtain ⟨⟨first, second⟩, taken, read⟩ := except_bind_ok read
      obtain ⟨known, rfl⟩ := Message.reader_good_iff.mp (Reader.readFields_ok read)
      obtain ⟨name, rfl, named⟩ := Reader.oneOf_good_iff.mp known
      exact ⟨name, message.role, message.content, Argument.couple_ok taken, named⟩
    · rintro ⟨name, role, content, items, known⟩
      have couple : Argument.couple d = .ok (.text name, .text content) := by rw [Argument.couple, items]
      have read : Message.reader (.object [("role", .text name), ("content", .text content)]) =
          .good ⟨role, content⟩ :=
        Message.reader_good_iff.mpr ⟨Reader.oneOf_good_iff.mpr ⟨name, rfl, known⟩, rfl⟩
      refine ⟨⟨role, content⟩, ?_⟩
      rw [MessageInput.coerce, Message.ofParts, couple]
      exact Reader.readFields_of_good read

/-! ### Looking at the ledger -/

namespace Ledger

/-- Nothing happened to the ledger, unless it has taken over the day of the clock. -/
def Turns (now : Instant) (l l' : Ledger) : Prop := l' = l ∨ ∃ d, now.day = .ok d ∧ l' = l.onDay d

theorem onDay_onDay (l : Ledger) (d : Day) : (l.onDay d).onDay d = l.onDay d :=
  if_pos (le_onDay_today l d)

theorem Turns.refl (now : Instant) (l : Ledger) : Turns now l l := .inl rfl

theorem Turns.trans {now : Instant} {l l' l'' : Ledger} (h : Turns now l l') (h' : Turns now l' l'') :
    Turns now l l'' := by
  rcases h with rfl | ⟨d, day, rfl⟩
  · exact h'
  · rcases h' with rfl | ⟨d', day', rfl⟩
    · exact .inr ⟨d, day, rfl⟩
    · obtain rfl := Except.ok.inj (day.symm.trans day')
      exact .inr ⟨d, day, onDay_onDay l d⟩

instance (now : Instant) : Trans (Turns now) (Turns now) (Turns now) := ⟨Turns.trans⟩

theorem advance_turns (now : Instant) : Keeps (Turns now) (advance now) := by
  intro l
  rcases advance_ends l now with ⟨d, day, advanced⟩ | ⟨fault, -, unadvanced⟩
  · exact .inr ⟨d, day, advanced.2⟩
  · exact .inl unadvanced.2

end Ledger

namespace Relay

variable {σ : Type} {t : Transport σ} {r : Relay σ}

/-- The clock stands, and the ledger is as it was but for the day. -/
structure Turned (r r' : Relay σ) : Prop where
  clock : r'.clock = r.clock
  ledger : Ledger.Turns r.clock.now r.ledger r'.ledger

theorem Turned.refl (r : Relay σ) : Turned r r := ⟨rfl, .refl _ _⟩

theorem Turned.trans {r r' r'' : Relay σ} (h : Turned r r') (h' : Turned r' r'') : Turned r r'' where
  clock := h'.clock.trans h.clock
  ledger := h.ledger.trans (h.clock ▸ h'.ledger)

instance : Trans (Turned : Relay σ → Relay σ → Prop) Turned Turned := ⟨Turned.trans⟩

theorem primary_turned (t : Task) (preferred : Data) :
    Keeps Turned (primary t preferred : Step (Relay σ) Model) := by
  apply primary_keeps Turned.refl
  intro monitor t models r
  refine ⟨rfl, ?_⟩
  have advances := Ledger.advance_turns r.clock.now
  exact Selection.route_keeps (Ledger.Turns.refl r.clock.now) advances monitor t models r.ledger

/-! ### Failures that were recorded on the way -/

theorem blame_thresholds (m : Monitor) (x : Trial) : (blame m x).thresholds = m.thresholds := by
  unfold blame
  cases x.failure? with
  | none => rfl
  | some f => exact Monitor.effect_thresholds m _

theorem record?_blame_other (m : Monitor) {x : Trial} {k : Key} (other : x.model.key ≠ k) :
    (blame m x).record? k = m.record? k := by
  unfold blame
  cases x.failure? with
  | none => rfl
  | some f => exact Monitor.record?_effect_other (Monitor.reaches_of_ne other)

theorem record?_blame_own (m : Monitor) {x : Trial} (named : x.model.handle.isSet = true)
    (failed : x.failure?.isSome = true) : (blame m x).record? x.model.key =
      some ((m.recordOf x.model.key).afterFailure x.clock.now m.thresholds) := by
  obtain ⟨f, found⟩ := Option.isSome_iff_exists.mp failed
  have reached : (Monitor.Call.failure x.model.handle f.detail.shown x.clock.now).reaches x.model.key = true := by
    simp [Monitor.Call.reaches, Monitor.Call.id, Model.key, named]
  rw [blame, found]
  exact Monitor.record?_effect_own reached

theorem record?_blamed_other (m : Monitor) {xs : List Trial} {k : Key} (other : ∀ x ∈ xs, x.model.key ≠ k) :
    (xs.foldl blame m).record? k = m.record? k := by
  induction xs generalizing m with
  | nil => rfl
  | cons x xs ih =>
    obtain ⟨apart, others⟩ := List.forall_mem_cons.mp other
    exact (ih (blame m x) others).trans (record?_blame_other m apart)

theorem key_ne {xs : List Trial} {m : Model} (fresh : m.id ∉ (xs.map Trial.model).map Model.id) :
    ∀ y ∈ xs, y.model.key ≠ m.key := by
  intro y member same
  exact fresh (List.mem_map.mpr ⟨y.model, List.mem_map_of_mem member, Key.text.inj same⟩)

/-- Of each model that failed one failure was recorded, since no model was tried twice. -/
theorem record?_blamed_own (m : Monitor) {xs : List Trial} (distinct : Distinct (xs.map Trial.model))
    (named : ∀ x ∈ xs, x.model.handle.isSet = true) (failed : ∀ x ∈ xs, x.failure?.isSome = true) {x : Trial}
    (member : x ∈ xs) : (xs.foldl blame m).record? x.model.key =
      some ((m.recordOf x.model.key).afterFailure x.clock.now m.thresholds) := by
  induction xs generalizing m with
  | nil => cases member
  | cons y xs ih =>
    obtain ⟨fresh, distinct⟩ := List.nodup_cons.mp distinct
    have apart := key_ne fresh
    obtain ⟨set, sets⟩ := List.forall_mem_cons.mp named
    obtain ⟨fails, fail⟩ := List.forall_mem_cons.mp failed
    rcases List.mem_cons.mp member with rfl | later
    · exact (record?_blamed_other (blame m x) apart).trans (record?_blame_own m set fails)
    · have before : (blame m y).recordOf x.model.key = m.recordOf x.model.key := by
        rw [Monitor.recordOf, record?_blame_other m (apart x later).symm, Monitor.recordOf]
      rw [List.foldl_cons, ih (blame m y) distinct sets fail later, before,
        blame_thresholds]

/-! ### Chats that are aborted -/

/-- What a chat leaves that was cancelled at one of its sends: the sends up to there, the failures before
it, each recorded once, and one more request. -/
structure Aborted (messages : List Message) (temperature : Option Data) (failed : List Trial) (x : Trial)
    (r r' : Relay σ) : Prop where
  sends : r'.sends = r.sends ++ (failed.map Trial.model ++ [x.model]).map (sendTo messages temperature)
  counters : r'.counters = { r.counters with requests := r.counters.requests + 1 }
  ledger : Ledger.Turns r.clock.now r.ledger r'.ledger
  blamed : ∀ y ∈ failed, ∃ before after, before = r.monitor.recordOf y.model.key ∧
    r'.monitor.record? y.model.key = some after ∧ after = before.afterFailure y.clock.now r.monitor.thresholds ∧
    after.total = before.total + 1 ∧ after.streak = before.streak + 1 ∧ after.successes = before.successes
  cancelled : r'.monitor.record? x.model.key = r.monitor.record? x.model.key
  others : ∀ k, (∀ y ∈ failed, y.model.key ≠ k) → r'.monitor.record? k = r.monitor.record? k

theorem coerceAll_stops {before after : List MessageInput} {m : MessageInput} {fault : Fault}
    (fits : ∀ m' ∈ before, m'.Fits) (misfit : m.coerce = .error fault) :
    coerceAll (before ++ m :: after) = .error fault := by
  induction before with
  | nil =>
    rw [List.nil_append, coerceAll, misfit]
    rfl
  | cons m' before ih =>
    obtain ⟨head, tail⟩ := List.forall_mem_cons.mp fits
    obtain ⟨message, read⟩ := m'.coerce_answers_iff.mpr head
    rw [List.cons_append, coerceAll, read, ih tail]
    rfl

theorem first_misfit {messages : List MessageInput} (misfits : ∃ m ∈ messages, ¬m.Fits) :
    ∃ before m after fault, messages = before ++ m :: after ∧ (∀ m' ∈ before, m'.Fits) ∧
      m.coerce = .error fault := by
  induction messages with
  | nil => simp at misfits
  | cons m rest ih =>
    by_cases fits : m.Fits
    · obtain ⟨m', member, misfit⟩ := misfits
      have later : m' ∈ rest := by
        rcases List.mem_cons.mp member with rfl | later
        · exact (misfit fits).elim
        · exact later
      obtain ⟨before, m, after, fault, rfl, clear, stops⟩ := ih ⟨m', later, misfit⟩
      exact ⟨_ :: before, m, after, fault, rfl, List.forall_mem_cons.mpr ⟨fits, clear⟩, stops⟩
    · cases read : m.coerce with
      | ok message => exact (fits (m.coerce_answers_iff.mp ⟨message, read⟩)).elim
      | error fault => exact ⟨[], m, rest, fault, rfl, by simp, read⟩

theorem chat_misfit {q : ChatRequest} (misfits : ∃ m ∈ q.messages, ¬m.Fits) :
    ∃ before m after fault, q.messages = before ++ m :: after ∧ (∀ m' ∈ before, m'.Fits) ∧
      m.coerce = .error fault ∧ Faults (chat t q) r fault r := by
  obtain ⟨before, m, after, fault, split, fits, misfit⟩ := first_misfit misfits
  have stops : coerceAll q.messages = .error fault := split ▸ coerceAll_stops fits misfit
  have begun : Faults (begin q) r fault r := faults_bind.mpr (.inl (faults_ofExcept.mpr ⟨stops, rfl⟩))
  exact ⟨before, m, after, fault, split, fits, misfit, faults_bind.mpr (.inl begun)⟩

section Cancelled

variable {q : ChatRequest} {messages : List Message} {first : Model} {others : List Model} {ledger : Ledger}

theorem opens_turns (opens : Opens r q messages first others ledger) :
    Ledger.Turns r.clock.now r.ledger ledger := by
  have turned := primary_turned q.task q.preferred r
  rw [opens.chosen.2] at turned
  exact turned.ledger

theorem opens_named (read : ∀ m ∈ r.catalog.models, m.WasRead)
    (opens : Opens r q messages first others ledger) : ∀ m ∈ first :: others, m.handle.isSet = true := by
  obtain ⟨_, listed⟩ := begin_candidates (begin_answers opens)
  exact fun m member => (read m (candidates_listed listed m member)).named

theorem chat_cancelled (sound : r.Sound) (read : ∀ m ∈ r.catalog.models, m.WasRead)
    (opens : Opens r q messages first others ledger) {failed later : List Trial} {x : Trial} {text : String}
    (split : t.trials messages q.temperature r.line r.clock (first :: others) = failed ++ x :: later)
    (reported : ∀ y ∈ failed, y.failure?.isSome = true) (cancelled : x.result = .error (.cancelled text)) :
    ∃ r', Faults (chat t q) r (.cancelled text) r' ∧ Aborted messages q.temperature failed x r r' := by
  obtain ⟨rest, line, clock, models, trials, ends⟩ := tryAll_past_failures (r := opened r ledger)
    (p := { messages, temperature := q.temperature }) sound.monitor split reported
  cases rest with
  | nil => cases trials
  | cons m rest =>
    obtain ⟨rfl, -⟩ := List.cons.inj trials
    have distinct := fallbackChain_distinct sound.distinct opens.chain
    rw [models, Distinct, List.map_append] at distinct
    obtain ⟨tried, -, apart⟩ := List.nodup_append.mp distinct
    have named : ∀ y ∈ failed, y.model.handle.isSet = true := by
      intro y member
      apply opens_named read opens
      rw [models]
      exact List.mem_append_left _ (List.mem_map_of_mem member)
    have fresh : ∀ y ∈ failed, y.model.key ≠ m.key :=
      key_ne fun member => apart m.id member m.id List.mem_cons_self rfl
    refine ⟨_, (chat_endsAs opens).faults (ends.faults (tryAll_cancelled rest cancelled)), ?_⟩
    constructor
    case sends =>
      show r.sends ++ _ ++ [_] = _
      rw [List.append_assoc, List.map_append]
      rfl
    case counters => rfl
    case ledger => exact opens_turns opens
    case blamed =>
      intro y member
      exact ⟨_, _, rfl, record?_blamed_own r.monitor tried named reported member, rfl, rfl, rfl, rfl⟩
    case cancelled => exact record?_blamed_other r.monitor fresh
    case others => exact fun k apart => record?_blamed_other r.monitor apart

end Cancelled

/-- A message that is none ends the chat with what the first such message is refused for, and leaves all as
it was. A caller who gives up during a send ends the chat with just that: the candidates before it have one
more failure each on record, and one more request is counted; no other record, counter or cost changes. -/
theorem aborted_chats (reachable : Reachable r) (read : ∀ m ∈ r.catalog.models, m.WasRead) (t : Transport σ)
    (q : ChatRequest) :
    ((∃ m ∈ q.messages, ¬m.Fits) → ∃ before m after fault, q.messages = before ++ m :: after ∧
      (∀ m' ∈ before, m'.Fits) ∧ m.coerce = .error fault ∧ Faults (chat t q) r fault r) ∧
    ∀ messages first others ledger, Opens r q messages first others ledger →
      ∀ failed x later text,
        t.trials messages q.temperature r.line r.clock (first :: others) = failed ++ x :: later →
        (∀ y ∈ failed, y.failure?.isSome = true) → x.result = .error (.cancelled text) →
        ∃ r', Faults (chat t q) r (.cancelled text) r' ∧ Aborted messages q.temperature failed x r r' := by
  refine ⟨chat_misfit, ?_⟩
  intro messages first others ledger opens failed x later text split reported cancelled
  exact chat_cancelled (reachable_sound reachable) read opens split reported cancelled

/-! ### A caller who gives up on the second of two models -/

/-- The busy model times out, and during any other send the caller gives up. -/
def hastyLine : Transport Unit where
  name := "line"
  send := fun _ model _ _ =>
    ({ result := .error (if model = "busy" then .other "TimeoutError" "" else .cancelled "") }, ())

/-- A question without a text. -/
def halfAsked : ChatRequest := { askBusy with messages := [.parts (.list [.text "user"])] }

theorem halfAsked_misfit : ∃ m ∈ halfAsked.messages, ¬m.Fits := by
  refine ⟨_, List.mem_cons_self, ?_⟩
  rintro ⟨name, role, content, items, -⟩
  cases items

theorem give_up_after_busy : (∃ fault, Faults (chat hastyLine halfAsked) twoModels fault twoModels) ∧
    ∃ r', Faults (chat hastyLine askBusy) twoModels (.cancelled "") r' ∧ r'.counters = ⟨1, 0, 0, 0⟩ ∧
      r'.sends.map Send.model = ["busy", "idle"] ∧ r'.monitor.record? (.text "idle") = none ∧
      ∃ record, r'.monitor.record? (.text "busy") = some record ∧ record.total = 1 ∧ record.streak = 1 := by
  constructor
  · obtain ⟨refuses, -⟩ := aborted_chats twoModels_reachable twoModels_read hastyLine halfAsked
    obtain ⟨_, _, _, fault, -, -, -, faults⟩ := refuses halfAsked_misfit
    exact ⟨fault, faults⟩
  · obtain ⟨-, cancels⟩ := aborted_chats twoModels_reachable twoModels_read hastyLine askBusy
    obtain ⟨r', faults, aborted⟩ := cancels _ _ _ _ askBusy_opens
      [⟨busy, twoModels.clock, .error (.other "TimeoutError" "")⟩]
      ⟨idle, twoModels.clock, .error (.cancelled "")⟩ [] "" rfl
      (by simp [Trial.failure?, report, Except.toOption]) rfl
    obtain ⟨_, record, rfl, held, -, total, streak, -⟩ := aborted.blamed _ List.mem_cons_self
    refine ⟨r', faults, aborted.counters, ?_, aborted.cancelled, record, held, total, streak⟩
    rw [aborted.sends]
    rfl

end Relay
end Switchboard
