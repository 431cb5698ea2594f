import Switchboard.Proofs.Relay.Choice

/-!
A model that became unavailable stays out of every chat that does not ask for it. Time alone does not
bring it back: as nothing is sent to it, nothing is recorded of it, and what is not recorded again stays
as it is.
-/

namespace Switchboard

open Step

/-! ### Records of other models -/

namespace Monitor

/-- The record under the key is what it was. -/
def Untouched (k : Key) (m m' : Monitor) : Prop := m'.record? k = m.record? k

instance (k : Key) : Trans (Untouched k) (Untouched k) (Untouched k) := ⟨fun h h' => h'.trans h⟩

theorem Untouched.refl (k : Key) (m : Monitor) : Untouched k m m := rfl

theorem onRecord_untouched {α : Type} {id : Handle} {k : Key} (apart : id.key ≠ k)
    (step : Step HealthRecord α) : Keeps (Untouched k) (onRecord id step) :=
  fun m => (record?_putRecord m id _ k).trans (if_neg apart)

theorem step_untouched {c : Call} {k : Key} (other : c.reaches k = false) :
    Keeps (Untouched k) c.step := by
  by_cases apart : c.id.key = k
  · subst apart
    simp only [Call.reaches, decide_true, Bool.true_and, Bool.or_eq_false_iff] at other
    intro m
    rw [(step_unnamed m other.2 other.1).2]
    exact Untouched.refl _ m
  · cases c with
    | success id ms now =>
      show Keeps (Untouched k) (recordSuccess id ms now)
      unfold recordSuccess
      split
      · exact Untouched.refl k
      · refine Keeps.bind (Untouched.refl k) fun _ => Keeps.bind (Untouched.refl k) fun m => ?_
        exact Keeps.bind (onRecord_untouched apart _) fun _ => Untouched.refl k
    | failure id error now =>
      show Keeps (Untouched k) (recordFailure id error now)
      unfold recordFailure
      split
      · exact Untouched.refl k
      · refine Keeps.bind (Untouched.refl k) fun m => Keeps.bind (onRecord_untouched apart _) fun _ => ?_
        exact Keeps.bind (Untouched.refl k) fun _ => Untouched.refl k
    | reset id =>
      exact Keeps.bind (fun m => (record?_putRecord m id {} k).trans (if_neg apart)) fun _ =>
        Untouched.refl k

theorem allows_unavailable {m : Monitor} {model : Model} {r : HealthRecord} (now : Instant)
    (held : m.record? model.key = some r) (unavailable : r.status = .unavailable) :
    m.allows now model = false := by
  unfold allows admits isAvailable
  rw [held]
  simp only [unavailable, if_true, ite_self]
  rfl

end Monitor

namespace Relay

variable {σ : Type}

/-! ### Staying out -/

/-- No health record of the model is changed, and nothing is sent to it. -/
structure Spares (id : String) (r r' : Relay σ) : Prop where
  catalog : r'.catalog = r.catalog
  record : r'.monitor.record? (.text id) = r.monitor.record? (.text id)
  sends : ∃ new, r'.sends = r.sends ++ new ∧ ∀ x ∈ new, x.model ≠ id

/-- The model is unavailable, and not the one that is tried when none is available. -/
structure Shuns (id : String) (r : Relay σ) : Prop where
  unavailable : ∃ record, r.monitor.record? (.text id) = some record ∧ record.status = .unavailable
  behind : ∀ m, r.catalog.models.head? = some m → m.id ≠ id

def Avoids (id : String) (models : List Model) : Prop := ∀ m ∈ models, m.id ≠ id

variable {id : String}

theorem Spares.refl (r : Relay σ) : Spares id r r := ⟨rfl, rfl, [], (List.append_nil _).symm, by simp⟩

theorem Spares.trans {r r' r'' : Relay σ} (h : Spares id r r') (h' : Spares id r' r'') :
    Spares id r r'' := by
  obtain ⟨new, sends, others⟩ := h.sends
  obtain ⟨later, sends', others'⟩ := h'.sends
  refine ⟨h'.catalog.trans h.catalog, h'.record.trans h.record, new ++ later, ?_, ?_⟩
  · rw [sends', sends, List.append_assoc]
  · exact List.forall_mem_append.mpr ⟨others, others'⟩

instance : Trans (Spares id : Relay σ → Relay σ → Prop) (Spares id) (Spares id) := ⟨Spares.trans⟩

theorem Shuns.stable (r r' : Relay σ) (shuns : Shuns id r) (spares : Spares id r r') : Shuns id r' where
  unavailable := spares.record ▸ shuns.unavailable
  behind := spares.catalog ▸ shuns.behind

theorem Spares.of_frame {r r' : Relay σ} (catalog : r'.catalog = r.catalog) (monitor : r'.monitor = r.monitor)
    (sends : r'.sends = r.sends) : Spares id r r' :=
  ⟨catalog, by rw [monitor], [], by rw [sends, List.append_nil], by simp⟩

theorem Avoids.cons {m : Model} {models : List Model} :
    Avoids id (m :: models) ↔ m.id ≠ id ∧ Avoids id models :=
  List.forall_mem_cons

/-! ### Choosing whom to try -/

theorem available_avoids {r : Relay σ} (shuns : Shuns id r) : Avoids id r.available := by
  intro m listed same
  obtain ⟨record, held, unavailable⟩ := shuns.unavailable
  have allowed := (List.mem_filter.mp listed).2
  have held : r.monitor.record? m.key = some record := by rw [← same] at held; exact held
  rw [Monitor.allows_unavailable _ held unavailable] at allowed
  cases allowed

theorem Prefers.id_eq {c : Catalog} {preferred : Data} {m : Model} (h : Prefers c preferred m) :
    preferred = .text m.id := by
  obtain ⟨id, rfl, found⟩ := h.found
  have same : (m.id == id) = true := List.find?_some (p := fun m : Model => m.id == id) found
  rw [beq_iff_eq.mp same]

theorem candidates_avoid {r s : Relay σ} (shuns : Shuns id r) {t : Task} {preferred : Data}
    (other : preferred ≠ .text id) {models : List Model}
    (h : Step.Answers (candidates t preferred) r models s) : Avoids id models := by
  obtain ⟨first, _, chosen, rfl⟩ := candidates_split h
  refine Avoids.cons.mpr ⟨?_, fun m listed => ?_⟩
  -- The first model may be asked for, be available, or be what is left when none is.
  · rcases primary_chooses chosen with prefers | ⟨-, listed | ⟨-, head⟩⟩
    · rintro rfl
      exact other prefers.id_eq
    · exact available_avoids shuns first listed
    · exact shuns.behind first head
  · have sorted := (Selection.byTierThenHealth_perm r.monitor _).mem_iff.mp listed
    exact available_avoids shuns m (List.mem_filter.mp sorted).1

theorem begin_spares (q : ChatRequest) :
    Keeps (Spares id) (begin q : Step (Relay σ) (List Model × Pending)) :=
  begin_keeps Spares.refl (fun _ _ _ _ => .of_frame rfl rfl rfl) (fun _ _ => .of_frame rfl rfl rfl) q

theorem begin_leads {q : ChatRequest} (other : q.preferred ≠ .text id) :
    Leads (Shuns id) (Spares id) (begin q : Step (Relay σ) (List Model × Pending))
      fun opened => Avoids id opened.1 := by
  refine ⟨fun r _ => begin_spares q r, fun r shuns opened s answered => ?_⟩
  obtain ⟨_, listed⟩ := begin_candidates answered
  exact candidates_avoid shuns other listed

/-! ### Attempts at other models -/

theorem onMonitor_spares {step : Instant → Step Monitor Unit} (call : Instant → Monitor.Call)
    (same : ∀ now, (call now).step = step now) (other : ∀ now, (call now).reaches (.text id) = false) :
    Keeps (Spares id) (onMonitor step : Step (Relay σ) Unit) := by
  intro r
  refine ⟨rfl, ?_, [], (List.append_nil _).symm, by simp⟩
  have kept := Monitor.step_untouched (other r.clock.now) r.monitor
  rw [same] at kept
  exact kept

theorem reaches_other {m : Model} (other : m.id ≠ id) (c : Monitor.Call) (about : c.id = m.handle) :
    c.reaches (.text id) = false := by
  have apart : c.id.key ≠ .text id := by
    rw [about]
    exact fun same => other (Key.text.inj same)
  exact Monitor.reaches_of_ne apart

theorem spares_permits : Permits (Spares id : Relay σ → Relay σ → Prop) fun m => m.id ≠ id where
  refl := Spares.refl
  counts _ _ := .of_frame rfl rfl rfl
  elapses d r := by
    rw [(elapse_answers d r).2]
    exact .of_frame rfl rfl rfl
  charges _ _ := .of_frame rfl rfl rfl
  dispatches t m p other r := by
    rw [(dispatch_answers t m p r).2]
    exact ⟨rfl, rfl, _, rfl, List.forall_mem_singleton.mpr other⟩
  succeeds m ms other :=
    onMonitor_spares (fun now => .success m.handle ms now) (fun _ => rfl) fun _ => reaches_other other _ rfl
  fails m text other :=
    onMonitor_spares (fun now => .failure m.handle text now) (fun _ => rfl) fun _ => reaches_other other _ rfl

theorem spares_guides :
    Guides (Shuns id) (Spares id : Relay σ → Relay σ → Prop) (fun m => m.id ≠ id) fun _ => True where
  toPermits := spares_permits
  stable := Shuns.stable
  answers _ _ _ _ _ _ := trivial

/-! ### Chats -/

theorem chat_spares (t : Transport σ) {q : ChatRequest} (other : q.preferred ≠ .text id) :
    Leads (Shuns id) (Spares id) (chat t q) fun _ => True :=
  chat_leads spares_guides t (begin_leads other)

theorem gather_spares (t : Transport σ) {qs : List ChatRequest}
    (others : ∀ q ∈ qs, q.preferred ≠ .text id) :
    Leads (Shuns id) (Spares id) (gather t qs) fun _ => True :=
  (gather_leads spares_guides t fun q listed => begin_leads (others q listed)).weaken fun _ _ => trivial

/-! ### Any use that leaves the model alone -/

/-- No chat asks for the model, and nothing that is reported is about it. -/
def Event.Forgoes (id : String) : Event σ → Prop
  | chat _ q => q.preferred ≠ .text id
  | gather _ qs => ∀ q ∈ qs, q.preferred ≠ .text id
  | health c => c.reaches (.text id) = false
  | spending _ => True
  | clock _ => True
  | router _ => True

/-- The relay after one event after the other, however each of them ends. -/
def after (r : Relay σ) (events : List (Event σ)) : Relay σ :=
  events.foldl (fun r e => (e.step r).state) r

theorem event_spares {r : Relay σ} (shuns : Shuns id r) {e : Event σ} (forgoes : e.Forgoes id) :
    Spares id r (e.step r).state := by
  cases e with
  | chat t q =>
    exact (Leads.bind Shuns.stable (chat_spares t forgoes) fun _ _ =>
      Leads.pure (Q := fun _ => True) Spares.refl trivial).state r shuns
  | gather t qs =>
    exact (Leads.bind Shuns.stable (gather_spares t forgoes) fun _ _ =>
      Leads.pure (Q := fun _ => True) Spares.refl trivial).state r shuns
  | health c => exact onMonitor_spares (fun _ => c) (fun _ => rfl) (fun _ => forgoes) r
  | spending op => exact .of_frame rfl rfl rfl
  | clock c => exact .of_frame rfl rfl rfl
  | router choice => exact .of_frame rfl rfl rfl

theorem after_spares {r : Relay σ} (shuns : Shuns id r) {events : List (Event σ)}
    (forgo : ∀ e ∈ events, e.Forgoes id) : Spares id r (after r events) := by
  induction events generalizing r with
  | nil => exact .refl r
  | cons e rest ih =>
    obtain ⟨first, rest⟩ := List.forall_mem_cons.mp forgo
    have spares := event_spares shuns first
    exact spares.trans (ih (Shuns.stable _ _ shuns spares) rest)

/-- Once a model is unavailable and is not the first of the catalog, nothing is sent to it and its record
stays as it is, however much time passes and whatever else happens, until a chat asks for the model by
name or something is reported of it. -/
theorem unavailable_stays_out {r : Relay σ} {record : HealthRecord}
    (held : r.monitor.record? (.text id) = some record) (unavailable : record.status = .unavailable)
    (behind : ∀ m, r.catalog.models.head? = some m → m.id ≠ id) {events : List (Event σ)}
    (forgo : ∀ e ∈ events, e.Forgoes id) :
    (after r events).monitor.record? (.text id) = some record ∧
      ∃ new, (after r events).sends = r.sends ++ new ∧ ∀ x ∈ new, x.model ≠ id := by
  have spares := after_spares ⟨⟨record, held, unavailable⟩, behind⟩ forgo
  exact ⟨spares.record.trans held, spares.sends⟩

/-! ### A model that is never asked again -/

/-- Two models of which the idle one has failed too often. -/
def idleDown : Relay Unit :=
  after twoModels (List.replicate 5 (.health (.failure idle.handle "timeout" ⟨0, some 0, none⟩)))

def anHourOn : Clock := ⟨⟨3600000000, some 0, none⟩, 3600.0⟩

/-- What goes on without the idle model, long after its rest is over. -/
def withoutIdle : List (Event Unit) :=
  [.clock anHourOn, .chat busyLine askBusy, .gather busyLine [askBusy, askBusy]]

theorem idle_stays_out : (idleDown.monitor.shouldRetry (.text "idle") anHourOn.now).toOption = some true ∧
    ∃ record, record.status = .unavailable ∧
      (after idleDown withoutIdle).monitor.record? (.text "idle") = some record ∧
      ∀ x ∈ (after idleDown withoutIdle).sends, x.model ≠ "idle" := by
  have down : (idleDown.monitor.record? (.text "idle")).map HealthRecord.status = some .unavailable := by
    decide +kernel
  obtain ⟨record, held, unavailable⟩ := Option.map_eq_some_iff.mp down
  have behind : ∀ m, idleDown.catalog.models.head? = some m → m.id ≠ "idle" := by
    rintro m head
    cases Option.some.inj head
    decide
  have forgo : ∀ e ∈ withoutIdle, e.Forgoes "idle" := by
    simp [withoutIdle, Event.Forgoes, askBusy]
  obtain ⟨kept, new, sends, others⟩ := unavailable_stays_out held unavailable behind forgo
  refine ⟨by decide +kernel, record, unavailable, kept, ?_⟩
  rw [sends]
  exact others

end Relay
end Switchboard
