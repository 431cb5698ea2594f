import Switchboard.Proofs.Relay.Course

/-!
What holds of every relay that is in use. Whatever is done to it, chats that fail or are given up
included, its catalog stays the one that it was built with and its monitor stays in order.
-/

namespace Switchboard.Relay

open Step

variable {σ : Type}

/-- No id stands for two models, and the records of health are in order. -/
structure Sound (r : Relay σ) : Prop where
  distinct : Distinct r.catalog.models
  monitor : r.monitor.Sound

/-- The catalog stays as it is, and the monitor in order. -/
structure Steady (r r' : Relay σ) : Prop where
  catalog : r'.catalog = r.catalog
  monitor : r.monitor.Sound → r'.monitor.Sound

theorem Steady.refl (r : Relay σ) : Steady r r := ⟨rfl, id⟩

theorem Steady.trans {r r' r'' : Relay σ} (h : Steady r r') (h' : Steady r' r'') : Steady r r'' :=
  ⟨h'.catalog.trans h.catalog, fun sound => h'.monitor (h.monitor sound)⟩

instance : Trans (Steady : Relay σ → Relay σ → Prop) Steady Steady := ⟨Steady.trans⟩

theorem Steady.sound {r r' : Relay σ} (h : Steady r r') (sound : r.Sound) : r'.Sound :=
  ⟨h.catalog ▸ sound.distinct, h.monitor sound.monitor⟩

/-! ### Steps -/

theorem onMonitor_steady (call : Instant → Monitor.Call) {step : Instant → Step Monitor Unit}
    (same : ∀ now, (call now).step = step now) : Keeps Steady (onMonitor step : Step (Relay σ) Unit) := by
  intro r
  refine ⟨rfl, fun sound => ?_⟩
  rw [(onMonitor_answers call same sound).2]
  exact Monitor.effect_sound sound _

theorem onLedger_steady {α : Type} (step : Instant → Step Ledger α) :
    Keeps Steady (onLedger step : Step (Relay σ) α) := fun _ => ⟨rfl, id⟩

theorem count_steady (f : Counters → Counters) : Keeps Steady (count f : Step (Relay σ) Unit) :=
  fun _ => ⟨rfl, id⟩

theorem begin_steady (q : ChatRequest) :
    Keeps Steady (begin q : Step (Relay σ) (List Model × Pending)) :=
  begin_keeps Steady.refl (fun _ _ _ => onLedger_steady _) count_steady q

/-- Every model may be tried. -/
theorem steady_permits : Permits (Steady : Relay σ → Relay σ → Prop) fun _ => True where
  refl := Steady.refl
  counts := count_steady
  elapses d r := by
    rw [(elapse_answers d r).2]
    exact ⟨rfl, id⟩
  charges := onLedger_steady
  dispatches t m p _ r := by
    rw [(dispatch_answers t m p r).2]
    exact ⟨rfl, id⟩
  succeeds m ms _ := onMonitor_steady (fun now => .success m.handle ms now) fun _ => rfl
  fails m text _ := onMonitor_steady (fun now => .failure m.handle text now) fun _ => rfl

theorem steady_guides :
    Guides (fun _ => True) (Steady : Relay σ → Relay σ → Prop) (fun _ => True) fun _ => True where
  toPermits := steady_permits
  stable _ _ _ _ := trivial
  answers _ _ _ _ _ _ := trivial

/-! ### Chats -/

theorem begin_opens (q : ChatRequest) : Leads (fun _ => True) Steady
    (begin q : Step (Relay σ) (List Model × Pending)) fun opened => ∀ m ∈ opened.1, True :=
  ⟨fun r _ => begin_steady q r, fun _ _ _ _ _ _ _ => trivial⟩

theorem chat_steady (t : Transport σ) (q : ChatRequest) : Keeps Steady (chat t q) :=
  fun r => (chat_leads steady_guides t (begin_opens q)).state r trivial

theorem gather_steady (t : Transport σ) (qs : List ChatRequest) : Keeps Steady (gather t qs) :=
  fun r => (gather_leads steady_guides t fun q _ => begin_opens q).state r trivial

/-! ### Any use -/

/-- What may be done to a relay, to the parts that it shares with others, and to its clock. -/
inductive Event (σ : Type) where
  | chat (t : Transport σ) (q : ChatRequest)
  | gather (t : Transport σ) (qs : List ChatRequest)
  | health (c : Monitor.Call)
  | spending (op : Ledger.Operation)
  | clock (c : Clock)
  | router (choice : Router)

def Event.step : Event σ → Step (Relay σ) Unit
  | chat t q => quietly (Relay.chat t q)
  | gather t qs => quietly (Relay.gather t qs)
  | health c => onMonitor fun _ => c.step
  | spending op => onLedger fun now => op.step now
  | clock c => Step.modify fun r => { r with clock := c }
  | router choice => Step.modify fun r => { r with router := choice }

/-- A relay over a catalog that was built, after any use, however each use of it ended. -/
inductive Reachable : Relay σ → Prop where
  | assembled {models : List Model} {catalog : Catalog} {monitor : Monitor} {ledger : Ledger} {clock : Clock}
      {line : σ} {r : Relay σ} (built : Step.Answers (Catalog.build models) () catalog ())
      (fresh : monitor.records = [])
      (assembled : Step.Answers (assemble catalog monitor ledger clock line) () r ()) : Reachable r
  | used {r : Relay σ} (earlier : Reachable r) (e : Event σ) : Reachable (e.step r).state

theorem event_steady (e : Event σ) : Keeps Steady e.step := by
  cases e with
  | chat t q => exact (chat_steady t q).quietly Steady.refl
  | gather t qs => exact (gather_steady t qs).quietly Steady.refl
  | health c => exact onMonitor_steady (fun _ => c) fun _ => rfl
  | spending op => exact onLedger_steady _
  | clock c => exact fun _ => ⟨rfl, id⟩
  | router choice => exact fun _ => ⟨rfl, id⟩

theorem assemble_answers {catalog : Catalog} {monitor : Monitor} {ledger : Ledger} {clock : Clock}
    {line : σ} {r : Relay σ} (h : Step.Answers (assemble catalog monitor ledger clock line) () r ()) :
    r = { catalog, monitor, ledger, clock, line } := by
  unfold assemble at h
  split at h
  · exact (not_answers_fail h).elim
  · obtain ⟨_, _, -, last⟩ := answers_bind.mp h
    exact (answers_pure.mp last).1

theorem reachable_sound {r : Relay σ} (reachable : Reachable r) : r.Sound := by
  induction reachable with
  | assembled built fresh assembled =>
    obtain rfl := assemble_answers assembled
    exact ⟨Catalog.build_distinct built, (Monitor.mirrors_nil fresh).sound⟩
  | used earlier e ih => exact (event_steady e _).sound ih

end Switchboard.Relay
