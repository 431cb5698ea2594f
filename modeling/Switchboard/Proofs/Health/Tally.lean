import Mathlib.Data.List.Perm.Basic
import Switchboard.Proofs.Entries
import Switchboard.Proofs.Health.Calls

/-!
The counts of a monitor that is told of every outcome once. It holds one record for each model that was
ever asked, so its summary counts each of these models once.
-/

namespace Switchboard

open HealthRecord

theorem HealthStatus.counts_add_up {α : Type} (status : α → HealthStatus) (xs : List α) :
    xs.countP (status · = .healthy) + xs.countP (status · = .degraded) +
      xs.countP (status · = .unavailable) + xs.countP (status · = .unknown) = xs.length := by
  induction xs with
  | nil => rfl
  | cons x rest ih =>
    simp only [List.countP_cons, List.length_cons]
    cases status x <;> simp <;> omega

theorem HealthRecord.observe_total (t : Thresholds) (r : HealthRecord) (o : Observation) :
    (observe t r o).total = r.total + 1 := by
  cases o <;> rfl

theorem HealthRecord.observe_successes (t : Thresholds) (r : HealthRecord) (o : Observation) :
    (observe t r o).successes = r.successes + if o.isSuccess then 1 else 0 := by
  cases o <;> rfl

namespace Monitor

theorem recordOf_observed (m : Monitor) (id : Handle) (o : Observation) (k : Key) :
    (m.observed id o).recordOf k =
      if id.key = k then observe m.thresholds (m.recordOf k) o else m.recordOf k := by
  rw [observed, recordOf_putRecord]
  by_cases own : id.key = k
  · rw [if_pos own, if_pos own, own]
  · rw [if_neg own, if_neg own]

theorem summary_adds_up (m : Monitor) :
    m.summary.healthy + m.summary.degraded + m.summary.unavailable + m.summary.unknown =
      m.summary.total :=
  HealthStatus.counts_add_up (fun e : Key × Data × HealthRecord => e.2.2.status) m.records

theorem mem_keys {m : Monitor} {k : Key} : k ∈ Entries.keys m.records ↔ m.record? k ≠ none := by
  have listed := Entries.get?_eq_none_iff m.records k
  rw [record?, Register.get?, Ne, Option.map_eq_none_iff, listed, not_not]

theorem recordOf_of_mem {m : Monitor} (nodup : (Entries.keys m.records).Nodup)
    {e : Key × Data × HealthRecord} (member : e ∈ m.records) : m.recordOf e.1 = e.2.2 := by
  rw [recordOf, record?, Register.get?, Entries.get?_of_mem nodup member]
  rfl

theorem count_eq {m : Monitor} (nodup : (Entries.keys m.records).Nodup) (status : HealthStatus) :
    m.count status = (Entries.keys m.records).countP fun k => (m.recordOf k).status = status := by
  rw [Entries.keys, List.countP_map, count]
  refine List.countP_congr fun e member => ?_
  simp [recordOf_of_mem nodup member]

/-- The monitor was told of an outcome for each of these that were asked, and of a success for each of these
that answered. -/
structure Tallies (m : Monitor) (asked answered : List String) : Prop where
  sound : m.Sound
  nodup : (Entries.keys m.records).Nodup
  untouched : ∀ k, m.record? k = none ↔ ∀ id ∈ asked, k ≠ .text id
  total : ∀ id, (m.recordOf (.text id)).total = asked.count id
  successes : ∀ id, (m.recordOf (.text id)).successes = answered.count id

namespace Tallies

variable {m : Monitor} {asked answered : List String}

theorem fresh (fresh : m.records = []) : m.Tallies [] [] := by
  have empty : ∀ k, m.record? k = none := by
    intro k
    rw [record?, fresh]
    rfl
  constructor
  case sound => exact (mirrors_nil fresh).sound
  case nodup =>
    rw [fresh]
    exact List.nodup_nil
  case untouched => simp [empty]
  case total =>
    intro id
    rw [recordOf, empty]
    rfl
  case successes =>
    intro id
    rw [recordOf, empty]
    rfl

/-- An outcome counts for the model that was asked and for no other. -/
theorem observed (tallies : m.Tallies asked answered) (id : String) (o : Observation) :
    (m.observed (.ofText id) o).Tallies (asked ++ [id])
      (if o.isSuccess then answered ++ [id] else answered) := by
  have sound := putRecord_sound tallies.sound (.ofText id)
    (observe_tallied (t := m.thresholds) (tallies.sound (.text id)) o)
  have key : (Handle.ofText id).key = .text id := rfl
  constructor
  case sound => exact sound
  case nodup => exact Entries.nodup_keys_put tallies.nodup _ _
  case untouched =>
    intro k
    rw [Monitor.observed, record?_putRecord, key]
    by_cases own : Key.text id = k
    · simp [own]
    · rw [if_neg own, tallies.untouched]
      simp [or_imp, forall_and, Ne.symm own]
  case total =>
    intro id'
    rw [recordOf_observed, key]
    by_cases own : id = id'
    · simp [own, observe_total, tallies.total]
    · simp [own, tallies.total]
  case successes =>
    intro id'
    rw [recordOf_observed, key]
    by_cases own : id = id'
    · cases success : o.isSuccess <;> simp [own, success, observe_successes, tallies.successes]
    · cases o.isSuccess <;> simp [own, tallies.successes]

theorem effect (tallies : m.Tallies asked answered) {c : Call} {id : String} {o : Observation}
    (about : c.id = .ofText id) (named : (Handle.ofText id).isSet = true) (outcome : c.observation? = some o) :
    (c.effect m).Tallies (asked ++ [id]) (if o.isSuccess then answered ++ [id] else answered) := by
  have reached : c.reaches c.id.key = true := by simp [Call.reaches, about, named]
  rw [Call.effect, if_pos reached, outcome, about]
  exact tallies.observed id o

/-! ### The summary -/

theorem keys_perm (tallies : m.Tallies asked answered) :
    (Entries.keys m.records).Perm (asked.eraseDups.map Key.text) := by
  have distinct : (asked.eraseDups.map Key.text).Nodup :=
    (nodup_eraseDups asked).map fun _ _ same => by cases same; rfl
  refine (List.perm_ext_iff_of_nodup tallies.nodup distinct).mpr fun k => ?_
  rw [mem_keys, Ne, tallies.untouched]
  simp [eq_comm]

theorem summary_total (tallies : m.Tallies asked answered) : m.summary.total = asked.eraseDups.length := by
  have length := tallies.keys_perm.length_eq
  rw [List.length_map, Entries.keys, List.length_map] at length
  exact length

theorem count (tallies : m.Tallies asked answered) (status : HealthStatus) :
    m.count status = asked.eraseDups.countP fun id => (m.recordOf (.text id)).status = status := by
  rw [count_eq tallies.nodup, tallies.keys_perm.countP_eq, List.countP_map]
  rfl

end Tallies
end Monitor
end Switchboard
