import Mathlib.Data.List.Induction
import Mathlib.Data.List.Nodup
import Switchboard.Entries

/-!
Lists without repetitions, and entries that have each of their keys once.
-/

namespace Switchboard

section Distinct

variable {α β : Type} [DecidableEq α]

theorem eraseDups_concat (xs : List α) (x : α) :
    (xs ++ [x]).eraseDups = if x ∈ xs then xs.eraseDups else xs.eraseDups ++ [x] := by
  rw [List.eraseDups_append]
  by_cases member : x ∈ xs <;> simp [List.removeAll, member, List.eraseDups_cons]

theorem nodup_eraseDups (xs : List α) : xs.eraseDups.Nodup := by
  induction xs using List.reverseRecOn with
  | nil => exact List.nodup_nil
  | append_singleton xs x ih =>
    rw [eraseDups_concat]
    by_cases member : x ∈ xs
    · rw [if_pos member]
      exact ih
    · rw [if_neg member]
      rw [← List.concat_eq_append]
      exact ih.concat fun again => member (List.mem_eraseDups.mp again)

theorem get?_map (ks : List α) (f : α → β) (k : α) :
    Entries.get? (ks.map fun k => (k, f k)) k = if k ∈ ks then some (f k) else none := by
  induction ks with
  | nil => rfl
  | cons k' rest ih =>
    by_cases same : k' = k
    · simp [Entries.get?, same]
    · simp [Entries.get?, same, Ne.symm same, ih]

/-- Entries that are made from their keys stay so when one of them is written. -/
theorem put_map {ks : List α} (nodup : ks.Nodup) (f : α → β) (k : α) (v : β) :
    Entries.put (ks.map fun k => (k, f k)) k v =
      (if k ∈ ks then ks else ks ++ [k]).map fun k' => (k', if k' = k then v else f k') := by
  induction ks with
  | nil => simp [Entries.put]
  | cons k' rest ih =>
    obtain ⟨fresh, nodup⟩ := List.nodup_cons.mp nodup
    by_cases same : k' = k
    · subst same
      have others : ∀ k ∈ rest, k ≠ k' := fun k member => ne_of_mem_of_not_mem member fresh
      simp only [List.map_cons, Entries.put, if_true, List.mem_cons_self, List.cons.injEq, true_and]
      exact List.map_congr_left fun k member => by rw [if_neg (others k member)]
    · simp only [List.map_cons, Entries.put, if_neg same, ih nodup, List.mem_cons, Ne.symm same, false_or]
      split <;> simp [same]

end Distinct

namespace Entries

variable {κ α : Type} [DecidableEq κ] {m : Entries κ α}

theorem nodup_keys_put (nodup : (keys m).Nodup) (k : κ) (v : α) : (keys (put m k v)).Nodup := by
  rw [keys_put]
  split
  · exact nodup
  · rename_i absent
    refine List.Nodup.append nodup (List.nodup_singleton k) ?_
    exact List.disjoint_singleton.mpr absent

theorem get?_of_mem (nodup : (keys m).Nodup) {e : κ × α} (member : e ∈ m) : get? m e.1 = some e.2 := by
  induction m with
  | nil => cases member
  | cons first rest ih =>
    obtain ⟨fresh, nodup⟩ := List.nodup_cons.mp nodup
    rcases List.mem_cons.mp member with rfl | later
    · exact if_pos rfl
    · have other : first.1 ≠ e.1 := by
        intro same
        exact fresh (same ▸ List.mem_map_of_mem later)
      rw [get?, if_neg other]
      exact ih nodup later

/-! ### Two writes -/

theorem put_put (m : Entries κ α) (k : κ) (v w : α) : put (put m k v) k w = put m k w := by
  induction m with
  | nil => simp [put]
  | cons e rest ih =>
    by_cases same : e.1 = k
    · simp [put, same]
    · simp [put, same, ih]

/-- A key that is present already keeps its place whatever else is written before. -/
theorem put_comm_of_mem {k k' : κ} (present : k ∈ keys m) (other : k ≠ k') (v w : α) :
    put (put m k v) k' w = put (put m k' w) k v := by
  induction m with
  | nil => cases present
  | cons e rest ih =>
    by_cases first : e.1 = k
    · have others : e.1 ≠ k' := first ▸ other
      simp [put, first, other]
    · have later : k ∈ keys rest := (List.mem_cons.mp present).resolve_left (Ne.symm first)
      by_cases second : e.1 = k'
      · simp [put, second, Ne.symm other]
      · simp [put, first, second, ih later]

theorem mem_keys_put (m : Entries κ α) (k : κ) (v : α) : k ∈ keys (put m k v) := by
  rw [keys_put]
  split
  · assumption
  · exact List.mem_append_right _ (List.mem_singleton_self k)

theorem mem_keys_put_of_mem {k : κ} (present : k ∈ keys m) (k' : κ) (v : α) : k ∈ keys (put m k' v) := by
  rw [keys_put]
  split
  · exact present
  · exact List.mem_append_left _ present

/-! ### The same entries in another order -/

theorem mem_of_get? {k : κ} {v : α} (found : get? m k = some v) : (k, v) ∈ m := by
  induction m with
  | nil => cases found
  | cons e rest ih =>
    rw [get?] at found
    split at found
    · rename_i same
      obtain rfl := Option.some.inj found
      obtain rfl := same
      exact List.mem_cons_self
    · exact List.mem_cons_of_mem e (ih found)

theorem get?_perm {m' : Entries κ α} (nodup : (keys m).Nodup) (reordered : m.Perm m') (k : κ) :
    get? m' k = get? m k := by
  have nodup' : (keys m').Nodup := (reordered.map Prod.fst).nodup_iff.mp nodup
  apply Option.ext
  intro v
  constructor
  · intro found
    exact get?_of_mem nodup (reordered.mem_iff.mpr (mem_of_get? found))
  · intro found
    exact get?_of_mem nodup' (reordered.mem_iff.mp (mem_of_get? found))

end Entries
end Switchboard
