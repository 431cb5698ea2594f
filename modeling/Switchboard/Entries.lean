/-!
Ordered association lists. Keys keep the place of their first insertion and writing to a key that
is present changes the value where it stands. `get?_put` says what a write does to every look-up,
`keys_put` what it does to the order.
-/

namespace Switchboard

/-- Keyed values in the order in which their keys were first written. -/
abbrev Entries (κ α : Type) := List (κ × α)

namespace Entries

variable {κ α β : Type} [DecidableEq κ]

def get? : Entries κ α → κ → Option α
  | [], _ => none
  | (k', v) :: rest, k => if k' = k then some v else get? rest k

/-- Writes `v` at `k`: in place if `k` is present, as the last entry otherwise. -/
def put : Entries κ α → κ → α → Entries κ α
  | [], k, v => [(k, v)]
  | (k', v') :: rest, k, v => if k' = k then (k', v) :: rest else (k', v') :: put rest k v

def keys (m : Entries κ α) : List κ := m.map Prod.fst

def contains (m : Entries κ α) (k : κ) : Bool := (get? m k).isSome

/-- Reads pairs from left to right, so that a later pair overwrites an earlier one. -/
def ofPairs (pairs : List (κ × α)) : Entries κ α :=
  pairs.foldl (fun m p => put m p.1 p.2) []

@[simp] theorem get?_nil (k : κ) : get? ([] : Entries κ α) k = none := rfl

theorem get?_put (m : Entries κ α) (k k' : κ) (v : α) :
    get? (put m k v) k' = if k = k' then some v else get? m k' := by
  induction m with
  | nil => simp [put, get?]
  | cons p rest ih =>
    obtain ⟨a, b⟩ := p
    by_cases ha : a = k
    · subst ha
      by_cases hk : a = k' <;> simp [put, get?, hk]
    · by_cases hk : a = k'
      · subst hk
        simp [put, get?, ha, Ne.symm ha]
      · simp [put, get?, ha, hk, ih]

@[simp] theorem get?_put_self (m : Entries κ α) (k : κ) (v : α) : get? (put m k v) k = some v := by
  simp [get?_put]

theorem get?_put_of_ne (m : Entries κ α) {k k' : κ} (h : k ≠ k') (v : α) :
    get? (put m k v) k' = get? m k' := by
  simp [get?_put, h]

theorem get?_eq_none_iff (m : Entries κ α) (k : κ) : get? m k = none ↔ k ∉ keys m := by
  induction m with
  | nil => simp [keys]
  | cons p rest ih =>
    obtain ⟨a, b⟩ := p
    by_cases ha : a = k
    · simp [get?, keys, ha]
    · simp only [get?, ha, if_false, ih]
      simp [keys, Ne.symm ha]

/-- A key that is present keeps its place, a new one comes last. -/
theorem keys_put (m : Entries κ α) (k : κ) (v : α) :
    keys (put m k v) = if k ∈ keys m then keys m else keys m ++ [k] := by
  induction m with
  | nil => simp [put, keys]
  | cons p rest ih =>
    obtain ⟨a, b⟩ := p
    by_cases ha : a = k
    · simp [put, keys, ha]
    · have ha' : k ≠ a := Ne.symm ha
      simp only [put, ha, if_false, keys, List.map_cons, List.mem_cons, ha', false_or] at ih ⊢
      by_cases hm : k ∈ List.map Prod.fst rest <;> simp [ih, hm]

end Entries
end Switchboard
