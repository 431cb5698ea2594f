import Switchboard.Proofs.Entries
import Switchboard.Spending.Ledger

/-!
What a number of charges comes to: a sum, a count, and a sum for every model. All of it is read off the
list of charges; `total_add` says that a ledger which adds up charge by charge comes to the same.
-/

namespace Switchboard

/-- A cost that was charged to a model. -/
structure Charge where
  id : Handle
  cost : Float

namespace Charge

def sum (cs : List Charge) : Float := (cs.map cost).foldl (· + ·) 0.0

def ofModel (k : Key) (cs : List Charge) : List Charge := cs.filter fun c => c.id.key = k

/-- The models in the order in which they were first charged. -/
def keys (cs : List Charge) : List Key := (cs.map (·.id.key)).eraseDups

/-- The name by which a model went when it was first charged. -/
def nameOf (k : Key) (cs : List Charge) : Data := ((ofModel k cs).head?.map (·.id.given)).getD .null

def breakdown (cs : List Charge) : Register Float :=
  (keys cs).map fun k => (k, nameOf k cs, sum (ofModel k cs))

def total (d : Day) (cs : List Charge) : DayTotal := ⟨d, sum cs, cs.length, breakdown cs⟩

theorem sum_concat (cs : List Charge) (c : Charge) : sum (cs ++ [c]) = sum cs + c.cost := by
  simp [sum]

theorem mem_keys {cs : List Charge} {k : Key} : k ∈ keys cs ↔ ofModel k cs ≠ [] := by
  simp [keys, ofModel]

theorem keys_concat (cs : List Charge) (c : Charge) :
    keys (cs ++ [c]) = if c.id.key ∈ keys cs then keys cs else keys cs ++ [c.id.key] := by
  simp only [keys, List.map_append, List.map_cons, List.map_nil, eraseDups_concat, List.mem_eraseDups]

theorem ofModel_concat (k : Key) (cs : List Charge) (c : Charge) :
    ofModel k (cs ++ [c]) = if c.id.key = k then ofModel k cs ++ [c] else ofModel k cs := by
  by_cases own : c.id.key = k <;> simp [ofModel, own]

theorem entry_breakdown (cs : List Charge) (k : Key) : Entries.get? (breakdown cs) k =
    if k ∈ keys cs then some (nameOf k cs, sum (ofModel k cs)) else none :=
  get?_map (keys cs) (fun k => (nameOf k cs, sum (ofModel k cs))) k

theorem get?_breakdown (cs : List Charge) (k : Key) :
    Register.get? (breakdown cs) k = if ofModel k cs = [] then none else some (sum (ofModel k cs)) := by
  rw [Register.get?, entry_breakdown]
  by_cases charged : ofModel k cs = [] <;> simp [mem_keys, charged]

theorem breakdown_concat (cs : List Charge) (c : Charge) :
    breakdown (cs ++ [c]) =
      Register.put (breakdown cs) c.id ((Register.get? (breakdown cs) c.id.key).getD 0.0 + c.cost) := by
  have name : nameOf c.id.key (cs ++ [c]) =
      ((Entries.get? (breakdown cs) c.id.key).map Prod.fst).getD c.id.given := by
    rw [entry_breakdown, nameOf, nameOf, ofModel_concat, if_pos rfl]
    by_cases charged : ofModel c.id.key cs = []
    · simp [mem_keys, charged]
    · obtain ⟨first, rest, split⟩ := List.exists_cons_of_ne_nil charged
      simp [mem_keys, split]
  have sum : sum (ofModel c.id.key (cs ++ [c])) =
      (Register.get? (breakdown cs) c.id.key).getD 0.0 + c.cost := by
    rw [get?_breakdown, ofModel_concat, if_pos rfl, sum_concat]
    by_cases charged : ofModel c.id.key cs = []
    · rw [if_pos charged, charged]
      rfl
    · rw [if_neg charged]
      rfl
  rw [Register.put, ← name, ← sum]
  refine Eq.trans ?_ (put_map (nodup_eraseDups _) _ _ _).symm
  rw [breakdown, keys_concat]
  refine List.map_congr_left fun k _ => ?_
  by_cases own : k = c.id.key
  · rw [if_pos own, own]
  · have other : ofModel k (cs ++ [c]) = ofModel k cs := by rw [ofModel_concat, if_neg (Ne.symm own)]
    rw [if_neg own, nameOf, nameOf, other]

end Charge
end Switchboard
