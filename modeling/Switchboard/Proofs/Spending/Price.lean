import Switchboard.Catalog.Model
import Switchboard.Proofs.Binary64.Amount
import Switchboard.Proofs.Reading

/-!
What valid prices can come to. A rate is not below zero but may be infinite, and then no tokens at all have
no defined cost; every other cost is an amount.
-/

namespace Switchboard

open Binary64

namespace Number

/-- How many things a number counts, if it is whole and not below zero. -/
def count? : Number → Option Nat
  | flag b => some b.toNat
  | whole n => n.toNat?
  | decimal _ => none

/-- Counts things, and has a double. -/
def Countable (n : Number) : Prop := ∃ k, n.count? = some k ∧ (ofInt? k).isSome = true

theorem toFloat_of_count {n : Number} {k : Nat} {x : Float} (counts : n.count? = some k)
    (nearest : ofInt? k = some x) : n.toFloat = .ok x := by
  cases n with
  | decimal x => cases counts
  | flag b =>
    have flags : ∀ b : Bool, ofInt? b.toNat = some (if b then 1.0 else 0.0) := by decide +kernel
    obtain rfl := Option.some.inj counts
    obtain rfl := Option.some.inj ((flags b).symm.trans nearest)
    rfl
  | whole n =>
    obtain rfl := Int.mem_toNat?.mp counts
    rw [toFloat, nearest]
    rfl

end Number

namespace Pricing

/-! ### Valid prices -/

/-- Rates that were read from data. -/
def Valid (p : Pricing) : Prop := ∃ d, ofData d = .ok p

theorem rate_amount {name : String} {fs : List (String × Data)} {rate : Float}
    (read : Reader.required name (Reader.float [.atLeast 0]) fs = .good rate) : Amount (parts rate) := by
  obtain ⟨d, bounded⟩ := Reader.required_good read
  exact admits_zero_iff.mp ((Reader.bounded_good bounded).2 (.atLeast 0) List.mem_cons_self)

theorem Valid.amounts {p : Pricing} (valid : p.Valid) : Amount (parts p.input) ∧ Amount (parts p.output) := by
  obtain ⟨d, read⟩ := valid
  obtain ⟨fs, rfl, fields⟩ := Reader.record_good (Reader.readFields_ok read)
  obtain ⟨made, output, inputs, outputs, rfl⟩ := Reading.seq_good fields
  obtain ⟨input, inputRead, rfl⟩ := Reading.map_good inputs
  exact ⟨rate_amount inputRead, rate_amount outputs⟩

theorem rate_read {rate : Float} (amount : Amount (parts rate)) :
    Reader.float [.atLeast 0] (.float rate) = .good rate := by
  have read : Reader.number (.float rate) = .good rate := rfl
  apply Reader.bounded_of_good read
  intro b member
  rw [List.mem_singleton.mp member]
  exact admits_zero_iff.mpr amount

/-- A price is valid if its rates are amounts, be they infinite. -/
theorem valid_iff {p : Pricing} : p.Valid ↔ Amount (parts p.input) ∧ Amount (parts p.output) := by
  refine ⟨Valid.amounts, fun ⟨input, output⟩ => ⟨p.toData, ?_⟩⟩
  have read : reader p.toData = .good p := by
    show Pricing.mk <$> (Reader.float [.atLeast 0] (.float p.input)).under (.key "input_per_million")
      <*> (Reader.float [.atLeast 0] (.float p.output)).under (.key "output_per_million") = .good p
    rw [rate_read input, rate_read output]
    rfl
  unfold ofData Reader.readFields
  rw [read]
  rfl

/-! ### Costs -/

theorem charge_of_toFloat {tokens : Number} {x : Float} (number : tokens.toFloat = .ok x) (rate : Float) :
    charge tokens rate = .ok (x / 1000000.0 * rate) := by
  rw [charge, number]
  rfl

theorem estimate_of_toFloat {inputTokens outputTokens : Number} {x y : Float} (p : Pricing)
    (input : inputTokens.toFloat = .ok x) (output : outputTokens.toFloat = .ok y) :
    p.estimate inputTokens outputTokens = .ok (x / 1000000.0 * p.input + y / 1000000.0 * p.output) := by
  rw [estimate, charge_of_toFloat input, charge_of_toFloat output]
  rfl

/-- There is no cost: an infinite rate is charged for no tokens. -/
def Undefined (p : Pricing) (inputTokens outputTokens : Number) : Prop :=
  inputTokens.count? = some 0 ∧ p.input.isInf = true ∨ outputTokens.count? = some 0 ∧ p.output.isInf = true

instance (p : Pricing) (inputTokens outputTokens : Number) :
    Decidable (p.Undefined inputTokens outputTokens) :=
  inferInstanceAs (Decidable (_ ∨ _))

theorem charge_cost {tokens : Number} {rate : Float} (countable : tokens.Countable)
    (valid : Amount (parts rate)) : ∃ cost, charge tokens rate = .ok cost ∧
      if tokens.count? = some 0 ∧ rate.isInf = true then cost.isNaN = true else Amount (parts cost) := by
  obtain ⟨k, counts, some⟩ := countable
  obtain ⟨x, nearest⟩ := Option.isSome_iff_exists.mp some
  refine ⟨x / 1000000.0 * rate, charge_of_toFloat (Number.toFloat_of_count counts nearest) rate, ?_⟩
  rw [counts]
  rcases Nat.eq_zero_or_pos k with rfl | positive
  · have none := zero_div (parts_ofInt_zero nearest) million_normal
    simpa using zero_mul none valid
  · have share := div_normal (parts_ofInt_pos nearest positive) million_normal (by omega) (by omega)
    rw [if_neg (fun undefined => Nat.ne_of_gt positive (Option.some.inj undefined.1))]
    exact normal_mul_amount share valid

/-- An estimate of countable tokens at valid prices is not below zero if there is one. -/
theorem estimate_cost {p : Pricing} {inputTokens outputTokens : Number} (valid : p.Valid)
    (input : inputTokens.Countable) (output : outputTokens.Countable) :
    ∃ cost, p.estimate inputTokens outputTokens = .ok cost ∧
      if p.Undefined inputTokens outputTokens then cost.isNaN = true else Amount (parts cost) := by
  obtain ⟨inputCost, charged, left⟩ := charge_cost input valid.amounts.1
  obtain ⟨outputCost, charged', right⟩ := charge_cost output valid.amounts.2
  refine ⟨inputCost + outputCost, ?_, ?_⟩
  · rw [estimate, charged, charged']
    rfl
  · split
    case isTrue undefined =>
      rcases undefined with none | none
      · rw [if_pos none] at left
        exact add_undefined (.inl left)
      · rw [if_pos none] at right
        exact add_undefined (.inr right)
    case isFalse defined =>
      rw [if_neg (fun none => defined (.inl none))] at left
      rw [if_neg (fun none => defined (.inr none))] at right
      exact add_amount left right

end Pricing
end Switchboard
