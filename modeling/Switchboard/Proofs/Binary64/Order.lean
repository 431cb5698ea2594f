import Mathlib.Data.Prod.Lex
import Mathlib.Order.Compare
import Switchboard.Proofs.Binary64.Amount
import Switchboard.Proofs.Sorting

/-!
The order of doubles. Apart from the undefined number, which compares with nothing, doubles are ordered
like their places in a linear order, where the two zeros share one. So a list may be sorted by descending
numbers: `descending_sorted` and `descending_stable`.
-/

namespace Switchboard.Binary64

open Float.Model Float.Model.UnpackedFloat

/-! ### Places -/

/-- Class with sign, then exponent, then mantissa, all of them counted downwards below zero. -/
def place : UnpackedFloat → Int ×ₗ Int ×ₗ Int
  | .infinity .negative => toLex (-2, toLex (0, 0))
  | .finite .negative m e _ => toLex (-1, toLex (-e, -m))
  | .zero _ => toLex (0, toLex (0, 0))
  | .finite .positive m e _ => toLex (1, toLex (e, m))
  | .infinity .positive => toLex (2, toLex (0, 0))
  | .notANumber => toLex (0, toLex (0, 0))

theorem compare_cast (m n : Nat) : compare (m : Int) (n : Int) = compare m n := by
  rw [← cmp_eq_compare, ← cmp_eq_compare]
  exact StrictMono.cmp_map_eq (fun _ _ less => Int.ofNat_lt.mpr less) m n

theorem compare_neg (a b : Int) : compare (-a) (-b) = (compare a b).swap := by
  rw [← Std.OrientedCmp.eq_swap, ← cmp_eq_compare, ← cmp_eq_compare]
  exact StrictAnti.cmp_map_eq (fun _ _ less => Int.neg_lt_neg less) a b

theorem compare_place {u v : UnpackedFloat} (left : u ≠ .notANumber) (right : v ≠ .notANumber) :
    u.compare v = some (compare (place u) (place v)) := by
  cases u with
  | notANumber => exact (left rfl).elim
  | zero s => cases v with
    | notANumber => exact (right rfl).elim
    | zero s' => rfl
    | infinity s' => cases s' <;> rfl
    | finite s' m' e' _ => cases s' <;> rfl
  | infinity s => cases v with
    | notANumber => exact (right rfl).elim
    | zero s' => cases s <;> rfl
    | infinity s' => cases s <;> cases s' <;> rfl
    | finite s' m' e' _ => cases s <;> cases s' <;> rfl
  | finite s m e _ => cases v with
    | notANumber => exact (right rfl).elim
    | zero s' => cases s <;> rfl
    | infinity s' => cases s <;> cases s' <;> rfl
    | finite s' m' e' _ =>
      have upwards : compare (place (.finite .positive m e ‹_›)) (place (.finite .positive m' e' ‹_›)) =
          (compare e e').then (compare m m') := by
        rw [← compare_cast]
        rfl
      have downwards : compare (place (.finite .negative m e ‹_›)) (place (.finite .negative m' e' ‹_›)) =
          ((compare e e').then (compare m m')).swap := by
        rw [Ordering.swap_then, ← compare_neg, ← compare_cast, ← compare_neg]
        rfl
      cases s with
      | negative => cases s' with
        | negative => exact congrArg some downwards.symm
        | positive => rfl
      | positive => cases s' with
        | negative => rfl
        | positive => exact congrArg some upwards.symm

/-- The place of a double that is a number. -/
def placeOf (x : Float) : Int ×ₗ Int ×ₗ Int := place (parts x)

theorem isNaN_eq_false_iff {x : Float} : x.isNaN = false ↔ parts x ≠ .notANumber := by
  rw [Ne, ← isNaN_iff, Bool.not_eq_true]

theorem compare_undefined {u v : UnpackedFloat} (undefined : u = .notANumber ∨ v = .notANumber) :
    u.compare v = none := by
  rcases undefined with rfl | rfl
  · rfl
  · cases u <;> rfl

theorem lt_iff {x y : Float} : x < y ↔ (parts x).lt (parts y) = true := decide_eq_true_iff

theorem beq_eq (x y : Float) : (x == y) = (parts x).beq (parts y) := rfl

/-- Only numbers compare with anything. -/
theorem isNaN_of_compare {x y : Float} (compares : (parts x).compare (parts y) ≠ none) :
    x.isNaN = false ∧ y.isNaN = false := by
  rw [isNaN_eq_false_iff, isNaN_eq_false_iff, ← not_or]
  exact fun undefined => compares (compare_undefined undefined)

theorem isNaN_of_le {x y : Float} (h : x ≤ y) : x.isNaN = false ∧ y.isNaN = false := by
  refine isNaN_of_compare fun none => ?_
  rw [le_iff, UnpackedFloat.le, none] at h
  cases h

theorem isNaN_of_lt {x y : Float} (h : x < y) : x.isNaN = false ∧ y.isNaN = false := by
  refine isNaN_of_compare fun none => ?_
  rw [lt_iff, UnpackedFloat.lt, none] at h
  cases h

theorem isNaN_of_beq {x y : Float} (h : (x == y) = true) : x.isNaN = false ∧ y.isNaN = false := by
  refine isNaN_of_compare fun none => ?_
  rw [beq_eq, UnpackedFloat.beq, none] at h
  cases h

theorem le_iff_place {x y : Float} (left : x.isNaN = false) (right : y.isNaN = false) :
    x ≤ y ↔ placeOf x ≤ placeOf y := by
  rw [le_iff, UnpackedFloat.le, compare_place (isNaN_eq_false_iff.mp left) (isNaN_eq_false_iff.mp right),
    Option.any_some, Ordering.isLE_iff_ne_gt]
  exact compare_le_iff_le

theorem lt_iff_place {x y : Float} (left : x.isNaN = false) (right : y.isNaN = false) :
    x < y ↔ placeOf x < placeOf y := by
  rw [lt_iff, UnpackedFloat.lt, compare_place (isNaN_eq_false_iff.mp left) (isNaN_eq_false_iff.mp right),
    beq_iff_eq, Option.some_inj]
  exact compare_lt_iff_lt

theorem beq_iff_place {x y : Float} (left : x.isNaN = false) (right : y.isNaN = false) :
    (x == y) = true ↔ placeOf x = placeOf y := by
  rw [beq_eq, UnpackedFloat.beq, compare_place (isNaN_eq_false_iff.mp left) (isNaN_eq_false_iff.mp right),
    beq_iff_eq, Option.some_inj]
  exact compare_eq_iff_eq

/-- The greater of zero and anything else is a number, even if the other is none. -/
theorem greatest_zero_defined (x : Float) : (greatest 0.0 x).isNaN = false := by
  unfold greatest
  split
  · rename_i positive
    exact (isNaN_of_lt positive).2
  · rfl

/-! ### Sorting by descending numbers -/

section Descending

variable {α : Type} (score : α → Float)

/-- Items by descending score, those of equal score in their order. -/
def descending (items : List α) : List α := items.mergeSort fun a b => decide (score b ≤ score a)

theorem descending_perm (items : List α) : (descending score items).Perm items := List.mergeSort_perm _ _

variable {score} {items : List α} (defined : ∀ a ∈ items, (score a).isNaN = false)

include defined

theorem descending_eq : descending score items = sortedBy (fun a => OrderDual.toDual (placeOf (score a))) items :=
  mergeSort_eq_sortedBy fun a listed b listed' =>
    decide_eq_decide.mpr (le_iff_place (defined b listed') (defined a listed))

theorem descending_sorted : (descending score items).Pairwise fun a b => score b ≤ score a := by
  have sorted := sortedBy_sorted (fun a => OrderDual.toDual (placeOf (score a))) items
  rw [← descending_eq defined] at sorted
  have listed : ∀ a ∈ descending score items, (score a).isNaN = false := fun a member =>
    defined a ((descending_perm score items).mem_iff.mp member)
  refine sorted.imp_of_mem fun {a b} first second before => ?_
  exact (le_iff_place (listed b second) (listed a first)).mpr before

/-- The items of one score stay in their order. -/
theorem descending_stable (x : Float) :
    (descending score items).filter (score · == x) = items.filter (score · == x) := by
  rw [descending_eq defined]
  refine sortedBy_stable fun a _ b _ left right => ?_
  obtain ⟨above, number⟩ := isNaN_of_beq left
  have below := (isNaN_of_beq right).1
  have same := ((beq_iff_place above number).mp left).trans ((beq_iff_place below number).mp right).symm
  exact congrArg OrderDual.toDual same

/-- What the sort puts first is the first of the best: all before it are worse, and none is better. -/
theorem descending_first {best : α} {others : List α} (first : descending score items = best :: others) :
    ∃ before after, items = before ++ best :: after ∧ (∀ a ∈ before, score a < score best) ∧
      ∀ a ∈ items, ¬score best < score a := by
  have mem_iff : ∀ a, a ∈ items ↔ a ∈ best :: others := fun a =>
    first ▸ (descending_perm score items).mem_iff.symm
  have number := defined best ((mem_iff best).mpr List.mem_cons_self)
  have below : ∀ a ∈ items, placeOf (score a) ≤ placeOf (score best) := by
    intro a listed
    have sorted := descending_sorted defined
    rw [first, List.pairwise_cons] at sorted
    rcases List.mem_cons.mp ((mem_iff a).mp listed) with rfl | later
    · exact le_refl _
    · exact (le_iff_place (defined a listed) number).mp (sorted.1 a later)
  have tied : (score best == score best) = true := (beq_iff_place number number).mpr rfl
  have stable := descending_stable defined (score best)
  rw [first, List.filter_cons, if_pos tied] at stable
  obtain ⟨before, after, rfl, worse, -⟩ := List.filter_eq_cons_iff.mp stable.symm
  refine ⟨before, after, rfl, fun a earlier => ?_, fun a listed better => ?_⟩
  · have listed : a ∈ before ++ best :: after := List.mem_append_left _ earlier
    have apart : placeOf (score a) ≠ placeOf (score best) := fun same =>
      worse a earlier ((beq_iff_place (defined a listed) number).mpr same)
    exact (lt_iff_place (defined a listed) number).mpr ((below a listed).lt_of_ne apart)
  · exact ((lt_iff_place number (defined a listed)).mp better).not_ge (below a listed)

end Descending

end Switchboard.Binary64
