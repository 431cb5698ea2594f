import Mathlib.Data.List.Basic
import Mathlib.Order.Lattice

/-!
Sorting by a key. Items that are sorted by a key come in the order of their keys, and items of one key stay
as they were. A sort by another comparison is such a sort if the two agree on the items.
-/

namespace Switchboard

variable {α κ : Type} [LinearOrder κ] (key : α → κ)

/-- Items in the order of their keys, those of one key in their own order. -/
def sortedBy (items : List α) : List α := items.mergeSort fun a b => decide (key a ≤ key b)

theorem sortedBy_perm (items : List α) : (sortedBy key items).Perm items := List.mergeSort_perm _ _

theorem keyLe_trans (a b c : α) (h : decide (key a ≤ key b) = true) (h' : decide (key b ≤ key c) = true) :
    decide (key a ≤ key c) = true :=
  decide_eq_true (le_trans (of_decide_eq_true h) (of_decide_eq_true h'))

theorem keyLe_total (a b : α) : (decide (key a ≤ key b) || decide (key b ≤ key a)) = true := by
  simp only [Bool.or_eq_true, decide_eq_true_eq]
  exact le_total _ _

theorem sortedBy_sorted (items : List α) : (sortedBy key items).Pairwise fun a b => key a ≤ key b :=
  (List.pairwise_mergeSort (keyLe_trans key) (keyLe_total key) items).imp of_decide_eq_true

variable {key} {items : List α}

theorem mergeSort_eq_sortedBy {before : α → α → Bool}
    (agree : ∀ a ∈ items, ∀ b ∈ items, before a b = decide (key a ≤ key b)) :
    items.mergeSort before = sortedBy key items := by
  have same := List.map_mergeSort (f := id) (s := fun a b => decide (key a ≤ key b)) agree
  rwa [List.map_id, List.map_id] at same

/-- Whatever items are picked out that share a key, they are in the same order before and after. -/
theorem sortedBy_stable {picked : α → Bool}
    (tied : ∀ a ∈ items, ∀ b ∈ items, picked a = true → picked b = true → key a = key b) :
    (sortedBy key items).filter picked = items.filter picked := by
  have level : (items.filter picked).Pairwise fun a b => decide (key a ≤ key b) = true := by
    refine List.pairwise_of_forall_mem_list fun a first b second => ?_
    obtain ⟨listed, left⟩ := List.mem_filter.mp first
    obtain ⟨listed', right⟩ := List.mem_filter.mp second
    exact decide_eq_true (tied a listed b listed' left right).le
  have kept := List.sublist_mergeSort (keyLe_trans key) (keyLe_total key) level List.filter_sublist
  -- What is kept in order is all that was picked, since the sort adds nothing.
  have among := kept.filter picked
  rw [List.filter_filter] at among
  simp only [Bool.and_self] at among
  exact (among.eq_of_length ((sortedBy_perm key items).filter _).length_eq.symm).symm

end Switchboard
