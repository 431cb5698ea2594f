import Switchboard.Proofs.Spending.Charge

/-!
Periods of spending. A ledger learns of a new day only by a look at its clock, and the clock may be
ahead, behind or go backwards; the day that is tracked is the latest that was seen, and what is charged
counts for the day that is tracked at that moment.
-/

namespace Switchboard

/-- A look at the clock, with the cost that is charged on it. -/
structure Look where
  day : Day
  charge : Option Charge

namespace Look

def later (d : Day) (look : Look) : Day := if look.day ≤ d then d else look.day

def tracked (first : Day) (looks : List Look) : Day := looks.foldl later first

/-- The looks, each with the day that is tracked after it. -/
def stamps (first : Day) : List Look → List (Day × Look)
  | [] => []
  | look :: rest => (later first look, look) :: stamps (later first look) rest

/-- What was charged while a day was tracked. -/
def charged (first : Day) (looks : List Look) (d : Day) : List Charge :=
  (stamps first looks).filterMap fun s => if s.1 = d then s.2.charge else none

/-- The days that were tracked, one after the other. -/
def periods (first : Day) (looks : List Look) : List Day :=
  (first :: (stamps first looks).map Prod.fst).eraseDups

def closed (first : Day) (looks : List Look) : List Day := (periods first looks).dropLast

/-! ### The tracked day -/

theorem later_of_le {d : Day} {look : Look} (old : look.day ≤ d) : later d look = d := if_pos old

theorem later_of_new {d : Day} {look : Look} (new : ¬look.day ≤ d) : later d look = look.day := if_neg new

theorem le_later (d : Day) (look : Look) : d ≤ later d look := by
  by_cases old : look.day ≤ d
  · rw [later_of_le old]
    exact Nat.le_refl d.number
  · rw [later_of_new old]
    exact Nat.le_of_not_le old

theorem day_le_later (d : Day) (look : Look) : look.day ≤ later d look := by
  by_cases old : look.day ≤ d
  · rw [later_of_le old]
    exact old
  · rw [later_of_new old]
    exact Nat.le_refl look.day.number

theorem tracked_concat (first : Day) (looks : List Look) (look : Look) :
    tracked first (looks ++ [look]) = later (tracked first looks) look := by
  simp [tracked]

theorem tracked_seen (first : Day) (looks : List Look) :
    tracked first looks ∈ first :: looks.map day := by
  induction looks using List.reverseRecOn with
  | nil => exact List.mem_cons_self
  | append_singleton looks look ih =>
    rw [tracked_concat, List.map_append, ← List.cons_append]
    by_cases old : look.day ≤ tracked first looks
    · rw [later_of_le old]
      exact List.mem_append_left _ ih
    · rw [later_of_new old]
      exact List.mem_append_right _ List.mem_cons_self

theorem tracked_latest (first : Day) (looks : List Look) :
    ∀ d ∈ first :: looks.map day, d ≤ tracked first looks := by
  induction looks using List.reverseRecOn with
  | nil =>
    intro d member
    rw [List.mem_singleton.mp member]
    exact Nat.le_refl first.number
  | append_singleton looks look ih =>
    intro d member
    rw [List.map_append, ← List.cons_append] at member
    rw [tracked_concat]
    rcases List.mem_append.mp member with seen | last
    · exact Nat.le_trans (ih d seen) (le_later _ look)
    · rw [List.mem_singleton.mp last]
      exact day_le_later _ look

/-! ### Charges of a period -/

theorem stamps_concat (first : Day) (looks : List Look) (look : Look) :
    stamps first (looks ++ [look]) =
      stamps first looks ++ [(tracked first (looks ++ [look]), look)] := by
  induction looks generalizing first with
  | nil => rfl
  | cons next rest ih =>
    simp only [List.cons_append, stamps, ih]
    rfl

theorem map_stamps (first : Day) (looks : List Look) : (stamps first looks).map Prod.snd = looks := by
  induction looks generalizing first with
  | nil => rfl
  | cons look rest ih => rw [stamps, List.map_cons, ih]

/-- What is charged on a day was charged on a look. -/
theorem mem_charged {first d : Day} {looks : List Look} {c : Charge} (member : c ∈ charged first looks d) :
    ∃ look ∈ looks, look.charge = some c := by
  obtain ⟨s, stamped, charge⟩ := List.mem_filterMap.mp member
  split at charge
  · have look : s.2 ∈ (stamps first looks).map Prod.snd := List.mem_map_of_mem stamped
    rw [map_stamps] at look
    exact ⟨s.2, look, charge⟩
  · cases charge

theorem stamp_le_tracked {first : Day} {looks : List Look} {s : Day × Look}
    (member : s ∈ stamps first looks) : s.1 ≤ tracked first looks := by
  induction looks using List.reverseRecOn with
  | nil => cases member
  | append_singleton looks look ih =>
    rw [stamps_concat] at member
    rcases List.mem_append.mp member with earlier | last
    · rw [tracked_concat]
      exact Nat.le_trans (ih earlier) (le_later _ look)
    · rw [List.mem_singleton.mp last]
      exact Nat.le_refl _

theorem charged_concat (first : Day) (looks : List Look) (look : Look) (d : Day) :
    charged first (looks ++ [look]) d = charged first looks d ++
      if tracked first (looks ++ [look]) = d then look.charge.toList else [] := by
  rw [charged, stamps_concat, List.filterMap_append, charged]
  by_cases tracks : tracked first (looks ++ [look]) = d
  · cases charge : look.charge <;> simp [tracks, charge]
  · simp [tracks]

theorem not_charged_yet {first : Day} {looks : List Look} {d : Day} (ahead : ¬d ≤ tracked first looks) :
    charged first looks d = [] := by
  rw [charged, List.filterMap_eq_nil_iff]
  intro s member
  refine if_neg fun same => ahead ?_
  exact same ▸ stamp_le_tracked member

/-! ### One period after the other -/

theorem mem_periods {first : Day} {looks : List Look} {d : Day} :
    d ∈ periods first looks ↔ d = first ∨ ∃ s ∈ stamps first looks, s.1 = d := by
  simp [periods]

theorem tracked_mem_periods (first : Day) (looks : List Look) :
    tracked first looks ∈ periods first looks := by
  rw [mem_periods]
  rcases List.eq_nil_or_concat looks with rfl | ⟨rest, last, rfl⟩
  · exact .inl rfl
  · rw [List.concat_eq_append, stamps_concat]
    exact .inr ⟨_, List.mem_append_right _ List.mem_cons_self, rfl⟩

theorem le_tracked_of_mem_periods {first : Day} {looks : List Look} {d : Day}
    (member : d ∈ periods first looks) : d ≤ tracked first looks := by
  rcases mem_periods.mp member with rfl | ⟨s, stamped, rfl⟩
  · exact tracked_latest d looks d List.mem_cons_self
  · exact stamp_le_tracked stamped

theorem periods_concat (first : Day) (looks : List Look) (look : Look) :
    periods first (looks ++ [look]) =
      if look.day ≤ tracked first looks then periods first looks
      else periods first looks ++ [look.day] := by
  have listed : ∀ d, d ∈ first :: (stamps first looks).map Prod.fst ↔ d ∈ periods first looks := by
    intro d
    rw [periods, List.mem_eraseDups]
  rw [periods, stamps_concat, tracked_concat, List.map_append, ← List.cons_append, List.map_singleton,
    eraseDups_concat]
  by_cases old : look.day ≤ tracked first looks
  · rw [if_pos old, later_of_le old, if_pos ((listed _).mpr (tracked_mem_periods first looks))]
    rfl
  · have unlisted : look.day ∉ periods first looks := fun member => old (le_tracked_of_mem_periods member)
    rw [if_neg old, later_of_new old, if_neg (mt (listed _).mp unlisted)]
    rfl

/-- The last of the periods is the one that is not closed. -/
theorem periods_eq (first : Day) (looks : List Look) :
    periods first looks = closed first looks ++ [tracked first looks] := by
  induction looks using List.reverseRecOn with
  | nil => rfl
  | append_singleton looks look ih =>
    rw [closed, periods_concat, tracked_concat]
    by_cases old : look.day ≤ tracked first looks
    · rw [if_pos old, later_of_le old]
      exact ih
    · rw [if_neg old, later_of_new old, List.dropLast_concat]

theorem closed_concat (first : Day) (looks : List Look) (look : Look) :
    closed first (looks ++ [look]) =
      if look.day ≤ tracked first looks then closed first looks
      else closed first looks ++ [tracked first looks] := by
  rw [closed, periods_concat]
  by_cases old : look.day ≤ tracked first looks
  · rw [if_pos old, if_pos old, closed]
  · rw [if_neg old, if_neg old, List.dropLast_concat, periods_eq]

theorem periods_increasing (first : Day) (looks : List Look) :
    (periods first looks).Pairwise (· < ·) := by
  induction looks using List.reverseRecOn with
  | nil => exact List.pairwise_singleton _ first
  | append_singleton looks look ih =>
    rw [periods_concat]
    by_cases old : look.day ≤ tracked first looks
    · rw [if_pos old]
      exact ih
    · rw [if_neg old]
      refine List.pairwise_append.mpr ⟨ih, List.pairwise_singleton _ _, fun d member d' last => ?_⟩
      rw [List.mem_singleton.mp last]
      exact Nat.lt_of_le_of_lt (le_tracked_of_mem_periods member) (Nat.lt_of_not_le old)

end Look
end Switchboard
