import Switchboard.Journal.Configure
import Switchboard.Proofs.Step

/-!
The levels that channels have of their own. Making room for a channel in the tree changes no level, and
giving a level to one channel changes that of no other.
-/

namespace Switchboard.Journal

def ChannelNode.level : ChannelNode → Rank
  | channel level _ => level
  | place _ => Level.unset

/-- The names are of one channel. Only the root has more than one. -/
def SameChannel (name other : String) : Prop :=
  name = other ∨ ChannelTree.isRoot name = true ∧ ChannelTree.isRoot other = true

namespace ChannelTree

variable {t t' t'' : ChannelTree} {name other : String}

theorem ownLevel_root (root : isRoot name = true) : t.ownLevel name = t.root := if_pos root

theorem ownLevel_eq (below : ¬isRoot name = true) :
    t.ownLevel name = ((Entries.get? t.nodes name).map ChannelNode.level).getD Level.unset := by
  unfold ownLevel
  rw [if_neg below]
  cases Entries.get? t.nodes name with
  | none => rfl
  | some n => cases n <;> rfl

/-! ### Making room -/

/-- All channels, those that are still to be made included, have the levels that they had. -/
def SameLevels (t t' : ChannelTree) : Prop := ∀ name, t'.ownLevel name = t.ownLevel name

theorem SameLevels.refl (t : ChannelTree) : t.SameLevels t := fun _ => rfl

theorem SameLevels.trans (h : t.SameLevels t') (h' : t'.SameLevels t'') : t.SameLevels t'' :=
  fun name => (h' name).trans (h name)

theorem put_sameLevels {n : ChannelNode} (same : n.level = t.ownLevel name ∨ isRoot name = true) :
    t.SameLevels { t with nodes := Entries.put t.nodes name n } := by
  intro other
  by_cases root : isRoot other = true
  · rw [ownLevel_root root, ownLevel_root root]
  · rw [ownLevel_eq root, ownLevel_eq root, Entries.get?_put]
    by_cases here : name = other
    · subst here
      rw [if_pos rfl, ← ownLevel_eq root]
      exact same.resolve_right root
    · rw [if_neg here]

theorem place_sameLevels {below : List String} (vacant : t.ownLevel name = Level.unset ∨ isRoot name = true) :
    t.SameLevels { t with nodes := Entries.put t.nodes name (.place below) } :=
  put_sameLevels (vacant.imp_left Eq.symm)

theorem vacant_of_place {below : List String} (found : Entries.get? t.nodes name = some (.place below)) :
    t.ownLevel name = Level.unset ∨ isRoot name = true := by
  by_cases root : isRoot name = true
  · exact .inr root
  · refine .inl ?_
    rw [ownLevel_eq root, found]
    rfl

theorem vacant_of_none (missing : Entries.get? t.nodes name = none) :
    t.ownLevel name = Level.unset ∨ isRoot name = true := by
  by_cases root : isRoot name = true
  · exact .inr root
  · refine .inl ?_
    rw [ownLevel_eq root, missing]
    rfl

theorem climb_sameLevels (name : String) (way : List String) (t : ChannelTree) :
    t.SameLevels (climb name way t).2 := by
  induction way generalizing t with
  | nil => exact .refl t
  | cons a rest ih =>
    unfold climb
    split
    · exact .refl t
    · rename_i below found
      exact (place_sameLevels (vacant_of_place found)).trans (ih _)
    · rename_i missing
      exact (place_sameLevels (vacant_of_none missing)).trans (ih _)

theorem takeOver_sameLevels (name : String) (t : ChannelTree) (c : String) :
    t.SameLevels (takeOver name t c) := by
  unfold takeOver
  split
  · exact .refl t
  · exact put_sameLevels (.inl rfl)

theorem foldl_takeOver_sameLevels (name : String) (below : List String) (t : ChannelTree) :
    t.SameLevels (below.foldl (takeOver name) t) := by
  induction below generalizing t with
  | nil => exact .refl t
  | cons c rest ih => exact (takeOver_sameLevels name t c).trans (ih _)

theorem enter_sameLevels (vacant : t.ownLevel name = Level.unset ∨ isRoot name = true) :
    t.SameLevels (t.enter name) := by
  -- The channel may have been a place on its own way up, which has no level either.
  have climbed := climb_sameLevels name (ancestors name) t
  refine climbed.trans (put_sameLevels (vacant.imp_left fun unset => ?_))
  rw [climbed name, unset]
  rfl

theorem mention_sameLevels (t : ChannelTree) (name : String) : t.SameLevels (t.mention name) := by
  unfold mention
  split
  · exact .refl t
  · split
    · exact .refl t
    · rename_i below found
      have taken := foldl_takeOver_sameLevels name below t
      refine taken.trans (enter_sameLevels ((vacant_of_place found).imp_left fun unset => ?_))
      rw [taken name, unset]
    · rename_i missing
      exact enter_sameLevels (vacant_of_none missing)

/-! ### Levels given -/

theorem ownLevel_setLevel_same (l : Rank) (same : SameChannel name other) :
    (t.setLevel name l).ownLevel other = l := by
  rcases same with rfl | ⟨root, root'⟩
  · exact t.ownLevel_setLevel name l
  · rw [ownLevel_root root', setLevel, if_pos root]

theorem ownLevel_setLevel_other (l : Rank) (unlike : ¬SameChannel name other) :
    (t.setLevel name l).ownLevel other = t.ownLevel other := by
  unfold SameChannel at unlike
  unfold setLevel
  split
  · rename_i root
    have below : ¬isRoot other = true := fun root' => unlike (.inr ⟨root, root'⟩)
    rw [ownLevel_eq below, ownLevel_eq below]
  · rw [← mention_sameLevels t name other]
    by_cases root : isRoot other = true
    · rw [ownLevel_root root, ownLevel_root root]
    · rw [ownLevel_eq root, ownLevel_eq root, Entries.get?_put_of_ne _ fun same => unlike (.inl same)]

theorem setLevel_sameLevels (same : t.SameLevels t') (name : String) (l : Rank) :
    (t.setLevel name l).SameLevels (t'.setLevel name l) := by
  intro other
  by_cases alike : SameChannel name other
  · rw [ownLevel_setLevel_same l alike, ownLevel_setLevel_same l alike]
  · rw [ownLevel_setLevel_other l alike, ownLevel_setLevel_other l alike, same other]

/-- Gives levels to channels, one after the other. -/
def setLevels (levels : List (String × Rank)) (t : ChannelTree) : ChannelTree :=
  levels.foldl (fun t e => t.setLevel e.1 e.2) t

theorem setLevels_append (earlier later : List (String × Rank)) (t : ChannelTree) :
    setLevels (earlier ++ later) t = setLevels later (setLevels earlier t) := List.foldl_append

end ChannelTree

/-- The channels have the levels that are given one after the other, and those of before else. -/
structure LevelsGiven (levels : List (String × Rank)) (t t' : ChannelTree) : Prop where
  given : ∀ earlier name level later, levels = earlier ++ (name, level) :: later →
    (∀ e ∈ later, ¬SameChannel e.1 name) → t'.ownLevel name = level
  others : ∀ name, (∀ e ∈ levels, ¬SameChannel e.1 name) → t'.ownLevel name = t.ownLevel name

theorem setLevels_given (levels : List (String × Rank)) (t : ChannelTree) :
    LevelsGiven levels t (ChannelTree.setLevels levels t) := by
  induction levels generalizing t with
  | nil =>
    constructor
    case given =>
      intro earlier name level later split
      simp at split
    case others =>
      intro name _
      rfl
  | cons first rest ih =>
    have rested := ih (t.setLevel first.1 first.2)
    constructor
    case given =>
      intro earlier name level later split last
      cases earlier with
      | nil =>
        obtain ⟨rfl, rfl⟩ := List.cons.inj split
        exact (rested.others name last).trans (t.ownLevel_setLevel name level)
      | cons e earlier =>
        obtain ⟨-, rest⟩ := List.cons.inj split
        exact rested.given earlier name level later rest last
    case others =>
      intro name unlike
      obtain ⟨here, later⟩ := List.forall_mem_cons.mp unlike
      exact (rested.others name later).trans (ChannelTree.ownLevel_setLevel_other _ here)

theorem LevelsGiven.of_same {levels : List (String × Rank)} {t t' t'' : ChannelTree}
    (h : LevelsGiven levels t t') (same : t'.SameLevels t'') : LevelsGiven levels t t'' where
  given earlier name level later split last := (same name).trans (h.given earlier name level later split last)
  others name unlike := (same name).trans (h.others name unlike)

end Switchboard.Journal
