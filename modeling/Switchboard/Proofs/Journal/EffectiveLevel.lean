import Switchboard.Proofs.Journal.Links

/-!
The level that counts for a channel, by its name alone. `effective_eq` finds it among the levels of the beginnings
of the name, provided that no points of the name stand side by side and that none of its beginnings begins the name
of the root.
-/

namespace Switchboard.Journal.ChannelTree

variable {t t' : ChannelTree} {name a : String}

/-- The first of the names that has a level, and the level of the root if there is none. -/
def firstLevel (t : ChannelTree) : List String → Rank
  | [] => t.rootLevel
  | a :: rest => if (t.ownLevel a).level ≠ Level.unset then t.ownLevel a else t.firstLevel rest

theorem firstLevel_append {before : List String} (bare : ∀ a ∈ before, (t.ownLevel a).level = Level.unset)
    (rest : List String) : t.firstLevel (before ++ rest) = t.firstLevel rest := by
  induction before with
  | nil => rfl
  | cons a before ih =>
    obtain ⟨unset, later⟩ := List.forall_mem_cons.mp bare
    rw [List.cons_append, firstLevel, unset, if_neg (by simp)]
    exact ih later

theorem ownLevel_of_not_channel (absent : t.isChannel name = false) (inner : isRoot name = false) :
    (t.ownLevel name).level = Level.unset := by
  rw [ownLevel_eq (by rw [inner]; exact Bool.false_ne_true)]
  rcases not_channel_cases absent with missing | ⟨below, found⟩
  · rw [missing]
    rfl
  · rw [found]
    rfl

theorem ancestors_of_root (root : isRoot name = true) : ancestors name = [] := by
  unfold isRoot at root
  rcases Bool.or_eq_true_iff.mp root with empty | same
  · rw [String.isEmpty_iff] at empty
    subst empty
    rfl
  · rw [beq_iff_eq] at same
    subst same
    decide

theorem root_or_rootLevel (t : ChannelTree) :
    (if t.root.level ≠ Level.unset then t.root else t.rootLevel) = t.rootLevel := by
  split
  next set => exact (if_neg set).symm
  next => rfl

/-- Without a channel on the way up the level of the root counts, be it met by its name. -/
theorem firstLevel_of_none {way : List String} (absent : ∀ a ∈ way, t.isChannel a = false) :
    t.firstLevel way = t.rootLevel := by
  induction way with
  | nil => rfl
  | cons a rest ih =>
    obtain ⟨none, others⟩ := List.forall_mem_cons.mp absent
    cases root : isRoot a with
    | true =>
      rw [firstLevel, ownLevel_root root, ih others, root_or_rootLevel]
    | false =>
      rw [firstLevel, ownLevel_of_not_channel none root, if_neg (by simp)]
      exact ih others

/-- Names whose points stand apart, and whose beginnings are no beginnings of the name of the root. -/
structure Plain (name : String) : Prop where
  single : Single name
  apart : Apart name

theorem Plain.ancestor (plain : Plain name) {before after : List String}
    (split : ancestors name = before ++ a :: after) : Plain a := by
  have listed : a ∈ ancestors name := by
    rw [split]
    exact List.mem_append_right _ List.mem_cons_self
  refine ⟨(begins_of_ancestor listed).single plain.single, fun b higher => plain.apart b ?_⟩
  rw [← ancestors_after plain.single split] at higher
  rw [split]
  exact List.mem_append_right _ (List.mem_cons_of_mem _ higher)

theorem levelUp_eq (linked : t.Linked) (plain : Plain name) (channel : t.isChannel name = true) {n : Nat}
    (enough : name.length ≤ n) : t.levelUp n name = t.firstLevel (name :: ancestors name) := by
  induction n generalizing name with
  | zero =>
    have empty : isRoot name = true := by
      rw [isRoot, String.length_eq_zero_iff.mp (Nat.le_zero.mp enough)]
      rfl
    cases channel.symm.trans (linked.root name empty)
  | succ n ih =>
    rw [levelUp, firstLevel, linked.above name plain.apart channel]
    split
    next => rfl
    next =>
      cases found : (ancestors name).find? t.isChannel with
      | none => exact (firstLevel_of_none fun a listed =>
          Bool.eq_false_iff.mpr (List.find?_eq_none.mp found a listed)).symm
      | some a =>
        obtain ⟨channel, before, after, split, vacant⟩ := List.find?_eq_some_iff_append.mp found
        have shorter : a.length < name.length := (begins_of_ancestor (List.mem_of_find?_eq_some found)).2
        have bare : ∀ b ∈ before, (t.ownLevel b).level = Level.unset := by
          intro b nearer
          refine ownLevel_of_not_channel (by simpa using vacant b nearer) (Bool.eq_false_iff.mpr fun root => ?_)
          -- The name of the root has no beginnings, but the channel would be one of them.
          obtain ⟨front, back, halves⟩ := List.append_of_mem nearer
          rw [halves, List.append_assoc, List.cons_append] at split
          have none := (ancestors_after plain.single split).trans (ancestors_of_root root)
          simp at none
        rw [split, firstLevel_append bare, ancestors_after plain.single split]
        exact ih (plain.ancestor split) channel (by omega)

theorem SameLevels.firstLevel (same : t.SameLevels t') (way : List String) : t'.firstLevel way = t.firstLevel way := by
  have root : t'.root = t.root := same rootName
  induction way with
  | nil => rw [ChannelTree.firstLevel, ChannelTree.firstLevel, rootLevel, rootLevel, root]
  | cons a rest ih => rw [ChannelTree.firstLevel, ChannelTree.firstLevel, same a, ih]

/-- For a channel with a plain name the first level counts that the name or one of its beginnings has. -/
theorem effective_eq (linked : t.Linked) (plain : Plain name) :
    (t.mention name).effective name = t.firstLevel (name :: ancestors name) := by
  rw [← (mention_sameLevels t name).firstLevel]
  have linked := mention_linked linked name
  cases root : isRoot name with
  | false => exact levelUp_eq linked plain (isChannel_mention t root) (Nat.le_refl _)
  | true =>
    have alone : (t.mention name).above? name = none := above?_of_not_channel (linked.root name root)
    rw [ancestors_of_root root, firstLevel, ownLevel_root root, firstLevel, root_or_rootLevel, effective]
    cases name.length with
    | zero => rfl
    | succ n =>
      rw [levelUp, ownLevel_root root, alone]
      exact root_or_rootLevel _

end Switchboard.Journal.ChannelTree
