import Switchboard.Proofs.Settings.Writing

/-!
Environments in another order. Two writes at paths apart from each other can be swapped, though they may make
or replace the same sections on their way: all that the order changes is in which order new keys are added.
-/

namespace Switchboard.Settings

open Step

/-! ### Data in another order -/

/-- The data are the same up to the order of the keys inside objects. -/
inductive Reordered : Data → Data → Prop where
  | same (d : Data) : Reordered d d
  | object {fs gs : Fields} (keys : (Entries.keys fs).Perm (Entries.keys gs))
      (values : ∀ k v w, Entries.get? fs k = some v → Entries.get? gs k = some w → Reordered v w) :
      Reordered (.object fs) (.object gs)

variable {fs gs : Fields} {a b c v w : Data} {p q : List String}

theorem get?_eq_none_iff_of_perm (keys : (Entries.keys fs).Perm (Entries.keys gs)) (k : String) :
    Entries.get? fs k = none ↔ Entries.get? gs k = none := by
  rw [Entries.get?_eq_none_iff, Entries.get?_eq_none_iff, keys.mem_iff]

theorem Reordered.of_keys (keys : (Entries.keys fs).Perm (Entries.keys gs))
    (values : ∀ k, Option.Rel Reordered (Entries.get? fs k) (Entries.get? gs k)) :
    Reordered (.object fs) (.object gs) := by
  apply Reordered.object keys
  intro k v w left right
  have related := values k
  rw [left, right] at related
  cases related with
  | some h => exact h

theorem Reordered.keys_perm (h : Reordered (.object fs) (.object gs)) :
    (Entries.keys fs).Perm (Entries.keys gs) := by
  cases h with
  | same => exact List.Perm.refl _
  | object keys _ => exact keys

theorem Reordered.values_rel (h : Reordered (.object fs) (.object gs)) (k : String) :
    Option.Rel Reordered (Entries.get? fs k) (Entries.get? gs k) := by
  cases h with
  | same =>
    cases Entries.get? fs k with
    | none => exact .none
    | some v => exact .some (.same v)
  | object keys values =>
    have missing := get?_eq_none_iff_of_perm keys k
    cases left : Entries.get? fs k with
    | none =>
      rw [missing.mp left]
      exact .none
    | some v =>
      cases right : Entries.get? gs k with
      | none => cases left.symm.trans (missing.mpr right)
      | some w => exact .some (values k v w left right)

theorem Reordered.trans (first : Reordered a b) (second : Reordered b c) : Reordered a c := by
  induction first generalizing c with
  | same => exact second
  | @object fs gs keys values ih =>
    cases second with
    | same => exact .object keys values
    | @object _ hs keys' values' =>
      apply Reordered.object (keys.trans keys')
      intro k v w left right
      cases middle : Entries.get? gs k with
      | none => cases left.symm.trans ((get?_eq_none_iff_of_perm keys k).mpr middle)
      | some u => exact ih k v u left middle (values' k u w middle right)

theorem keys_put_perm (keys : (Entries.keys fs).Perm (Entries.keys gs)) (k : String) (v w : Data) :
    (Entries.keys (Entries.put fs k v)).Perm (Entries.keys (Entries.put gs k w)) := by
  rw [Entries.keys_put, Entries.keys_put]
  by_cases present : k ∈ Entries.keys fs
  · rw [if_pos present, if_pos (keys.mem_iff.mp present)]
    exact keys
  · rw [if_neg present, if_neg fun found => present (keys.mem_iff.mpr found)]
    exact keys.append_right [k]

theorem Reordered.put (h : Reordered (.object fs) (.object gs)) (inner : Reordered v w) (k : String) :
    Reordered (.object (Entries.put fs k v)) (.object (Entries.put gs k w)) := by
  apply Reordered.of_keys (keys_put_perm h.keys_perm k v w)
  intro k'
  rw [Entries.get?_put, Entries.get?_put]
  split
  · exact .some inner
  · exact h.values_rel k'

theorem keys_put_comm (fs : Fields) {k l : String} (other : k ≠ l) (v w : Data) :
    (Entries.keys (Entries.put (Entries.put fs k v) l w)).Perm
      (Entries.keys (Entries.put (Entries.put fs l w) k v)) := by
  by_cases first : k ∈ Entries.keys fs
  · rw [Entries.put_comm_of_mem first other]
  by_cases second : l ∈ Entries.keys fs
  · rw [Entries.put_comm_of_mem second (Ne.symm other)]
  -- Two new keys come last, in the one order or in the other.
  have left : Entries.keys (Entries.put (Entries.put fs k v) l w) = Entries.keys fs ++ [k, l] := by
    simp [Entries.keys_put, first, second, Ne.symm other]
  have right : Entries.keys (Entries.put (Entries.put fs l w) k v) = Entries.keys fs ++ [l, k] := by
    simp [Entries.keys_put, first, second, other]
  rw [left, right]
  exact (List.Perm.swap l k []).append_left _

theorem Reordered.put_comm (fs : Fields) {k l : String} (other : k ≠ l) (v w : Data) :
    Reordered (.object (Entries.put (Entries.put fs k v) l w)) (.object (Entries.put (Entries.put fs l w) k v)) := by
  apply Reordered.of_keys (keys_put_comm fs other v w)
  intro k'
  have same : Entries.get? (Entries.put (Entries.put fs k v) l w) k' =
      Entries.get? (Entries.put (Entries.put fs l w) k v) k' := by
    simp only [Entries.get?_put]
    by_cases first : k = k'
    · simp [first, first ▸ Ne.symm other]
    · simp [first]
  rw [same]
  exact (Reordered.same (.object _)).values_rel k'

/-! ### Writes in another order -/

theorem section_reordered {a b : Option Data} (h : Option.Rel Reordered a b) :
    Reordered (.object (sectionAt a)) (.object (sectionAt b)) := by
  cases h with
  | none => exact .same _
  | some h =>
    cases h with
    | same d => exact .same _
    | object keys values => exact .object keys values

theorem written_reordered {a b : Option Data} (h : Option.Rel Reordered a b) (p : List String) (v : Data) :
    Reordered (written a p v) (written b p v) := by
  induction p generalizing a b with
  | nil => exact .same v
  | cons k p ih =>
    have sections := section_reordered h
    exact sections.put (ih (sections.values_rel k)) k

theorem writeAll_reordered (h : Reordered a b) (ws : List Writing) :
    Reordered (writeAll a ws) (writeAll b ws) := by
  induction ws generalizing a b with
  | nil => exact h
  | cons w ws ih => exact ih (written_reordered (.some h) w.1 w.2)

theorem written_comm (apart : Apart p q) (base : Option Data) (v w : Data) :
    Reordered (written (some (written base p v)) q w) (written (some (written base q w)) p v) := by
  induction p generalizing base q with
  | nil => exact (not_apart_nil q apart).elim
  | cons k p ih =>
    cases q with
    | nil => exact (not_apart_nil _ apart.symm).elim
    | cons l q =>
      simp only [written, sectionAt_object]
      by_cases same : k = l
      · subst same
        rw [Entries.get?_put_self, Entries.get?_put_self, Entries.put_put, Entries.put_put]
        exact (Reordered.same _).put (ih apart.tail _) k
      · rw [Entries.get?_put_of_ne _ same, Entries.get?_put_of_ne _ (Ne.symm same)]
        exact Reordered.put_comm _ same _ _

theorem writeAll_perm {ws ws' : List Writing} (reordered : ws.Perm ws')
    (apart : ws.Pairwise fun w w' => Apart w.1 w'.1) (d : Data) :
    Reordered (writeAll d ws) (writeAll d ws') := by
  induction reordered generalizing d with
  | nil => exact .same d
  | cons w _ ih => exact ih (List.pairwise_cons.mp apart).2 _
  | swap w w' ws =>
    have first : Apart w'.1 w.1 := (List.pairwise_cons.mp apart).1 w List.mem_cons_self
    exact writeAll_reordered (written_comm first (some d) w'.2 w.2) ws
  | trans first _ ih ih' =>
    have apart' := (first.pairwise_iff fun {w w'} (h : Apart w.1 w'.1) => h.symm).mp apart
    exact (ih apart d).trans (ih' apart' d)

/-! ### Environments in another order -/

variable {environment environment' : Entries String String}

theorem budgetText_perm (names : (Entries.keys environment).Nodup) (reordered : environment.Perm environment') :
    budgetText? environment' = budgetText? environment := by
  rw [budgetText?, budgetText?, Entries.get?_perm names reordered]

theorem writings_perm (names : (Entries.keys environment).Nodup) (reordered : environment.Perm environment') :
    bareWritings environment' = bareWritings environment ∧
      (assignments environment).Perm (assignments environment') := by
  constructor
  · rw [bareWritings, bareWritings, budgetText_perm names reordered]
  · exact reordered.filterMap _

/-- Where the variables of an environment are written at paths apart from each other, their order changes
nothing but the order of keys inside objects, and no fault. Whatever is not on the way to the path of a
variable or behind it stays as it was. -/
theorem overlay_reordered {fields : Fields} (names : (Entries.keys environment).Nodup)
    (reordered : environment.Perm environment')
    (apart : (assignments environment).Pairwise fun w w' => Apart w.1 w'.1) :
    (∃ fault, Faults (overlay fields environment) () fault () ∧
      Faults (overlay fields environment') () fault ()) ∨
    ∃ result result', Answers (overlay fields environment) () result () ∧
      Answers (overlay fields environment') () result' () ∧ Reordered (.object result) (.object result') ∧
      ∀ path, (∀ p ∈ settingPaths environment, Apart p path) →
        lookup? (.object result) path = lookup? (.object fields) path ∧
        lookup? (.object result') path = lookup? (.object fields) path := by
  have budgets : withBudget fields environment' = withBudget fields environment := by
    rw [withBudget, withBudget, budgetText_perm names reordered]
  obtain ⟨bare, assigned⟩ := writings_perm names reordered
  have answer := overlay_answer fields environment
  have answer' := overlay_answer fields environment'
  rw [budgets] at answer'
  cases budgeted : withBudget fields environment with
  | error fault =>
    rw [budgeted] at answer answer'
    exact .inl ⟨fault, ⟨answer, rfl⟩, ⟨answer', rfl⟩⟩
  | ok between =>
    rw [budgeted] at answer answer'
    have answers : Answers (overlay fields environment) () _ () := ⟨answer, rfl⟩
    have answers' : Answers (overlay fields environment') () _ () := ⟨answer', rfl⟩
    refine .inr ⟨_, _, answers, answers', ?_, fun path aside => ?_⟩
    · rw [overlayVariables_writes, overlayVariables_writes]
      exact writeAll_perm assigned apart _
    · have own : ∀ w ∈ writings environment, Apart w.1 path :=
        fun w listed => aside w.1 (List.mem_map_of_mem listed)
      have own' : ∀ w ∈ writings environment', Apart w.1 path := by
        intro w listed
        apply own
        rw [writings, bare] at listed
        exact (assigned.append_left _).mem_iff.mpr listed
      rw [overlay_writes answers, overlay_writes answers', lookup?_writeAll_apart own,
        lookup?_writeAll_apart own']
      exact ⟨rfl, rfl⟩

/-! ### Two variables for a section that is none -/

def strictHealth : Entries String String :=
  [("LLMRELAY__HEALTH__LIMITS__STREAK", "8"), ("LLMRELAY__HEALTH__MODE", "strict")]

def quietLogging : Fields := [("health", .text "off"), ("logging", .object [("level", .text "ERROR")])]

theorem strictHealth_assignments :
    assignments strictHealth = [(["health", "limits", "streak"], .int 8), (["health", "mode"], .text "strict")] := by
  have limit : path? "LLMRELAY__HEALTH__LIMITS__STREAK" = some ["health", "limits", "streak"] := by decide +kernel
  have mode : path? "LLMRELAY__HEALTH__MODE" = some ["health", "mode"] := by decide +kernel
  have values : valueOf "8" = .int 8 ∧ valueOf "strict" = .text "strict" := ⟨rfl, rfl⟩
  simp [assignments, strictHealth, limit, mode, values]

theorem strictHealth_either_way : ∃ result result',
    Answers (overlay quietLogging strictHealth) () result () ∧
    Answers (overlay quietLogging strictHealth.reverse) () result' () ∧
    Reordered (.object result) (.object result') ∧
    lookup? (.object result') ["logging", "level"] = some (.text "ERROR") := by
  have names : (Entries.keys strictHealth).Nodup := by decide
  have reordered : strictHealth.Perm strictHealth.reverse := (List.reverse_perm strictHealth).symm
  have apart : (assignments strictHealth).Pairwise fun w w' => Apart w.1 w'.1 := by
    rw [strictHealth_assignments]
    simp [Apart]
  have bare : bareWritings strictHealth = [] := rfl
  rcases @overlay_reordered _ _ quietLogging names reordered apart with
    ⟨fault, faults, -⟩ | ⟨result, result', answers, answers', same, kept⟩
  · have answered := overlay_answer quietLogging strictHealth
    cases answered.symm.trans faults.1
  · refine ⟨result, result', answers, answers', same, ?_⟩
    rw [(kept ["logging", "level"] ?_).2]
    · rfl
    · rw [settingPaths, writings, bare, strictHealth_assignments]
      simp [Apart]

end Switchboard.Settings
