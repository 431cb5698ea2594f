import Switchboard.Proofs.Settings.Refusal

/-!
What a write leaves at every path: its value at its own path, objects above it, nothing but the value's own
parts below it, and what there was before at all paths apart from it. The overlay of an environment is one
write after the other.
-/

namespace Switchboard.Settings

open Step

/-! ### Paths apart -/

/-- Neither of the paths leads to the other. -/
def Apart (p q : List String) : Prop := ¬p <+: q ∧ ¬q <+: p

theorem Apart.symm {p q : List String} (apart : Apart p q) : Apart q p := ⟨apart.2, apart.1⟩

theorem not_apart_nil (p : List String) : ¬Apart [] p := fun apart => apart.1 List.nil_prefix

theorem Apart.tail {k : String} {p q : List String} (apart : Apart (k :: p) (k :: q)) : Apart p q := by
  constructor
  · intro leads
    exact apart.1 (List.cons_prefix_cons.mpr ⟨rfl, leads⟩)
  · intro leads
    exact apart.2 (List.cons_prefix_cons.mpr ⟨rfl, leads⟩)

/-! ### One write -/

/-- The value that stands where the path begins once `v` was written at its end. -/
def written : Option Data → List String → Data → Data
  | _, [], v => v
  | base, k :: path, v =>
    .object (Entries.put (sectionAt base) k (written (Entries.get? (sectionAt base) k) path v))

theorem object_write (fields : Fields) {path : List String} (leads : path ≠ []) (v : Data) :
    .object (write fields path v) = written (some (.object fields)) path v := by
  induction path generalizing fields with
  | nil => exact (leads rfl).elim
  | cons k path ih =>
    cases path with
    | nil => rfl
    | cons k' path =>
      have below := ih (sectionAt (Entries.get? fields k)) (List.cons_ne_nil k' path)
      rw [write_cons, below]
      rfl

variable {base : Option Data} {p q : List String} {v w : Data}

@[simp] theorem sectionAt_none : sectionAt none = [] := rfl

@[simp] theorem sectionAt_object (fs : Fields) : sectionAt (some (.object fs)) = fs := rfl

theorem lookup?_section (base : Option Data) (k : String) (path : List String) :
    lookup? (.object (sectionAt base)) (k :: path) = base.bind fun d => lookup? d (k :: path) := by
  rcases base with _ | (_ | _ | _ | _ | _ | _ | _ | _) <;> rfl

theorem lookup?_written_append (base : Option Data) (p q : List String) (v : Data) :
    lookup? (written base p v) (p ++ q) = lookup? v q := by
  induction p generalizing base with
  | nil => rfl
  | cons k p ih =>
    rw [written, List.cons_append, lookup?_object_cons, Entries.get?_put_self, Option.bind_some]
    exact ih _

theorem lookup?_written_self (base : Option Data) (p : List String) (v : Data) :
    lookup? (written base p v) p = some v := by
  have own := lookup?_written_append base p [] v
  rwa [List.append_nil] at own

theorem lookup?_written_above (base : Option Data) (p : List String) (k : String) (q : List String)
    (v : Data) : ∃ fs, lookup? (written base (p ++ k :: q) v) p = some (.object fs) := by
  induction p generalizing base with
  | nil => exact ⟨_, rfl⟩
  | cons k' p ih =>
    rw [List.cons_append, written, lookup?_object_cons, Entries.get?_put_self, Option.bind_some]
    exact ih _

theorem lookup?_written_apart (apart : Apart p q) :
    lookup? (written base p v) q = base.bind fun d => lookup? d q := by
  induction p generalizing base q with
  | nil => exact (not_apart_nil q apart).elim
  | cons k p ih =>
    cases q with
    | nil => exact (not_apart_nil _ apart.symm).elim
    | cons l q =>
      rw [← lookup?_section, written, lookup?_object_cons, lookup?_object_cons]
      by_cases same : k = l
      · subst same
        rw [Entries.get?_put_self, Option.bind_some]
        exact ih apart.tail
      · rw [Entries.get?_put_of_ne _ same]

theorem section_tidy (tidy : ∀ d ∈ base, Tidy d) : Tidy (.object (sectionAt base)) := by
  cases base with
  | none => exact tidy_empty
  | some d =>
    cases d with
    | object fs => exact tidy _ rfl
    | _ => exact tidy_empty

theorem written_tidy (tidy : ∀ d ∈ base, Tidy d) (own : Tidy v) : Tidy (written base p v) := by
  induction p generalizing base with
  | nil => exact own
  | cons k p ih =>
    have opened := section_tidy tidy
    exact opened.put (ih fun d held => (tidy_object.mp opened).2 k d held) k

/-! ### One write after the other -/

/-- A value and the path that it is written at. -/
abbrev Writing := List String × Data

def writeAll (d : Data) (ws : List Writing) : Data := ws.foldl (fun d w => written (some d) w.1 w.2) d

theorem writeAll_cons (d : Data) (w : Writing) (ws : List Writing) :
    writeAll d (w :: ws) = writeAll (written (some d) w.1 w.2) ws := rfl

theorem writeAll_append (d : Data) (earlier later : List Writing) :
    writeAll d (earlier ++ later) = writeAll (writeAll d earlier) later := List.foldl_append

theorem lookup?_writeAll_apart {ws : List Writing} (apart : ∀ w ∈ ws, Apart w.1 q) (d : Data) :
    lookup? (writeAll d ws) q = lookup? d q := by
  induction ws generalizing d with
  | nil => rfl
  | cons w ws ih =>
    obtain ⟨own, others⟩ := List.forall_mem_cons.mp apart
    rw [writeAll_cons, ih others, lookup?_written_apart own, Option.bind_some]

/-- A value stands where it was written as long as no later write is at a path to it or from it. -/
theorem lookup?_writeAll_last (d : Data) (earlier later : List Writing) (apart : ∀ w ∈ later, Apart w.1 p) :
    lookup? (writeAll d (earlier ++ (p, v) :: later)) p = some v := by
  rw [writeAll_append, writeAll_cons, lookup?_writeAll_apart apart]
  exact lookup?_written_self _ p v

/-! ### The overlay -/

def budgetPath : List String := ["budget", "monthly_budget"]

/-- What the bare budget variable writes: the budget, if it is a number that fits. -/
def bareWritings (environment : Entries String String) : List Writing :=
  match budgetText? environment with
  | none => []
  | some text => match budgetOf text with
    | .ok (some amount) => [(budgetPath, .float amount)]
    | _ => []

/-- What the variables with the prefix write, each at the path in its name. -/
def assignments (environment : Entries String String) : List Writing :=
  environment.filterMap fun e => (path? e.1).map fun path => (path, valueOf e.2)

/-- All that an environment writes, in order. -/
def writings (environment : Entries String String) : List Writing :=
  bareWritings environment ++ assignments environment

/-- The paths that an environment sets. -/
def settingPaths (environment : Entries String String) : List (List String) :=
  (writings environment).map Prod.fst

theorem assignments_plain {environment : Entries String String} :
    ∀ w ∈ assignments environment, w.2.isObject = false := by
  intro w listed
  obtain ⟨e, -, set⟩ := List.mem_filterMap.mp listed
  obtain ⟨path, -, rfl⟩ := Option.map_eq_some_iff.mp set
  exact valueOf_plain e.2

theorem bareWritings_cases (environment : Entries String String) :
    bareWritings environment = [] ∨ ∃ amount, bareWritings environment = [(budgetPath, .float amount)] := by
  unfold bareWritings
  split
  · exact .inl rfl
  · split
    · exact .inr ⟨_, rfl⟩
    · exact .inl rfl

theorem writings_plain {environment : Entries String String} :
    ∀ w ∈ writings environment, w.2.isObject = false := by
  refine List.forall_mem_append.mpr ⟨?_, assignments_plain⟩
  rcases bareWritings_cases environment with none | ⟨amount, one⟩
  · rw [none]
    exact fun _ => nofun
  · rw [one]
    exact List.forall_mem_singleton.mpr rfl

theorem overlayVariables_writes (fields : Fields) (environment : Entries String String) :
    .object (overlayVariables fields environment) = writeAll (.object fields) (assignments environment) := by
  induction environment generalizing fields with
  | nil => rfl
  | cons e rest ih =>
    rw [overlayVariables, List.foldl_cons, assignments]
    cases named : path? e.1 with
    | none =>
      rw [List.filterMap_cons_none (by rw [named]; rfl)]
      exact ih fields
    | some path =>
      obtain ⟨k, path, rfl⟩ := path?_nonempty named
      rw [List.filterMap_cons_some (by rw [named]; rfl), writeAll_cons,
        ← object_write fields (List.cons_ne_nil k path)]
      exact ih _

theorem withBudget_writes {fields result : Fields} {environment : Entries String String}
    (h : withBudget fields environment = .ok result) :
    .object result = writeAll (.object fields) (bareWritings environment) := by
  unfold withBudget at h
  unfold bareWritings
  cases set : budgetText? environment with
  | none =>
    rw [set] at h
    cases h
    rfl
  | some text =>
    rw [set] at h
    obtain ⟨amount?, read, rest⟩ := except_bind_ok h
    dsimp only
    rw [read]
    cases amount? with
    | none =>
      cases rest
      rfl
    | some amount =>
      rw [writeBudget_ok rest]
      exact object_write fields (List.cons_ne_nil _ _) _

theorem overlay_answer (fields : Fields) (environment : Entries String String) :
    (overlay fields environment ()).answer =
      (overlayVariables · environment) <$> withBudget fields environment := by
  unfold overlay
  rw [answer_bind, overlayBudget_answer]
  rfl

theorem overlay_writes {fields result : Fields} {environment : Entries String String}
    (h : Answers (overlay fields environment) () result ()) :
    .object result = writeAll (.object fields) (writings environment) := by
  have answer := h.1
  rw [overlay_answer] at answer
  cases budgeted : withBudget fields environment with
  | error fault => rw [budgeted] at answer; cases answer
  | ok between =>
    rw [budgeted] at answer
    cases answer
    rw [writings, writeAll_append, ← withBudget_writes budgeted, overlayVariables_writes]

end Switchboard.Settings
