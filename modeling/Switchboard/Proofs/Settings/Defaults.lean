import Switchboard.Proofs.Health.Thresholds
import Switchboard.Proofs.Settings.Merge
import Switchboard.Settings.Sections

/-!
What is not set has its default. The levels of components are set as a whole: where some are given, no
default stands beside them.
-/

namespace Switchboard.Settings

open Reader Reading

/-- Where the given data have nothing, what was read of them is as the standard is. -/
def FallsBack (given value standard : Data) : Prop :=
  ∀ path, lookup? given path = none → lookup? value path = lookup? standard path

theorem FallsBack.plain {value standard : Data} (plain : value.isObject = false)
    (plain' : standard.isObject = false) (given : Data) : FallsBack given value standard := by
  intro path nothing
  cases path with
  | nil => cases nothing
  | cons k path => rw [lookup?_cons_of_not_object plain, lookup?_cons_of_not_object plain']

/-- Data that are kept as they are have nothing beside them. -/
theorem FallsBack.kept (given : Data) : FallsBack given given (.object []) := by
  intro path nothing
  cases path with
  | nil => cases nothing
  | cons k path => exact nothing

/-- A field that was read, or left out and so as the standard is. -/
def FieldFallsBack (fs : Fields) (k : String) (value standard : Data) : Prop :=
  match Entries.get? fs k with
  | none => value = standard
  | some d => FallsBack d value standard

theorem FallsBack.nil (fs : Fields) : FallsBack (.object fs) (.object []) (.object []) :=
  fun _ _ => rfl

theorem FallsBack.cons {fs xs ys : Fields} {k : String} {value standard : Data}
    (field : FieldFallsBack fs k value standard)
    (others : FallsBack (.object fs) (.object xs) (.object ys)) :
    FallsBack (.object fs) (.object ((k, value) :: xs)) (.object ((k, standard) :: ys)) := by
  intro path nothing
  cases path with
  | nil => cases nothing
  | cons k' path =>
    simp only [lookup?_object_cons, Entries.get?]
    by_cases same : k = k'
    · subst same
      rw [if_pos rfl, if_pos rfl, Option.bind_some, Option.bind_some]
      unfold FieldFallsBack at field
      split at field
      · rw [field]
      · rename_i d held
        refine field path ?_
        rw [← nothing, lookup?_object_cons, held, Option.bind_some]
    · rw [if_neg same, if_neg same]
      exact others (k' :: path) nothing

theorem field_fallsBack {α : Type} {name : String} {r : Reader α} {default a : α} {f : α → Data} {fs : Fields}
    {standard : Data} (missing : Entries.get? fs name = none → f default = standard)
    (read : ∀ d a, Entries.get? fs name = some d → r d = .good a → FallsBack d (f a) standard)
    (h : field name r default fs = .good a) : FieldFallsBack fs name (f a) standard := by
  unfold FieldFallsBack
  unfold field at h
  split at h
  · rename_i d held
    rw [held]
    exact read d a held (under_good h)
  · rename_i absent
    cases h
    rw [absent]
    exact missing absent

theorem plain_field {α : Type} {name : String} {r : Reader α} {default a : α} {f : α → Data} {fs : Fields}
    (plain : ∀ a, (f a).isObject = false) (h : field name r default fs = .good a) :
    FieldFallsBack fs name (f a) (f default) :=
  field_fallsBack (fun _ => rfl) (fun d a _ _ => .plain (plain a) (plain default) d) h

/-! ### Sections -/

theorem budget_fallsBack {d : Data} {s : BudgetSettings} (h : BudgetSettings.reader d = .good s) :
    FallsBack d s.toData ({} : BudgetSettings).toData := by
  obtain ⟨fs, rfl, read⟩ := record_good h
  obtain ⟨monthly, given, rfl⟩ := map_good read
  exact .cons (plain_field (f := .float) (fun _ => rfl) given) (.nil fs)

theorem thresholds_fallsBack {d : Data} {t : Thresholds} (h : Thresholds.reader d = .good t) :
    FallsBack d t.toData ({} : Thresholds).toData := by
  obtain ⟨fs, rfl, checked⟩ := record_good h
  obtain ⟨t', read, ordered⟩ := andThen_good checked
  obtain ⟨rfl, -⟩ := Thresholds.checkStreaks_good ordered
  unfold Thresholds.fields at read
  obtain ⟨_, slowMs, h₁, slow, rfl⟩ := seq_good read
  obtain ⟨_, latencyWeight, h₂, latency, rfl⟩ := seq_good h₁
  obtain ⟨_, cooldownSeconds, h₃, cooldown, rfl⟩ := seq_good h₂
  obtain ⟨_, maxBackoffExponent, h₄, backoff, rfl⟩ := seq_good h₃
  obtain ⟨_, lowRateRequests, h₅, requests, rfl⟩ := seq_good h₄
  obtain ⟨_, lowRate, h₆, rate, rfl⟩ := seq_good h₅
  obtain ⟨_, degradedStreak, h₇, degraded, rfl⟩ := seq_good h₆
  obtain ⟨unavailableStreak, unavailable, rfl⟩ := map_good h₇
  have whole : ∀ n : Nat, (Data.int n).isObject = false := fun _ => rfl
  have decimal : ∀ x : Float, (Data.float x).isObject = false := fun _ => rfl
  exact .cons (plain_field (f := fun n : Nat => .int n) whole unavailable) <|
    .cons (plain_field (f := fun n : Nat => .int n) whole degraded) <|
    .cons (plain_field (f := .float) decimal rate) <|
    .cons (plain_field (f := fun n : Nat => .int n) whole requests) <|
    .cons (plain_field (f := fun n : Nat => .int n) whole backoff) <|
    .cons (plain_field (f := .float) decimal cooldown) <|
    .cons (plain_field (f := .float) decimal latency) <|
    .cons (plain_field (f := .float) decimal slow) (.nil fs)

theorem health_fallsBack {d : Data} {s : HealthSettings} (h : HealthSettings.reader d = .good s) :
    FallsBack d s.toData ({} : HealthSettings).toData := by
  obtain ⟨fs, rfl, read⟩ := record_good h
  obtain ⟨_, thresholds, h₁, streaks, rfl⟩ := seq_good read
  obtain ⟨_, maxResponseMs, h₂, response, rfl⟩ := seq_good h₁
  obtain ⟨minSuccessRate, rate, rfl⟩ := map_good h₂
  exact .cons (plain_field (f := .float) (fun _ => rfl) rate) <|
    .cons (plain_field (f := .float) (fun _ => rfl) response) <|
    .cons (field_fallsBack (f := Thresholds.toData) (fun _ => rfl) (fun _ _ _ => thresholds_fallsBack) streaks) (.nil fs)

/-- The defaults of the journal. The levels of components are one value, so that none of them is left where some
are given. -/
def journalDefaults (componentsGiven : Bool) : JournalSettings :=
  { components := if componentsGiven then [] else defaultComponents }

theorem components_fallsBack {fs : Fields} {cs : Entries String String}
    (h : field "components" (entries text) defaultComponents fs = .good cs) :
    FieldFallsBack fs "components" (.object (cs.map fun e => (e.1, .text e.2)))
      (.object ((journalDefaults (Entries.get? fs "components").isSome).components.map fun e => (e.1, .text e.2))) := by
  refine field_fallsBack (f := fun cs : Entries String String => .object (cs.map fun e => (e.1, .text e.2))) ?_ ?_ h
  · intro absent
    rw [absent]
    rfl
  · intro d cs held read
    rw [held, ← entries_text_good read]
    exact .kept d

theorem journal_fallsBack {d : Data} {s : JournalSettings} (h : JournalSettings.reader d = .good s) :
    FallsBack d s.toData (journalDefaults (lookup? d ["components"]).isSome).toData := by
  obtain ⟨fs, rfl, read⟩ := record_good h
  obtain ⟨_, components, h₁, levels, rfl⟩ := seq_good read
  obtain ⟨_, displayLevel, h₂, display, rfl⟩ := seq_good h₁
  obtain ⟨_, rotationBackups, h₃, backups, rfl⟩ := seq_good h₂
  obtain ⟨_, rotationBytes, h₄, bytes, rfl⟩ := seq_good h₃
  obtain ⟨_, filePattern, h₅, pattern, rfl⟩ := seq_good h₄
  obtain ⟨_, fileName, h₆, name, rfl⟩ := seq_good h₅
  obtain ⟨_, fileDirectory, h₇, directory, rfl⟩ := seq_good h₆
  obtain ⟨_, fileLevel, h₈, level, rfl⟩ := seq_good h₇
  obtain ⟨_, fileEnabled, h₉, enabled, rfl⟩ := seq_good h₈
  obtain ⟨_, consolePattern, h₁₀, console, rfl⟩ := seq_good h₉
  obtain ⟨_, consoleLevel, h₁₁, consoleLevels, rfl⟩ := seq_good h₁₀
  obtain ⟨consoleEnabled, consoles, rfl⟩ := map_good h₁₁
  have flag : ∀ b : Bool, (Data.bool b).isObject = false := fun _ => rfl
  have word : ∀ s : String, (Data.text s).isObject = false := fun _ => rfl
  have number : ∀ n : Nat, (Data.int n).isObject = false := fun _ => rfl
  have given : (lookup? (.object fs) ["components"]).isSome = (Entries.get? fs "components").isSome := by
    rw [lookup?_object_cons]
    cases Entries.get? fs "components" <;> rfl
  rw [given]
  exact .cons (plain_field (f := .bool) flag consoles) <|
    .cons (plain_field (f := .text) word consoleLevels) <|
    .cons (plain_field (f := .text) word console) <|
    .cons (plain_field (f := .bool) flag enabled) <|
    .cons (plain_field (f := .text) word level) <|
    .cons (plain_field (f := .text) word directory) <|
    .cons (plain_field (f := .text) word name) <|
    .cons (plain_field (f := .text) word pattern) <|
    .cons (plain_field (f := fun n : Nat => .int n) number bytes) <|
    .cons (plain_field (f := fun n : Nat => .int n) number backups) <|
    .cons (plain_field (f := .text) word display) <|
    .cons (components_fallsBack levels) (.nil fs)

/-! ### All settings -/

/-- The defaults that apply beside given data: all of them, unless levels of components are given. -/
def defaultsBeside (given : Data) : Settings :=
  { journal := journalDefaults (lookup? given ["logging", "components"]).isSome }

theorem settings_fallsBack {d : Data} {s : Settings} (h : Settings.reader d = .good s) :
    FallsBack d s.toData (defaultsBeside d).toData := by
  obtain ⟨fields, rfl, read⟩ := record_good h
  obtain ⟨_, models, h₁, listed, rfl⟩ := seq_good read
  obtain ⟨_, journal, h₂, logging, rfl⟩ := seq_good h₁
  obtain ⟨_, health, h₃, rules, rfl⟩ := seq_good h₂
  obtain ⟨budget, amount, rfl⟩ := map_good h₃
  have journals : FieldFallsBack fields "logging" journal.toData
      (journalDefaults (lookup? (.object fields) ["logging", "components"]).isSome).toData := by
    refine field_fallsBack (f := JournalSettings.toData) ?_ ?_ logging
    · intro absent
      rw [lookup?_object_cons, absent]
      rfl
    · intro d s held read
      rw [lookup?_object_cons, held, Option.bind_some]
      exact journal_fallsBack read
  exact .cons (field_fallsBack (f := BudgetSettings.toData) (fun _ => rfl) (fun _ _ _ => budget_fallsBack) amount) <|
    .cons (field_fallsBack (f := HealthSettings.toData) (fun _ => rfl) (fun _ _ _ => health_fallsBack) rules) <|
    .cons journals <|
    .cons (plain_field (f := fun ms : List Fields => .list (ms.map .object)) (fun _ => rfl) listed)
      (.nil fields)

end Switchboard.Settings
