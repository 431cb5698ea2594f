import Switchboard.Proofs.Entries
import Switchboard.Settings.Environment

/-!
What merging does to the value at a path. The overriding data win where they have a value, let what was
there before show through where they have none, and stand in the way only where they have a value that is
no object on the way.
-/

namespace Switchboard.Settings

/-! ### Paths -/

theorem lookup?_object_cons (fs : Fields) (k : String) (path : List String) :
    lookup? (.object fs) (k :: path) = (Entries.get? fs k).bind fun v => lookup? v path := rfl

theorem lookup?_cons {d v : Data} {k : String} {path : List String} (h : lookup? d (k :: path) = some v) :
    ∃ fs inner, d = .object fs ∧ Entries.get? fs k = some inner ∧ lookup? inner path = some v := by
  cases d with
  | object fs =>
    obtain ⟨inner, found, rest⟩ := Option.bind_eq_some_iff.mp h
    exact ⟨fs, inner, rfl, found, rest⟩
  | _ => cases h

theorem lookup?_cons_of_not_object {d : Data} (plain : d.isObject = false) (k : String)
    (path : List String) : lookup? d (k :: path) = none := by
  cases d with
  | object fs => cases plain
  | _ => rfl

/-- Every object that a path leads to has each of its keys once. -/
def Tidy (d : Data) : Prop := ∀ path fs, lookup? d path = some (.object fs) → (Entries.keys fs).Nodup

theorem tidy_of_not_object {d : Data} (plain : d.isObject = false) : Tidy d := by
  intro path fs found
  cases path with
  | nil =>
    cases Option.some.inj found
    cases plain
  | cons k path => cases (lookup?_cons_of_not_object plain k path).symm.trans found

theorem tidy_object {fs : Fields} :
    Tidy (.object fs) ↔ (Entries.keys fs).Nodup ∧ ∀ k v, Entries.get? fs k = some v → Tidy v := by
  constructor
  · intro tidy
    refine ⟨tidy [] fs rfl, fun k v found path gs below => tidy (k :: path) gs ?_⟩
    rw [lookup?_object_cons, found]
    exact below
  · rintro ⟨nodup, inner⟩ path gs found
    cases path with
    | nil =>
      cases Option.some.inj found
      exact nodup
    | cons k path =>
      obtain ⟨_, v, same, held, below⟩ := lookup?_cons found
      cases same
      exact inner k v held path gs below

theorem tidy_empty : Tidy (.object []) := tidy_object.mpr ⟨List.nodup_nil, fun _ _ => nofun⟩

theorem Tidy.put {fs : Fields} (tidy : Tidy (.object fs)) {v : Data} (inner : Tidy v) (k : String) :
    Tidy (.object (Entries.put fs k v)) := by
  obtain ⟨nodup, held⟩ := tidy_object.mp tidy
  refine tidy_object.mpr ⟨Entries.nodup_keys_put nodup k v, fun k' v' found => ?_⟩
  rw [Entries.get?_put] at found
  split at found
  · cases Option.some.inj found
    exact inner
  · exact held k' v' found

/-- The data have no value at the path, and whatever they have on the way to it is an object. -/
def PassesOver (d : Data) (path : List String) : Prop :=
  lookup? d path = none ∧
    ∀ above v, above <+: path → above ≠ path → lookup? d above = some v → v.isObject = true

theorem passesOver_cons {d : Data} {k : String} {path : List String} (passes : PassesOver d (k :: path)) :
    ∃ fs, d = .object fs ∧ ∀ v, Entries.get? fs k = some v → PassesOver v path := by
  obtain ⟨nothing, above⟩ := passes
  have object : d.isObject = true := above [] d List.nil_prefix (List.cons_ne_nil k path).symm rfl
  cases d with
  | object fs =>
    refine ⟨fs, rfl, fun v held => ⟨?_, fun front x before short found => ?_⟩⟩
    · rwa [lookup?_object_cons, held] at nothing
    · refine above (k :: front) x (List.cons_prefix_cons.mpr ⟨rfl, before⟩) ?_ ?_
      · exact fun same => short (List.cons.inj same).2
      · rw [lookup?_object_cons, held]
        exact found
  | _ => cases object

theorem passesOver_inside {fs : Fields} {k : String} {v : Data} {path : List String}
    (held : Entries.get? fs k = some v) (passes : PassesOver v path) : PassesOver (.object fs) (k :: path) := by
  obtain ⟨nothing, objects⟩ := passes
  constructor
  · rwa [lookup?_object_cons, held]
  · intro above x before short found
    cases above with
    | nil =>
      cases Option.some.inj found
      rfl
    | cons k' above =>
      obtain ⟨rfl, inside⟩ := List.cons_prefix_cons.mp before
      rw [lookup?_object_cons, held] at found
      exact objects above x inside (fun same => short (congrArg _ same)) found

theorem passesOver_of_missing {d : Data} (object : d.isObject = true) {k : String}
    (missing : lookup? d [k] = none) (path : List String) : PassesOver d (k :: path) := by
  cases d with
  | object fs =>
    have absent : Entries.get? fs k = none := by
      cases held : Entries.get? fs k with
      | none => rfl
      | some v => rw [lookup?_object_cons, held] at missing; cases missing
    have nothing : ∀ below, lookup? (.object fs) (k :: below) = none := by
      intro below
      rw [lookup?_object_cons, absent, Option.bind_none]
    refine ⟨nothing path, fun above v before _ found => ?_⟩
    cases above with
    | nil =>
      cases Option.some.inj found
      rfl
    | cons k' above =>
      obtain ⟨rfl, -⟩ := List.cons_prefix_cons.mp before
      cases (nothing above).symm.trans found
  | _ => cases object

/-! ### One merge -/

theorem mergeValue_none (d : Data) : mergeValue none d = d := by
  rw [mergeValue]
  exact nofun

theorem mergeValue_of_not_object (base : Option Data) {d : Data} (plain : d.isObject = false) :
    mergeValue base d = d := by
  cases d with
  | object fs => cases plain
  | _ => cases base with
    | none => exact mergeValue_none _
    | some b => cases b <;> rw [mergeValue] <;> simp

theorem get?_merge {base upper : Fields} (nodup : (Entries.keys upper).Nodup) (k : String) :
    Entries.get? (merge base upper) k = match Entries.get? upper k with
      | some v => some (mergeValue (Entries.get? base k) v)
      | none => Entries.get? base k := by
  induction upper generalizing base with
  | nil => rw [merge]; rfl
  | cons e rest ih =>
    obtain ⟨k', v⟩ := e
    obtain ⟨fresh, nodup⟩ := List.nodup_cons.mp nodup
    rw [merge, ih nodup]
    by_cases same : k' = k
    · subst same
      have gone : Entries.get? rest k' = none := (Entries.get?_eq_none_iff rest k').mpr fresh
      rw [gone, Entries.get?_put_self, Entries.get?, if_pos rfl]
    · rw [Entries.get?_put_of_ne _ same, Entries.get?, if_neg same]

/-- What merges with an object is merged into it, anything else gives way. -/
theorem mergeValue_object (base : Option Data) (upper : Fields) :
    (∃ old, base = some (.object old) ∧ mergeValue base (.object upper) = .object (merge old upper)) ∨
      (∀ old, base ≠ some (.object old)) ∧ mergeValue base (.object upper) = .object upper := by
  cases base with
  | none => exact .inr ⟨nofun, mergeValue_none _⟩
  | some b => cases b with
    | object old => exact .inl ⟨old, rfl, by rw [mergeValue]⟩
    | _ => exact .inr ⟨nofun, by rw [mergeValue]; simp⟩

/-- A value that is no object is found again after it was merged into anything. -/
theorem lookup?_mergeValue {d v : Data} (tidy : Tidy d) (plain : v.isObject = false) {path : List String}
    (found : lookup? d path = some v) (base : Option Data) : lookup? (mergeValue base d) path = some v := by
  induction path generalizing d base with
  | nil =>
    cases Option.some.inj found
    rw [mergeValue_of_not_object base plain]
    rfl
  | cons k path ih =>
    obtain ⟨upper, inner, rfl, held, below⟩ := lookup?_cons found
    obtain ⟨nodup, tidied⟩ := tidy_object.mp tidy
    rcases mergeValue_object base upper with ⟨old, -, merged⟩ | ⟨-, replaced⟩
    · rw [merged, lookup?_object_cons, get?_merge nodup, held]
      exact ih (tidied k inner held) below _
    · rw [replaced]
      exact found

/-- Data that pass over a path leave what was there before as it was. -/
theorem lookup?_mergeValue_passes {d : Data} (tidy : Tidy d) {path : List String}
    (passes : PassesOver d path) (base : Option Data) :
    lookup? (mergeValue base d) path = base.bind fun b => lookup? b path := by
  induction path generalizing d base with
  | nil => cases passes.1
  | cons k path ih =>
    have nothing := passes.1
    obtain ⟨upper, rfl, inner⟩ := passesOver_cons passes
    obtain ⟨nodup, tidied⟩ := tidy_object.mp tidy
    rcases mergeValue_object base upper with ⟨old, rfl, merged⟩ | ⟨other, replaced⟩
    · rw [merged, lookup?_object_cons, get?_merge nodup, Option.bind_some, lookup?_object_cons]
      cases held : Entries.get? upper k with
      | none => rfl
      | some v => exact ih (tidied k v held) (inner v held) _
    · rw [replaced, nothing]
      cases base with
      | none => rfl
      | some b => cases b with
        | object old => exact (other old rfl).elim
        | _ => rfl

/-! ### Writing at a path -/

/-- Data with one value, at the end of a path. -/
def nested : List String → Data → Data
  | [], v => v
  | k :: path, v => .object [(k, nested path v)]

theorem tidy_nested (path : List String) {v : Data} (plain : v.isObject = false) : Tidy (nested path v) := by
  induction path with
  | nil => exact tidy_of_not_object plain
  | cons k path ih =>
    exact tidy_empty.put ih k

theorem merge_singleton (base : Fields) (k : String) (v : Data) :
    merge base [(k, v)] = Entries.put base k (mergeValue (Entries.get? base k) v) := by
  rw [merge, merge]

theorem write_cons (fields : Fields) (k k' : String) (path : List String) (v : Data) :
    write fields (k :: k' :: path) v = Entries.put fields k
      (.object (write (sectionAt (Entries.get? fields k)) (k' :: path) v)) := rfl

theorem sectionAt_of_not_object {base : Option Data} (other : ∀ old, base ≠ some (.object old)) :
    sectionAt base = [] := by
  unfold sectionAt
  split
  · exact (other _ rfl).elim
  · rfl

/-- Writing a value at a path is merging data that have nothing else. -/
theorem mergeValue_nested (fields : Fields) (k : String) (path : List String) {v : Data}
    (plain : v.isObject = false) :
    mergeValue (some (.object fields)) (nested (k :: path) v) = .object (write fields (k :: path) v) := by
  induction path generalizing fields k with
  | nil => rw [nested, nested, mergeValue, merge_singleton, mergeValue_of_not_object _ plain, write]
  | cons k' path ih =>
    -- Where there is no section yet, writing opens an empty one and merging takes the new one.
    have below : ∀ base, mergeValue base (nested (k' :: path) v) =
        .object (write (sectionAt base) (k' :: path) v) := by
      intro base
      rcases mergeValue_object base [(k', nested path v)] with ⟨old, rfl, -⟩ | ⟨other, replaced⟩
      · exact ih old k'
      · rw [sectionAt_of_not_object other, ← ih [] k', nested, replaced, mergeValue, merge_singleton,
          Entries.get?_nil, mergeValue_none, Entries.put]
    rw [write_cons, ← below, nested, mergeValue, merge_singleton]

end Switchboard.Settings
