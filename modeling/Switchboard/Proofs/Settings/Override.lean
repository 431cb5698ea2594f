import Switchboard.Proofs.Settings.Merge

/-!
A merge looked up at any path. On the way down a path two objects go together as long as both of them hold
an object; where they part, the upper one decides if it has anything there, and the lower one otherwise.
Merging the same fields once more changes nothing.
-/

namespace Switchboard.Settings

variable {base upper old new : Fields} {k : String}

/-! ### Where two data part -/

/-- Both data have an object at the end of the path. -/
def BothObjects (base upper : Data) (path : List String) : Prop :=
  ∃ old new, lookup? base path = some (.object old) ∧ lookup? upper path = some (.object new)

/-- The path is the first on the way at the end of which not both data have an object. -/
structure PartAt (base upper : Data) (path : List String) : Prop where
  apart : ¬BothObjects base upper path
  together : ∀ above, above <+: path → above ≠ path → BothObjects base upper above

theorem bothObjects_nil (base upper : Fields) : BothObjects (.object base) (.object upper) [] :=
  ⟨base, upper, rfl, rfl⟩

theorem lookup?_singleton (fs : Fields) (k : String) : lookup? (.object fs) [k] = Entries.get? fs k :=
  Option.bind_fun_some (Entries.get? fs k)

theorem bothObjects_singleton : BothObjects (.object base) (.object upper) [k] ↔
    ∃ old new, Entries.get? base k = some (.object old) ∧ Entries.get? upper k = some (.object new) := by
  rw [BothObjects, lookup?_singleton, lookup?_singleton]

theorem bothObjects_cons (lower : Entries.get? base k = some (.object old))
    (held : Entries.get? upper k = some (.object new)) (path : List String) :
    BothObjects (.object base) (.object upper) (k :: path) ↔
      BothObjects (.object old) (.object new) path := by
  rw [BothObjects, lookup?_object_cons, lookup?_object_cons, lower, held]
  rfl

theorem PartAt.tail (lower : Entries.get? base k = some (.object old))
    (held : Entries.get? upper k = some (.object new)) {path : List String}
    (parts : PartAt (.object base) (.object upper) (k :: path)) :
    PartAt (.object old) (.object new) path where
  apart := fun both => parts.apart ((bothObjects_cons lower held path).mpr both)
  together := by
    intro above leads short
    refine (bothObjects_cons lower held above).mp (parts.together (k :: above) ?_ ?_)
    · exact List.cons_prefix_cons.mpr ⟨rfl, leads⟩
    · exact fun same => short (List.cons.inj same).2

/-! ### What is found along a path -/

theorem lookup?_merge_cons (nodup : (Entries.keys upper).Nodup) (base : Fields) (k : String)
    (path : List String) : lookup? (.object (merge base upper)) (k :: path) =
      match Entries.get? upper k with
      | some v => lookup? (mergeValue (Entries.get? base k) v) path
      | none => lookup? (.object base) (k :: path) := by
  rw [lookup?_object_cons, get?_merge nodup]
  cases Entries.get? upper k <;> rfl

theorem mergeValue_of_not_both {base : Option Data} {v : Data}
    (apart : ¬∃ old new, base = some (.object old) ∧ some v = some (.object new)) : mergeValue base v = v := by
  cases v with
  | object new =>
    rcases mergeValue_object base new with ⟨old, same, -⟩ | ⟨-, replaced⟩
    · exact (apart ⟨old, new, same, rfl⟩).elim
    · exact replaced
  | _ => exact mergeValue_of_not_object base rfl

theorem lookup?_merge_of_partAt (tidy : Tidy (.object upper)) {q path : List String} (leads : q <+: path)
    (parts : PartAt (.object base) (.object upper) q) :
    lookup? (.object (merge base upper)) path =
      if (lookup? (.object upper) q).isSome then lookup? (.object upper) path
      else lookup? (.object base) path := by
  induction q generalizing base upper path with
  | nil => exact (parts.apart (bothObjects_nil base upper)).elim
  | cons k q ih =>
    obtain ⟨below, rfl⟩ := leads
    obtain ⟨nodup, tidied⟩ := tidy_object.mp tidy
    rw [List.cons_append, lookup?_merge_cons nodup, lookup?_object_cons upper k q,
      lookup?_object_cons upper k (q ++ below)]
    cases held : Entries.get? upper k with
    | none => rfl
    | some v =>
      dsimp only [Option.bind_some]
      cases q with
      | nil =>
        have apart := parts.apart
        rw [bothObjects_singleton, held] at apart
        rw [mergeValue_of_not_both apart]
        rfl
      | cons k' q =>
        -- The way goes on below this key, so both sides have an object there.
        have both : BothObjects (.object base) (.object upper) [k] :=
          parts.together [k] (List.cons_prefix_cons.mpr ⟨rfl, List.nil_prefix⟩) (by simp)
        obtain ⟨old, new, lower, same⟩ := bothObjects_singleton.mp both
        obtain rfl := Option.some.inj (held.symm.trans same)
        rw [lower, mergeValue, ih (tidied k _ held) (List.prefix_append _ below) (parts.tail lower held),
          lookup?_object_cons base, lower]
        rfl

theorem lookup?_merge_of_bothObjects (tidy : Tidy (.object upper)) {path : List String}
    (together : ∀ q, q <+: path → BothObjects (.object base) (.object upper) q) :
    ∃ old new, lookup? (.object base) path = some (.object old) ∧
      lookup? (.object upper) path = some (.object new) ∧
      lookup? (.object (merge base upper)) path = some (.object (merge old new)) := by
  induction path generalizing base upper with
  | nil => exact ⟨base, upper, rfl, rfl, rfl⟩
  | cons k path ih =>
    obtain ⟨nodup, tidied⟩ := tidy_object.mp tidy
    have first : [k] <+: k :: path := List.cons_prefix_cons.mpr ⟨rfl, List.nil_prefix⟩
    obtain ⟨old, new, lower, held⟩ := bothObjects_singleton.mp (together [k] first)
    have below : ∀ q, q <+: path → BothObjects (.object old) (.object new) q := by
      intro q leads
      exact (bothObjects_cons lower held q).mp (together (k :: q) (List.cons_prefix_cons.mpr ⟨rfl, leads⟩))
    rw [lookup?_merge_cons nodup, lookup?_object_cons base, lookup?_object_cons upper, lower, held]
    dsimp only [Option.bind_some]
    rw [mergeValue]
    exact ih (tidied k _ held) below

/-! ### The order of keys -/

theorem keys_merge (nodup : (Entries.keys upper).Nodup) (base : Fields) : Entries.keys (merge base upper) =
    Entries.keys base ++ (Entries.keys upper).filter (· ∉ Entries.keys base) := by
  induction upper generalizing base with
  | nil =>
    rw [merge]
    exact (List.append_nil _).symm
  | cons e rest ih =>
    obtain ⟨k, v⟩ := e
    obtain ⟨fresh, nodup⟩ := List.nodup_cons.mp nodup
    have keys : Entries.keys ((k, v) :: rest) = k :: Entries.keys rest := rfl
    rw [merge, ih nodup, Entries.keys_put, keys]
    by_cases present : k ∈ Entries.keys base
    · simp [present]
    · have others : (Entries.keys rest).filter (· ∉ Entries.keys base ++ [k]) =
          (Entries.keys rest).filter (· ∉ Entries.keys base) := by
        refine List.filter_congr fun k' listed => ?_
        have other : k' ≠ k := ne_of_mem_of_not_mem listed fresh
        simp [other]
      rw [if_neg present, others]
      simp [present]

/-! ### Merging again -/

theorem put_get? {m : Fields} {v : Data} (held : Entries.get? m k = some v) : Entries.put m k v = m := by
  induction m with
  | nil => cases held
  | cons e rest ih =>
    obtain ⟨k', v'⟩ := e
    rw [Entries.get?] at held
    by_cases same : k' = k
    · rw [if_pos same] at held
      rw [Entries.put, if_pos same, Option.some.inj held]
    · rw [if_neg same] at held
      rw [Entries.put, if_neg same, ih held]

theorem merge_eq_self (settled : ∀ e ∈ upper, ∃ v, Entries.get? base e.1 = some v ∧
    mergeValue (some v) e.2 = v) : merge base upper = base := by
  induction upper with
  | nil => rw [merge]
  | cons e rest ih =>
    obtain ⟨⟨v, held, same⟩, others⟩ := List.forall_mem_cons.mp settled
    rw [merge, held, same, put_get? held]
    exact ih others

theorem merge_settled {base : Fields} (tidy : Tidy (.object upper))
    (again : ∀ e ∈ upper, ∀ lower, mergeValue (some (mergeValue lower e.2)) e.2 = mergeValue lower e.2) :
    merge (merge base upper) upper = merge base upper := by
  obtain ⟨nodup, -⟩ := tidy_object.mp tidy
  refine merge_eq_self fun e member => ⟨mergeValue (Entries.get? base e.1) e.2, ?_, again e member _⟩
  rw [get?_merge nodup, Entries.get?_of_mem nodup member]

theorem mergeValue_again {v : Data} (tidy : Tidy v) (base : Option Data) :
    mergeValue (some (mergeValue base v)) v = mergeValue base v := by
  match v with
  | .object new =>
    obtain ⟨nodup, tidied⟩ := tidy_object.mp tidy
    have again : ∀ e ∈ new, ∀ lower,
        mergeValue (some (mergeValue lower e.2)) e.2 = mergeValue lower e.2 := by
      intro e member lower
      exact mergeValue_again (tidied e.1 e.2 (Entries.get?_of_mem nodup member)) lower
    rcases mergeValue_object base new with ⟨old, -, merged⟩ | ⟨-, replaced⟩
    · rw [merged, mergeValue, merge_settled tidy again]
    · have self : merge new new = new := by
        refine merge_eq_self fun e member => ⟨e.2, Entries.get?_of_mem nodup member, ?_⟩
        have kept := again e member none
        rwa [mergeValue_none] at kept
      rw [replaced, mergeValue, self]
  | .null | .bool _ | .int _ | .float _ | .text _ | .temporal _ _ | .list _ =>
    rw [mergeValue_of_not_object base rfl, mergeValue_of_not_object _ rfl]
termination_by sizeOf v
decreasing_by
  have inner := List.sizeOf_lt_of_mem member
  obtain ⟨name, held⟩ := e
  simp only [Prod.mk.sizeOf_spec, Data.object.sizeOf_spec] at inner ⊢
  omega

theorem merge_self (tidy : Tidy (.object base)) : merge base base = base := by
  have again := mergeValue_again tidy none
  rw [mergeValue_none, mergeValue] at again
  exact Data.object.inj again

theorem merge_merge (tidy : Tidy (.object upper)) (base : Fields) :
    merge (merge base upper) upper = merge base upper := by
  have again := mergeValue_again tidy (some (.object base))
  rw [mergeValue, mergeValue] at again
  exact Data.object.inj again

/-- Where two objects part on the way along a path, their merge has what the upper one has at the path if
that one has a value where they part, and what the lower one has otherwise. Where they go together to the
end of the path, the merge has the merged object there, with the keys of the lower object in their order
before those that only the upper one has. Merging an object into itself, or the upper object a second time,
changes nothing. -/
theorem merge_overrides (tidyBase : Tidy (.object base)) (tidy : Tidy (.object upper)) :
    (∀ path q, q <+: path → PartAt (.object base) (.object upper) q →
      lookup? (.object (merge base upper)) path =
        if (lookup? (.object upper) q).isSome then lookup? (.object upper) path
        else lookup? (.object base) path) ∧
    (∀ path, (∀ q, q <+: path → BothObjects (.object base) (.object upper) q) →
      ∃ old new, lookup? (.object base) path = some (.object old) ∧
        lookup? (.object upper) path = some (.object new) ∧
        lookup? (.object (merge base upper)) path = some (.object (merge old new)) ∧
        Entries.keys (merge old new) =
          Entries.keys old ++ (Entries.keys new).filter (· ∉ Entries.keys old)) ∧
    merge base base = base ∧ merge (merge base upper) upper = merge base upper := by
  refine ⟨fun path q => lookup?_merge_of_partAt tidy, fun path together => ?_, merge_self tidyBase,
    merge_merge tidy base⟩
  obtain ⟨old, new, lower, held, merged⟩ := lookup?_merge_of_bothObjects tidy together
  exact ⟨old, new, lower, held, merged, keys_merge (tidy path new held) old⟩

/-! ### Sections below a setting that is none -/

def lowerSections : Fields :=
  [("budget", .object [("monthly_budget", .int 30), ("currency", .text "usd")]), ("health", .text "off")]

def upperSections : Fields :=
  [("budget", .object [("alerts", .bool true), ("currency", .null)]), ("health", .object [("streak", .int 8)])]

theorem nested_sections_override :
    lookup? (.object (merge lowerSections upperSections)) ["health", "streak"] = some (.int 8) ∧
    ∃ budget, lookup? (.object (merge lowerSections upperSections)) ["budget"] = some (.object budget) ∧
      Entries.keys budget = ["monthly_budget", "currency", "alerts"] ∧
      Entries.get? budget "currency" = some .null := by
  have leaf : ∀ d : Data, d.isObject = false → Tidy d := fun _ => tidy_of_not_object
  have lowerBudget := (tidy_empty.put (leaf (.int 30) rfl) "monthly_budget").put (leaf (.text "usd") rfl) "currency"
  have tidyLower : Tidy (.object lowerSections) :=
    (tidy_empty.put lowerBudget "budget").put (leaf (.text "off") rfl) "health"
  have upperBudget := (tidy_empty.put (leaf (.bool true) rfl) "alerts").put (leaf .null rfl) "currency"
  have tidyUpper : Tidy (.object upperSections) :=
    (tidy_empty.put upperBudget "budget").put (tidy_empty.put (leaf (.int 8) rfl) "streak") "health"
  obtain ⟨parted, together, -⟩ := merge_overrides tidyLower tidyUpper
  constructor
  · have parts : PartAt (.object lowerSections) (.object upperSections) ["health"] := by
      constructor
      case apart =>
        rintro ⟨old, new, lower, -⟩
        cases lower
      case together =>
        intro q leads short
        obtain rfl : q = [] := (List.prefix_cons_iff.mp leads).resolve_right (by simpa using short)
        exact bothObjects_nil _ _
    rw [parted ["health", "streak"] ["health"] (List.prefix_append _ ["streak"]) parts]
    rfl
  · have both : ∀ q, q <+: ["budget"] → BothObjects (.object lowerSections) (.object upperSections) q := by
      intro q leads
      rcases List.prefix_cons_iff.mp leads with rfl | ⟨q, rfl, rest⟩
      · exact bothObjects_nil _ _
      · rw [List.prefix_nil.mp rest]
        exact ⟨_, _, rfl, rfl⟩
    obtain ⟨old, new, lower, held, merged, keys⟩ := together ["budget"] both
    cases lower
    cases held
    exact ⟨_, merged, keys, rfl⟩

end Switchboard.Settings
