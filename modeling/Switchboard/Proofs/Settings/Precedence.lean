import Switchboard.Proofs.Settings.Defaults
import Switchboard.Proofs.Toml.Tables
import Switchboard.Settings.Load

/-!
Which source decides a setting. Each source is a layer: data that are merged over the layers below. At
every path the highest layer with a value there decides, as long as none above it puts something that is
no object in the way; where no layer has anything the default applies. The default levels of components are
one value in this, which gives way to any others as a whole.
-/

namespace Switchboard.Settings

open Step

/-! ### The layers -/

/-- A settings file sets what its section holds, if it is there and can be read. -/
def fileLayers (f : File) : List Data :=
  match f.content with
  | none => []
  | some content => match parse f.path content with
    | .ok table => [relaySection table]
    | .error _ => []

def documentLayers : Data → List Data
  | .object fs => [relaySection fs]
  | _ => []

/-- The bare variable sets the monthly budget if it is a number. -/
def budgetLayers (environment : Entries String String) : List Data :=
  match (Entries.get? environment budgetVariable).filter (!·.isEmpty) with
  | none => []
  | some s => match budgetOf s with
    | .ok (some amount) => [nested ["budget", "monthly_budget"] (.float amount)]
    | _ => []

/-- A variable sets one value, at the path in its name. -/
def variableLayer? (e : String × String) : Option Data :=
  (path? e.1).map fun path => nested path (valueOf e.2)

/-- What the sources set, from the one that gives way to all others up to the one that gives way to none. -/
def layers (s : Sources) : List Data :=
  s.file.toList.flatMap fileLayers ++ s.document.toList.flatMap documentLayers ++
    budgetLayers s.environment ++ s.environment.filterMap variableLayer? ++ s.overrides.toList

def mergeLayers (layers : List Data) (base : Data) : Data :=
  layers.foldl (fun base d => mergeValue (some base) d) base

theorem mergeLayers_append (lower higher : List Data) (base : Data) :
    mergeLayers (lower ++ higher) base = mergeLayers higher (mergeLayers lower base) :=
  List.foldl_append

/-! ### Values in layers -/

section Paths

variable {path : List String} {lower higher : List Data} {d v : Data}

theorem lookup?_mergeLayers_passes (tidy : ∀ d ∈ higher, Tidy d) (passes : ∀ d ∈ higher, PassesOver d path)
    (base : Data) : lookup? (mergeLayers higher base) path = lookup? base path := by
  induction higher generalizing base with
  | nil => rfl
  | cons d rest ih =>
    obtain ⟨first, tidy⟩ := List.forall_mem_cons.mp tidy
    obtain ⟨own, passes⟩ := List.forall_mem_cons.mp passes
    calc lookup? (mergeLayers (d :: rest) base) path
        = lookup? (mergeValue (some base) d) path := ih tidy passes _
      _ = lookup? base path := lookup?_mergeValue_passes first own (some base)

theorem lookup?_mergeLayers (tidy : ∀ d' ∈ lower ++ d :: higher, Tidy d') (found : lookup? d path = some v)
    (plain : v.isObject = false) (passes : ∀ d' ∈ higher, PassesOver d' path) (base : Data) :
    lookup? (mergeLayers (lower ++ d :: higher) base) path = some v := by
  obtain ⟨-, tidy⟩ := List.forall_mem_append.mp tidy
  obtain ⟨own, above⟩ := List.forall_mem_cons.mp tidy
  rw [mergeLayers_append]
  exact (lookup?_mergeLayers_passes above passes _).trans (lookup?_mergeValue own plain found _)

end Paths

/-! ### Keys in layers -/

theorem relaySection_tidy {fs : Fields} (tidy : Tidy (.object fs)) : Tidy (relaySection fs) := by
  unfold relaySection
  cases held : Entries.get? fs sectionName with
  | none => exact tidy_empty
  | some d => exact (tidy_object.mp tidy).2 sectionName d held

theorem valueOf_plain (s : String) : (valueOf s).isObject = false := by
  unfold valueOf
  dsimp only
  split
  · rfl
  · split
    · rfl
    · split
      · rfl
      · split <;> rfl

theorem parse_tidy {path : String} {content : List UInt8} {table : Fields}
    (h : parse path content = .ok table) : Tidy (.object table) := by
  unfold parse at h
  split at h
  · cases h
  · split at h
    · rename_i read
      cases h
      exact Toml.read_tidy read
    all_goals cases h

theorem fileLayers_tidy (f : File) : ∀ d ∈ fileLayers f, Tidy d := by
  intro d member
  unfold fileLayers at member
  split at member
  · cases member
  · split at member
    · rename_i table parsed
      obtain rfl := List.mem_singleton.mp member
      exact relaySection_tidy (parse_tidy parsed)
    · cases member

theorem documentLayers_tidy {document : Data} (tidy : Tidy document) :
    ∀ d ∈ documentLayers document, Tidy d := by
  intro d member
  cases document with
  | object fs =>
    obtain rfl := List.mem_singleton.mp member
    exact relaySection_tidy tidy
  | _ => cases member

theorem budgetLayers_tidy (environment : Entries String String) :
    ∀ d ∈ budgetLayers environment, Tidy d := by
  intro d member
  unfold budgetLayers at member
  split at member
  · cases member
  · split at member
    · obtain rfl := List.mem_singleton.mp member
      exact tidy_nested _ rfl
    · cases member

/-- Keys can be repeated only in what was handed over ready-made. -/
theorem layers_tidy {s : Sources} (document : ∀ d ∈ s.document, Tidy d)
    (overrides : ∀ d ∈ s.overrides, Tidy d) : ∀ d ∈ layers s, Tidy d := by
  intro d member
  rw [layers, List.mem_append, List.mem_append, List.mem_append, List.mem_append] at member
  rcases member with (((ofFile | ofDocument) | ofBudget) | ofVariable) | ofOverrides
  · obtain ⟨f, -, member⟩ := List.mem_flatMap.mp ofFile
    exact fileLayers_tidy f d member
  · obtain ⟨given, listed, member⟩ := List.mem_flatMap.mp ofDocument
    exact documentLayers_tidy (document given (Option.mem_toList.mp listed)) d member
  · exact budgetLayers_tidy s.environment d ofBudget
  · obtain ⟨e, -, set⟩ := List.mem_filterMap.mp ofVariable
    obtain ⟨path, -, rfl⟩ := Option.map_eq_some_iff.mp set
    exact tidy_nested path (valueOf_plain e.2)
  · exact overrides d (Option.mem_toList.mp ofOverrides)

/-! ### Gathering is merging the layers -/

theorem mergeData_ok {base fields : Fields} {d : Data} (h : mergeData base d = .ok fields) :
    .object fields = mergeValue (some (.object base)) d := by
  cases d with
  | object fs =>
    cases h
    rw [mergeValue]
  | _ => cases h

theorem ofFile_merges {f : File} {fields : Fields} (h : Answers (ofFile f) () fields ()) :
    .object fields = mergeLayers (fileLayers f) (.object []) := by
  unfold ofFile at h
  unfold fileLayers
  cases content : f.content with
  | none =>
    rw [content] at h
    obtain ⟨_, _, -, last⟩ := answers_bind.mp h
    obtain ⟨rfl, -⟩ := answers_pure.mp last
    rfl
  | some bytes =>
    rw [content] at h
    obtain ⟨table, _, parsed, rest⟩ := answers_bind.mp h
    obtain ⟨parsed, -⟩ := answers_ofExcept.mp parsed
    obtain ⟨merged, _, merging, rest⟩ := answers_bind.mp rest
    obtain ⟨_, _, -, last⟩ := answers_bind.mp rest
    obtain ⟨rfl, -⟩ := answers_pure.mp last
    dsimp only
    rw [parsed]
    exact mergeData_ok (answers_ofExcept.mp merging).1

theorem mergeDocument_merges {base fields : Fields} {document : Option Data}
    (h : mergeIfGiven mergeDocument base document = .ok fields) :
    .object fields = mergeLayers (document.toList.flatMap documentLayers) (.object base) := by
  cases document with
  | none =>
    cases h
    rfl
  | some d =>
    cases d with
    | object fs => exact mergeData_ok h
    | _ => cases h

theorem mergeOverrides_merges {base fields : Fields} {overrides : Option Data}
    (h : mergeIfGiven mergeData base overrides = .ok fields) :
    .object fields = mergeLayers overrides.toList (.object base) := by
  cases overrides with
  | none =>
    cases h
    rfl
  | some d => exact mergeData_ok h

theorem writeBudget_ok {base fields : Fields} {amount : Float} (h : writeBudget base amount = .ok fields) :
    fields = write base ["budget", "monthly_budget"] (.float amount) := by
  unfold writeBudget at h
  rw [write_cons]
  split at h
  · rename_i missing
    cases h
    rw [missing]
    rfl
  · rename_i fs held
    cases h
    rw [held]
    rfl
  · cases h

theorem overlayBudget_merges {base fields : Fields} {environment : Entries String String}
    (h : Answers (overlayBudget base environment) () fields ()) :
    .object fields = mergeLayers (budgetLayers environment) (.object base) := by
  unfold overlayBudget at h
  unfold budgetLayers
  cases set : (Entries.get? environment budgetVariable).filter (!·.isEmpty) with
  | none =>
    rw [set] at h
    obtain ⟨rfl, -⟩ := answers_pure.mp h
    rfl
  | some s =>
    rw [set] at h
    obtain ⟨amount?, _, read, rest⟩ := answers_bind.mp h
    dsimp only
    rw [(answers_ofExcept.mp read).1]
    cases amount? with
    | none =>
      obtain ⟨_, _, -, last⟩ := answers_bind.mp rest
      obtain ⟨rfl, -⟩ := answers_pure.mp last
      rfl
    | some amount =>
      rw [writeBudget_ok (answers_ofExcept.mp rest).1]
      exact (mergeValue_nested base _ _ rfl).symm

theorem path?_nonempty {name : String} {path : List String} (h : path? name = some path) :
    ∃ k rest, path = k :: rest := by
  unfold path? at h
  dsimp only at h
  split at h
  · split at h
    · rename_i several
      obtain rfl := Option.some.inj h
      refine List.exists_cons_of_length_pos ?_
      rw [List.length_map]
      exact Nat.lt_of_lt_of_le Nat.zero_lt_two several
    · cases h
  · cases h

theorem overlayVariables_merges (base : Fields) (environment : Entries String String) :
    .object (overlayVariables base environment) =
      mergeLayers (environment.filterMap variableLayer?) (.object base) := by
  induction environment generalizing base with
  | nil => rfl
  | cons e rest ih =>
    rw [overlayVariables, List.foldl_cons]
    cases named : path? e.1 with
    | none =>
      rw [List.filterMap_cons_none (by rw [variableLayer?, named]; rfl)]
      exact ih base
    | some path =>
      obtain ⟨k, path, rfl⟩ := path?_nonempty named
      rw [List.filterMap_cons_some (by rw [variableLayer?, named]; rfl)]
      refine (ih _).trans ?_
      rw [← mergeValue_nested base k path (valueOf_plain e.2)]
      rfl

theorem gathered_merges {s : Sources} {fields : Fields} (h : Answers (gathered s) () fields ()) :
    .object fields = mergeLayers (layers s) (.object []) := by
  -- The file is read first, and only the rest of the steps is the same with and without one.
  obtain ⟨base, opened, rest⟩ : ∃ base,
      .object base = mergeLayers (s.file.toList.flatMap fileLayers) (.object []) ∧
      Answers (do
        let fields ← Step.ofExcept (mergeIfGiven mergeDocument base s.document)
        let fields ← overlay fields s.environment
        Step.ofExcept (mergeIfGiven mergeData fields s.overrides)) () fields () := by
    unfold gathered at h
    split at h
    · rename_i none
      rw [none]
      exact ⟨[], rfl, h⟩
    · rename_i f given
      obtain ⟨base, _, read, rest⟩ := answers_bind.mp h
      rw [given, Option.toList_some, List.flatMap_singleton]
      exact ⟨base, ofFile_merges read, rest⟩
  obtain ⟨documented, _, document, rest⟩ := answers_bind.mp rest
  obtain ⟨overlaid, _, overlay, overrides⟩ := answers_bind.mp rest
  obtain ⟨budgeted, _, budget, last⟩ := answers_bind.mp overlay
  obtain ⟨rfl, -⟩ := answers_pure.mp last
  rw [layers, mergeLayers_append, mergeLayers_append, mergeLayers_append, mergeLayers_append, ← opened,
    ← mergeDocument_merges (answers_ofExcept.mp document).1, ← overlayBudget_merges budget,
    ← overlayVariables_merges]
  exact mergeOverrides_merges (answers_ofExcept.mp overrides).1

/-! ### The value at a path -/

theorem load_reads {s : Sources} {fields : Fields} {settings : Settings}
    (gathers : Answers (gathered s) () fields ()) (loads : Answers (load s) () settings ()) :
    Settings.reader (.object fields) = .good settings := by
  obtain ⟨fields', _, gathers', read⟩ := answers_bind.mp loads
  obtain ⟨rfl, -⟩ := gathers.unique gathers'
  obtain ⟨read, -⟩ := answers_ofExcept.mp read
  unfold ofFields at read
  split at read
  · rename_i good
    rw [good, Except.ok.inj read]
  · cases read

/-- Of the layers that have a value at a path the highest one decides, unless a layer above it has something
that is no object on the way there. Where no layer has a value and none is in the way, nothing is set and
the settings have their default, except for the levels of components if some of them are set. -/
theorem gathered_precedence {s : Sources} {fields : Fields} (document : ∀ d ∈ s.document, Tidy d)
    (overrides : ∀ d ∈ s.overrides, Tidy d) (gathers : Answers (gathered s) () fields ()) :
    (∀ lower layer higher path v, layers s = lower ++ layer :: higher → lookup? layer path = some v →
      v.isObject = false → (∀ d ∈ higher, PassesOver d path) → lookup? (.object fields) path = some v) ∧
    ∀ k path, (∀ d ∈ layers s, PassesOver d (k :: path)) → lookup? (.object fields) (k :: path) = none ∧
      ∀ settings, Answers (load s) () settings () →
        lookup? settings.toData (k :: path) = lookup? (defaultsBeside (.object fields)).toData (k :: path) := by
  have tidy := layers_tidy document overrides
  rw [gathered_merges gathers]
  constructor
  · intro lower layer higher path v split found plain passes
    rw [split] at tidy ⊢
    exact lookup?_mergeLayers tidy found plain passes _
  · intro k path passes
    have nothing := lookup?_mergeLayers_passes tidy passes (.object [])
    rw [← gathered_merges gathers] at nothing ⊢
    exact ⟨nothing, fun settings loads => settings_fallsBack (load_reads gathers loads) (k :: path) nothing⟩

/-! ### A budget that is set four times -/

theorem answers_of_isOk {α : Type} {x : Step Unit α} (h : (x ()).answer.isOk = true) :
    ∃ a, Answers x () a () := by
  obtain ⟨a, ⟨⟩, answers⟩ := Step.answers_of_isOk h
  exact ⟨a, answers⟩

def budgetFile : File :=
  ⟨"relay.toml", some ("[relay.budget]\nmonthly_budget = 10\n".toList.map fun c => c.toNat.toUInt8)⟩

/-- The monthly budget is set in a file, in a document and by both of its variables. -/
def fourBudgets : Sources where
  file := some budgetFile
  document := some (.object [("relay", .object [("budget", .object [("monthly_budget", .int 20)])])])
  environment := [("LLM_MONTHLY_BUDGET", "100"), ("LLMRELAY__BUDGET__MONTHLY_BUDGET", "250")]
  overrides := some (.object [("logging", .object [("console_enabled", .bool true)])])

theorem fourBudgets_layers : layers fourBudgets =
    (fileLayers budgetFile ++ [.object [("budget", .object [("monthly_budget", .int 20)])]] ++
      budgetLayers fourBudgets.environment) ++
    nested ["budget", "monthly_budget"] (.int 250) ::
      [.object [("logging", .object [("console_enabled", .bool true)])]] := by
  have bare : path? "LLM_MONTHLY_BUDGET" = none := by decide +kernel
  have prefixed : path? "LLMRELAY__BUDGET__MONTHLY_BUDGET" = some ["budget", "monthly_budget"] := by
    decide +kernel
  have value : valueOf "250" = .int 250 := rfl
  have written : fourBudgets.environment.filterMap variableLayer? =
      [nested ["budget", "monthly_budget"] (.int 250)] := by
    simp [fourBudgets, variableLayer?, bare, prefixed, value]
  rw [layers, written, List.append_assoc]
  simp [fourBudgets, documentLayers, relaySection, sectionName, Entries.get?]

theorem variable_sets_fourBudgets : ∃ fields settings, Answers (gathered fourBudgets) () fields () ∧
    Answers (load fourBudgets) () settings () ∧
    lookup? (.object fields) ["budget", "monthly_budget"] = some (.int 250) ∧
    lookup? (.object fields) ["health", "max_response_time_ms"] = none ∧
    lookup? settings.toData ["health", "max_response_time_ms"] = some (.float 10000.0) := by
  obtain ⟨settings, loads⟩ := answers_of_isOk (x := load fourBudgets) (by decide +kernel)
  obtain ⟨fields, _, gathers, -⟩ := answers_bind.mp loads
  have document : ∀ d ∈ fourBudgets.document, Tidy d := by
    rintro _ ⟨⟩
    exact tidy_empty.put (tidy_empty.put (tidy_empty.put (tidy_of_not_object rfl) _) _) _
  have overrides : ∀ d ∈ fourBudgets.overrides, Tidy d := by
    rintro _ ⟨⟩
    exact tidy_empty.put (tidy_empty.put (tidy_of_not_object rfl) _) _
  obtain ⟨decides, defaults⟩ := gathered_precedence document overrides gathers
  have above : PassesOver (.object [("logging", .object [("console_enabled", .bool true)])])
      ["budget", "monthly_budget"] := passesOver_of_missing rfl rfl _
  have silent : ∀ d ∈ layers fourBudgets, PassesOver d ["health", "max_response_time_ms"] := by
    have checked : ((layers fourBudgets).all fun d => d.isObject && (lookup? d ["health"]).isNone) = true := by
      decide +kernel
    intro d listed
    obtain ⟨object, missing⟩ := Bool.and_eq_true_iff.mp (List.all_eq_true.mp checked d listed)
    exact passesOver_of_missing object (Option.isNone_iff_eq_none.mp missing) _
  obtain ⟨unset, default⟩ := defaults _ _ silent
  refine ⟨fields, settings, gathers, loads, ?_, unset, ?_⟩
  · exact decides _ _ _ _ _ fourBudgets_layers rfl rfl (List.forall_mem_singleton.mpr above)
  · rw [default settings loads]
    rfl

/-! ### One level of a component -/

/-- The level of a single component is set. -/
def oneLevel : Sources where
  environment := [("LLMRELAY__LOGGING__COMPONENTS__HTTPX", "DEBUG")]

theorem oneLevel_layers : layers oneLevel = [nested ["logging", "components", "httpx"] (.text "DEBUG")] := by
  have prefixed : path? "LLMRELAY__LOGGING__COMPONENTS__HTTPX" = some ["logging", "components", "httpx"] := by
    decide +kernel
  have value : valueOf "DEBUG" = .text "DEBUG" := rfl
  simp [oneLevel, layers, budgetLayers, budgetVariable, Entries.get?, variableLayer?, prefixed, value]

/-- No layer has a level for another component, and yet it does not have its default. -/
theorem level_takes_defaults_away : ∃ settings, Answers (load oneLevel) () settings () ∧
    (∀ d ∈ layers oneLevel, PassesOver d ["logging", "components", "llmrelay"]) ∧
    lookup? settings.toData ["logging", "components", "llmrelay"] = none ∧
    lookup? ({} : Settings).toData ["logging", "components", "llmrelay"] = some (.text "INFO") := by
  obtain ⟨settings, loads⟩ := answers_of_isOk (x := load oneLevel) (by decide +kernel)
  have unset : (load oneLevel ()).answer.toOption.all
      (fun s => (lookup? s.toData ["logging", "components", "llmrelay"]).isNone) = true := by decide +kernel
  rw [loads.1] at unset
  refine ⟨settings, loads, ?_, Option.isNone_iff_eq_none.mp unset, rfl⟩
  rw [oneLevel_layers]
  refine List.forall_mem_singleton.mpr (passesOver_inside rfl (passesOver_inside rfl ?_))
  exact passesOver_of_missing rfl rfl _

end Switchboard.Settings
