import Switchboard.Proofs.Settings.Writing

/-!
Writing an environment over a configuration and merging it in. Writing goes through the variables and
replaces what is in its way, merging goes through two trees at once. They agree as long as no variable is
written at a path that leads to the path of another one.
-/

namespace Switchboard.Settings

open Step

/-! ### Merging one more entry -/

/-- A key that the upper entries do not have keeps its place and its value below them. -/
theorem merge_put_fresh {base upper : Fields} {k : String} (present : k ∈ Entries.keys base)
    (fresh : k ∉ Entries.keys upper) (v : Data) :
    merge (Entries.put base k v) upper = Entries.put (merge base upper) k v := by
  induction upper generalizing base with
  | nil => rw [merge, merge]
  | cons e rest ih =>
    obtain ⟨k', v'⟩ := e
    obtain ⟨other, fresh⟩ := not_or.mp (mt List.mem_cons.mpr fresh)
    have other : k ≠ k' := other
    rw [merge, merge, Entries.get?_put_of_ne _ other, Entries.put_comm_of_mem present other]
    exact ih (Entries.mem_keys_put_of_mem present _ _) fresh

theorem merge_put {upper : Fields} (nodup : (Entries.keys upper).Nodup) (base : Fields) (k : String)
    (v : Data) : merge base (Entries.put upper k v) =
      Entries.put (merge base upper) k (mergeValue (Entries.get? base k) v) := by
  induction upper generalizing base with
  | nil => rw [Entries.put, merge_singleton, merge]
  | cons e rest ih =>
    obtain ⟨k', v'⟩ := e
    obtain ⟨fresh, nodup⟩ := List.nodup_cons.mp nodup
    by_cases same : k' = k
    · subst same
      -- Both sides first write the key, so that the rest cannot move it.
      have replaced := merge_put_fresh (Entries.mem_keys_put base k' (mergeValue (Entries.get? base k') v'))
        fresh (mergeValue (Entries.get? base k') v)
      rw [Entries.put_put] at replaced
      rw [Entries.put, if_pos rfl, merge, merge, replaced]
    · rw [Entries.put, if_neg same, merge, merge, ih nodup, Entries.get?_put_of_ne _ same]

/-- What stands where `base` stood once the upper value, if there is one, was merged into it. -/
def mergedOver (base : Option Data) : Option Data → Option Data
  | none => base
  | some d => some (mergeValue base d)

theorem get?_merge_over {upper : Fields} (nodup : (Entries.keys upper).Nodup) (base : Fields) (k : String) :
    Entries.get? (merge base upper) k = mergedOver (Entries.get? base k) (Entries.get? upper k) := by
  rw [get?_merge nodup]
  cases Entries.get? upper k <;> rfl

/-! ### Merging what was written -/

variable {base upper : Option Data} {p : List String} {v : Data}

/-- Nothing but objects stands on the way to the end of the path. -/
def Clear (d : Option Data) (p : List String) : Prop :=
  ∀ q x, q <+: p → q ≠ p → (d.bind fun d => lookup? d q) = some x → x.isObject = true

theorem Clear.section_of {k : String} (clear : Clear upper (k :: p)) :
    upper = none ∨ ∃ fs, upper = some (.object fs) := by
  cases upper with
  | none => exact .inl rfl
  | some d =>
    have object : d.isObject = true := clear [] d List.nil_prefix (List.cons_ne_nil k p).symm rfl
    cases d with
    | object fs => exact .inr ⟨fs, rfl⟩
    | _ => cases object

theorem Clear.tail {k : String} (clear : Clear upper (k :: p)) :
    Clear (Entries.get? (sectionAt upper) k) p := by
  intro q x leads short found
  have above : (upper.bind fun d => lookup? d (k :: q)) = some x := by
    rw [← lookup?_section, lookup?_object_cons]
    exact found
  apply clear (k :: q) x _ _ above
  · exact List.cons_prefix_cons.mpr ⟨rfl, leads⟩
  · exact fun same => short (List.cons.inj same).2

theorem Clear.section_merged {k : String} (clear : Clear upper (k :: p)) (old : Fields) :
    sectionAt (mergedOver (some (.object old)) upper) = merge old (sectionAt upper) := by
  rcases clear.section_of with rfl | ⟨fs, rfl⟩
  · rw [mergedOver, sectionAt_none, sectionAt_object, merge]
  · rw [mergedOver, mergeValue, sectionAt_object, sectionAt_object]

theorem Clear.section_kept {k : String} (clear : Clear upper (k :: p))
    (other : ∀ old, base ≠ some (.object old)) : sectionAt (mergedOver base upper) = sectionAt upper := by
  rcases clear.section_of with rfl | ⟨fs, rfl⟩
  · rw [mergedOver, sectionAt_of_not_object other, sectionAt_none]
  · rcases mergeValue_object base fs with ⟨old, same, -⟩ | ⟨-, kept⟩
    · exact (other old same).elim
    · rw [mergedOver, kept]

theorem mergeValue_written (tidy : ∀ d ∈ upper, Tidy d) (clear : Clear upper p) (plain : v.isObject = false) :
    mergeValue base (written upper p v) = written (mergedOver base upper) p v := by
  induction p generalizing base upper with
  | nil => exact mergeValue_of_not_object base plain
  | cons k p ih =>
    obtain ⟨nodup, held⟩ := tidy_object.mp (section_tidy tidy)
    have below : ∀ inner, mergeValue inner (written (Entries.get? (sectionAt upper) k) p v) =
        written (mergedOver inner (Entries.get? (sectionAt upper) k)) p v :=
      fun inner => ih (fun d found => held k d found) clear.tail
    rw [written, written]
    -- What is below the upper object is merged with it only if it is an object as well.
    rcases mergeValue_object base _ with ⟨old, rfl, merged⟩ | ⟨other, replaced⟩
    · rw [merged, clear.section_merged, merge_put nodup, get?_merge_over nodup, below]
    · rw [replaced, clear.section_kept other]

/-- Whatever is no object stands at one of these paths. -/
def PlainAt (d : Data) (ps : List (List String)) : Prop :=
  ∀ q x, lookup? d q = some x → x.isObject = false → q ∈ ps

/-- No path leads to another one of them. -/
def Unmixed (ps : List (List String)) : Prop := ∀ p ∈ ps, ∀ q ∈ ps, p <+: q → p = q

theorem plainAt_empty (ps : List (List String)) : PlainAt (.object []) ps := by
  intro q x found plain
  cases q with
  | nil =>
    cases Option.some.inj found
    cases plain
  | cons k q => cases found

theorem PlainAt.written {d : Data} {ps : List (List String)} (placed : PlainAt d ps) (listed : p ∈ ps)
    (plain : v.isObject = false) : PlainAt (written (some d) p v) ps := by
  intro q x found plain'
  by_cases below : p <+: q
  · obtain ⟨rest, rfl⟩ := below
    rw [lookup?_written_append] at found
    cases rest with
    | nil => simpa using listed
    | cons k rest => cases (lookup?_cons_of_not_object plain k rest).symm.trans found
  · by_cases above : q <+: p
    · obtain ⟨rest, rfl⟩ := above
      cases rest with
      | nil => simpa using listed
      | cons k rest =>
        obtain ⟨fs, object⟩ := lookup?_written_above (some d) q k rest v
        cases object.symm.trans found
        cases plain'
    · rw [lookup?_written_apart ⟨below, above⟩] at found
      exact placed q x found plain'

theorem PlainAt.clear {d : Data} {ps : List (List String)} (placed : PlainAt d ps) (unmixed : Unmixed ps)
    (listed : p ∈ ps) : Clear (some d) p := by
  intro q x leads short found
  by_contra plain
  have earlier : q ∈ ps := placed q x found (by simpa using plain)
  exact short (unmixed q earlier p listed leads)

theorem mergeValue_writeAll {ps : List (List String)} (unmixed : Unmixed ps) (base : Option Data) {d : Data}
    (tidy : Tidy d) (placed : PlainAt d ps) {ws : List Writing} (listed : ∀ w ∈ ws, w.1 ∈ ps)
    (plain : ∀ w ∈ ws, w.2.isObject = false) :
    mergeValue base (writeAll d ws) = writeAll (mergeValue base d) ws := by
  induction ws generalizing d with
  | nil => rfl
  | cons w ws ih =>
    obtain ⟨own, others⟩ := List.forall_mem_cons.mp listed
    obtain ⟨ownPlain, othersPlain⟩ := List.forall_mem_cons.mp plain
    have tidied : ∀ d' ∈ some d, Tidy d' := by
      rintro _ ⟨⟩
      exact tidy
    have now : mergeValue base (written (some d) w.1 w.2) = written (some (mergeValue base d)) w.1 w.2 :=
      mergeValue_written tidied (placed.clear unmixed own) ownPlain
    rw [writeAll_cons, writeAll_cons, ← now]
    exact ih (written_tidy tidied (tidy_of_not_object ownPlain)) (placed.written own ownPlain) others othersPlain

/-! ### Merging an overlay -/

variable {fields : Fields} {environment : Entries String String}

theorem writeAll_writings (unmixed : Unmixed (settingPaths environment)) (fields : Fields) :
    writeAll (.object fields) (writings environment) =
      mergeValue (some (.object fields)) (writeAll (.object []) (writings environment)) := by
  have merged := mergeValue_writeAll unmixed (some (.object fields)) tidy_empty (plainAt_empty _)
    (fun w listed => List.mem_map_of_mem listed) (@writings_plain environment)
  rw [merged, mergeValue, merge]

theorem overlayVariables_merge (unmixed : Unmixed (settingPaths environment)) {lower upper : Fields}
    (below : .object lower = writeAll (.object fields) (bareWritings environment))
    (above : .object upper = writeAll (.object []) (bareWritings environment)) :
    overlayVariables lower environment = merge fields (overlayVariables upper environment) := by
  apply Data.object.inj
  calc .object (overlayVariables lower environment)
      = writeAll (.object fields) (writings environment) := by
        rw [overlayVariables_writes, below, ← writeAll_append, writings]
    _ = mergeValue (some (.object fields)) (writeAll (.object []) (writings environment)) :=
        writeAll_writings unmixed fields
    _ = mergeValue (some (.object fields)) (.object (overlayVariables upper environment)) := by
        rw [overlayVariables_writes, above, ← writeAll_append, writings]
    _ = .object (merge fields (overlayVariables upper environment)) := by
        rw [mergeValue]

/-- There is no budget section, or it is an object. -/
def HasRoom (fields : Fields) : Prop := ∀ d, Entries.get? fields "budget" = some d → d.isObject = true

theorem HasRoom.writes (room : HasRoom fields) (amount : Float) :
    writeBudget fields amount = .ok (write fields budgetPath (.float amount)) := by
  unfold writeBudget
  rw [budgetPath, write_cons]
  cases held : Entries.get? fields "budget" with
  | none => rfl
  | some d =>
    have object := room d held
    cases d with
    | object fs => rfl
    | _ => cases object

/-- What an overlay does before it goes through the variables depends on the fields only by where the bare
budget is written. -/
theorem overlay_cases (environment : Entries String String) :
    (∃ text fault, budgetText? environment = some text ∧ budgetOf text = .error fault ∧
      ∀ fields, overlay fields environment = Step.fail fault) ∨
    ∃ entries, ∀ fields, (bareWritings environment ≠ [] → HasRoom fields) →
      ∃ lower, .object lower = writeAll (.object fields) (bareWritings environment) ∧
        overlay fields environment = do
          Step.write entries
          return overlayVariables lower environment := by
  unfold overlay overlayBudget bareWritings budgetText?
  generalize (Entries.get? environment budgetVariable).filter (!·.isEmpty) = text?
  cases text? with
  | none => exact .inr ⟨[], fun fields _ => ⟨fields, rfl, rfl⟩⟩
  | some text =>
    dsimp only
    cases read : budgetOf text with
    | error fault => exact .inl ⟨text, fault, rfl, read, fun _ => rfl⟩
    | ok amount? =>
      cases amount? with
      | none =>
        refine .inr ⟨[Journal.Channel.settings.warning
          s!"Ignoring non-numeric {budgetVariable}={Text.quoted text}"], fun fields _ => ?_⟩
        exact ⟨fields, rfl, rfl⟩
      | some amount =>
        refine .inr ⟨[], fun fields room => ?_⟩
        have room : HasRoom fields := room (List.cons_ne_nil _ _)
        refine ⟨write fields budgetPath (.float amount), ?_, ?_⟩
        · exact object_write fields (List.cons_ne_nil _ _) _
        · have placed := room.writes amount
          show (Step.ofExcept (writeBudget fields amount) >>= fun fields => _) = _
          rw [placed]
          rfl

theorem overlay_merges (unmixed : Unmixed (settingPaths environment))
    (room : bareWritings environment ≠ [] → HasRoom fields) :
    overlay fields environment = merge fields <$> overlay [] environment := by
  rcases overlay_cases environment with ⟨text, fault, -, -, stops⟩ | ⟨entries, goesOn⟩
  · rw [stops, stops]
    rfl
  · obtain ⟨lower, below, onto⟩ := goesOn fields room
    obtain ⟨upper, above, alone⟩ := goesOn [] fun _ _ => nofun
    rw [onto, alone, overlayVariables_merge unmixed below above]
    funext s
    have journals : entries ++ [] ++ [] = entries ++ [] := List.append_nil _
    exact congrArg (Outcome.mk _ s) journals.symm

/-! ### The last write -/

theorem budgetOf_error {text : String} {fault : Fault} (h : budgetOf text = .error fault) :
    fault = .intTooLarge := by
  unfold budgetOf at h
  split at h
  · split at h
    · cases h
    · exact (Except.error.inj h).symm
  · cases h
  · cases h

theorem Unmixed.apart {ps : List (List String)} (unmixed : Unmixed ps) {p q : List String} (left : p ∈ ps)
    (right : q ∈ ps) (other : p ≠ q) : Apart p q :=
  ⟨fun leads => other (unmixed p left q right leads), fun leads => other (unmixed q right p left leads).symm⟩

theorem last_writing_stands (unmixed : Unmixed (settingPaths environment)) {result : Fields}
    (answers : Answers (overlay fields environment) () result ()) {path : List String} {v : Data}
    {earlier later : List Writing} (split : writings environment = earlier ++ (path, v) :: later)
    (last : path ∉ later.map Prod.fst) : lookup? (.object result) path = some v := by
  rw [overlay_writes answers, split]
  apply lookup?_writeAll_last
  intro w listed
  have paths : settingPaths environment = earlier.map Prod.fst ++ path :: later.map Prod.fst := by
    rw [settingPaths, split, List.map_append, List.map_cons]
  have own : path ∈ settingPaths environment := by simp [paths]
  have other : w.1 ∈ later.map Prod.fst := List.mem_map_of_mem listed
  have listed : w.1 ∈ settingPaths environment := by
    rw [paths]
    exact List.mem_append_right _ (List.mem_cons_of_mem _ other)
  exact unmixed.apart listed own fun same => last (same ▸ other)

/-- As long as no path that the environment sets leads to another one, and there is room for a bare budget,
writing the environment over fields is merging into them what it writes over nothing, journal and faults
included. It stops only at a bare budget that is too large. Otherwise the last variable for a path decides
the value there, whatever a bare budget says, and a bare budget stands if no variable sets one. -/
theorem overlay_merges_overlay (unmixed : Unmixed (settingPaths environment))
    (room : bareWritings environment ≠ [] → HasRoom fields) :
    overlay fields environment = merge fields <$> overlay [] environment ∧
    ((∃ text, budgetText? environment = some text ∧ budgetOf text = .error .intTooLarge ∧
        Faults (overlay fields environment) () .intTooLarge ()) ∨
      ∃ result, Answers (overlay fields environment) () result () ∧
        (∀ earlier path v later, assignments environment = earlier ++ (path, v) :: later →
          path ∉ later.map Prod.fst → lookup? (.object result) path = some v) ∧
        ∀ amount, bareWritings environment = [(budgetPath, .float amount)] →
          budgetPath ∉ (assignments environment).map Prod.fst →
            lookup? (.object result) budgetPath = some (.float amount)) := by
  refine ⟨overlay_merges unmixed room, ?_⟩
  rcases overlay_cases environment with ⟨text, fault, set, tooLarge, stops⟩ | ⟨entries, goesOn⟩
  · obtain rfl := budgetOf_error tooLarge
    refine .inl ⟨text, set, tooLarge, ?_⟩
    rw [stops]
    exact ⟨rfl, rfl⟩
  · obtain ⟨lower, -, onto⟩ := goesOn fields room
    have answers : Answers (overlay fields environment) () (overlayVariables lower environment) () := by
      rw [onto]
      exact ⟨rfl, rfl⟩
    refine .inr ⟨_, answers, ?_, ?_⟩
    · intro earlier path v later split last
      have whole : writings environment = (bareWritings environment ++ earlier) ++ (path, v) :: later := by
        rw [writings, split, List.append_assoc]
      exact last_writing_stands unmixed answers whole last
    · intro amount bare last
      have whole : writings environment = [] ++ (budgetPath, .float amount) :: assignments environment := by
        rw [writings, bare]
        rfl
      exact last_writing_stands unmixed answers whole last

/-! ### A budget in two spellings -/

/-- The bare budget, two spellings of the other one, and a limit below a section that is none. -/
def spelledTwice : Entries String String :=
  [("LLM_MONTHLY_BUDGET", "100"), ("LLMRELAY__BUDGET__MONTHLY_BUDGET", "250"),
    ("LLMRELAY__health__limits__streak", "8"), ("LLMRELAY__budget__monthly_budget", "300")]

def healthOff : Fields := [("health", .text "off")]

theorem spelledTwice_assignments : assignments spelledTwice =
    [(budgetPath, .int 250), (["health", "limits", "streak"], .int 8), (budgetPath, .int 300)] := by
  have bare : path? "LLM_MONTHLY_BUDGET" = none := by decide +kernel
  have upper : path? "LLMRELAY__BUDGET__MONTHLY_BUDGET" = some budgetPath := by decide +kernel
  have limit : path? "LLMRELAY__health__limits__streak" = some ["health", "limits", "streak"] := by decide +kernel
  have lower : path? "LLMRELAY__budget__monthly_budget" = some budgetPath := by decide +kernel
  have values : valueOf "250" = .int 250 ∧ valueOf "8" = .int 8 ∧ valueOf "300" = .int 300 := ⟨rfl, rfl, rfl⟩
  simp [assignments, spelledTwice, bare, upper, limit, lower, values]

theorem later_spelling_decides :
    overlay healthOff spelledTwice = merge healthOff <$> overlay [] spelledTwice ∧
    ∃ result, Answers (overlay healthOff spelledTwice) () result () ∧
      lookup? (.object result) budgetPath = some (.int 300) ∧
      lookup? (.object result) ["health", "limits", "streak"] = some (.int 8) := by
  have unmixed : Unmixed (settingPaths spelledTwice) := by
    intro p left q right
    have two : ∀ p ∈ settingPaths spelledTwice, p = budgetPath ∨ p = ["health", "limits", "streak"] := by
      rw [settingPaths, writings, spelledTwice_assignments]
      rcases bareWritings_cases spelledTwice with none | ⟨amount, one⟩
      · simp [none]
      · simp [one]
    rcases two p left with rfl | rfl <;> rcases two q right with rfl | rfl <;> decide
  have room : HasRoom healthOff := by
    intro d found
    simp [healthOff, Entries.get?] at found
  obtain ⟨merges, tooLarge | ⟨result, answers, decides, -⟩⟩ := overlay_merges_overlay unmixed fun _ => room
  · obtain ⟨text, set, stopped, -⟩ := tooLarge
    have given : budgetText? spelledTwice = some "100" := rfl
    obtain rfl := Option.some.inj (given.symm.trans set)
    have fits : (budgetOf "100").isOk = true := by decide +kernel
    rw [stopped] at fits
    cases fits
  · refine ⟨merges, result, answers, ?_, ?_⟩
    · exact decides [(budgetPath, .int 250), (["health", "limits", "streak"], .int 8)] budgetPath _ []
        spelledTwice_assignments (by simp)
    · exact decides [(budgetPath, .int 250)] ["health", "limits", "streak"] _ [(budgetPath, .int 300)]
        spelledTwice_assignments (by simp [budgetPath])

end Switchboard.Settings
