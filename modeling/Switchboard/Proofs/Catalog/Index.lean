import Switchboard.Fault.Kind
import Switchboard.Proofs.Entries
import Switchboard.Proofs.Relay.Candidates

/-!
What a catalog comes to. `catalog_of_distinct_ids` says which lists make one, that every look-up in it answers
as the list does, and which model or raw entry the others are refused for.
-/

namespace Switchboard.Catalog

open Step

/-! ### The first model that repeats an id -/

/-- The models before this one have an id each, and this one has the id of one of them. -/
def FirstRepeat (models : List Model) (m : Model) : Prop :=
  ∃ earlier later, models = earlier ++ m :: later ∧ Distinct earlier ∧ m.id ∈ earlier.map Model.id

theorem FirstRepeat.not_distinct {models : List Model} {m : Model} (h : FirstRepeat models m) :
    ¬Distinct models := by
  obtain ⟨earlier, later, rfl, -, again⟩ := h
  intro distinct
  rw [Distinct, List.map_append, List.nodup_append] at distinct
  exact distinct.2.2 m.id again m.id (by simp) rfl

theorem distinct_cons {m : Model} {models : List Model} :
    Distinct (m :: models) ↔ (∀ m' ∈ models, m'.id ≠ m.id) ∧ Distinct models := by
  simp [Distinct]

theorem firstRepeat_some_iff {seen : List String} {models : List Model} {id : String} :
    firstRepeat? seen models = some id ↔ ∃ earlier m later, models = earlier ++ m :: later ∧ m.id = id ∧
      (Distinct earlier ∧ ∀ e ∈ earlier, e.id ∉ seen) ∧ (m.id ∈ seen ∨ m.id ∈ earlier.map Model.id) := by
  induction models generalizing seen with
  | nil => simp [firstRepeat?]
  | cons first rest ih =>
    unfold firstRepeat?
    by_cases known : first.id ∈ seen
    · rw [if_pos known]
      constructor
      · intro found
        exact ⟨[], first, rest, rfl, Option.some.inj found, ⟨List.nodup_nil, by simp⟩, .inl known⟩
      · rintro ⟨earlier, m, later, split, rfl, ⟨-, fresh⟩, -⟩
        cases earlier with
        | nil =>
          obtain ⟨rfl, -⟩ := List.cons.inj split
          rfl
        | cons e earlier =>
          obtain ⟨rfl, -⟩ := List.cons.inj split
          exact (fresh first List.mem_cons_self known).elim
    · rw [if_neg known, ih]
      constructor
      · rintro ⟨earlier, m, later, rfl, same, ⟨distinct, fresh⟩, again⟩
        refine ⟨first :: earlier, m, later, rfl, same, ⟨?_, ?_⟩, ?_⟩
        · rw [distinct_cons]
          refine ⟨fun e member => ?_, distinct⟩
          intro equal
          exact fresh e member (equal ▸ List.mem_cons_self)
        · intro e member
          rcases List.mem_cons.mp member with rfl | member
          · exact known
          · exact fun again => fresh e member (List.mem_cons_of_mem _ again)
        · simp only [List.mem_cons, List.map_cons] at again ⊢
          tauto
      · rintro ⟨earlier, m, later, split, same, ⟨distinct, fresh⟩, again⟩
        cases earlier with
        | nil =>
          obtain ⟨rfl, -⟩ := List.cons.inj split
          simp [known] at again
        | cons e earlier =>
          obtain ⟨rfl, rfl⟩ := List.cons.inj split
          obtain ⟨apart, distinct⟩ := distinct_cons.mp distinct
          refine ⟨earlier, m, later, rfl, same, ⟨distinct, ?_⟩, ?_⟩
          · intro e member seen
            rcases List.mem_cons.mp seen with equal | seen
            · exact apart e member equal
            · exact fresh e (List.mem_cons_of_mem _ member) seen
          · simp only [List.mem_cons, List.map_cons] at again ⊢
            tauto

theorem firstRepeat_iff {models : List Model} {id : String} :
    firstRepeat? [] models = some id ↔ ∃ m, FirstRepeat models m ∧ m.id = id := by
  rw [firstRepeat_some_iff]
  constructor
  · rintro ⟨earlier, m, later, split, same, ⟨distinct, -⟩, again⟩
    exact ⟨m, ⟨earlier, later, split, distinct, by simpa using again⟩, same⟩
  · rintro ⟨m, ⟨earlier, later, split, distinct, again⟩, same⟩
    exact ⟨earlier, m, later, split, same, ⟨distinct, by simp⟩, .inr again⟩

theorem firstRepeat_none_iff {models : List Model} : firstRepeat? [] models = none ↔ Distinct models := by
  constructor
  · intro unrepeated
    exact (firstRepeat_none unrepeated).1
  · intro distinct
    cases found : firstRepeat? [] models with
    | none => rfl
    | some id =>
      obtain ⟨m, first, -⟩ := firstRepeat_iff.mp found
      exact (first.not_distinct distinct).elim

/-! ### The table of ids -/

/-- Enters the models into a table, each under its id, up to the first id that is there already. -/
def enter : Entries String Model → List Model → Except String (Entries String Model)
  | table, [] => .ok table
  | table, m :: rest =>
    if Entries.contains table m.id then .error m.id else enter (Entries.put table m.id m) rest

/-- Each model under its id, in the order of the models. -/
def entered (models : List Model) : Entries String Model := models.map fun m => (m.id, m)

theorem put_entered {models : List Model} {m : Model} (fresh : m.id ∉ models.map Model.id) :
    Entries.put (entered models) m.id m = entered (models ++ [m]) := by
  induction models with
  | nil => rfl
  | cons first rest ih =>
    simp only [List.map_cons, List.mem_cons, not_or] at fresh
    obtain ⟨other, fresh⟩ := fresh
    simp only [entered, List.cons_append, List.map_cons, Entries.put, if_neg (Ne.symm other)] at ih ⊢
    rw [ih fresh]

theorem get?_entered (models : List Model) (id : String) :
    Entries.get? (entered models) id = models.find? (·.id == id) := by
  induction models with
  | nil => rfl
  | cons m rest ih =>
    simp only [entered, List.map_cons, Entries.get?, List.find?_cons] at ih ⊢
    by_cases same : m.id = id
    · simp [same]
    · rw [if_neg same, beq_false_of_ne same]
      exact ih

theorem contains_entered (models : List Model) (id : String) :
    Entries.contains (entered models) id = true ↔ id ∈ models.map Model.id := by
  rw [Entries.contains, get?_entered, List.find?_isSome]
  simp

/-- The table is made exactly if no id is repeated, and stops at the first id that is. -/
theorem enter_eq {front rest : List Model} {seen : List String}
    (same : ∀ id, id ∈ seen ↔ id ∈ front.map Model.id) :
    enter (entered front) rest = (firstRepeat? seen rest).elim (.ok (entered (front ++ rest))) .error := by
  induction rest generalizing front seen with
  | nil => simp [enter, firstRepeat?]
  | cons m rest ih =>
    rw [enter, firstRepeat?]
    by_cases known : m.id ∈ seen
    · rw [if_pos ((contains_entered front m.id).mpr ((same m.id).mp known)), if_pos known]
      rfl
    · have fresh : m.id ∉ front.map Model.id := fun again => known ((same m.id).mpr again)
      have longer : ∀ id, id ∈ m.id :: seen ↔ id ∈ (front ++ [m]).map Model.id := by
        intro id
        rw [List.mem_cons, same]
        simp [or_comm]
      rw [if_neg (by rwa [contains_entered]), if_neg known, put_entered fresh, ih longer]
      simp

/-! ### Building a catalog of models -/

theorem build_answers_iff {σ : Type} {models : List Model} {s s' : σ} {c : Catalog} :
    Answers (build models) s c s' ↔ Distinct models ∧ c = ⟨models⟩ ∧ s' = s := by
  rw [← firstRepeat_none_iff]
  unfold build
  cases firstRepeat? [] models with
  | some id => simp
  | none =>
    constructor
    · intro built
      obtain ⟨_, between, written, last⟩ := answers_bind.mp built
      obtain ⟨rfl, rfl⟩ := answers_pure.mp last
      exact ⟨rfl, rfl, answers_write.mp written⟩
    · rintro ⟨-, rfl, rfl⟩
      exact answers_bind.mpr ⟨(), s', answers_write.mpr rfl, answers_pure.mpr ⟨rfl, rfl⟩⟩

theorem build_faults_iff {σ : Type} {models : List Model} {s s' : σ} {fault : Fault} :
    Faults (build models) s fault s' ↔
      (∃ m, FirstRepeat models m ∧ fault = .duplicateModel m.id) ∧ s' = s := by
  have repeated : (∃ m, FirstRepeat models m ∧ fault = .duplicateModel m.id) ↔
      ∃ id, firstRepeat? [] models = some id ∧ fault = .duplicateModel id := by
    simp only [firstRepeat_iff]
    constructor
    · rintro ⟨m, first, rfl⟩
      exact ⟨m.id, ⟨m, first, rfl⟩, rfl⟩
    · rintro ⟨id, ⟨m, first, rfl⟩, rfl⟩
      exact ⟨m, first, rfl⟩
  rw [repeated]
  unfold build
  cases firstRepeat? [] models with
  | some id => simp [Faults, Step.fail, eq_comm]
  | none => simp [faults_bind]

/-- The catalog holds these models in this order, and looks them up by their ids. -/
structure Serves (models : List Model) (c : Catalog) : Prop where
  listed : c.models = models
  found : ∀ id m, c.byId? id = some m ↔ m ∈ models ∧ m.id = id
  missing : ∀ id, c.byId? id = none ↔ id ∉ models.map Model.id
  contains : ∀ id, c.contains id = true ↔ c.byId? id ≠ none
  named : ∀ d m, c.named? d = .ok (some m) ↔ m ∈ models ∧ d = .text m.id
  table : ∃ table, enter [] models = .ok table ∧ Entries.keys table = models.map Model.id ∧
    ∀ id, Entries.get? table id = c.byId? id

theorem serves_of_distinct {models : List Model} (distinct : Distinct models) : Serves models ⟨models⟩ := by
  have found : ∀ id m, byId? ⟨models⟩ id = some m ↔ m ∈ models ∧ m.id = id := by
    intro id m
    constructor
    · intro found
      exact ⟨List.mem_of_find?_eq_some found, by simpa using List.find?_some found⟩
    · rintro ⟨listed, rfl⟩
      exact byId?_of_mem (c := ⟨models⟩) distinct listed
  constructor
  case listed => rfl
  case found => exact found
  case missing =>
    intro id
    simp [byId?]
  case contains =>
    intro id
    simp [contains, Option.isSome_iff_ne_none]
  case named =>
    intro d m
    cases d with
    | text id =>
      simp only [named?, Except.ok.injEq, found, Data.text.injEq]
      exact and_congr_right fun _ => eq_comm
    | _ => simp [named?, Argument.key, Data.isKey, Functor.map, Except.map]
  case table =>
    refine ⟨entered models, ?_, by simp [entered, Entries.keys], get?_entered models⟩
    have made := @enter_eq [] models [] (by simp)
    rwa [firstRepeat_none_iff.mpr distinct] at made

/-! ### Building a catalog of raw entries -/

/-- Every entry is read as the model at its place. -/
def ReadAs (entries : List (List (String × Data))) (models : List Model) : Prop :=
  List.Forall₂ (fun fs m => Model.reader (.object fs) = .good m) entries models

/-- The entry at this position is no model, for these issues, and those before it are models. -/
structure FirstInvalid (entries : List (List (String × Data))) (position : Nat) (issues : List Issue) :
    Prop where
  invalid : ∃ fs, entries[position]? = some fs ∧ Model.reader (.object fs) = .bad issues
  earlier : ∀ i < position, ∀ fs, entries[i]? = some fs → ∃ m, Model.reader (.object fs) = .good m

theorem readEntries_good {fs : List (String × Data)} {m : Model} (read : Model.reader (.object fs) = .good m)
    (position : Nat) (rest : List Data) :
    readEntries position (.object fs :: rest) = (m :: ·) <$> readEntries (position + 1) rest := by
  rw [readEntries]
  simp only [Argument.fields, bind, Except.bind, read]
  cases readEntries (position + 1) rest <;> rfl

theorem readEntries_bad {fs : List (String × Data)} {issues : List Issue}
    (refused : Model.reader (.object fs) = .bad issues) (position : Nat) (rest : List Data) :
    readEntries position (.object fs :: rest) = .error (.invalidEntry position issues) := by
  rw [readEntries]
  simp only [Argument.fields, bind, Except.bind, refused]
  rfl

theorem readEntries_of_readAs {entries : List (List (String × Data))} {models : List Model}
    (read : ReadAs entries models) (position : Nat) :
    readEntries position (entries.map .object) = .ok models := by
  induction read generalizing position with
  | nil => rfl
  | cons first _ ih =>
    rw [List.map_cons, readEntries_good first, ih]
    rfl

theorem readEntries_of_firstInvalid {entries : List (List (String × Data))} {i : Nat} {issues : List Issue}
    (first : FirstInvalid entries i issues) (position : Nat) :
    readEntries position (entries.map .object) = .error (.invalidEntry (position + i) issues) := by
  induction entries generalizing i position with
  | nil =>
    obtain ⟨fs, here, -⟩ := first.invalid
    simp at here
  | cons fs rest ih =>
    cases i with
    | zero =>
      obtain ⟨fs', here, refused⟩ := first.invalid
      obtain rfl := Option.some.inj here
      exact readEntries_bad refused position _
    | succ i =>
      obtain ⟨m, read⟩ := first.earlier 0 (Nat.succ_pos i) fs rfl
      have later : FirstInvalid rest i issues :=
        ⟨first.invalid, fun j below fs' there => first.earlier (j + 1) (by omega) fs' there⟩
      rw [List.map_cons, readEntries_good read, ih later]
      show Except.error _ = _
      rw [Nat.add_right_comm, Nat.add_assoc]

/-- Raw entries are models one and all, or there is a first one that is not. -/
theorem readAs_or_firstInvalid (entries : List (List (String × Data))) :
    (∃ models, ReadAs entries models) ∨ ∃ i issues, FirstInvalid entries i issues := by
  induction entries with
  | nil => exact .inl ⟨[], .nil⟩
  | cons fs rest ih =>
    cases read : Model.reader (.object fs) with
    | bad issues =>
      refine .inr ⟨0, issues, ⟨fs, rfl, read⟩, ?_⟩
      intro i below
      omega
    | good m =>
      rcases ih with ⟨models, others⟩ | ⟨i, issues, first⟩
      · exact .inl ⟨m :: models, .cons read others⟩
      · refine .inr ⟨i + 1, issues, first.invalid, ?_⟩
        intro j below fs' there
        cases j with
        | zero =>
          obtain rfl := Option.some.inj there
          exact ⟨m, read⟩
        | succ j => exact first.earlier j (by omega) fs' there

theorem ofEntries_readAs {σ : Type} {entries : List (List (String × Data))} {models : List Model}
    (read : ReadAs entries models) (s : σ) : EndsAs (ofEntries (entries.map .object)) s (build models) s :=
  bind_run_ok (answers_ofExcept.mpr ⟨readEntries_of_readAs read 0, rfl⟩)

theorem ofEntries_firstInvalid {σ : Type} {entries : List (List (String × Data))} {i : Nat}
    {issues : List Issue} (first : FirstInvalid entries i issues) (s : σ) :
    Faults (ofEntries (entries.map .object)) s (.invalidEntry i issues) s := by
  refine bind_run_error (faults_ofExcept.mpr ⟨?_, rfl⟩)
  simpa using readEntries_of_firstInvalid first 0

/-! ### Which lists make a catalog -/

theorem build_built_iff {σ : Type} (s : σ) (models : List Model) :
    (∃ c s', Answers (build models) s c s') ↔ Distinct models := by
  constructor
  · rintro ⟨c, s', built⟩
    exact (build_answers_iff.mp built).1
  · intro distinct
    exact ⟨⟨models⟩, s, build_answers_iff.mpr ⟨distinct, rfl, rfl⟩⟩

theorem ofEntries_built_iff {σ : Type} (s : σ) (entries : List (List (String × Data))) :
    (∃ c s', Answers (ofEntries (entries.map .object)) s c s') ↔
      ∃ models, ReadAs entries models ∧ Distinct models := by
  constructor
  · rintro ⟨c, s', built⟩
    rcases readAs_or_firstInvalid entries with ⟨models, read⟩ | ⟨i, issues, first⟩
    · have built := (ofEntries_readAs read s).symm.answers built
      exact ⟨models, read, (build_answers_iff.mp built).1⟩
    · exact (built.not_faults (ofEntries_firstInvalid first s)).elim
  · rintro ⟨models, read, distinct⟩
    obtain ⟨c, s', built⟩ := (build_built_iff s models).mpr distinct
    exact ⟨c, s', (ofEntries_readAs read s).answers built⟩

theorem firstInvalid_of_invalid {entries : List (List (String × Data))} {fs : List (String × Data)}
    {issues : List Issue} (listed : fs ∈ entries) (refused : Model.reader (.object fs) = .bad issues) :
    ∃ i issues, FirstInvalid entries i issues := by
  rcases readAs_or_firstInvalid entries with ⟨models, read⟩ | first
  · -- The refused entry cannot be read as the model at its place.
    obtain ⟨i, here, rfl⟩ := List.getElem_of_mem listed
    have good := List.Forall₂.get read here (read.length_eq ▸ here)
    rw [List.get_eq_getElem, refused] at good
    cases good
  · exact first

/-- A list of models makes a catalog exactly if their ids are distinct, and is refused for the first model with
the id of an earlier one otherwise. The catalog is that list, and all its look-ups answer for it. A list of
raw entries makes the catalog of the models it is read as, and is refused for the first entry that is no
model before any id is looked at. -/
theorem catalog_of_distinct_ids {σ : Type} (s : σ) (models : List Model)
    (entries : List (List (String × Data))) :
    ((∃ c s', Answers (build models) s c s') ↔ Distinct models) ∧
    (∀ c s', Answers (build models) s c s' → Serves models c) ∧
    (∀ fault s', Faults (build models) s fault s' ↔
      (∃ m, FirstRepeat models m ∧ fault = .duplicateModel m.id) ∧ s' = s) ∧
    ((∃ c s', Answers (ofEntries (entries.map .object)) s c s') ↔
      ∃ listed, ReadAs entries listed ∧ Distinct listed) ∧
    (∀ listed, ReadAs entries listed → EndsAs (ofEntries (entries.map .object)) s (build listed) s) ∧
    ((∃ fs ∈ entries, ∃ issues, Model.reader (.object fs) = .bad issues) → ∃ i issues,
      FirstInvalid entries i issues ∧ Faults (ofEntries (entries.map .object)) s (.invalidEntry i issues) s) ∧
    (∀ id, (Fault.duplicateModel id).kind? = some .settings ∧
      (Fault.duplicateModel id).message = s!"Duplicate model id in catalog: '{id}'") ∧
    ∀ i issues, (Fault.invalidEntry i issues).kind? = some .settings ∧
      (Fault.invalidEntry i issues).message =
        s!"Invalid catalog entry #{i}: " ++ Issue.report "ModelDescriptor" issues := by
  refine ⟨build_built_iff s models, ?_, fun _ _ => build_faults_iff, ofEntries_built_iff s entries,
    fun _ read => ofEntries_readAs read s, ?_, fun _ => ⟨rfl, rfl⟩, fun _ _ => ⟨rfl, rfl⟩⟩
  · intro c s' built
    obtain ⟨distinct, rfl, -⟩ := build_answers_iff.mp built
    exact serves_of_distinct distinct
  · rintro ⟨fs, listed, issues, refused⟩
    obtain ⟨i, issues, first⟩ := firstInvalid_of_invalid listed refused
    exact ⟨i, issues, first, ofEntries_firstInvalid first s⟩

end Switchboard.Catalog
