import Switchboard.Fault.Kind
import Switchboard.Proofs.Settings.Precedence

/-!
How loading settings can fail. Malformed TOML and settings that break their rules are refused with the
settings' own kind of fault; what else can stop the loading is listed here with its exact cause.
-/

namespace Switchboard

theorem except_bind_error_iff {ε α β : Type} {x : Except ε α} {f : α → Except ε β} {e : ε} :
    x >>= f = .error e ↔ x = .error e ∨ ∃ a, x = .ok a ∧ f a = .error e := by
  cases x with
  | error e' =>
    show Except.error e' = .error e ↔ _
    simp
  | ok a =>
    show f a = .error e ↔ _
    simp

namespace Settings

open Step

/-! ### Loading, log entries apart -/

theorem answer_bind {α β : Type} (x : Step Unit α) (f : α → Step Unit β) :
    ((x >>= f) ()).answer = (x ()).answer >>= fun a => (f a ()).answer := by
  rcases answers_or_faults x () with ⟨a, run⟩ | ⟨fault, run⟩
  · rw [(bind_run_ok run).1, run.1]
    rfl
  · rw [(bind_run_error run).1, run.1]
    rfl

/-- What a settings file sets, if there is one. -/
def ofFile? : Option File → Except Fault Fields
  | none => .ok []
  | some f => match f.content with
    | none => .ok []
    | some content => do mergeData [] (relaySection (← parse f.path content))

/-- The text of the bare budget variable, if it is set. -/
def budgetText? (environment : Entries String String) : Option String :=
  (Entries.get? environment budgetVariable).filter (!·.isEmpty)

def withBudget (fields : Fields) (environment : Entries String String) : Except Fault Fields :=
  match budgetText? environment with
  | none => .ok fields
  | some text => do
    match ← budgetOf text with
    | some amount => writeBudget fields amount
    | none => .ok fields

/-- The fields of the file and the document. -/
def lowered (s : Sources) : Except Fault Fields := do
  mergeIfGiven mergeDocument (← ofFile? s.file) s.document

def loaded (s : Sources) : Except Fault Settings := do
  let fields ← withBudget (← lowered s) s.environment
  ofFields (← mergeIfGiven mergeData (overlayVariables fields s.environment) s.overrides)

theorem ofFile_answer (f : File) : (ofFile f ()).answer = ofFile? (some f) := by
  unfold ofFile ofFile?
  dsimp only
  cases f.content with
  | none => rfl
  | some content =>
    refine (answer_bind _ _).trans (congrArg (parse f.path content >>= ·) (funext fun table => ?_))
    exact (answer_bind _ _).trans (bind_pure _)

theorem overlayBudget_answer (fields : Fields) (environment : Entries String String) :
    (overlayBudget fields environment ()).answer = withBudget fields environment := by
  unfold overlayBudget withBudget budgetText?
  generalize (Entries.get? environment budgetVariable).filter (!·.isEmpty) = text?
  cases text? with
  | none => rfl
  | some text =>
    refine (answer_bind _ _).trans (congrArg (budgetOf text >>= ·) (funext fun amount? => ?_))
    cases amount? <;> rfl

def opening : Option File → Step Unit Fields
  | none => pure []
  | some f => ofFile f

theorem opening_answer (file : Option File) : (opening file ()).answer = ofFile? file := by
  cases file with
  | none => rfl
  | some f => exact ofFile_answer f

theorem gathered_eq (s : Sources) : gathered s = (do
    let fields ← opening s.file
    let fields ← Step.ofExcept (mergeIfGiven mergeDocument fields s.document)
    let fields ← overlay fields s.environment
    Step.ofExcept (mergeIfGiven mergeData fields s.overrides)) := by
  unfold gathered
  cases s.file <;> rfl

theorem load_answer (s : Sources) : (load s ()).answer = loaded s := by
  unfold load loaded lowered
  rw [gathered_eq]
  simp only [answer_bind, overlay, opening_answer, overlayBudget_answer, bind_assoc]
  rfl

/-! ### The layers below the environment -/

/-- What the file and the document set, in this order. -/
def lowerLayers (s : Sources) : List Data :=
  s.file.toList.flatMap fileLayers ++ s.document.toList.flatMap documentLayers

/-- Merges layers up to the first one that is no object. -/
def mergeAll (layers : List Data) (base : Fields) : Except Fault Fields := layers.foldlM mergeData base

theorem mergeAll_cons (base : Fields) (d : Data) (rest : List Data) :
    mergeAll (d :: rest) base = mergeData base d >>= mergeAll rest := List.foldlM_cons

theorem mergeData_other {d : Data} (plain : d.isObject = false) (base : Fields) :
    mergeData base d = .error (.notAnObject d.kindName "items") := by
  cases d with
  | object fs => cases plain
  | _ => rfl

theorem mergeAll_objects {layers : List Data} (objects : ∀ d ∈ layers, d.isObject = true) (base : Fields) :
    ∃ fields, mergeAll layers base = .ok fields ∧ .object fields = mergeLayers layers (.object base) := by
  induction layers generalizing base with
  | nil => exact ⟨base, rfl, rfl⟩
  | cons d rest ih =>
    obtain ⟨object, others⟩ := List.forall_mem_cons.mp objects
    cases d with
    | object fs =>
      obtain ⟨fields, merged, same⟩ := ih others (merge base fs)
      refine ⟨fields, merged, ?_⟩
      rw [same, mergeLayers, mergeLayers, List.foldl_cons, mergeValue]
    | _ => cases object

theorem mergeAll_other {layers : List Data} {d : Data} (first : layers.find? (!·.isObject) = some d)
    (base : Fields) : mergeAll layers base = .error (.notAnObject d.kindName "items") := by
  induction layers generalizing base with
  | nil => cases first
  | cons x rest ih =>
    rw [mergeAll_cons]
    cases plain : x.isObject with
    | false =>
      rw [List.find?_cons_of_pos (by rw [plain]; rfl)] at first
      obtain rfl := Option.some.inj first
      rw [mergeData_other plain]
      rfl
    | true =>
      rw [List.find?_cons_of_neg (by rw [plain]; decide)] at first
      cases x with
      | object fs => exact ih first (merge base fs)
      | _ => cases plain

/-- The settings file, if there is one, is a TOML document. -/
def Readable (s : Sources) : Prop :=
  ∀ f ∈ s.file, ∀ content ∈ f.content, ∃ table, parse f.path content = .ok table

theorem lowered_eq {s : Sources} (readable : Readable s) (document : ∀ d ∈ s.document, d.isObject = true) :
    lowered s = mergeAll (lowerLayers s) [] := by
  have below (base : Fields) : mergeIfGiven mergeDocument base s.document =
      mergeAll (s.document.toList.flatMap documentLayers) base := by
    cases given : s.document with
    | none => rfl
    | some d => 
      have object := document d given
      cases d with
      | object fs => exact (bind_pure _).symm
      | _ => cases object
  have file : ofFile? s.file = mergeAll (s.file.toList.flatMap fileLayers) [] := by
    unfold Readable at readable
    cases given : s.file with
    | none => rfl
    | some f => 
      have readable := readable f given
      simp only [ofFile?, Option.toList_some, List.flatMap_singleton, fileLayers]
      cases held : f.content with
      | none => rfl
      | some content => 
        obtain ⟨table, parsed⟩ := readable content held
        simp only [parsed]
        exact (bind_pure _).symm
  rw [lowered, lowerLayers, mergeAll, List.foldlM_append, file]
  simp only [below]
  rfl

theorem lowered_unparsed {s : Sources} {f : File} {content : List UInt8} {fault : Fault}
    (given : s.file = some f) (held : f.content = some content)
    (unparsed : parse f.path content = .error fault) : lowered s = .error fault := by
  rw [lowered, given]
  simp only [ofFile?, held, unparsed]
  rfl

/-! ### Faults of other kinds -/

/-- Why bytes cannot be read as TOML, their syntax apart. -/
inductive Unreadable (content : List UInt8) : Fault → Prop where
  | encoding {flaw : Text.Utf8.Flaw} : Text.Utf8.decode content = .error flaw →
      Unreadable content (.undecodableSettings flaw)
  | digits {cs : List Char} {n : Nat} : Text.Utf8.decode content = .ok cs →
      Toml.read (String.ofList cs) = .error (.tooManyDigits n) → Unreadable content (.integerTooLong n)

theorem Unreadable.kind {content : List UInt8} {fault : Fault} (h : Unreadable content fault) :
    fault.kind? = none := by
  cases h <;> rfl

theorem Unreadable.parse {content : List UInt8} {fault : Fault} (h : Unreadable content fault)
    (path : String) : parse path content = .error fault := by
  cases h with
  | encoding undecoded => simp only [Settings.parse, undecoded]
  | digits decoded refused => simp only [Settings.parse, decoded, refused]

theorem parse_fails {path : String} {content : List UInt8} {fault : Fault}
    (h : parse path content = .error fault) : fault.kind? = some .settings ∨ Unreadable content fault := by
  unfold parse at h
  split at h
  · rename_i undecoded
    cases h
    exact .inr (.encoding undecoded)
  · rename_i decoded
    split at h
    · cases h
    · cases h
      exact .inl rfl
    · rename_i refused
      cases h
      exact .inr (.digits decoded refused)

/-- What stops the loading with a fault that is not of the settings' own kind. -/
inductive Strays (s : Sources) : Fault → Prop where
  /-- The settings file cannot be read, and it is not its syntax. -/
  | file {f : File} {content : List UInt8} {fault : Fault} : s.file = some f → f.content = some content →
      Unreadable content fault → Strays s fault
  /-- The relay's section of the file or, if that one is good, of the document is no object. -/
  | noSection {d : Data} : Readable s → (lowerLayers s).find? (!·.isObject) = some d →
      Strays s (.notAnObject d.kindName "items")
  /-- The bare budget variable holds a whole number beyond the doubles. -/
  | budgetTooLarge {text : String} {n : Int} : Readable s → (∀ d ∈ lowerLayers s, d.isObject = true) →
      budgetText? s.environment = some text → valueOf text = .int n → Binary64.ofInt? n = none →
      Strays s .intTooLarge
  /-- The bare budget variable holds a number, and the budget set below it is no object to write into. -/
  | noBudgetSection {text : String} {amount : Float} {d : Data} : Readable s →
      (∀ d ∈ lowerLayers s, d.isObject = true) → budgetText? s.environment = some text →
      budgetOf text = .ok (some amount) →
      lookup? (mergeLayers (lowerLayers s) (.object [])) ["budget"] = some d → d.isObject = false →
      Strays s (.notWritable d)

theorem Strays.kind {s : Sources} {fault : Fault} (h : Strays s fault) : fault.kind? = none := by
  cases h with
  | file _ _ unreadable => exact unreadable.kind
  | _ => rfl

theorem budgetOf_fails {text : String} {fault : Fault} :
    budgetOf text = .error fault ↔
      fault = .intTooLarge ∧ ∃ n, valueOf text = .int n ∧ Binary64.ofInt? n = none := by
  unfold budgetOf
  cases value : valueOf text with
  | int n => cases size : Binary64.ofInt? n <;> simp [size, eq_comm]
  | _ => simp

theorem writeBudget_fails {fields : Fields} {amount : Float} {fault : Fault} :
    writeBudget fields amount = .error fault ↔
      ∃ d, lookup? (.object fields) ["budget"] = some d ∧ d.isObject = false ∧ fault = .notWritable d := by
  have found : lookup? (.object fields) ["budget"] = Entries.get? fields "budget" := by
    rw [lookup?_object_cons]
    cases Entries.get? fields "budget" <;> rfl
  rw [found]
  unfold writeBudget
  constructor
  · intro h
    split at h
    · cases h
    · cases h
    · rename_i d other held
      cases h
      refine ⟨d, held, ?_, rfl⟩
      cases d with
      | object fs => exact absurd rfl (other fs)
      | _ => rfl
  · rintro ⟨d, held, plain, rfl⟩
    rw [held]
    cases d with
    | object fs => cases plain
    | _ => rfl

theorem withBudget_fails {fields : Fields} {environment : Entries String String} {fault : Fault} :
    withBudget fields environment = .error fault ↔ ∃ text, budgetText? environment = some text ∧
      (budgetOf text = .error fault ∨
        ∃ amount, budgetOf text = .ok (some amount) ∧ writeBudget fields amount = .error fault) := by
  unfold withBudget
  cases budgetText? environment with
  | none => simp
  | some text =>
    simp only [Option.some.injEq, exists_eq_left', except_bind_error_iff]
    refine or_congr Iff.rfl ⟨?_, ?_⟩
    · rintro ⟨_ | amount, read, h⟩
      · cases h
      · exact ⟨amount, read, h⟩
    · rintro ⟨amount, read, h⟩
      exact ⟨some amount, read, h⟩

/-- The overrides and the check at the end bring up no fault of another kind. -/
theorem above_settings {fields : Fields} {overrides : Option Data} {fault : Fault}
    (objects : ∀ d ∈ overrides, d.isObject = true)
    (h : (mergeIfGiven mergeData fields overrides >>= ofFields) = .error fault) :
    fault.kind? = some .settings := by
  rcases except_bind_error_iff.mp h with merging | ⟨merged, -, reading⟩
  · cases overrides with
    | none => cases merging
    | some d =>
      have object := objects d rfl
      cases d with
      | object fs => cases merging
      | _ => cases object
  · unfold ofFields at reading
    split at reading
    · cases reading
    · cases reading
      rfl

theorem loaded_strays {s : Sources} (document : ∀ d ∈ s.document, d.isObject = true)
    (overrides : ∀ d ∈ s.overrides, d.isObject = true) {fault : Fault} (h : loaded s = .error fault) :
    fault.kind? = some .settings ∨ Strays s fault := by
  by_cases readable : Readable s
  · have lower := lowered_eq readable document
    cases first : (lowerLayers s).find? (!·.isObject) with
    | some d =>
      rw [loaded, lower, mergeAll_other first] at h
      cases h
      exact .inr (.noSection readable first)
    | none =>
      have objects : ∀ d ∈ lowerLayers s, d.isObject = true := by simpa using first
      obtain ⟨fields, merged, same⟩ := mergeAll_objects objects []
      rw [loaded, lower, merged] at h
      change (withBudget fields s.environment >>= _) = _ at h
      rcases except_bind_error_iff.mp h with budget | ⟨_, -, h⟩
      · obtain ⟨text, set, reading | ⟨amount, numeric, writing⟩⟩ := withBudget_fails.mp budget
        · obtain ⟨rfl, n, value, size⟩ := budgetOf_fails.mp reading
          exact .inr (.budgetTooLarge readable objects set value size)
        · obtain ⟨d, found, plain, rfl⟩ := writeBudget_fails.mp writing
          exact .inr (.noBudgetSection readable objects set numeric (same ▸ found) plain)
      · exact .inl (above_settings overrides h)
  · unfold Readable at readable
    push Not at readable
    obtain ⟨f, given, content, held, unparsed⟩ := readable
    cases parsed : parse f.path content with
    | ok table => exact absurd parsed (unparsed table)
    | error fault' =>
      rw [loaded, lowered_unparsed given held parsed] at h
      cases h
      exact (parse_fails parsed).imp id (.file given held)

theorem Strays.loaded {s : Sources} (document : ∀ d ∈ s.document, d.isObject = true)
    {fault : Fault} (h : Strays s fault) : loaded s = .error fault := by
  have budget (objects : ∀ d ∈ lowerLayers s, d.isObject = true) (readable : Readable s)
      (fails : ∀ fields, .object fields = mergeLayers (lowerLayers s) (.object []) →
        withBudget fields s.environment = .error fault) : Settings.loaded s = .error fault := by
    obtain ⟨fields, merged, same⟩ := mergeAll_objects objects []
    rw [Settings.loaded, lowered_eq readable document, merged]
    show (withBudget fields s.environment >>= _) = _
    exact except_bind_error_iff.mpr (.inl (fails fields same))
  cases h with
  | file given held unreadable =>
    rw [Settings.loaded, lowered_unparsed given held (unreadable.parse _)]
    rfl
  | noSection readable first =>
    rw [Settings.loaded, lowered_eq readable document, mergeAll_other first]
    rfl
  | budgetTooLarge readable objects set value size =>
    refine budget objects readable fun fields _ => withBudget_fails.mpr ⟨_, set, .inl ?_⟩
    exact budgetOf_fails.mpr ⟨rfl, _, value, size⟩
  | noBudgetSection readable objects set numeric found plain =>
    refine budget objects readable fun fields same => withBudget_fails.mpr ⟨_, set, .inr ⟨_, numeric, ?_⟩⟩
    exact writeBudget_fails.mpr ⟨_, same ▸ found, plain, rfl⟩

/-- Loading stops with a fault that is not of the settings' own kind in these cases only, and in all of
them: a file that is no UTF-8, or that holds a whole number too long to be read, a section that is no
object, and a budget in the environment that is too large or has nowhere to go. -/
theorem load_strays_iff {s : Sources} (document : ∀ d ∈ s.document, d.isObject = true)
    (overrides : ∀ d ∈ s.overrides, d.isObject = true) {fault : Fault} :
    Faults (load s) () fault () ∧ fault.kind? ≠ some .settings ↔ Strays s fault := by
  constructor
  · rintro ⟨fails, other⟩
    exact (loaded_strays document overrides ((load_answer s).symm.trans fails.1)).resolve_left other
  · intro strays
    refine ⟨⟨(load_answer s).trans (strays.loaded document), rfl⟩, ?_⟩
    rw [strays.kind]
    nofun

def brokenFile : Sources where
  file := some ⟨"relay.toml", some [0xff]⟩

def numberForSection : Sources where
  document := some (.object [("relay", .int 5)])

theorem broken_sources_stray :
    Faults (load brokenFile) () (.undecodableSettings ⟨0, 1, 0xff, .startByte⟩) () ∧
      Faults (load numberForSection) () (.notAnObject "int" "items") () := by
  have readable : Readable numberForSection := by rintro _ ⟨⟩
  have first : (lowerLayers numberForSection).find? (!·.isObject) = some (.int 5) := rfl
  constructor
  · refine ((load_strays_iff ?_ ?_).mpr (.file rfl rfl (.encoding rfl))).1
    all_goals rintro _ ⟨⟩
  · refine ((load_strays_iff ?_ ?_).mpr (.noSection readable first)).1
    all_goals rintro _ ⟨⟩
    rfl

end Settings
end Switchboard
