import Switchboard.Proofs.Numeral
import Switchboard.Proofs.Settings.Refusal

/-!
Text settings from the environment. What a variable holds is taken for a flag or a number wherever it can be,
before anything is known of the setting it is for, and a text setting takes neither. So a text comes through
as it is if it is no flag and no number, and is refused otherwise.
-/

namespace Switchboard

open Reader Reading Step

/-- The settings of the journal that are texts. -/
inductive TextSetting where
  | consoleLevel
  | consolePattern
  | fileLevel
  | fileDirectory
  | fileName
  | filePattern
  | displayLevel
deriving DecidableEq, Repr

namespace TextSetting

def key : TextSetting → String
  | consoleLevel => "console_level"
  | consolePattern => "console_format"
  | fileLevel => "file_level"
  | fileDirectory => "file_directory"
  | fileName => "file_name"
  | filePattern => "file_format"
  | displayLevel => "display_min_level"

/-- The variable that the setting is taken from. -/
def variableName (f : TextSetting) : String := Settings.variablePrefix ++ "LOGGING__" ++ f.key.map Char.toUpper

def of (s : JournalSettings) : TextSetting → String
  | consoleLevel => s.consoleLevel
  | consolePattern => s.consolePattern
  | fileLevel => s.fileLevel
  | fileDirectory => s.fileDirectory
  | fileName => s.fileName
  | filePattern => s.filePattern
  | displayLevel => s.displayLevel

def put (s : JournalSettings) (text : String) : TextSetting → JournalSettings
  | consoleLevel => { s with consoleLevel := text }
  | consolePattern => { s with consolePattern := text }
  | fileLevel => { s with fileLevel := text }
  | fileDirectory => { s with fileDirectory := text }
  | fileName => { s with fileName := text }
  | filePattern => { s with filePattern := text }
  | displayLevel => { s with displayLevel := text }

theorem of_put (s : JournalSettings) (text : String) (f : TextSetting) : of (put s text f) f = text := by
  cases f <;> rfl

theorem path?_variableName (f : TextSetting) : Settings.path? f.variableName = some ["logging", f.key] := by
  cases f <;> decide +kernel

/-! ### Reading one setting -/

theorem reader_single (f : TextSetting) (d : Data) : JournalSettings.reader (.object [(f.key, d)]) =
    ((text d).under (.key f.key)).map (put {} · f) := by
  cases f <;>
    simp only [JournalSettings.reader, record, field, Entries.get?, key, String.reduceEq, ↓reduceIte] <;>
    cases text d <;> rfl

end TextSetting

namespace Settings

theorem reader_journal (d : Data) : reader (.object [("logging", d)]) =
    ((JournalSettings.reader d).under (.key "logging")).map fun journal => { journal } := by
  simp only [reader, record, field, Entries.get?, String.reduceEq, ↓reduceIte]
  cases JournalSettings.reader d <;> rfl

theorem load_variable {name : String} {path : List String} (named : path? name = some path) (value : String) :
    (load { environment := [(name, value)] } ()).answer = ofFields (write [] path (valueOf value)) := by
  have other : name ≠ budgetVariable := by
    rintro rfl
    have unnamed : path? budgetVariable = none := by decide +kernel
    cases unnamed.symm.trans named
  have unset : Entries.get? [(name, value)] budgetVariable = none := if_neg other
  have budget : withBudget [] [(name, value)] = .ok [] := by
    rw [withBudget, budgetText?, unset]
    rfl
  have written : overlayVariables [] [(name, value)] = write [] path (valueOf value) := by
    rw [overlayVariables, List.foldl_cons, named]
    rfl
  rw [load_answer]
  change (withBudget [] [(name, value)] >>= fun fields => ofFields (overlayVariables fields _)) = _
  rw [budget]
  exact congrArg ofFields written

/-! ### What a text is taken for -/

/-- The text is a flag or a number to whoever does not know what it is for. -/
def Recognised (s : String) : Prop := Text.lowercase s ∈ ["true", "false"] ∨ Numeral.Written s

instance (s : String) : Decidable (Recognised s) := inferInstanceAs (Decidable (_ ∨ _))

theorem valueOf_unrecognised {s : String} (other : ¬Recognised s) : valueOf s = .text s := by
  obtain ⟨flag, number⟩ := not_or.mp other
  obtain ⟨yes, no⟩ := not_or.mp (mt List.mem_pair.mpr flag)
  have float : Numeral.anyFloat? s = none := by
    rw [← Option.not_isSome_iff_eq_none, Numeral.anyFloat?_isSome_iff]
    exact number
  have int : Numeral.anyInt? s = none :=
    Option.eq_none_iff_forall_ne_some.mpr fun n read => number (Numeral.written_of_anyInt? read)
  simp [valueOf, yes, no, int, float]

theorem text_recognised {s : String} (recognised : Recognised s) : text (valueOf s) = flaw .notText := by
  unfold valueOf
  dsimp only
  split
  · rfl
  · split
    · rfl
    · split
      · rfl
      · rename_i yes no _ _
        have flag : Text.lowercase s ∉ ["true", "false"] := by
          rw [List.mem_pair, not_or]
          exact ⟨mt beq_iff_eq.mpr yes, mt beq_iff_eq.mpr no⟩
        have written : Numeral.Written s := recognised.resolve_left flag
        obtain ⟨x, read⟩ := Option.isSome_iff_exists.mp ((Numeral.anyFloat?_isSome_iff s).mpr written)
        rw [read]
        rfl

/-! ### Loading one text setting -/

theorem ofFields_text (f : TextSetting) {d : Data} {s : String} (read : text d = .good s) :
    ofFields [("logging", .object [(f.key, d)])] = .ok { journal := TextSetting.put {} s f } := by
  rw [ofFields, reader_journal, TextSetting.reader_single, read]
  rfl

theorem ofFields_notText (f : TextSetting) {d : Data} (read : text d = flaw .notText) :
    ofFields [("logging", .object [(f.key, d)])] =
      .error (.invalidSettings [⟨[.key "logging", .key f.key], .notText⟩]) := by
  rw [ofFields, reader_journal, TextSetting.reader_single, read]
  rfl

theorem load_text (f : TextSetting) (s : String) :
    (load { environment := [(f.variableName, s)] } ()).answer =
      if Recognised s then .error (.invalidSettings [⟨[.key "logging", .key f.key], .notText⟩])
      else .ok { journal := TextSetting.put {} s f } := by
  rw [load_variable f.path?_variableName]
  change ofFields [("logging", .object [(f.key, valueOf s)])] = _
  split
  · rename_i recognised
    exact ofFields_notText f (text_recognised recognised)
  · rename_i other
    rw [valueOf_unrecognised other]
    exact ofFields_text f rfl

/-- A text setting that a variable alone is for comes through as it is if and only if its text is no flag and
no number. All other settings have their defaults then; otherwise this one is refused and no other. -/
theorem text_setting_kept_iff (f : TextSetting) (s : String) :
    ((∃ settings, Answers (load { environment := [(f.variableName, s)] }) () settings () ∧
        TextSetting.of settings.journal f = s) ↔ ¬Recognised s) ∧
      (load { environment := [(f.variableName, s)] } ()).answer =
        if Recognised s then .error (.invalidSettings [⟨[.key "logging", .key f.key], .notText⟩])
        else .ok { journal := TextSetting.put {} s f } := by
  have loads := load_text f s
  refine ⟨⟨?kept, ?passes⟩, loads⟩
  case kept =>
    rintro ⟨settings, answers, -⟩ recognised
    rw [if_pos recognised, answers.1] at loads
    cases loads
  case passes =>
    intro other
    rw [if_neg other] at loads
    exact ⟨_, ⟨loads, rfl⟩, TextSetting.of_put {} s f⟩

/-- A file name that is a year is refused. -/
theorem year_is_no_file_name : TextSetting.fileName.variableName = "LLMRELAY__LOGGING__FILE_NAME" ∧
    ¬∃ settings, Answers (load { environment := [("LLMRELAY__LOGGING__FILE_NAME", "2024")] }) () settings () ∧
      TextSetting.of settings.journal .fileName = "2024" := by
  have refused : (load { environment := [("LLMRELAY__LOGGING__FILE_NAME", "2024")] } ()).answer.isOk = false := by
    decide +kernel
  refine ⟨by decide +kernel, ?_⟩
  rintro ⟨settings, answers, -⟩
  rw [answers.1] at refused
  cases refused

end Settings
end Switchboard
