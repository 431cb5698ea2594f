import Switchboard.Chat.Message
import Switchboard.Settings.Sections
import Switchboard.Spending.Report
import Switchboard.Task

/-!
The record types that data can be read into by title. Reading fills in defaults, so that a record
written back as data has all of its fields. What the catalog says about a model is sealed: the fields
of such a record do not change once it has been read.
-/

namespace Switchboard

structure Shape where
  title : String
  /-- Reads data and writes the record back in full. -/
  complete : Reader Data
  /-- The fields that hold doubles and nothing else. -/
  doubles : List String := []
  /-- The fields of such records do not change. -/
  isSealed : Bool := false

namespace Shape

def all : List Shape :=
  [{ title := "ModelCapabilities", complete := Reader.map Capabilities.toData Capabilities.reader
     doubles := ["reasoning", "creativity", "speed", "tool_use", "multimodal", "math", "multilingual"]
     isSealed := true },
    { title := "ModelPricing", complete := Reader.map Pricing.toData Pricing.reader
      doubles := ["input_per_million", "output_per_million"], isSealed := true },
    { title := "ModelDescriptor", complete := Reader.map Model.toData Model.reader, isSealed := true },
    { title := "TaskRequirements", complete := Reader.map Task.toData Task.reader },
    { title := "ChatMessage", complete := Reader.map Message.toData Message.reader },
    { title := "TransportResponse", complete := Reader.map Completion.toData Completion.reader },
    { title := "LLMResponse", complete := Reader.map Response.toData Response.reader
      doubles := ["cost", "response_time_ms"] },
    { title := "HealthThresholds", complete := Reader.map Thresholds.toData Thresholds.reader
      doubles := ["low_success_rate_threshold", "unavailable_cooldown_seconds", "latency_ema_weight",
        "slow_response_ms"] },
    { title := "BudgetWarning", complete := Reader.map BudgetWarning.toData BudgetWarning.reader },
    { title := "BudgetConfig", complete := Reader.map BudgetSettings.toData BudgetSettings.reader
      doubles := ["monthly_budget"] },
    { title := "HealthConfig", complete := Reader.map HealthSettings.toData HealthSettings.reader
      doubles := ["min_success_rate", "max_response_time_ms"] },
    { title := "LoggingConfig", complete := Reader.map JournalSettings.toData JournalSettings.reader },
    { title := "RelayConfig", complete := Reader.map Settings.toData Settings.reader }]

def named? (title : String) : Option Shape := all.find? (·.title == title)

def ofData (d : Data) : Except Fault Shape :=
  match d with
  | .text title => (named? title).elim (.error (.unknownKey d.quoted)) .ok
  | d => .error (if d.isKey then .unknownKey d.quoted else .unusableKey d.kindName)

def read (s : Shape) (d : Data) : Except Fault Data :=
  match s.complete d with
  | .good record => .ok record
  | .bad issues => .error (.invalid s.title issues)

/-! ### Changing a record -/

/-- What every record says about itself: which of its fields were given, and what was given beyond
them. -/
def readOnlyNames : List String := ["model_fields_set", "model_extra"]

/-- Writes a private note, which begins with an underscore and is no part of the record. A few notes
hold the record together and take a value of the right kind only, or none; one of them stands for all
of its fields. -/
def assignNote (s : Shape) (record : Data) (name : String) (v : Data) : Except Fault Data :=
  match name, v with
  | "__fields_set__", _ => .error (.readOnly s.title name)
  | "__fields__", _ => .error (.readOnly s.title name)
  | "__weakref__", _ => .error (.fixedNote s.title name)
  | "__class__", v => .error (.notClass v.kindName)
  | "__dict__", .object fs => .ok (.object fs)
  | "__dict__", v => .error (.notDictionary v.kindName)
  | _, _ => .ok record

/-- The record with another value in the field of this name. The value is not checked. -/
def assignField (s : Shape) (record : Data) (name : String) (v : Data) : Except Fault Data :=
  if name.startsWith "_" then s.assignNote record name v
  else if s.isSealed then .error (.invalid s.title [⟨[.key name], .sealed⟩])
  else if readOnlyNames.contains name then .error (.readOnly s.title name)
  else match record with
    | .object fs =>
      if Entries.contains fs name then .ok (.object (Entries.put fs name v))
      else .error (.unknownField s.title name)
    | _ => .error (.unknownField s.title name)

/-- The record with another value in a field, whose name has to be a text. -/
def assign (s : Shape) (record field v : Data) : Except Fault Data :=
  match field with
  | .text name => s.assignField record name v
  | d => .error (.misfit (.notFieldName d.kindName))

/-! ### Showing a record -/

/-- A value as a field shows it. A whole number in a field for doubles is shown as a double. -/
def shownValue (s : Shape) (name : String) (v : Data) : Except Fault Data :=
  match v with
  | .int n =>
    if s.doubles.contains name then
      match Binary64.ofInt? n with
      | some x => .ok (.float x)
      | none => .error .intTooLarge
    else .ok v
  | v => .ok v

def shownField (s : Shape) (after : List (String × Data)) (name : String) : Except Fault (String × Data) :=
  match Entries.get? after name with
  | some v => (name, ·) <$> s.shownValue name v
  | none => .error (.notAnObject s.title name)

/-- A changed record as it is shown: with the fields that it had before, all of which have to be there. -/
def shown (s : Shape) (before after : Data) : Except Fault Data :=
  match before, after with
  | .object old, .object new => Data.object <$> (old.map Prod.fst).mapM (s.shownField new)
  | _, d => .ok d

end Shape
end Switchboard
