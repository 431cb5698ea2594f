import Switchboard.Calendar.MomentFlaw
import Switchboard.Fault.Misfit
import Switchboard.Journal.Entry
import Switchboard.Journal.Storage
import Switchboard.Journal.Template
import Switchboard.Reading
import Switchboard.Text.Utf8

/-!
Everything that can stop an operation, by cause. `Fault.message` words it.
-/

namespace Switchboard

/-- A failed attempt as the relay reports it: who failed and why, both as they were told. -/
structure ProviderFailure where
  provider : Data := .text "Unknown"
  detail : Data := .text "Provider error."

def ProviderFailure.message (f : ProviderFailure) : String :=
  s!"Error with provider '{f.provider.shown}': {f.detail.shown}"

/-- The report on a chat in which no candidate succeeded. -/
structure Exhaustion where
  last : Option ProviderFailure := none
  attempted : List String := []
  headline : String := "All models failed."

def Exhaustion.wording (headline attempted : String) (last : Option String) : String :=
  let tail := match last with
    | some failure => s!" Last error: {failure}"
    | none => ""
  s!"{headline} Attempted: {attempted}." ++ tail

def Exhaustion.message (e : Exhaustion) : String :=
  wording e.headline (Text.quotedList e.attempted) (e.last.map ProviderFailure.message)

inductive Fault where
  /-- A whole number lies beyond the doubles. -/
  | intTooLarge
  /-- A quotient of whole numbers lies beyond the doubles. -/
  | quotientTooLarge
  /-- A time span has too many days. -/
  | spanTooLong (days : Int)
  /-- A time span has more days than a machine word counts. -/
  | spanUncountable
  /-- A whole number was to be made of an infinity. -/
  | infiniteNumber
  /-- A moment before the first or after the last year of the calendar. -/
  | dateOutOfRange
  /-- A moment with an offset and one without cannot be compared. -/
  | mixedMoments
  /-- A text that is no moment. -/
  | notMoment (written : String) (flaw : MomentFlaw)
  /-- Something other than an object was to be merged or searched. -/
  | notAnObject (found wanted : String)
  /-- A setting was to be written into something other than an object. -/
  | notWritable (found : Data)
  /-- What should have two parts has none at all. -/
  | notIterable (found : String)
  /-- There are fewer than two parts. -/
  | tooFewParts (found : Nat)
  /-- There are more than two parts. -/
  | tooManyParts
  /-- What was to be gone through, such as a catalog entry, has no items. -/
  | noItems (found : String)
  | pairNotIterable (position : Nat)
  | pairLength (position length : Nat)
  | unusableKey (found : String)
  /-- An argument is of the wrong kind. -/
  | misfit (m : Misfit)
  /-- A text that is no number. -/
  | numberUnreadable (written : String)
  /-- A text that is no whole number. -/
  | wholeUnreadable (written : String)
  /-- A whole number was to be made of the undefined number. -/
  | undefinedNumber
  /-- Nothing is kept under a key. -/
  | unknownKey (cited : String)
  /-- A list has nothing at a place. -/
  | noPlace
  /-- No kind of fault has this name. -/
  | unknownKind (name : String)
  /-- No prepared task has this name. -/
  | unknownPreset (name : String)
  /-- Data that a record of this title cannot be read from. -/
  | invalid (title : String) (issues : List Issue)
  | invalidEntry (position : Nat) (issues : List Issue)
  | invalidSettings (issues : List Issue)
  | unreadableSettings (path problem : String)
  | undecodableSettings (flaw : Text.Utf8.Flaw)
  /-- A whole number has too many digits to be read. -/
  | integerTooLong (digits : Nat)
  /-- Bytes were to be read from what is no hexadecimal digit at a place. -/
  | notHexDigit (place : Nat)
  | duplicateModel (id : String)
  | noModels
  | negativeBudget (amount : Float)
  | notRole (cited : String)
  | unknownField (title field : String)
  /-- What a record says about itself cannot be written. -/
  | readOnly (title field : String)
  /-- What is kept about a record cannot be written. -/
  | fixedNote (title name : String)
  /-- The class of a record was to be something else than a class. -/
  | notClass (found : String)
  /-- The fields of a record were to be something else than an object. -/
  | notDictionary (found : String)
  /-- A line format that mentions no field. -/
  | invalidPattern (pattern : String)
  /-- A template for the name of a journal file that cannot be written out. -/
  | unusableFileName (problem : Journal.Template.Problem)
  /-- The name of a home that there is not. -/
  | unknownHome
  | storage (error : Journal.StorageError)
  /-- An entry was to carry a field of its own under a name that every entry uses. -/
  | reservedField (name : String)
  /-- A fault of a kind was to be made with an argument that the kind does not know. -/
  | unexpectedArgument (kind name : String)
  | exhausted (report : Exhaustion)
  /-- The caller gave up while an attempt was under way. -/
  | cancelled (text : String)

namespace Fault

def preamble : Fault → String
  | invalidEntry i _ => s!"Invalid catalog entry #{i}: "
  | invalidSettings _ => "Invalid relay configuration: "
  | _ => ""

/-- The title of the record that could not be read, with the issues found. -/
def issues? : Fault → Option (String × List Issue)
  | invalid title issues => some (title, issues)
  | invalidEntry _ issues => some ("ModelDescriptor", issues)
  | invalidSettings issues => some ("RelayConfig", issues)
  | _ => none

def message (f : Fault) : String :=
  match f with
  | intTooLarge => "int too large to convert to float"
  | quotientTooLarge => "integer division result too large for a float"
  | spanTooLong days => s!"days={days}; must have magnitude <= 999999999"
  | spanUncountable => "Python int too large to convert to C int"
  | infiniteNumber => "cannot convert float infinity to integer"
  | dateOutOfRange => "date value out of range"
  | mixedMoments => "can't subtract offset-naive and offset-aware datetimes"
  | notMoment written flaw => flaw.message written
  | notAnObject found wanted => s!"'{found}' object has no attribute '{wanted}'"
  | notWritable (.list _) => "list indices must be integers or slices, not str"
  | notWritable found => s!"'{found.kindName}' object does not support item assignment"
  | notIterable found => s!"cannot unpack non-iterable {found} object"
  | tooFewParts n => s!"not enough values to unpack (expected 2, got {n})"
  | tooManyParts => "too many values to unpack (expected 2)"
  | noItems found => s!"'{found}' object is not iterable"
  | pairNotIterable i => s!"cannot convert dictionary update sequence element #{i} to a sequence"
  | pairLength i n => s!"dictionary update sequence element #{i} has length {n}; 2 is required"
  | unusableKey found => s!"unhashable type: '{found}'"
  | misfit m => m.message
  | numberUnreadable written => s!"could not convert string to float: {Text.quoted written}"
  | wholeUnreadable written =>
    s!"invalid literal for int() with base 10: {String.ofList ((Text.quoted written).toList.take 200)}"
  | undefinedNumber => "cannot convert float NaN to integer"
  | unknownKey cited => cited
  | noPlace => "list index out of range"
  | unknownKind name => s!"module 'llmrelay.exceptions' has no attribute '{name}'"
  | unknownPreset name => name
  | invalid title issues => Issue.report title issues
  | invalidEntry _ issues => f.preamble ++ Issue.report "ModelDescriptor" issues
  | invalidSettings issues => f.preamble ++ Issue.report "RelayConfig" issues
  | unreadableSettings path problem => s!"Failed to parse relay config {path}: {problem}"
  | undecodableSettings flaw => flaw.message
  | integerTooLong digits =>
    s!"Exceeds the limit (4300 digits) for integer string conversion: value has {digits} digits; use sys.set_int_max_str_digits() to increase the limit"
  | notHexDigit place => s!"non-hexadecimal number found in fromhex() arg at position {place}"
  | duplicateModel id => s!"Duplicate model id in catalog: '{id}'"
  | noModels => "No models are registered in the catalog."
  | negativeBudget amount => s!"monthly_budget must be non-negative, got {Decimal.text amount}"
  | notRole cited => s!"{cited} is not a valid Role"
  | unknownField title field => s!"\"{title}\" object has no field \"{field}\""
  | readOnly title field => s!"property '{field}' of '{title}' object has no setter"
  | fixedNote title name => s!"attribute '{name}' of '{title}' objects is not writable"
  | notClass found => s!"__class__ must be set to a class, not '{found}' object"
  | notDictionary found => s!"__dict__ must be set to a dictionary, not a '{found}'"
  | invalidPattern pattern => s!"Invalid format '{pattern}' for '%' style"
  | unusableFileName problem => problem.message
  | unknownHome => "Could not determine home directory."
  | storage error => error.message
  | reservedField name => Text.quoted s!"Attempt to overwrite {Text.quoted name} in LogRecord"
  | unexpectedArgument kind name => s!"{kind}.__init__() got an unexpected keyword argument '{name}'"
  | exhausted report => report.message
  | cancelled text => text

end Fault

/-- The parts of this library in which record types are at home. -/
inductive Home where
  | models
  | settings
  | health
  | faults
deriving DecidableEq, Repr

def Home.name : Home → String
  | models => "llmrelay.models"
  | settings => Journal.Channel.settings.name
  | health => Journal.Channel.health.name
  | faults => "llmrelay.exceptions"

/-- Reads a record of the given title from the fields that are handed over for it. -/
def Reader.readFields {α : Type} (home : Home) (title : String) (r : Reader α) (d : Data) :
    Except Fault α :=
  match d, r d with
  | .object _, .good a => .ok a
  | .object _, .bad issues => .error (.invalid title issues)
  | d, _ => .error (.misfit (.noFields s!"{home.name}.{title}" d.kindName))

end Switchboard
