import Switchboard.Relay.Chat
import Switchboard.Relay.Recording

/-!
Requests as data. Models go by reference: an id is looked up in the catalog, anything else is read as a
model. Tasks go by the name of a prepared one or by their fields, messages by their parts or fields.
-/

namespace Switchboard.Request

/-! ### Models -/

/-- A model by reference; an id may lead nowhere. -/
def model? (c : Catalog) : Data → Except Fault (Option Model)
  | .text id => .ok (c.byId? id)
  | d => some <$> Model.ofData d

/-- A model that has to be there; `wanted` is what is looked at first in it. -/
def present (wanted : String) : Option Model → Except Fault Model
  | some m => .ok m
  | none => .error (.notAnObject Data.null.kindName wanted)

def model (c : Catalog) (wanted : String) (d : Data) : Except Fault Model := do
  present wanted (← model? c d)

/-- Models by reference, the whole catalog by default. -/
def models? (c : Catalog) : Data → Except Fault (List (Option Model))
  | .null => .ok (c.models.map some)
  | d => do (← Argument.items d).mapM (model? c)

def models (c : Catalog) (wanted : String) (d : Data) : Except Fault (List Model) := do
  (← models? c d).mapM (present wanted)

/-- What ranking looks at first in a model. -/
def rankedBy (t : Task) : String := if (Fitness.wanted t).isEmpty then "context_length" else "capabilities"

/-- What a model can do for a task. A task that asks for nothing does not look at the model. -/
def capability (t : Task) : Option Model → Except Fault Float
  | some m => .ok (Fitness.capabilityScore m t)
  | none => if (Fitness.wanted t).isEmpty then .ok Fitness.middling
    else .error (.notAnObject Data.null.kindName "capabilities")

/-- The models behind a first one, which is looked at only if there are any to choose from. -/
def fallbackChain (monitor : Monitor) (primary : Option Model) (models : List Model) (now : Instant) :
    Except Fault (List Model) := do
  match primary, ← monitor.filterAvailable now models with
  | some m, _ => Selection.fallbackChain monitor m models now
  | none, [] => return []
  | none, _ => throw (.notAnObject Data.null.kindName "id")

def phrase : Data → Except Fault String
  | .text s => .ok s
  | d => .error (.notAnObject d.kindName "lower")

/-- What is told as a price: the id of a model that has one, or prices by their fields. What is not set
is taken as it is. -/
def price (c : Catalog) : Data → Except Fault (Option Relay.Price)
  | .null => .ok none
  | .text id => (fun m => some (.known m.pricing)) <$> model c "pricing" (.text id)
  | d => if d.isSet then (fun p => some (.known p)) <$> Pricing.ofData d else .ok (some (.other d))

/-- Counts of tokens. What is wrong with the first is found before the second is looked at. -/
def tokens (input output : Data) : Except Fault (Number × Number) := do
  let first ← Argument.amount input
  let _ ← first.toFloat
  return (first, ← Argument.amount output)

/-! ### Chats -/

def task : Data → Except Fault Task
  | .null => .ok {}
  | .text name => Task.presetOfData (.text name)
  | d => Task.ofData d

def message : Data → Except Fault MessageInput
  | .object fs => MessageInput.message <$> Message.ofData (.object fs)
  | d => .ok (.parts d)

def greeting : Data := .list [.list [.text "user", .text "hello"]]

def given : Data → Option Data
  | .null => none
  | d => some d

/-- A message of the user. -/
def userMessage (content : Data) : Except Fault Message :=
  Message.ofData (.object [("role", .text Role.user.name), ("content", content)])

def chat (messages temperature preferred : Data) (task : Task) : Except Fault ChatRequest := do
  let messages ← (← Argument.items messages).mapM message
  return { messages, task, temperature := given temperature, preferred }

def prompt (text : Data) (task : Task) : Except Fault ChatRequest := do
  let m ← userMessage text
  return .prompt m.content task

def document (text temperature preferred : Data) (task : Task) : Except Fault ChatRequest := do
  let m ← userMessage text
  return .document m.content preferred task (given temperature)

end Switchboard.Request
