import Switchboard.Catalog.Model

/-!
What a request needs of the model that serves it.
-/

namespace Switchboard

structure Task where
  reasoning : Bool := false
  creativity : Bool := false
  speed : Bool := false
  toolUse : Bool := false
  multimodal : Bool := false
  math : Bool := false
  multilingual : Bool := false
  /-- Tokens of context; never zero in a task that was read. -/
  contextLength : Nat := 4000
  /-- Dollars that the request may cost. -/
  maxBudget : Option Float := none
  kind : String := "general"
deriving Inhabited

namespace Task

def asksFor (t : Task) : Dimension → Bool
  | .reasoning => t.reasoning
  | .creativity => t.creativity
  | .speed => t.speed
  | .toolUse => t.toolUse
  | .multimodal => t.multimodal
  | .math => t.math
  | .multilingual => t.multilingual

open Reader in
def reader : Reader Task := record "TaskRequirements" fun fs =>
  Task.mk <$> field "requires_reasoning" bool false fs
    <*> field "requires_creativity" bool false fs <*> field "requires_speed" bool false fs
    <*> field "requires_tool_use" bool false fs <*> field "requires_multimodal" bool false fs
    <*> field "requires_math" bool false fs <*> field "requires_multilingual" bool false fs
    <*> field "context_length" (nat [.above 0]) 4000 fs
    <*> field "max_budget" (optional (float [.above 0])) none fs
    <*> field "task_type" text "general" fs

def ofData : Data → Except Fault Task := reader.readFields .models "TaskRequirements"

def toData (t : Task) : Data := .object
  [("requires_reasoning", .bool t.reasoning), ("requires_creativity", .bool t.creativity),
    ("requires_speed", .bool t.speed), ("requires_tool_use", .bool t.toolUse),
    ("requires_multimodal", .bool t.multimodal), ("requires_math", .bool t.math),
    ("requires_multilingual", .bool t.multilingual), ("context_length", .int t.contextLength),
    ("max_budget", (t.maxBudget.map Data.float).getD .null), ("task_type", .text t.kind)]

def coreReasoning : Task :=
  { reasoning := true, creativity := true, contextLength := 16000, maxBudget := some 0.5
    kind := "core_reasoning" }

def commandNetwork : Task :=
  { reasoning := true, speed := true, toolUse := true, contextLength := 8000, maxBudget := some 0.2
    kind := "command_network" }

def realtimeVoice : Task :=
  { speed := true, contextLength := 4000, maxBudget := some 0.05, kind := "realtime_voice" }

def massiveContext : Task :=
  { reasoning := true, contextLength := 500000, maxBudget := some 1.0, kind := "massive_context" }

def preset? (name : String) : Option Task :=
  [coreReasoning, commandNetwork, realtimeVoice, massiveContext].find? (·.kind == name)

def presetOfData : Data → Except Fault Task
  | .text name => (preset? name).elim (.error (.unknownPreset name)) .ok
  | d => .error (.misfit (.notFieldName d.kindName))

end Task
end Switchboard
