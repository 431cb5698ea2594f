import Switchboard.Key

/-!
What the catalog says about a model: its strengths, its price, how much context it takes and how
much it is preferred.
-/

namespace Switchboard

/-- A kind of ability that a task can ask for. -/
inductive Dimension where
  | reasoning
  | creativity
  | speed
  | toolUse
  | multimodal
  | math
  | multilingual
deriving DecidableEq, Repr

namespace Dimension

/-- Every dimension, in the order in which scores are added up. -/
def all : List Dimension := [reasoning, creativity, speed, toolUse, multimodal, math, multilingual]

end Dimension

/-- Strength in each dimension, between 0 and 1. -/
structure Capabilities where
  reasoning : Float := 0.5
  creativity : Float := 0.5
  speed : Float := 0.5
  toolUse : Float := 0.5
  multimodal : Float := 0.0
  math : Float := 0.5
  multilingual : Float := 0.5
deriving Inhabited

namespace Capabilities

def strength (c : Capabilities) : Dimension → Float
  | .reasoning => c.reasoning
  | .creativity => c.creativity
  | .speed => c.speed
  | .toolUse => c.toolUse
  | .multimodal => c.multimodal
  | .math => c.math
  | .multilingual => c.multilingual

open Reader in
def reader : Reader Capabilities := record "ModelCapabilities" fun fs =>
  Capabilities.mk <$> field "reasoning" share 0.5 fs <*> field "creativity" share 0.5 fs
    <*> field "speed" share 0.5 fs <*> field "tool_use" share 0.5 fs
    <*> field "multimodal" share 0.0 fs <*> field "math" share 0.5 fs
    <*> field "multilingual" share 0.5 fs

def toData (c : Capabilities) : Data := .object
  [("reasoning", .float c.reasoning), ("creativity", .float c.creativity), ("speed", .float c.speed),
    ("tool_use", .float c.toolUse), ("multimodal", .float c.multimodal), ("math", .float c.math),
    ("multilingual", .float c.multilingual)]

end Capabilities

/-- Dollars per million tokens. -/
structure Pricing where
  input : Float
  output : Float
deriving Inhabited

namespace Pricing

/-- The price of some tokens at a rate per million. -/
def charge (tokens : Number) (rate : Float) : Except Fault Float := do
  let n ← tokens.toFloat
  return n / 1000000.0 * rate

def estimate (p : Pricing) (inputTokens outputTokens : Number) : Except Fault Float := do
  let input ← charge inputTokens p.input
  let output ← charge outputTokens p.output
  return input + output

open Reader in
def reader : Reader Pricing := record "ModelPricing" fun fs =>
  Pricing.mk <$> required "input_per_million" (float [.atLeast 0]) fs
    <*> required "output_per_million" (float [.atLeast 0]) fs

def ofData : Data → Except Fault Pricing := reader.readFields .models "ModelPricing"

def toData (p : Pricing) : Data := .object
  [("input_per_million", .float p.input), ("output_per_million", .float p.output)]

end Pricing

/-- One entry of the catalog. -/
structure Model where
  id : String
  name : String := ""
  contextLength : Nat
  capabilities : Capabilities := {}
  pricing : Pricing
  useCases : List String := []
  /-- From 1, preferred, to 10. -/
  tier : Nat := 5
  available : Bool := true
deriving Inhabited

namespace Model

open Reader in
def reader : Reader Model := record "ModelDescriptor" fun fs =>
  Model.mk <$> required "id" someText fs <*> field "name" text "" fs
    <*> required "context_length" (nat [.atLeast 0]) fs
    <*> field "capabilities" Capabilities.reader {} fs
    <*> required "pricing" Pricing.reader fs
    <*> field "use_cases" (list text) [] fs
    <*> field "priority_tier" (nat [.atMost 10, .atLeast 1]) 5 fs
    <*> field "available" bool true fs

def ofData : Data → Except Fault Model := reader.readFields .models "ModelDescriptor"

def toData (m : Model) : Data := .object
  [("id", .text m.id), ("name", .text m.name), ("context_length", .int m.contextLength),
    ("capabilities", m.capabilities.toData), ("pricing", m.pricing.toData),
    ("use_cases", .list (m.useCases.map .text)), ("priority_tier", .int m.tier),
    ("available", .bool m.available)]

def handle (m : Model) : Handle := .ofText m.id

def key (m : Model) : Key := m.handle.key

def mentions (m : Model) (phrase : String) : Bool :=
  let needle := (Text.lowercase phrase).toList
  m.useCases.any fun u => Text.isWithin needle (Text.lowercase u).toList

end Model
end Switchboard
