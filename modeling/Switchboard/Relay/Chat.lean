import Switchboard.Relay.State

/-!
A chat tries one model after the other until one answers. The first is the caller's preferred model
or the router's choice, the others follow in the order of the fallback chain; every outcome is
recorded before the next attempt begins.
-/

namespace Switchboard

open Journal

/-- What a caller asks for. -/
structure ChatRequest where
  messages : List MessageInput
  task : Task := {}
  /-- Handed to the transport as it is. -/
  temperature : Option Data := none
  /-- The name of the model to try first, if it is set and the catalog has such a model. -/
  preferred : Data := .null

namespace ChatRequest

/-- A single message of the user, answered with some freedom. -/
def prompt (text : String) (task : Task) : ChatRequest :=
  { messages := [.message ⟨.user, text⟩], task, temperature := some (.float 0.7) }

def documentInstruction : String :=
  "You are processing a document. Analyze and respond appropriately."

def document (text : String) (preferred : Data) (task : Task) (temperature : Option Data) : ChatRequest :=
  { messages := [.message ⟨.system, documentInstruction⟩, .message ⟨.user, text⟩]
    task, temperature, preferred }

end ChatRequest

/-- A chat under way. -/
structure Pending where
  messages : List Message
  temperature : Option Data
  /-- Models that were tried, in order. -/
  attempted : List String := []
  last : Option ProviderFailure := none
deriving Inhabited

def Pending.after (p : Pending) (m : Model) (f : ProviderFailure) : Pending :=
  { p with attempted := p.attempted ++ [m.id], last := some f }

/-- An attempt that is on its way. -/
structure Attempt where
  model : Model
  /-- The first attempt of a chat has number 1. -/
  number : Nat
  /-- The stopwatch when the attempt began. -/
  started : Float
  delivery : Delivery

namespace Relay

variable {σ : Type}

/-! ### Candidates -/

def coerceAll : List MessageInput → Except Fault (List Message)
  | [] => .ok []
  | m :: rest => do
    let message ← m.coerce
    let messages ← coerceAll rest
    return message :: messages

def routed (t : Task) : Step (Relay σ) Model := do
  let r ← Step.get
  let choice ← match r.router with
    | .fittest => onLedger fun now => Selection.route r.monitor t r.catalog.models now
    | .mute => pure none
  match choice with
  | some m => return m
  | none => Step.fail .noModels

/-- The model to try first. A name that is not set is no preference. -/
def primary (t : Task) (preferred : Data) : Step (Relay σ) Model := do
  if !preferred.isSet then routed t
  else
    let r ← Step.get
    match ← Step.ofExcept (r.catalog.named? preferred) with
    | some m => return m
    | none =>
      Step.write [Channel.relay.warning
        s!"Preferred provider '{preferred.shown}' not in catalog, routing instead"]
      routed t

def candidates (t : Task) (preferred : Data) : Step (Relay σ) (List Model) := do
  let first ← primary t preferred
  let r ← Step.get
  let others ← query fun monitor now => Selection.fallbackChain monitor first r.catalog.models now
  return first :: others

/-- Begins a chat: reads its messages, settles whom to try and counts the request. -/
def begin (q : ChatRequest) : Step (Relay σ) (List Model × Pending) := do
  let messages ← Step.ofExcept (coerceAll q.messages)
  let models ← candidates q.task q.preferred
  Step.write [Channel.relay.info s!"Attempting request with {models.length} models in fallback chain"]
  count fun c => { c with requests := c.requests + 1 }
  return (models, { messages, temperature := q.temperature })

/-! ### Attempts -/

def dispatch (t : Transport σ) (m : Model) (p : Pending) : Step (Relay σ) Attempt := do
  let number := p.attempted.length + 1
  Step.write [Channel.relay.debug s!"Attempt {number}: trying model {m.id}"]
  let r ← Step.get
  let (delivery, line) := t.send r.line m.id p.messages p.temperature
  Step.put { r with line, sends := r.sends ++ [⟨m.id, p.messages, p.temperature⟩] }
  return ⟨m, number, r.clock.stopwatch, delivery⟩

/-- Lets the time of a delivery pass. The clock cannot run past the end of the calendar. -/
def elapse (d : Delivery) : Step (Relay σ) (Option Fault) := fun r =>
  let clock := { r.clock with stopwatch := r.clock.stopwatch + d.latency }
  match clock.now.later d.elapsed with
  | .ok now => ⟨.ok none, { r with clock := { clock with now } }, []⟩
  | .error fault => ⟨.ok (some fault), { r with clock }, []⟩

/-- What a delivery comes to once its time has passed. -/
def outcome (d : Delivery) (late : Option Fault) : Except Failure Completion :=
  match late with
  | some fault => .error (.ofFault fault)
  | none => d.result.bind Reply.complete

/-- How a failure is reported: a failure that says nothing is reported by its kind. That the caller
gave up is no failure of the model and ends the chat. -/
def report (model : String) : Failure → Except Fault ProviderFailure
  | .provider f => .ok f
  | .other kind text => .ok ⟨.text model, .text (if text.isEmpty then kind else text)⟩
  | .cancelled text => .error (.cancelled text)

def settleFailure (a : Attempt) (f : ProviderFailure) : Step (Relay σ) Unit := do
  onMonitor (Monitor.recordFailure a.model.handle f.detail.shown)
  Step.write [Channel.relay.warning s!"Model {a.model.id} failed (attempt {a.number}): {f.detail.shown}"]

def settleSuccess (a : Attempt) (c : Completion) : Step (Relay σ) Response := do
  let r ← Step.get
  let ms := (r.clock.stopwatch - a.started) * 1000.0
  onMonitor (Monitor.recordSuccess a.model.handle ms)
  let cost ← onLedger (Ledger.record a.model.handle c.inputTokens c.outputTokens (some a.model.pricing))
  count fun k =>
    if a.number = 1 then { k with byPrimary := k.byPrimary + 1 }
    else { k with byFallback := k.byFallback + 1 }
  Step.write [Channel.relay.info
    s!"Success with model {a.model.id} (attempt {a.number}): ${Decimal.fixed 4 cost}, {Decimal.fixed 2 ms}ms"]
  return { content := c.content, model := a.model.id, inputTokens := c.inputTokens
           outputTokens := c.outputTokens, cost, responseMs := ms, attempts := a.number }

/-- Brings an attempt to its end: an answer, or a failure after which the next model is tried. -/
def settle (a : Attempt) : Step (Relay σ) (Except ProviderFailure Response) := do
  let late ← elapse a.delivery
  match outcome a.delivery late with
  | .ok c => .ok <$> settleSuccess a c
  | .error failure => do
    let f ← Step.ofExcept (report a.model.id failure)
    settleFailure a f
    return .error f

def exhaust {α : Type} (p : Pending) : Step (Relay σ) α := do
  count fun c => { c with exhausted := c.exhausted + 1 }
  Step.write [Channel.relay.error s!"All {p.attempted.length} models failed"]
  Step.fail (.exhausted { last := p.last, attempted := p.attempted })

def tryAll (t : Transport σ) : List Model → Pending → Step (Relay σ) Response
  | [], p => exhaust p
  | m :: rest, p => do
    let a ← dispatch t m p
    match ← settle a with
    | .ok response => return response
    | .error f => tryAll t rest (p.after m f)

def chat (t : Transport σ) (q : ChatRequest) : Step (Relay σ) Response := do
  let (models, p) ← begin q
  tryAll t models p

end Relay
end Switchboard
