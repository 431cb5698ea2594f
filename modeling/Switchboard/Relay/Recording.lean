import Switchboard.Relay.State

/-!
Recording what is told as untyped data. A model goes by a name, which is mostly its id; what is not set
is no name at all, and what cannot be a key is found out only when something is to be kept under it.
-/

namespace Switchboard.Relay

open Journal

variable {σ : Type}

/-- A model as it is told of: its name, and the key that the name is if it can be one. -/
structure Subject where
  name : Data
  handle : Except Fault Handle

namespace Subject

def of (serial : Nat) (name : Data) : Subject := ⟨name, Handle.ofData serial name⟩

/-- Nothing is kept under what is not set, whether it could be a key or not. -/
def recorded (s : Subject) : Except Fault Handle := if s.name.isSet then s.handle else .ok (.ofText "")

end Subject

def tellSuccess (s : Subject) (ms : Float) : Step (Relay σ) Unit :=
  match s.recorded with
  | .ok id => onMonitor (Monitor.recordSuccess id ms)
  | .error fault => do
    Step.write (Monitor.latencyEntries s.name.shown ms)
    Step.fail fault

def tellFailure (s : Subject) (error : Data) : Step (Relay σ) Unit := do
  let id ← Step.ofExcept s.recorded
  onMonitor (Monitor.recordFailure id error.shown)

/-- What is told as the price of a request: one that is known, or something that is none. -/
inductive Price where
  | known (p : Pricing)
  | other (d : Data)

/-- Some count of tokens is negative. The second is looked at only if the first is not. -/
def hasNegative (input output : Data) : Except Fault Bool := do
  if ← Argument.isNegative input then return true else Argument.isNegative output

/-- Records a cost under a name. Without a key the day's total grows, and the fault is found only then. -/
def chargeUnder (handle : Except Fault Handle) (input output : Number) (p : Pricing) :
    Step (Relay σ) Float :=
  match handle with
  | .ok id => onLedger (Ledger.record id input output (some p))
  | .error fault => do
    let cost ← Step.ofExcept (Ledger.costOf p input output)
    onLedger fun now => do
      Ledger.advance now
      Step.modify (·.addRequest cost)
    Step.fail fault

def charge (s : Subject) (input output : Data) (price : Price) : Step (Relay σ) Float := do
  let input ← Step.ofExcept (Argument.amount input)
  let output ← Step.ofExcept (Argument.amount output)
  match price with
  | .known p => chargeUnder s.handle input output p
  | .other d => do
    let _ ← Step.ofExcept input.toFloat
    Step.fail (.notAnObject d.kindName "input_per_million")

/-- Records the cost of a request and answers with it. Without an id or a price, or with a negative
count of tokens, nothing is recorded. -/
def tellCost (s : Subject) (input output : Data) (price : Option Price) : Step (Relay σ) Float :=
  match price.filter fun _ => s.name.isSet with
  | none => onLedger fun _ => Ledger.passOver s.name.quoted
  | some price => do
    if ← Step.ofExcept (hasNegative input output) then
      onLedger fun _ => Ledger.passOverNegative s.name.shown input.shown output.shown
    else charge s input output price

end Switchboard.Relay
