import Switchboard.Chat.Message

/-!
Transports carry a chat to one model and bring back a completion or a failure. A transport is a
machine with a state of its own, so that everything it may do, now and on later sends, is a value
that can be quantified over. Suspensions and the time that passes are part of what a send delivers.
-/

namespace Switchboard

/-- What a send returns: a completion, or a value that has yet to be read as one. -/
inductive Reply where
  | completion (c : Completion)
  | value (d : Data)

/-- How a send fails. -/
inductive Failure where
  /-- The transport itself names a provider and a reason. -/
  | provider (f : ProviderFailure)
  /-- Any other failure: its kind and what it says. -/
  | other (kind text : String)
  /-- The caller gave up. -/
  | cancelled (text : String)

/-- A fault on the way is a failure that says what the fault says. -/
def Failure.ofFault (f : Fault) : Failure := .other "" f.message

/-- What a send comes to: how often it lets other chats go on, how much time passes on the stopwatch
in seconds and on the clock in microseconds, and the result. -/
structure Delivery where
  suspensions : Nat := 0
  latency : Float := 0.0
  elapsed : Int := 0
  result : Except Failure Reply

structure Transport (σ : Type) where
  name : String
  send : σ → (model : String) → List Message → (temperature : Option Data) → Delivery × σ

namespace Reply

/-- A reply as a completion; a value that is none is a failure. -/
def complete : Reply → Except Failure Completion
  | completion c => .ok c
  | value d => match Completion.reader d with
    | .good c => .ok c
    | .bad issues => .error (.other "ValidationError" (Issue.report "TransportResponse" issues))

end Reply

namespace Transport

variable {σ : Type}

/-- A transport that reads the values it gets before it hands them on. -/
def checked (t : Transport σ) : Transport σ :=
  { t with
    send := fun s model messages temperature =>
      let (d, s') := t.send s model messages temperature
      ({ d with result := d.result.bind fun r => Reply.completion <$> r.complete }, s') }

end Transport

/-! ### Scripted transports -/

/-- What a scripted send does in the end. -/
inductive Act where
  | fail (f : Failure)
  | give (d : Data)
  /-- A completion read from these data, the standard one without any. -/
  | complete (d : Option Data)

/-- One prepared send. -/
structure Cue where
  suspensions : Nat := 0
  latency : Float := 0.0
  elapsed : Int := 0
  act : Act := .complete none

/-- Prepared sends by model; those under the star serve models without any of their own. -/
abbrev Script := Entries String (List Cue)

namespace Script

/-- The last cue of a list stays for the sends to come. -/
def keepLast : List Cue → List Cue
  | [] => []
  | [c] => [c]
  | _ :: rest => rest

/-- The key under which the cues of a model are found: its own if any cue stands there. -/
def keyFor (s : Script) (model : String) : String :=
  if (Entries.get? s model).any (!·.isEmpty) then model else "*"

def next (s : Script) (model : String) : Cue × Script :=
  let key := s.keyFor model
  match Entries.get? s key with
  | some (c :: rest) => (c, Entries.put s key (keepLast (c :: rest)))
  | _ => ({}, s)

def standardCompletion (model : String) : Completion := ⟨s!"reply from {model}", 1000, 500⟩

def perform (model : String) : Act → Except Failure Reply
  | .fail f => .error f
  | .give d => .ok (.value d)
  | .complete none => .ok (.completion (standardCompletion model))
  | .complete (some d) => Reply.completion <$> (Completion.ofData d).mapError .ofFault

def transport (name : String) : Transport Script where
  name
  send := fun s model _ _ =>
    let (cue, s') := s.next model
    ({ suspensions := cue.suspensions, latency := cue.latency, elapsed := cue.elapsed
       result := perform model cue.act }, s')

end Script
end Switchboard
