import Switchboard.Argument

/-!
Messages of a conversation and the texts that come back.
-/

namespace Switchboard

inductive Role where
  | system
  | user
  | assistant
deriving DecidableEq, Repr

namespace Role

def name : Role → String
  | system => "system"
  | user => "user"
  | assistant => "assistant"

def all : List Role := [system, user, assistant]

/-- Reads the name of a role in whatever case; an agent is an assistant. -/
def ofName? (s : String) : Option Role :=
  let word := Text.lowercase s
  if word == "agent" then some assistant else all.find? (·.name == word)

def reader : Reader Role := Reader.oneOf (all.map name) ofName?

def ofData (d : Data) : Except Fault Role :=
  match reader d with
  | .good r => .ok r
  | .bad _ => .error (.notRole d.quoted)

end Role

structure Message where
  role : Role
  content : String
deriving DecidableEq, Repr

namespace Message

open Reader in
def reader : Reader Message := record "ChatMessage" fun fs =>
  Message.mk <$> required "role" Role.reader fs <*> required "content" text fs

def ofData : Data → Except Fault Message := reader.readFields .models "ChatMessage"

def toData (m : Message) : Data := .object
  [("role", .text m.role.name), ("content", .text m.content)]

/-- A message from a value with two parts, role and content. -/
def ofParts (d : Data) : Except Fault Message := do
  let (role, content) ← Argument.couple d
  ofData (.object [("role", role), ("content", content)])

end Message

/-- A message as a caller hands it in. -/
inductive MessageInput where
  | message (m : Message)
  | parts (d : Data)

def MessageInput.coerce : MessageInput → Except Fault Message
  | message m => .ok m
  | parts d => Message.ofParts d

/-- What a transport reports about a completion. -/
structure Completion where
  content : String
  inputTokens : Nat := 0
  outputTokens : Nat := 0
deriving DecidableEq, Repr

namespace Completion

open Reader in
def reader : Reader Completion := record "TransportResponse" fun fs =>
  Completion.mk <$> required "content" text fs <*> field "input_tokens" (nat [.atLeast 0]) 0 fs
    <*> field "output_tokens" (nat [.atLeast 0]) 0 fs

def ofData : Data → Except Fault Completion := reader.readFields .models "TransportResponse"

def toData (c : Completion) : Data := .object
  [("content", .text c.content), ("input_tokens", .int c.inputTokens),
    ("output_tokens", .int c.outputTokens)]

end Completion

/-- The answer to a chat: the completion and how it came about. -/
structure Response where
  content : String
  model : String
  inputTokens : Int := 0
  outputTokens : Int := 0
  cost : Float := 0.0
  responseMs : Float := 0.0
  attempts : Int := 1

namespace Response

open Reader in
def reader : Reader Response := record "LLMResponse" fun fs =>
  Response.mk <$> required "content" text fs <*> required "model_used" text fs
    <*> field "input_tokens" int 0 fs <*> field "output_tokens" int 0 fs
    <*> field "cost" number 0.0 fs <*> field "response_time_ms" number 0.0 fs
    <*> field "attempts" int 1 fs

def toData (r : Response) : Data := .object
  [("content", .text r.content), ("model_used", .text r.model), ("input_tokens", .int r.inputTokens),
    ("output_tokens", .int r.outputTokens), ("cost", .float r.cost),
    ("response_time_ms", .float r.responseMs), ("attempts", .int r.attempts)]

end Response
end Switchboard
