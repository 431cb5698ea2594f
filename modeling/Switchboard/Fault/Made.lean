import Switchboard.Fault.Kind

/-!
Faults that a caller makes from named arguments. Arguments are taken as they are given, whatever they
hold; those left out have a standard value.
-/

namespace Switchboard

/-- A fault as it was made: what it says and what it tells beside that. -/
structure MadeFault where
  kind : FaultKind
  message : String
  details : List (String × Data) := []

namespace FaultKind

def parameters : FaultKind → List String
  | provider => ["provider_name", "message"]
  | exhausted => ["last_error", "attempted", "message"]
  | _ => ["message"]

def checkArguments (k : FaultKind) (args : List (String × Data)) : Except Fault Unit :=
  match (args.map Prod.fst).find? (!k.parameters.contains ·) with
  | some name => .error (.unexpectedArgument k.name name)
  | none => .ok ()

/-- An argument, or what stands in for it. -/
def argument (args : List (String × Data)) (name : String) (standard : Data) : Data :=
  (Entries.get? args name).getD standard

def makeProvider (args : List (String × Data)) : Except Fault MadeFault := do
  checkArguments provider args
  let standard : ProviderFailure := {}
  let failure : ProviderFailure :=
    ⟨argument args "provider_name" standard.provider, argument args "message" standard.detail⟩
  return { kind := provider, message := failure.message
           details := [("provider_name", failure.provider), ("detail", failure.detail)] }

/-- The models attempted, nothing of any kind standing for none. -/
def attemptedOf (d : Data) : Except Fault (List Data) :=
  if !d.isSet then .ok []
  else match d.items? with
    | some xs => .ok xs
    | none => .error (.noItems d.kindName)

/-- The last failure, which is made from arguments of its own unless there is none. -/
def lastOf (args : List (String × Data)) : Except Fault (Option MadeFault) :=
  match Entries.get? args "last_error" with
  | none => .ok none
  | some .null => .ok none
  | some (.object args) => some <$> makeProvider args
  | some d => .error (.misfit (.noFields s!"{Home.faults.name}.{provider.name}" d.kindName))

/-- The failure of all candidates, the last of which is known. -/
def makeExhausted (last : Option MadeFault) (args : List (String × Data)) : Except Fault MadeFault := do
  checkArguments exhausted args
  let attempted ← attemptedOf (argument args "attempted" .null)
  let headline := argument args "message" (.text ({} : Exhaustion).headline)
  return { kind := exhausted
           message := Exhaustion.wording headline.shown (Data.list attempted).quoted (last.map (·.message))
           details := [("attempted", .list attempted),
             ("last_error", (last.map fun f => Data.object f.details).getD .null)] }

/-- Makes a fault of a kind. A last failure is made first, whether the kind knows it or not. -/
def make (k : FaultKind) (args : List (String × Data)) : Except Fault MadeFault := do
  let last ← lastOf args
  match k with
  | provider => makeProvider args
  | exhausted => makeExhausted last args
  | k => do
    checkArguments k args
    return { kind := k, message := (argument args "message" (.text k.standardMessage)).shown }

end FaultKind
end Switchboard
