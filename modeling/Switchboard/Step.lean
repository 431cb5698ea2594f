import Switchboard.Fault
import Switchboard.Journal.Entry

/-!
Operations on a state. A step answers or stops at a fault, and in both cases leaves a state behind
and the journal entries written on the way: nothing that was done before a fault is undone.
-/

namespace Switchboard

open Journal (Entry)

/-- What a step leaves behind. -/
structure Outcome (σ α : Type) where
  answer : Except Fault α
  state : σ
  journal : List Entry

def Step (σ α : Type) : Type := σ → Outcome σ α

namespace Step

variable {σ τ α β : Type}

def answer (a : α) : Step σ α := fun s => ⟨.ok a, s, []⟩

/-- Runs a second step on what the first one left, unless the first one stopped. -/
def andThen (x : Step σ α) (f : α → Step σ β) : Step σ β := fun s =>
  match x s with
  | ⟨.error fault, s', entries⟩ => ⟨.error fault, s', entries⟩
  | ⟨.ok a, s', entries⟩ =>
    let rest := f a s'
    { rest with journal := entries ++ rest.journal }

instance : Monad (Step σ) where
  pure := answer
  bind := andThen

theorem pure_apply (a : α) (s : σ) : (pure a : Step σ α) s = ⟨.ok a, s, []⟩ := rfl

theorem bind_apply_ok {x : Step σ α} {f : α → Step σ β} {s s' : σ} {a : α} {entries : List Entry}
    (h : x s = ⟨.ok a, s', entries⟩) :
    (x >>= f) s = { f a s' with journal := entries ++ (f a s').journal } := by
  show andThen x f s = _
  simp [andThen, h]

theorem bind_apply_error {x : Step σ α} {f : α → Step σ β} {s s' : σ} {fault : Fault}
    {entries : List Entry} (h : x s = ⟨.error fault, s', entries⟩) :
    (x >>= f) s = ⟨.error fault, s', entries⟩ := by
  show andThen x f s = _
  simp [andThen, h]

/-- The state as it is. -/
def get : Step σ σ := fun s => ⟨.ok s, s, []⟩

def put (s : σ) : Step σ Unit := fun _ => ⟨.ok (), s, []⟩

def modify (f : σ → σ) : Step σ Unit := fun s => ⟨.ok (), f s, []⟩

def write (entries : List Entry) : Step σ Unit := fun s => ⟨.ok (), s, entries⟩

def fail (fault : Fault) : Step σ α := fun s => ⟨.error fault, s, []⟩

def ofExcept (r : Except Fault α) : Step σ α := fun s => ⟨r, s, []⟩

def catching (x : Step σ α) : Step σ (Except Fault α) := fun s =>
  let o := x s
  ⟨.ok o.answer, o.state, o.journal⟩

/-- Runs a step on a part of a larger state. -/
def on (part : τ → σ) (replace : τ → σ → τ) (x : Step σ α) : Step τ α := fun t =>
  let o := x (part t)
  ⟨o.answer, replace t o.state, o.journal⟩

/-- One step after the other, for every item. -/
def each (f : α → Step σ β) : List α → Step σ (List β)
  | [] => answer []
  | a :: rest => andThen (f a) fun b => andThen (each f rest) fun bs => answer (b :: bs)

end Step
end Switchboard
