import Switchboard.Argument
import Switchboard.Catalog.Model
import Switchboard.Step

/-!
The catalog: models in a fixed order, each id once. Order matters, since ties between models go to
the one listed first.
-/

namespace Switchboard

structure Catalog where
  models : List Model
deriving Inhabited

namespace Catalog

/-- The first id that repeats an earlier one. -/
def firstRepeat? : (seen : List String) → List Model → Option String
  | _, [] => none
  | seen, m :: rest => if m.id ∈ seen then some m.id else firstRepeat? (m.id :: seen) rest

open Journal in
/-- Accepts models with pairwise distinct ids. -/
def build {σ : Type} (models : List Model) : Step σ Catalog :=
  match firstRepeat? [] models with
  | some id => Step.fail (.duplicateModel id)
  | none => do
    Step.write [Channel.catalog.debug s!"Model catalog built with {models.length} models"]
    return ⟨models⟩

/-! ### Raw entries -/

/-- Reads raw entries up to the first that is no model. -/
def readEntries : (position : Nat) → List Data → Except Fault (List Model)
  | _, [] => .ok []
  | position, d :: rest => do
    let fields ← Argument.fields d
    match Model.reader (.object fields) with
    | .bad issues => throw (.invalidEntry position issues)
    | .good m =>
      let models ← readEntries (position + 1) rest
      return m :: models

def ofEntries {σ : Type} (entries : List Data) : Step σ Catalog := do
  let models ← Step.ofExcept (readEntries 0 entries)
  build models

/-! ### Look-ups -/

def byId? (c : Catalog) (id : String) : Option Model := c.models.find? (·.id == id)

/-- The model of a name that need not be a text. -/
def named? (c : Catalog) (name : Data) : Except Fault (Option Model) :=
  match name with
  | .text id => .ok (c.byId? id)
  | d => (fun _ => none) <$> Argument.key d

def contains (c : Catalog) (id : String) : Bool := (c.byId? id).isSome

def byTier (c : Catalog) (tier : Int) : List Model := c.models.filter fun m => (m.tier : Int) == tier

/-- Models with a use case that mentions `phrase`. -/
def byUseCase (c : Catalog) (phrase : String) : List Model := c.models.filter (·.mentions phrase)

def available (c : Catalog) : List Model := c.models.filter (·.available)

def summary (c : Catalog) : String := s!"ModelCatalog(models={c.models.length})"

end Catalog
end Switchboard
