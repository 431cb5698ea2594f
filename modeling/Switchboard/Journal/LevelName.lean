import Switchboard.Fault
import Switchboard.Journal.Rank

/-!
Levels as settings give them: by number or by name. A name counts in whatever case; a name that is
not known stands for a default that the setting has.
-/

namespace Switchboard.Journal

/-- A level by number or by name. -/
inductive LevelSpec where
  | number (r : Rank)
  | name (s : String)
deriving DecidableEq, Repr

namespace LevelSpec

/-- The plain capitals of a character, if it has any: those of a ligature are its letters. -/
def capitals (c : Char) : List Char :=
  match c with
  | 'ı' => ['I']
  | 'ſ' => ['S']
  | 'ß' => ['S', 'S']
  | 'ﬀ' => ['F', 'F']
  | 'ﬁ' => ['F', 'I']
  | 'ﬂ' => ['F', 'L']
  | 'ﬃ' => ['F', 'F', 'I']
  | 'ﬄ' => ['F', 'F', 'L']
  | 'ﬅ' => ['S', 'T']
  | 'ﬆ' => ['S', 'T']
  | c => [c.toUpper]

/-- The name as levels spell theirs. Names of levels are plain, so only plain capitals matter. -/
def capitalized (s : String) : String := String.ofList (s.toList.flatMap capitals)

def known? (s : String) : Option Level := (Level.named.find? (·.1 == capitalized s)).map Prod.snd

def ofData (d : Data) : Except Fault LevelSpec :=
  match d, Rank.ofData? d with
  | _, some r => .ok (number r)
  | .text s, none => .ok (name s)
  | d, none => .error (.notAnObject d.kindName "upper")

def rank? : LevelSpec → Option Rank
  | number r => some r
  | name s => (known? s).map fun l => { level := l }

def resolve (default : Level) (l : LevelSpec) : Rank := l.rank?.getD default

end LevelSpec
end Switchboard.Journal
