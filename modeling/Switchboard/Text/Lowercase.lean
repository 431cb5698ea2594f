import Switchboard.Text.Casing

/-!
Full lower-casing. Two letters do not map one to one: a capital I with a dot becomes an i followed
by a combining dot, and a capital sigma takes its final form at the end of a word.
-/

namespace Switchboard.Text

/-- The first character that casing does not look past is a cased letter. -/
def meetsLetter (cs : List Char) : Bool :=
  match cs.dropWhile caseIgnorable.has with
  | c :: _ => casedLetters.has c
  | [] => false

/-- A sigma is final behind a letter and before none. `before` is read backwards. -/
def sigma (before after : List Char) : Char :=
  if meetsLetter before && !meetsLetter after then 'ς' else 'σ'

def lowerFrom : (before : List Char) → List Char → List Char
  | _, [] => []
  | before, c :: rest =>
    let tail := lowerFrom (c :: before) rest
    if c.toNat < 0x80 then c.toLower :: tail
    else if c == 'Σ' then sigma before rest :: tail
    else if c == 'İ' then 'i' :: '\u0307' :: tail
    else lowerChar c :: tail

def lowercase (s : String) : String := String.ofList (lowerFrom [] s.toList)

/-- `part` occurs in `whole` as a contiguous stretch. -/
def isWithin (part : List Char) : List Char → Bool
  | [] => part.isEmpty
  | c :: rest => part.isPrefixOf (c :: rest) || isWithin part rest

theorem isWithin_iff (part whole : List Char) : isWithin part whole = true ↔ part <:+: whole := by
  induction whole with
  | nil => simp [isWithin]
  | cons c rest ih => simp [isWithin, ih, List.infix_cons_iff]

end Switchboard.Text
