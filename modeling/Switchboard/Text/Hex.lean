import Switchboard.Text.Blank

/-!
Hexadecimal digits, and bytes written in them, two to a byte. Between bytes there may be blanks.
-/

namespace Switchboard.Text

def hexValue? (c : Char) : Option Nat :=
  if '0' ≤ c && c ≤ '9' then some (c.toNat - '0'.toNat)
  else if 'a' ≤ c && c ≤ 'f' then some (c.toNat - 'a'.toNat + 10)
  else if 'A' ≤ c && c ≤ 'F' then some (c.toNat - 'A'.toNat + 10)
  else none

/-- The bytes that digits stand for, or the place at which there should be another digit. The first
character is at `place`. -/
def readHexFrom (place : Nat) : List Char → Except Nat (List UInt8)
  | [] => .ok []
  | [c] => if isPlainBlank c then .ok [] else .error (if (hexValue? c).isSome then place + 1 else place)
  | c :: d :: rest =>
    if isPlainBlank c then readHexFrom (place + 1) (d :: rest)
    else match hexValue? c, hexValue? d with
      | some high, some low => (UInt8.ofNat (16 * high + low) :: ·) <$> readHexFrom (place + 2) rest
      | some _, none => .error (place + 1)
      | none, _ => .error place

/-- The bytes that a text of digits stands for. A character that is not plain is found first. -/
def readHex (s : String) : Except Nat (List UInt8) :=
  match s.toList.findIdx? fun c => 0x80 ≤ c.toNat with
  | some place => .error place
  | none => readHexFrom 0 s.toList

end Switchboard.Text
