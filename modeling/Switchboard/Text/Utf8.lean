import Switchboard.Text.Quoted

/-!
Decoding UTF-8. A flaw covers the longest stretch of bytes that could have begun a character.
-/

namespace Switchboard.Text.Utf8

inductive Reason where
  | startByte
  | continuationByte
  | endOfData
deriving DecidableEq, Repr

def Reason.text : Reason → String
  | startByte => "invalid start byte"
  | continuationByte => "invalid continuation byte"
  | endOfData => "unexpected end of data"

/-- Where bytes stop being characters: `length` bytes from `first` on, the first of them `lead`. -/
structure Flaw where
  first : Nat
  length : Nat
  lead : Nat
  reason : Reason
deriving DecidableEq, Repr

def Flaw.message (f : Flaw) : String :=
  let stretch :=
    if f.length ≤ 1 then s!"byte 0x{String.ofList (hexDigits 2 f.lead)} in position {f.first}"
    else s!"bytes in position {f.first}-{f.first + f.length - 1}"
  s!"'utf-8' codec can't decode {stretch}: {f.reason.text}"

/-- The number of continuation bytes behind a start byte, and the range of the first of them. -/
def continuation? (lead : Nat) : Option (Nat × Nat × Nat) :=
  if 0xC2 ≤ lead && lead ≤ 0xDF then some (1, 0x80, 0xBF)
  else if lead == 0xE0 then some (2, 0xA0, 0xBF)
  else if lead == 0xED then some (2, 0x80, 0x9F)
  else if 0xE1 ≤ lead && lead ≤ 0xEF then some (2, 0x80, 0xBF)
  else if lead == 0xF0 then some (3, 0x90, 0xBF)
  else if 0xF1 ≤ lead && lead ≤ 0xF3 then some (3, 0x80, 0xBF)
  else if lead == 0xF4 then some (3, 0x80, 0x8F)
  else none

/-- Bytes still missing from a character that has begun. -/
structure Open where
  first : Nat
  length : Nat
  lead : Nat
  missing : Nat
  low : Nat
  high : Nat
  value : Nat

def Open.flaw (o : Open) (reason : Reason) : Flaw := ⟨o.first, o.length, o.lead, reason⟩

/-- Reads one byte after the other; `position` counts them. -/
def decodeFrom : (position : Nat) → Option Open → List UInt8 → Except Flaw (List Char)
  | _, none, [] => .ok []
  | _, some o, [] => .error (o.flaw .endOfData)
  | position, none, b :: rest =>
    let n := b.toNat
    if n < 0x80 then (Char.ofNat n :: ·) <$> decodeFrom (position + 1) none rest
    else match continuation? n with
      | none => .error ⟨position, 1, n, .startByte⟩
      | some (missing, low, high) =>
        decodeFrom (position + 1)
          (some ⟨position, 1, n, missing, low, high, n % Nat.pow 2 (6 - missing)⟩) rest
  | position, some o, b :: rest =>
    let n := b.toNat
    if o.low ≤ n && n ≤ o.high then
      let value := 64 * o.value + n % 64
      if o.missing = 1 then (Char.ofNat value :: ·) <$> decodeFrom (position + 1) none rest
      else decodeFrom (position + 1)
        (some { o with length := o.length + 1, missing := o.missing - 1, low := 0x80, high := 0xBF, value }) rest
    else .error (o.flaw .continuationByte)

def decode (bytes : List UInt8) : Except Flaw (List Char) := decodeFrom 0 none bytes

end Switchboard.Text.Utf8
