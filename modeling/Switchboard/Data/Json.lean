import Switchboard.Data
import Switchboard.Numeral

/-!
The text in which data is exchanged. Doubles that are not finite are written as objects with a field of
their own, and moments as texts. Reading takes well-formed text; every reader answers with the text that
is left behind what it read.
-/

namespace Switchboard.Json

/-! ### Reading -/

def skip (cs : List Char) : List Char :=
  cs.dropWhile fun c => c == ' ' || c == '\t' || c == '\n' || c == '\r'

def hexValue (cs : List Char) : Nat :=
  cs.foldl (fun n c => 16 * n + (if c.isDigit then c.toNat - 48 else c.toLower.toNat - 87)) 0

/-- The first half of a pair that stands for one character. -/
def isHigh (n : Nat) : Bool := 0xD800 ≤ n && n < 0xDC00

def isLow (n : Nat) : Bool := 0xDC00 ≤ n && n < 0xE000

def joined (high low : Nat) : Char :=
  Char.ofNat (0x10000 + (high - 0xD800) * 0x400 + (low - 0xDC00))

def unescaped (c : Char) : Char :=
  if c == 'n' then '\n' else if c == 't' then '\t' else if c == 'r' then '\r'
  else if c == 'b' then '\x08' else if c == 'f' then '\x0c' else c

/-- A string behind its opening quote; `acc` holds what was read of it, backwards. -/
def stringTail : (fuel : Nat) → (acc : List Char) → List Char → Option (String × List Char)
  | 0, _, _ => none
  | _, _, [] => none
  | _, acc, '"' :: rest => some (String.ofList acc.reverse, rest)
  | fuel + 1, acc, '\\' :: 'u' :: rest =>
    let n := hexValue (rest.take 4)
    match rest.drop 4 with
    | '\\' :: 'u' :: low =>
      let m := hexValue (low.take 4)
      if isHigh n && isLow m then stringTail fuel (joined n m :: acc) (low.drop 4)
      else stringTail fuel (Char.ofNat n :: acc) (rest.drop 4)
    | rest => stringTail fuel (Char.ofNat n :: acc) rest
  | fuel + 1, acc, '\\' :: c :: rest => stringTail fuel (unescaped c :: acc) rest
  | fuel + 1, acc, c :: rest => stringTail fuel (c :: acc) rest

def isNumberChar (c : Char) : Bool :=
  c.isDigit || c == '-' || c == '+' || c == '.' || c == 'e' || c == 'E'

/-- A number is whole unless it has a point or an exponent. -/
def number (cs : List Char) : Data :=
  let (negative, body) := Numeral.splitSign cs
  if cs.any fun c => c == '.' || c == 'e' || c == 'E' then
    .float ((Numeral.decimal? negative body).getD 0.0)
  else .int (Numeral.withSign negative (Numeral.valueOf body))

/-- The field under which a double stands that is not finite. -/
def floatKey : String := "$float"

/-- An object, or the double that it stands for. -/
def ofFields (fs : List (String × Data)) : Data :=
  match fs with
  | [(key, .text name)] =>
    if key != floatKey then .object fs
    else if name == "nan" then .float Binary64.nan
    else if name == "inf" then .float (Binary64.infinity false)
    else if name == "-inf" then .float (Binary64.infinity true)
    else .object fs
  | fs => .object fs

mutual

/-- A value at the front. Every step of reading takes a character or more, which `fuel` counts. -/
def value : (fuel : Nat) → List Char → Option (Data × List Char)
  | 0, _ => none
  | fuel + 1, cs => match skip cs with
    | '"' :: rest => (stringTail fuel [] rest).map fun (s, rest) => (.text s, rest)
    | '[' :: rest => match skip rest with
      | ']' :: rest => some (.list [], rest)
      | rest => items fuel [] rest
    | '\x7b' :: rest => match skip rest with
      | '\x7d' :: rest => some (.object [], rest)
      | rest => fields fuel [] rest
    | 't' :: rest => some (.bool true, rest.drop 3)
    | 'f' :: rest => some (.bool false, rest.drop 4)
    | 'n' :: rest => some (.null, rest.drop 3)
    | 'N' :: rest => some (.float Binary64.nan, rest.drop 2)
    | 'I' :: rest => some (.float (Binary64.infinity false), rest.drop 7)
    | '-' :: 'I' :: rest => some (.float (Binary64.infinity true), rest.drop 7)
    | rest => some (number (rest.takeWhile isNumberChar), rest.dropWhile isNumberChar)

/-- The rest of a list; `acc` holds the items that were read, backwards. -/
def items : (fuel : Nat) → (acc : List Data) → List Char → Option (Data × List Char)
  | 0, _, _ => none
  | fuel + 1, acc, cs => do
    let (v, rest) ← value fuel cs
    match skip rest with
    | ',' :: rest => items fuel (v :: acc) rest
    | ']' :: rest => return (.list (v :: acc).reverse, rest)
    | _ => none

/-- The rest of an object; `acc` holds the fields that were read, backwards. -/
def fields : (fuel : Nat) → (acc : List (String × Data)) → List Char → Option (Data × List Char)
  | 0, _, _ => none
  | fuel + 1, acc, cs => do
    let '"' :: rest := skip cs | none
    let (k, rest) ← stringTail fuel [] rest
    let ':' :: rest := skip rest | none
    let (v, rest) ← value fuel rest
    match skip rest with
    | ',' :: rest => fields fuel ((k, v) :: acc) rest
    | '\x7d' :: rest => return (ofFields (Entries.ofPairs ((k, v) :: acc).reverse), rest)
    | _ => none

end

/-- The data that a text stands for; nothing if it stands for none. -/
def decode (s : String) : Data :=
  let cs := s.toList
  match value (2 * cs.length + 1) cs with
  | some (d, _) => d
  | none => .null

/-! ### Writing -/

def escapeUnit (n : Nat) : String := "\\u" ++ String.ofList (Text.hexDigits 4 n)

def escape (c : Char) : String :=
  let n := c.toNat
  if c == '"' then "\\\"" else if c == '\\' then "\\\\"
  else if 0x20 ≤ n && n < 0x7F then String.singleton c
  else if n < 0x10000 then escapeUnit n
  else escapeUnit (0xD800 + (n - 0x10000) / 0x400) ++ escapeUnit (0xDC00 + (n - 0x10000) % 0x400)

def textForm (s : String) : String := "\"" ++ String.join (s.toList.map escape) ++ "\""

def floatForm (x : Float) : String :=
  if x.isFinite then Decimal.text x
  else "\x7b" ++ textForm floatKey ++ ": " ++ textForm (Decimal.text x) ++ "\x7d"

mutual

def encode : Data → String
  | .null => "null"
  | .bool b => if b then "true" else "false"
  | .int n => toString n
  | .float x => floatForm x
  | .text s => textForm s
  | .temporal _ written => textForm written
  | .list xs => "[" ++ ", ".intercalate (encodeItems xs) ++ "]"
  | .object fs => "\x7b" ++ ", ".intercalate (encodeFields fs) ++ "\x7d"

def encodeItems : List Data → List String
  | [] => []
  | x :: xs => encode x :: encodeItems xs

def encodeFields : List (String × Data) → List String
  | [] => []
  | (k, v) :: fs => (textForm k ++ ": " ++ encode v) :: encodeFields fs

end

end Switchboard.Json
