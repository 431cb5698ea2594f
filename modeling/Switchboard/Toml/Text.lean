import Switchboard.Text.Hex
import Switchboard.Toml.Problem

/-!
Blanks, comments, quoted texts and keys of a TOML document.
-/

namespace Switchboard.Toml

def isSpace (c : Char) : Bool := c == ' ' || c == '\t'

def isSpaceOrBreak (c : Char) : Bool := isSpace c || c == '\n'

def skipSpace (cs : List Char) : List Char := cs.dropWhile isSpace

def skipSpaceAndBreaks (cs : List Char) : List Char := cs.dropWhile isSpaceOrBreak

/-- Control characters may not stand in a text or comment, apart from the tab. -/
def isIllegal (c : Char) : Bool := (c.toNat < 32 || c.toNat == 127) && c != '\t'

/-- In texts over several lines the line break may stand as well. -/
def isIllegalInLines (c : Char) : Bool := isIllegal c && c != '\n'

/-! ### Scanning ahead -/

/-- The characters before the first occurrence of the delimiter and the rest from there on. -/
def splitAt? (delimiter : List Char) : List Char → Option (List Char × List Char)
  | [] => none
  | c :: rest =>
    if delimiter.isPrefixOf (c :: rest) then some ([], c :: rest)
    else (splitAt? delimiter rest).map fun (before, found) => (c :: before, found)

/-- Refuses the first illegal character of a stretch that stands before `behind`. -/
def checkLegal (illegal : Char → Bool) (stretch behind : List Char) : Except Error Unit :=
  match stretch.dropWhile (!illegal ·) with
  | [] => .ok ()
  | c :: rest => stop (.invalidChar c) (c :: rest ++ behind)

/-- The text up to a delimiter that has to come. -/
def takeUntil (delimiter : String) (illegal : Char → Bool) : Parser (List Char) := fun cs =>
  match splitAt? delimiter.toList cs with
  | none => stop (.expected delimiter) []
  | some (before, found) => do
    checkLegal illegal before found
    return (before, found)

/-- Skips a comment up to the end of its line. -/
def skipComment : List Char → Except Error (List Char)
  | '#' :: rest => do
    let comment := rest.takeWhile (· != '\n')
    let found := rest.dropWhile (· != '\n')
    checkLegal isIllegal comment found
    return found
  | cs => .ok cs

/-- Skips blanks, line breaks and comments; each comment uses up some of `fuel`. -/
def skipFiller : (fuel : Nat) → List Char → Except Error (List Char)
  | 0, cs => .ok cs
  | fuel + 1, cs => do
    let trimmed := skipSpaceAndBreaks cs
    let rest ← skipComment trimmed
    if rest.length = cs.length then return rest else skipFiller fuel rest

def skipBetween (cs : List Char) : Except Error (List Char) := skipFiller (cs.length + 1) cs

/-! ### Texts -/

def shortEscape? : Char → Option Char
  | 'b' => some '\x08'
  | 't' => some '\t'
  | 'n' => some '\n'
  | 'f' => some '\x0c'
  | 'r' => some '\r'
  | '"' => some '"'
  | '\\' => some '\\'
  | _ => none

/-- The value of digits in a base, if all are digits. -/
def valueIn? (base : Nat) (ds : List Char) : Option Nat :=
  ds.foldl (fun acc c => acc.bind fun n => (Text.hexValue? c).map fun d => base * n + d) (some 0)

/-- A character by its number, written with so many hexadecimal digits. -/
def hexChar (count : Nat) : Parser (List Char) := fun cs =>
  let ds := cs.take count
  match if ds.length = count then valueIn? 16 ds else none with
  | none => stop .badHex cs
  | some n => if n.isValidChar then .ok ([Char.ofNat n], cs.drop count) else stop .notScalar (cs.drop count)

/-- A backslash at the end of a line swallows the blanks up to the next text. -/
def lineContinuation (first : Char) (rest : List Char) : Except Error (List Char) :=
  if first == '\n' then .ok (skipSpaceAndBreaks rest)
  else match skipSpace rest with
    | [] => .ok []
    | '\n' :: rest => .ok (skipSpaceAndBreaks rest)
    | rest => stop .badEscape rest

def escape (lines : Bool) : Parser (List Char)
  | [] => stop .badEscape []
  | c :: rest =>
    if lines && isSpaceOrBreak c then do
      let rest ← lineContinuation c rest
      return ([], rest)
    else if c == 'u' then hexChar 4 rest
    else if c == 'U' then hexChar 8 rest
    else match shortEscape? c with
      | some e => .ok ([e], rest)
      | none => stop .badEscape rest

/-- The text up to the closing quotes, one pair of quotes for a line, three for several. Every step
takes a character, which `fuel` counts. -/
def basicFrom (lines : Bool) : (fuel : Nat) → Parser (List Char)
  | 0, cs => stop .unterminated cs
  | _, [] => stop .unterminated []
  | fuel + 1, c :: rest =>
    if c == '"' && !lines then .ok ([], rest)
    else if c == '"' && ['"', '"'].isPrefixOf rest then .ok ([], rest.drop 2)
    else if c == '\\' then do
      let (e, rest) ← escape lines rest
      let (tail, rest) ← basicFrom lines fuel rest
      return (e ++ tail, rest)
    else if (if lines then isIllegalInLines c else isIllegal c) then stop (.illegalChar c) (c :: rest)
    else do
      let (tail, rest) ← basicFrom lines fuel rest
      return (c :: tail, rest)

def basic (lines : Bool) : Parser (List Char) := fun cs => basicFrom lines (cs.length + 1) cs

def literal : Parser (List Char) := fun cs => do
  let (text, rest) ← takeUntil "'" isIllegal cs
  return (text, rest.drop 1)

/-- Up to two more quotes directly behind the closing ones belong to the text. -/
def extraQuotes (quote : Char) (text rest : List Char) : List Char × List Char :=
  let extra := (rest.take 2).takeWhile (· == quote)
  (text ++ extra, rest.drop extra.length)

/-- A text over several lines; a line break right at the beginning is dropped. -/
def lines (quote : Char) : Parser (List Char) := fun cs => do
  let cs := if cs.head? == some '\n' then cs.drop 1 else cs
  if quote == '"' then
    let (text, rest) ← basic true cs
    return extraQuotes quote text rest
  else
    let (text, rest) ← takeUntil "'''" isIllegalInLines cs
    return extraQuotes quote text (rest.drop 3)

/-! ### Keys -/

def isBare (c : Char) : Bool := c.isAlphanum || c == '-' || c == '_'

def keyPart : Parser String
  | [] => stop .invalidKey []
  | c :: rest => do
    if isBare c then
      return (String.ofList ((c :: rest).takeWhile isBare), (c :: rest).dropWhile isBare)
    else if c == '\'' then
      let (text, rest) ← literal rest
      return (String.ofList text, rest)
    else if c == '"' then
      let (text, rest) ← basic false rest
      return (String.ofList text, rest)
    else stop .invalidKey (c :: rest)

/-- Parts set off by points, with blanks around them. -/
def keyFrom : (fuel : Nat) → Parser Key
  | 0, cs => stop .invalidKey cs
  | fuel + 1, cs => do
    let (part, rest) ← keyPart cs
    match skipSpace rest with
    | '.' :: rest =>
      let (parts, rest) ← keyFrom fuel (skipSpace rest)
      return (part :: parts, rest)
    | rest => return ([part], rest)

def key : Parser Key := fun cs => keyFrom (cs.length + 1) cs

end Switchboard.Toml
