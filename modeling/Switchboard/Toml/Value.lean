import Switchboard.Toml.Number
import Switchboard.Toml.Table

/-!
Values of a TOML document: texts, flags, calendar values, numbers, lists and inline tables. Reading
a value takes characters with every second step, so `value` allows two steps for each.
-/

namespace Switchboard.Toml

/-- A number, or a calendar value, which is told from a number by its form. -/
def plainValue : Parser Data := fun cs =>
  match calendarValue? cs with
  | some r => r
  | none => match timeValue? cs with
    | some r => .ok r
    | none => match basedNumber? cs with
      | some (n, rest) => .ok (.int n, rest)
      | none => match decimalNumber? cs with
        | some r => r
        | none => match namedNumber? cs with
          | some r => .ok r
          | none => stop .invalidValue cs

def asText (r : Except Error (List Char × List Char)) : Except Error (Data × List Char) :=
  r.map fun (cs, rest) => (.text (String.ofList cs), rest)

def scalar : Parser Data
  | '"' :: '"' :: '"' :: rest => asText (lines '"' rest)
  | '"' :: rest => asText (basic false rest)
  | '\'' :: '\'' :: '\'' :: rest => asText (lines '\'' rest)
  | '\'' :: rest => asText (literal rest)
  | 't' :: 'r' :: 'u' :: 'e' :: rest => .ok (.bool true, rest)
  | 'f' :: 'a' :: 'l' :: 's' :: 'e' :: rest => .ok (.bool false, rest)
  | cs => plainValue cs

/-- The sign between a key and its value. -/
def equals (cs : List Char) : Except Error (List Char) :=
  match cs with
  | '=' :: rest => .ok (skipSpace rest)
  | cs => stop .expectedEquals cs

mutual

def valueFrom : (fuel : Nat) → Parser Data
  | 0, cs => stop .invalidValue cs
  | fuel + 1, cs =>
    match cs with
    | '[' :: rest => do
      let (items, rest) ← itemsFrom fuel (← skipBetween rest)
      return (.list items, rest)
    | '\x7b' :: rest =>
      match skipSpace rest with
      | '\x7d' :: rest => .ok (.object [], rest)
      | rest => do
        let (table, rest) ← pairsFrom fuel [] [] rest
        return (.object table, rest)
    | cs => scalar cs

/-- The items of a list up to its end; a comma may follow the last one. -/
def itemsFrom : (fuel : Nat) → Parser (List Data)
  | 0, cs => stop .unclosedArray cs
  | fuel + 1, cs =>
    match cs with
    | ']' :: rest => .ok ([], rest)
    | cs => do
      let (item, rest) ← valueFrom fuel cs
      match ← skipBetween rest with
      | ']' :: rest => return ([item], rest)
      | ',' :: rest =>
        let (items, rest) ← itemsFrom fuel (← skipBetween rest)
        return (item :: items, rest)
      | rest => stop .unclosedArray rest

/-- The pairs of an inline table up to its end. `closed` holds the keys whose values cannot be added
to. -/
def pairsFrom : (fuel : Nat) → Table → (closed : List Key) → Parser Table
  | 0, _, _, cs => stop .unclosedTable cs
  | fuel + 1, table, closed, cs => do
    let (path, rest) ← key cs
    let (item, rest) ← valueFrom fuel (← equals rest)
    if closed.any (·.isPrefixOf path) then stop (.immutable path) rest
    let (parents, last) := path.split
    let table ← located rest
      (Table.changeAt false (Table.add (.duplicateKey last) last item) parents table)
    match skipSpace rest with
    | '\x7d' :: rest => return (table, rest)
    | ',' :: rest =>
      pairsFrom fuel table (if isClosed item then path :: closed else closed) (skipSpace rest)
    | rest => stop .unclosedTable rest

end

def value : Parser Data := fun cs => valueFrom (2 * cs.length + 2) cs

end Switchboard.Toml
