import Switchboard.Journal.Pattern
import Switchboard.Journal.Rank

/-!
Records: entries as they are handed to the journal, with arguments that are still to be written into
the text and with fields of their own. `Record.line?` is what a record looks like in a line format.
-/

namespace Switchboard.Journal

structure Record where
  channel : String
  level : Rank
  /-- What the record says, a text as a rule. -/
  text : Data
  /-- Values for the directives in the text; without any the text stands as it is. -/
  arguments : List Data := []
  /-- Fields of the record's own. -/
  extra : List (String × Data) := []

namespace Record

def ofEntry (e : Entry) : Record := { channel := e.channel, level := e.level, text := .text e.text }

/-- A single object serves by its fields, unless it is empty. -/
def argumentsOf : List Data → Arguments
  | [.object (f :: fs)] => .fields ((f :: fs).map fun e => (e.1, .value e.2))
  | vs => .values vs

/-- What a line format finds as the arguments: the object that serves by its fields, or a row. -/
def shownArguments : List Data → Argument
  | [.object (f :: fs)] => .value (.object (f :: fs))
  | vs => .row vs

def message? (r : Record) : Option String :=
  if r.arguments.isEmpty then some r.text.shown
  else Pattern.write? r.text.shown (argumentsOf r.arguments)

def isMarked (r : Record) : Bool := ((Entries.get? r.extra "display").getD (.bool false)).isSet

def reserved : List String :=
  ["message", "asctime", "name", "msg", "args", "levelname", "levelno", "pathname", "filename",
    "module", "exc_info", "exc_text", "stack_info", "lineno", "funcName", "created", "msecs",
    "relativeCreated", "thread", "threadName", "processName", "process"]

/-- The first field of the record's own that has a reserved name. -/
def clash? (r : Record) : Option String := (r.extra.map Prod.fst).find? reserved.contains

def shownChannel (r : Record) : String := if r.channel.isEmpty then "root" else r.channel

/-- The fields of a record that a line format can name, in their order. What a record would tell of its
moment, of its place in the program and of the process is left blank, so that a line depends on
nothing but what was noted. -/
def fields (r : Record) (message : String) : List (String × Argument) :=
  let blank : Data := .text ""
  let zero : Data := .float 0.0
  let front : List (String × Data) := [("name", .text r.shownChannel), ("msg", r.text)]
  let standard : List (String × Data) :=
    [("levelname", .text r.level.label), ("levelno", r.level.toData), ("pathname", blank),
      ("filename", blank), ("module", blank), ("exc_info", .null), ("exc_text", .null),
      ("stack_info", .null), ("lineno", .int 0), ("funcName", blank), ("created", zero), ("msecs", zero),
      ("relativeCreated", zero), ("thread", .int 0), ("threadName", .text "MainThread"),
      ("processName", .text "MainProcess"), ("process", .int 0)]
  let back : List (String × Data) := [("message", .text message), ("asctime", blank)]
  let values (fs : List (String × Data)) : List (String × Argument) := fs.map fun e => (e.1, .value e.2)
  values front ++ ("args", shownArguments r.arguments) :: values (standard ++ r.extra ++ back)

/-- The format that an empty one stands for. -/
def plainPattern : String := "%(message)s"

/-- The line, with its end, that a record makes in a line format. -/
def line? (r : Record) (pattern : String) : Option String := do
  let message ← r.message?
  let line ← Pattern.write? (if pattern.isEmpty then plainPattern else pattern) (.fields (r.fields message))
  return line ++ "\n"

end Record
end Switchboard.Journal
