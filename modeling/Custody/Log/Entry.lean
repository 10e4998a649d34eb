import Custody.Log.Level
import Custody.Text.Decimal

/-!
# Log entries

An entry carries a level, a message, the component and the thread it comes from when they are
known, a time in milliseconds, and named values in the order in which they were added. Names
may repeat; looking one up finds the first. `Entry.plain` is the layout for people.
-/

namespace Custody.Log

/-- A value attached to an entry. -/
inductive FieldValue
  | text (value : String)
  | unsigned (value : UInt64)
  | signed (value : Int64)
  | flag (value : Bool)
  deriving DecidableEq, Inhabited

/-- The value as it stands in a line for people: text as it is, numbers in decimal. -/
def FieldValue.plain : FieldValue → String
  | text value => value
  | unsigned value => toString value.toNat
  | signed value => toString value.toInt
  | flag true => "true"
  | flag false => "false"

/-- One log entry. -/
structure Entry where
  /-- How severe the entry is. -/
  level : Level
  /-- What happened. -/
  message : String
  /-- Named values, in the order in which they were added. -/
  fields : List (String × FieldValue) := []
  /-- Milliseconds since the epoch. -/
  timestamp : UInt64 := 0
  /-- The name of the thread that wrote the entry, if it has one. -/
  thread : Option String := none
  /-- The component that wrote the entry, if it said so. -/
  target : Option String := none
  deriving DecidableEq, Inhabited

namespace Entry

/-- The first value under a name. -/
def field? (e : Entry) (key : String) : Option FieldValue :=
  (e.fields.find? fun f => f.1 == key).map (·.2)

/-- The time in seconds, with the milliseconds as three places. -/
def clock (timestamp : UInt64) : String :=
  toString (timestamp.toNat / 1000) ++ "." ++ Text.Decimal.threePlaces (timestamp.toNat % 1000)

/-- A level name filled up with blanks to five places. -/
def paddedLevel (l : Level) : String :=
  l.name ++ "".pushn ' ' (5 - l.name.length)

/-- The target in brackets and a blank, if there is a target. -/
def plainTarget : Option String → String
  | none => ""
  | some target => "[" ++ target ++ "] "

/-- The thread in parentheses and a blank, if there is a thread. -/
def plainThread : Option String → String
  | none => ""
  | some thread => "(" ++ thread ++ ") "

/-- The fields in braces behind a blank, if there are any. -/
def plainFields : List (String × FieldValue) → String
  | [] => ""
  | fields => " \x7b" ++ ", ".intercalate (fields.map fun f => f.1 ++ "=" ++ f.2.plain) ++ "\x7d"

/-- The line for people. -/
def plain (e : Entry) : String :=
  "[" ++ clock e.timestamp ++ "] " ++ paddedLevel e.level ++ " " ++ plainTarget e.target ++
    plainThread e.thread ++ e.message ++ plainFields e.fields

end Entry

end Custody.Log
