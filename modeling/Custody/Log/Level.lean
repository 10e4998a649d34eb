import Custody.Text.Keyword

/-!
# Severity levels and output formats of the log

Six levels, from the most talkative to silence. The order of the constructors is the order of
severity, and `Level.rank` numbers them. A keyword may name a level or give it the number of a
verbosity scale that runs the other way: `5` is `trace` there and `0` is `off`.
-/

namespace Custody.Log

/-- How severe an entry is, and how severe it must be to be let through. -/
inductive Level
  | trace
  | debug
  | info
  | warn
  | error
  /-- Above every entry: nothing is let through, and no entry of this level is written. -/
  | off
  deriving DecidableEq, Inhabited

namespace Level

/-- The name written into log lines. -/
def name : Level → String
  | trace => "TRACE"
  | debug => "DEBUG"
  | info => "INFO"
  | warn => "WARN"
  | error => "ERROR"
  | off => "OFF"

/-- The place of a level in the order of severity. -/
def rank : Level → Nat
  | trace => 0
  | debug => 1
  | info => 2
  | warn => 3
  | error => 4
  | off => 5

/-- The level of a given rank. -/
def ofRank? : Nat → Option Level
  | 0 => some trace
  | 1 => some debug
  | 2 => some info
  | 3 => some warn
  | 4 => some error
  | 5 => some off
  | _ => none

/-- The keywords that choose a level. -/
def keywords : List (String × Level) :=
  [("trace", trace), ("5", trace), ("debug", debug), ("4", debug), ("info", info), ("3", info),
    ("warn", warn), ("warning", warn), ("2", warn), ("error", error), ("err", error),
    ("1", error), ("off", off), ("none", off), ("0", off)]

/-- The level that a text chooses, if it is a keyword. -/
def parse? (text : String) : Option Level := Text.keyword? keywords text

theorem ofRank?_rank (l : Level) : ofRank? l.rank = some l := by cases l <;> rfl

theorem rank_of_ofRank? {n : Nat} {l : Level} (h : ofRank? n = some l) : l.rank = n := by
  unfold ofRank? at h
  split at h <;> cases h <;> rfl

end Level

/-- How a log line is laid out. -/
inductive Format
  /-- For people: `[time] LEVEL [target] (thread) message`, then the fields in braces. -/
  | plain
  /-- For programs: one JSON object on one line. -/
  | json
  deriving DecidableEq, Inhabited

namespace Format

/-- The lower-case name of a format. -/
def name : Format → String
  | plain => "plain"
  | json => "json"

/-- The keywords that choose a format. -/
def keywords : List (String × Format) := [("plain", plain), ("text", plain), ("json", json)]

/-- The format that a text chooses, if it is a keyword. -/
def parse? (text : String) : Option Format := Text.keyword? keywords text

end Format

end Custody.Log
