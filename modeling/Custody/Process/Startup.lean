import Custody.Process.Report

/-!
# Initialization

A process may be given a configuration once. A configuration that is not valid is refused, now
and later, and changes nothing. The first valid one is kept, and sets the level and the format
of the log; every later one is accepted and ignored. The log says which of the two happened.
-/

namespace Custody

/-- The version of the library. -/
def version : String := "0.1.0"

namespace Process

/-- The process with a configuration set and the log switched to it. -/
def configured (p : Process) (c : RuntimeConfig) : Process :=
  { p with
    config := some c
    log := { p.log with threshold := c.log.level, format := c.log.format } }

/-- The fields of the log entry that says that a configuration was set. -/
def startFields (c : RuntimeConfig) : List (String × Log.FieldValue) :=
  [("version", .text version), ("arena_chunk_size", .unsigned (UInt64.ofNat c.arena.chunkSize)),
    ("leak_policy", .text c.arena.leakPolicy.name)]

/-- Give the process a valid configuration. -/
def start (c : RuntimeConfig) : Run Process Unit := do
  match (← Run.get).config with
  | some _ =>
    write .debug (some "tether::init")
      "runtime already initialized; keeping the first configuration" []
  | none =>
    Run.modify (·.configured c)
    write .debug (some "tether::init") "runtime initialized" (startFields c)

/-- Give the process a configuration, if it is valid. -/
def init (c : RuntimeConfig) : Run Process (Except ConfigError Unit) := do
  match c.validate with
  | .error e => return .error e
  | .ok () =>
    start c
    return .ok ()

/-- Give the process the configuration that its environment asks for. -/
def initFromEnvironment : Run Process (Except ConfigError Unit) := do
  init (.ofEnvironment (← Run.get).environment)

end Process

end Custody
