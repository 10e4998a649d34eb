import Custody.Log.Level
import Custody.Word

/-!
# Configuration

What an arena may reserve and what it does about leaks, how faults are treated, and how the log
starts out. A configuration is valid when the chunk size is a power of two of at least 256
bytes and the capacity is unlimited or holds one chunk. `RuntimeConfig.validate` names the
first thing that is wrong, in that order, and `validate_eq_ok_iff` says it finds every fault.
-/

namespace Custody

/-- What an arena does when it is released while allocations it handed out one by one are
still live. -/
inductive LeakPolicy
  /-- Raise a fatal fault. -/
  | fatal
  /-- Report the leak and go on. -/
  | warn
  /-- Say nothing. -/
  | ignore
  deriving DecidableEq, Inhabited

namespace LeakPolicy

/-- The keyword a policy is shown by. -/
def name : LeakPolicy → String
  | fatal => "fatal"
  | warn => "warn"
  | ignore => "ignore"

/-- The keywords that choose a policy. -/
def keywords : List (String × LeakPolicy) :=
  [("fatal", fatal), ("panic", fatal), ("abort", fatal), ("warn", warn), ("warning", warn),
    ("log", warn), ("ignore", ignore), ("off", ignore), ("none", ignore)]

/-- The policy that a text chooses, if it is a keyword. -/
def parse? (text : String) : Option LeakPolicy := Text.keyword? keywords text

end LeakPolicy

/-- How an arena obtains its storage and what it does about leaks. -/
structure ArenaConfig where
  /-- The size of an ordinary chunk. -/
  chunkSize : Nat := 65536
  /-- The most bytes the arena may hold at once; zero sets no limit. -/
  maxSize : Nat := 0
  /-- What happens at a release that finds live allocations. -/
  leakPolicy : LeakPolicy := .warn
  deriving DecidableEq, Inhabited

/-- How faults are treated. -/
structure DiagnosticsConfig where
  /-- Whether reading a value through a nothing instance is reported. -/
  checkNothingAccess : Bool := true
  /-- Whether a fatal fault ends the process instead of unwinding. -/
  abortOnFatal : Bool := false
  deriving DecidableEq, Inhabited

/-- How the log starts out. -/
structure LogConfig where
  /-- The least severe level let through. -/
  level : Log.Level := .info
  /-- The layout of printed lines. -/
  format : Log.Format := .plain
  deriving DecidableEq, Inhabited

/-- The whole configuration. -/
structure RuntimeConfig where
  /-- What arenas are made with. -/
  arena : ArenaConfig := {}
  /-- How faults are treated. -/
  diagnostics : DiagnosticsConfig := {}
  /-- How the log starts out. -/
  log : LogConfig := {}
  deriving DecidableEq, Inhabited

/-- The smallest chunk an arena may be configured with. -/
def leastChunkSize : Nat := 256

/-- What is wrong with a configuration. -/
inductive ConfigError
  | chunkTooSmall
  | chunkNotPowerOfTwo
  | capacityBelowChunk
  deriving DecidableEq, Inhabited

namespace ConfigError

/-- The setting that is wrong. -/
def field : ConfigError → String
  | chunkTooSmall => "arena.chunk_size"
  | chunkNotPowerOfTwo => "arena.chunk_size"
  | capacityBelowChunk => "arena.max_size"

/-- What the setting must be. -/
def detail : ConfigError → String
  | chunkTooSmall => "must be at least " ++ toString leastChunkSize ++ " bytes"
  | chunkNotPowerOfTwo => "must be a power of two"
  | capacityBelowChunk => "must be 0 (unlimited) or at least arena.chunk_size"

/-- The whole message. -/
def message (e : ConfigError) : String :=
  "invalid configuration for '" ++ e.field ++ "': " ++ e.detail

end ConfigError

namespace RuntimeConfig

/-- The first thing that is wrong with a configuration, if anything is. -/
def validate (c : RuntimeConfig) : Except ConfigError Unit :=
  if c.arena.chunkSize < leastChunkSize then .error .chunkTooSmall
  else if !isPowerOfTwo c.arena.chunkSize then .error .chunkNotPowerOfTwo
  else if c.arena.maxSize ≠ 0 ∧ c.arena.maxSize < c.arena.chunkSize then
    .error .capacityBelowChunk
  else .ok ()

/-- What makes a configuration valid. -/
def Valid (c : RuntimeConfig) : Prop :=
  leastChunkSize ≤ c.arena.chunkSize ∧ c.arena.chunkSize.isPowerOfTwo ∧
    (c.arena.maxSize = 0 ∨ c.arena.chunkSize ≤ c.arena.maxSize)

theorem validate_eq_ok_iff {c : RuntimeConfig} : c.validate = .ok () ↔ c.Valid := by
  unfold validate Valid
  rw [← isPowerOfTwo_iff]
  split
  next h => simp; omega
  next h =>
    split
    next p => simp at p; simp [p]
    next p =>
      split
      next m => simp at p m; simp [p]; omega
      next m => simp at p m; simp [p]; omega

end RuntimeConfig

/-- One change that a builder makes to a configuration. -/
inductive ConfigChange
  | chunkSize (bytes : Nat)
  | maxSize (bytes : Nat)
  | leakPolicy (policy : LeakPolicy)
  | checkNothingAccess (enabled : Bool)
  | abortOnFatal (enabled : Bool)
  | logLevel (level : Log.Level)
  | logFormat (format : Log.Format)
  deriving DecidableEq, Inhabited

/-- The configuration with one change made. -/
def RuntimeConfig.change (c : RuntimeConfig) : ConfigChange → RuntimeConfig
  | .chunkSize bytes => { c with arena := { c.arena with chunkSize := bytes } }
  | .maxSize bytes => { c with arena := { c.arena with maxSize := bytes } }
  | .leakPolicy policy => { c with arena := { c.arena with leakPolicy := policy } }
  | .checkNothingAccess on =>
    { c with diagnostics := { c.diagnostics with checkNothingAccess := on } }
  | .abortOnFatal on => { c with diagnostics := { c.diagnostics with abortOnFatal := on } }
  | .logLevel level => { c with log := { c.log with level := level } }
  | .logFormat format => { c with log := { c.log with format := format } }

/-- The defaults with the changes made in order, not validated. -/
def RuntimeConfig.ofChanges (changes : List ConfigChange) : RuntimeConfig :=
  changes.foldl RuntimeConfig.change {}

/-- The defaults with the changes made in order, if the result is valid. -/
def RuntimeConfig.build (changes : List ConfigChange) : Except ConfigError RuntimeConfig := do
  let config := ofChanges changes
  config.validate
  return config

end Custody
