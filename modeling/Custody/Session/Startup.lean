import Custody.Nothing.Registry
import Custody.Process.Startup
import Custody.Release.Teardown
import Custody.Session.Diagnosing

/-!
# Sessions about the process as a whole

These sessions initialize the process, make arenas with the configuration in force, and look
at the registry of nothing instances and at the system allocator. They leave the log as they
find it.
-/

namespace Custody.Session

/-- What nothing instances are looked at. -/
inductive Witness
  | counted
  | outer
  | flaky
  deriving DecidableEq, Inhabited

/-- The type of a witness. -/
def Witness.kind : Witness → Kind
  | counted => Machine.counted
  | outer => Machine.outer
  | flaky => Machine.flaky

/-- A step of a session about the process. -/
inductive StartupStep
  | init (changes : List ConfigChange)
  | initFromEnvironment
  | setEnvironment (environment : Environment)
  | config
  | logLevel
  | version
  /-- Make an arena, try it out, and drop it. -/
  | arena (name : Option String)
  | registered
  | built
  /-- Look at the nothing instance of a witness, if it is known. -/
  | nothing (witness : Option Witness)
  | areNothing
  | checkAccess (real : Bool)
  | getChecked (null : Bool)
  | race (threads : Nat)
  | system
  | unknown

/-- What was found out about a nothing instance. -/
structure NothingView where
  /-- Whether it is one. -/
  isNothing : Bool
  /-- Whether a raw pointer to it says so. -/
  rawIsNothing : Bool
  /-- Whether it is the same when it is asked for again. -/
  isSame : Bool
  deriving DecidableEq, Inhabited

/-- The answer of such a step. -/
inductive StartupReply
  | done
  | accepted
  | config (config : RuntimeConfig)
  | logLevel (level : Log.Level) (enabled : Bool)
  | version (version : String)
  /-- An arena after it was tried out, and what came of that. -/
  | arena (arena : Arena) (error : Option AllocError)
  | count (n : Nat)
  | counts (flaky counted : Nat)
  | nothing (view : NothingView) (inner : Option Bool)
  | flags (first second : Bool)
  | access (faults : Nat) (last : Option Diagnostic)
  | flag (value : Bool)
  | system (name : String) (ledger : Ledger)

namespace StartupStep

/-- The answer to an attempt to initialize. -/
def initReply : Except ConfigError Unit → Result StartupReply
  | .ok () => .ok .accepted
  | .error e => .error (.configuration e)

/-- The value that arenas are tried out with: a word. -/
def wordValue : Value := .bytes (.small 8 3)

/-- Own a word in an arena for a moment. -/
def tryOut (id : AllocatorId) : Run Machine (Option AllocError) := do
  match ← Machine.tryCreateBlock .own id wordValue with
  | .error e => return some e
  | .ok h =>
    Machine.dropHandle h
    return none

/-- Make an arena with the configuration in force, try it out, and drop it. -/
def makeAndDrop (name : Option String) : Run Machine StartupReply := do
  let config := (← Run.get).process.activeConfig.arena
  let id ← Machine.makeArena name config
  let error ← Run.onUnwind (tryOut id) (Machine.dropArena id)
  let arena ← Machine.ofMemory (·.arena? id)
  Machine.dropArena id
  return .arena (arena.getD default) error

/-- Where the nothing instance of a type is. -/
def nothingAddress (k : Kind) : Run Machine Address := do
  let c ← Machine.nothing k
  Machine.ofMemory fun m => (m.address? ⟨c, []⟩).getD 0

/-- Where a fresh value of a type is. -/
def freshAddress (k : Kind) : Run Machine Address := do
  let c ← Machine.makeLasting (.ofNothing k)
  Machine.ofMemory fun m => (m.address? ⟨c, []⟩).getD 0

/-- Whether a value of a type at an address is the nothing instance. -/
def isNothing (k : Kind) (a : Address) : Run Machine Bool := Machine.ofMemory (·.isNothing k a)

/-- Look at the nothing instance of a type. -/
def lookAt (k : Kind) : Run Machine NothingView := do
  let first ← nothingAddress k
  let one ← isNothing k first
  let second ← nothingAddress k
  return ⟨one, ← isNothing k second, first == second⟩

/-- Look at the nothing instance of a witness, and at what it holds. -/
def lookAtWitness (w : Witness) : Run Machine StartupReply := do
  let view ← lookAt w.kind
  match w with
  | .outer =>
    let inner ← nothingAddress Machine.counted
    return .nothing view (some (← isNothing Machine.counted inner))
  | .counted | .flaky => return .nothing view none

/-- Request the nothing instance of a type in a number of threads; says whether all of them got
the same. -/
def allSame (k : Kind) : Nat → Run Machine Bool
  | 0 => return true
  | n + 1 => do
    let first ← nothingAddress k
    let others ← allSame k n
    return others && first == (← nothingAddress k)

/-- How often making the instances of the flaky and the counted type was begun. -/
def builtCounts : Run Machine StartupReply :=
  Machine.ofMemory fun m =>
    .counts (m.nothings.attemptsOf Machine.flaky) (m.nothings.attemptsOf Machine.counted)

/-- Do what a step says, in a session before which a number of faults were reported. -/
def perform (before : Nat) : StartupStep → Run Machine (Result StartupReply)
  | init changes => do
    return initReply (← Machine.onProcess (Process.init (.ofChanges changes)))
  | initFromEnvironment => do
    return initReply (← Machine.onProcess Process.initFromEnvironment)
  | setEnvironment env => do
    Machine.setEnvironment env
    return .ok .done
  | config => do return .ok (.config (← Run.get).process.activeConfig)
  | logLevel => do
    let log := (← Run.get).process.log
    return .ok (.logLevel log.threshold log.enabled)
  | version => return .ok (.version Custody.version)
  | arena name => do return .ok (← makeAndDrop name)
  | registered => do return .ok (.count (← Run.get).memory.nothings.count)
  | built => do return .ok (← builtCounts)
  | nothing none => return refuse .badType
  | nothing (some w) => do return .ok (← lookAtWitness w)
  | areNothing => do
    let one ← isNothing Machine.counted (← freshAddress Machine.counted)
    return .ok (.flags one (← isNothing Machine.flaky (← freshAddress Machine.flaky)))
  | checkAccess real => do
    let a ← if real then freshAddress Machine.counted else nothingAddress Machine.counted
    Machine.checkAccess Machine.counted a
    let p := (← Run.get).process
    return .ok (.access p.faults (p.last.map (·.since before)))
  | getChecked null => do
    let c ← Machine.nothing Machine.counted
    let link : Option Link := if null then none else some ⟨c, ⟨c, []⟩, false⟩
    let _ ← Machine.getChecked ⟨.block .own, Machine.counted, link⟩
    return .ok (.count (← Run.get).process.faults)
  | race threads => do return .ok (.flag (← allSame Machine.counted threads))
  | system => do
    match (← Run.get).memory.allocator? systemAllocator with
    | none => return refuse .noAllocator
    | some a => return .ok (.system a.name a.ledger)
  | unknown => return refuse .badStep

end StartupStep

/-- Carry out a session about the process. -/
def runStartup (steps : List StartupStep) : Run Machine (List (StepReport StartupReply)) :=
  run none () do
    let before := (← Run.get).faultsBefore
    observeAll (fun step => onMachine (step.perform before)) steps

end Custody.Session
