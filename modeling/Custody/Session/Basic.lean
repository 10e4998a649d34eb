import Custody.Machine.Basic
import Custody.Session.Trouble

/-!
# Sessions

A session is a list of steps that are carried out on one machine, with allocators that it
declares by name, and a desk of its own for whatever else its steps need. Every step is
observed: its result, or the panic it left by, and the events it gave rise to. Sequence numbers
of faults count from the start of the session, and so do the numbers of arenas.
-/

namespace Custody

namespace Session

/-- An allocator that a session declared. -/
structure Declared where
  /-- The name by which steps refer to it. -/
  key : String
  /-- The allocator, which may be gone by now. -/
  allocator : AllocatorId
  deriving DecidableEq, Inhabited

end Session

/-- A machine with what a session keeps beside it. -/
structure Session (desk : Type) where
  /-- The machine that the steps work on. -/
  machine : Machine
  /-- How many faults were reported before the session. -/
  faultsBefore : Nat
  /-- How many arena numbers were taken when the session began to make its own. -/
  arenasBefore : Nat
  /-- How many events are accounted for. -/
  accounted : Nat
  /-- The declared allocators, in order. -/
  allocators : List Session.Declared
  /-- What the steps keep for themselves. -/
  desk : desk

namespace Session

variable {δ α : Type}

/-- Do an operation of the machine. -/
def onMachine (act : Run Machine α) : Run (Session δ) α :=
  Run.within (·.machine) (fun s m => { s with machine := m }) act

/-- Do an operation of the process. -/
def onProcess (act : Run Process α) : Run (Session δ) α := onMachine (Machine.onProcess act)

/-- Look at the memory. -/
def ofMemory (f : Memory → α) : Run (Session δ) α := Run.gets fun s => f s.machine.memory

/-- Change the desk. -/
def onDesk (f : δ → δ) : Run (Session δ) Unit := Run.modify fun s => { s with desk := f s.desk }

/-- The session after a panic was caught. -/
def panicCaught (s : Session δ) : Session δ :=
  { s with machine := { s.machine with process := s.machine.process.panicCaught } }

/-- Do an operation and catch a panic that leaves it. -/
def catching : Run (Session δ) α → Run (Session δ) (Except Payload α) :=
  Run.catchingWith panicCaught

/-! ## Observing -/

/-- The value of a field of a log entry that holds the sequence number of a fault, counted from
a later start. -/
def sequenceSince (before : Nat) : String × Log.FieldValue → String × Log.FieldValue
  | ("sequence", .unsigned n) => ("sequence", .unsigned (n - UInt64.ofNat before))
  | field => field

/-- A log entry with the sequence number of the fault it is about, if it is about one, counted
from a later start. -/
def entrySince (before : Nat) (e : Log.Entry) : Log.Entry :=
  if e.target = some "tether::fault" then
    { e with fields := e.fields.map (sequenceSince before) }
  else e

/-- An event with the numbers of faults counted from a later start. -/
def eventSince (before : Nat) : Event → Event
  | .logged sink e => .logged sink (entrySince before e)
  | .notified hook d => .notified hook (d.since before)
  | .counted faults last => .counted (faults - before) (last.map (· - before))
  | e => e

/-- What can be seen of all that happened and is not accounted for. -/
def newEvents (s : Session δ) : List Event :=
  let trace := s.machine.process.trace
  ((trace.take (trace.length - s.accounted)).reverse.filter Event.isVisible).map
    (eventSince s.faultsBefore)

/-- The session in which all that happened is accounted for. -/
def allAccounted (s : Session δ) : Session δ :=
  { s with accounted := s.machine.process.trace.length }

/-- The account of one step. -/
structure StepReport (ρ : Type) where
  /-- What came of it. -/
  result : Except Trouble ρ
  /-- What happened meanwhile, in order. -/
  events : List Event
  /-- The live allocations of every declared allocator that is not gone, after the step. -/
  live : List (Option Word) := []

/-- The live allocations of the declared allocators. -/
def liveCounts (s : Session δ) : List (Option Word) :=
  s.allocators.map fun d => (s.machine.memory.allocator? d.allocator).map (·.ledger.live)

/-- The result of a step that may have left by a panic. -/
def resultOf : Except Payload (Result α) → Result α
  | .ok result => result
  | .error payload => .error (.panicked payload)

/-- Carry out a step and give account of it, and of nothing that was accounted for meanwhile. -/
def observe (step : Run (Session δ) (Result α)) : Run (Session δ) (StepReport α) := do
  let outcome ← catching step
  let after ← Run.get
  Run.modify allAccounted
  return ⟨resultOf outcome, newEvents after, liveCounts after⟩

/-- Carry out steps in order and give account of each. -/
def observeAll {ι : Type} (step : ι → Run (Session δ) (Result α)) :
    List ι → Run (Session δ) (List (StepReport α))
  | [] => return []
  | i :: rest => do
    let report ← observe (step i)
    return report :: (← observeAll step rest)

/-! ## Beginning and end -/

/-- Begin a session on a machine. A session with a level listens to the log from that level on,
and one without leaves the log alone. -/
def begin (level : Option Log.Level) (desk : δ) (m : Machine) : Session δ :=
  let process := { level.elim m.process m.process.listening with hookNames := [] }
  { machine := { m with process := process }
    faultsBefore := process.faults
    arenasBefore := m.memory.nextArena - 1
    accounted := process.trace.length
    allocators := []
    desk := desk }

/-- End a session: hooks do not outlive it, and a session that listened to the log stops. -/
def finish (level : Option Log.Level) : Run (Session δ) Unit :=
  onProcess do
    Process.clearHooks
    if level.isSome then Run.modify Process.doneListening

/-- Carry out an operation as a session on a machine. -/
def run (level : Option Log.Level) (desk : δ) (act : Run (Session δ) α) : Run Machine α :=
  fun m =>
    ((do
      let answer ← act
      finish level
      return answer : Run (Session δ) α) (begin level desk m)).mapState (·.machine)

end Session

end Custody
