import Custody.Memory.Basic
import Custody.Process.Report

/-!
# A process with its memory

A machine is a process together with its memory, and the state that all operations on handles
change. Operations of the process leave the memory alone.
-/

namespace Custody

/-- A process and its memory. -/
structure Machine where
  /-- What the whole process shares. -/
  process : Process := {}
  /-- What it keeps in memory. -/
  memory : Memory := {}

namespace Machine

/-- Do an operation of the process. -/
def onProcess {α : Type} (act : Run Process α) : Run Machine α :=
  Run.within (·.process) (fun m p => { m with process := p }) act

/-- Change the memory. -/
def onMemory (f : Memory → Memory) : Run Machine Unit :=
  Run.modify fun m => { m with memory := f m.memory }

/-- Look at the memory. -/
def ofMemory {α : Type} (f : Memory → α) : Run Machine α := Run.gets fun m => f m.memory

/-- Note an event. -/
def note (e : Event) : Run Machine Unit := onProcess (Process.note e)

/-- Note something that was done with storage. -/
def noteStorage (e : StorageEvent) : Run Machine Unit := note (.storage e)

/-- Panic. -/
def panic {α : Type} (payload : Payload) : Run Machine α := onProcess (Process.panic payload)

/-- Report a fatal fault and never come back. -/
def fail {α : Type} (fault : Fault) : Run Machine α := onProcess (Process.fail fault)

/-- Report a fault. -/
def report (fault : Fault) (severity : Severity) : Run Machine Unit :=
  onProcess (Process.report fault severity)

/-- Write a log entry. -/
def write (level : Log.Level) (target : String) (message : String)
    (fields : List (String × Log.FieldValue)) : Run Machine Unit :=
  onProcess (Process.write level (some target) message fields)

/-- Give the process another environment. -/
def setEnvironment (e : Environment) : Run Machine Unit := onProcess (Process.setEnvironment e)

/-- Whether the running thread is unwinding. -/
def isUnwinding : Run Machine Bool := Run.gets fun m => m.process.isUnwinding

/-- Do an operation and catch a panic that leaves it. -/
def catching {α : Type} : Run Machine α → Run Machine (Except Payload α) :=
  Run.catchingWith fun m => { m with process := m.process.panicCaught }

end Machine

end Custody
