import Custody.Config.Environment
import Custody.Log.Logger
import Custody.Process.Event
import Custody.Process.Outcome

/-!
# The state of a process

What is shared by all of a process: its environment; the configuration, once it is set; the
log with its switches and its sink; the number of faults, the last diagnostic and the hooks;
the log entries printed to standard error; and the running thread. `trace` holds everything that
happened, newest first.

Hooks and sinks are programs of the user. Here such a program is a function from what it is
given to a list of actions, and an action may do all that user code can do to this state:
note something, write log entries, replace the sink, register and remove hooks, report faults
in turn, and panic.

A thread counts the panics that unwind it. The count goes up when a panic starts and down when
it is caught, so that destructors which run in between can see that the thread is unwinding.
-/

namespace Custody

/-- Identifies a registered hook. Identifiers are never used twice. -/
abbrev HookId := Nat

/-- One thing that a hook or a sink does. -/
inductive Action
  /-- Note an event. What is done to storage is not for user code to note. -/
  | note (event : Event) (visible : event.isVisible = true := by rfl)
  /-- Write a log entry. -/
  | emit (level : Log.Level) (target : Option String) (message : String)
      (fields : List (String × Log.FieldValue))
  /-- Send log entries to a sink with the given tag. -/
  | installSink (tag : String) (react : Log.Entry → List Action)
  /-- Send log entries to standard error. -/
  | removeSink
  /-- Register a hook under a name. -/
  | register (name : String) (react : Diagnostic → List Action)
  /-- Remove the hook registered last under a name. -/
  | unregister (name : String)
  /-- Remove all hooks. -/
  | clearHooks
  /-- Note the number of faults and the place of the last diagnostic. -/
  | countFaults
  /-- Report a fault. -/
  | report (fault : Fault) (severity : Severity)
  /-- Report a fatal fault and unwind. -/
  | fail (fault : Fault)
  /-- Panic. -/
  | panic (payload : Payload)

/-- A destination of log entries. -/
structure Sink where
  /-- The tag under which the sink notes entries. -/
  tag : String
  /-- What it does with an entry. -/
  react : Log.Entry → List Action

/-- A hook that is told of every diagnostic. -/
structure Hook where
  /-- Its identifier. -/
  id : HookId
  /-- What it does with a diagnostic. -/
  react : Diagnostic → List Action

/-- The running thread. -/
structure Thread where
  /-- Its name, if it has one. -/
  name : Option String := some "main"
  /-- How many panics are unwinding it. -/
  panics : Nat := 0
  deriving DecidableEq, Inhabited

/-- A log entry that was printed to standard error. -/
structure Printed where
  /-- The layout that it was printed in. -/
  format : Log.Format
  /-- The entry. -/
  entry : Log.Entry
  deriving DecidableEq

/-- The state of a process. -/
structure Process where
  /-- The environment it runs in. -/
  environment : Environment := .bare
  /-- The configuration, once it is set. -/
  config : Option RuntimeConfig := none
  /-- The switches of the log. -/
  log : Log.Switches := {}
  /-- Where log entries go; without a sink they are printed. -/
  sink : Option Sink := none
  /-- How many faults were reported. -/
  faults : Nat := 0
  /-- The last diagnostic. -/
  last : Option Diagnostic := none
  /-- The hooks, in the order of their registration. -/
  hooks : List Hook := []
  /-- The identifier of the next hook. -/
  nextHook : HookId := 1
  /-- The names under which hooks were registered, newest first. -/
  hookNames : List (String × HookId) := []
  /-- The running thread. -/
  thread : Thread := {}
  /-- What was printed, newest first. -/
  printed : List Printed := []
  /-- What happened, newest first. -/
  trace : List Event := []

namespace Process

/-- The configuration in force: the one that was set, or the defaults. -/
def activeConfig (p : Process) : RuntimeConfig := p.config.getD {}

/-- Whether the running thread is unwinding. -/
def isUnwinding (p : Process) : Bool := p.thread.panics != 0

/-- The process after one more event. -/
def after (p : Process) (e : Event) : Process := { p with trace := e :: p.trace }

/-- Note an event. -/
def note (e : Event) : Run Process Unit := Run.modify (·.after e)

/-- Print a log entry to standard error, in the layout that is chosen. -/
def print (e : Log.Entry) : Run Process Unit :=
  Run.modify fun p => { p with printed := ⟨p.log.format, e⟩ :: p.printed }

/-- The process in which one more panic unwinds the thread. -/
def panicStarted (p : Process) : Process :=
  { p with thread := { p.thread with panics := p.thread.panics + 1 } }

/-- The process in which one panic fewer unwinds the thread. -/
def panicCaught (p : Process) : Process :=
  { p with thread := { p.thread with panics := p.thread.panics - 1 } }

/-- Start to unwind with a payload. -/
def panic {α : Type} (payload : Payload) : Run Process α :=
  fun p => .unwinding payload p.panicStarted

/-- Do an operation and catch a panic that leaves it. -/
def catching {α : Type} : Run Process α → Run Process (Except Payload α) :=
  Run.catchingWith panicCaught

theorem panicCaught_panicStarted (p : Process) : p.panicStarted.panicCaught = p := rfl

/-- A panic that is caught leaves the thread as it was. -/
theorem catching_panic {α : Type} (payload : Payload) (p : Process) :
    catching (panic payload : Run Process α) p = .returned (.error payload) p := rfl

/-- Register a hook under a name. -/
def register (name : String) (react : Diagnostic → List Action) : Run Process HookId := fun p =>
  .returned p.nextHook
    { p with
      hooks := p.hooks ++ [⟨p.nextHook, react⟩]
      nextHook := p.nextHook + 1
      hookNames := (name, p.nextHook) :: p.hookNames }

/-- Remove a hook; says whether it was still registered. -/
def unregister (id : HookId) : Run Process Bool := fun p =>
  .returned (p.hooks.any (·.id == id)) { p with hooks := p.hooks.filter (·.id != id) }

/-- The hook registered last under a name. -/
def hookNamed? (p : Process) (name : String) : Option HookId :=
  (p.hookNames.find? fun entry => entry.1 == name).map (·.2)

/-- Remove the hook registered last under a name; nothing if the name was never used. -/
def unregisterNamed (name : String) : Run Process (Option Bool) := do
  match (← Run.get).hookNamed? name with
  | none => return none
  | some id => return some (← unregister id)

/-- Remove all hooks. -/
def clearHooks : Run Process Unit := Run.modify fun p => { p with hooks := [] }

/-- Give the process another environment. -/
def setEnvironment (e : Environment) : Run Process Unit :=
  Run.modify fun p => { p with environment := e }

/-- Let entries of a level on through to the log. -/
def setThreshold (level : Log.Level) : Run Process Unit :=
  Run.modify fun p => { p with log := { p.log with threshold := level } }

/-- Turn the log on or off. -/
def setEnabled (on : Bool) : Run Process Unit :=
  Run.modify fun p => { p with log := { p.log with enabled := on } }

/-- Choose the layout of printed log entries. -/
def setFormat (format : Log.Format) : Run Process Unit :=
  Run.modify fun p => { p with log := { p.log with format := format } }

/-- Choose where log entries go. -/
def setSink (sink : Option Sink) : Run Process Unit := Run.modify fun p => { p with sink := sink }

/-- Run an operation on another thread, which starts without panics, and wait for its end. -/
def onThread {α : Type} (name : Option String) (act : Run Process α) :
    Run Process (Except Payload α) := fun p =>
  (catching act { p with thread := ⟨name, 0⟩ }).mapState fun q => { q with thread := p.thread }

end Process

end Custody
