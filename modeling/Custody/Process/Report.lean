import Custody.Process.State

/-!
# Log entries and reports on their way

Writing a log entry hands it to the sink, or prints it when there is none. Reporting a fault
makes a diagnostic with the next sequence number, remembers it as the last one, logs it, and
tells every hook that was registered at that moment, each on its own: a hook that panics does
not keep the others from being told. Then a fatal report unwinds with the diagnostic, unless
the thread is unwinding already; `Process.fail` never comes back, and a thread that is
unwinding already takes the process down with it.

Sinks and hooks may write entries and report faults in turn, so these operations call
themselves. `Process.perform depth` carries out actions that are nested at most `depth` deep;
deeper nesting exhausts the stack and aborts the process. The operations come in two layers: a
`…With` function says what happens once, given how to carry out what sinks and hooks do, and
the function without the suffix closes the circle at the depth of a thread's stack.
-/

namespace Custody.Process

/-- How to carry out a list of actions. -/
abbrev Performer := List Action → Run Process Unit

/-- Hand an entry that the switches let through to the sink, or print it. -/
def emitWith (performer : Performer) (e : Log.Entry) : Run Process Unit := do
  let p ← Run.get
  if p.log.admits e.level then
    match p.sink with
    | some sink => performer (sink.react e)
    | none => print e

/-- Write an entry that carries the name of the running thread. -/
def writeWith (performer : Performer) (level : Log.Level) (target : Option String)
    (message : String) (fields : List (String × Log.FieldValue)) : Run Process Unit := do
  let p ← Run.get
  emitWith performer
    { level := level, message := message, fields := fields, thread := p.thread.name,
      target := target }

/-- Make the diagnostic of a report, which takes the next sequence number. -/
def diagnose (fault : Fault) (severity : Severity) : Run Process Diagnostic := fun p =>
  let d : Diagnostic := ⟨fault, severity, p.faults + 1, p.thread.name⟩
  .returned d ({ p with faults := p.faults + 1 }.after (.diagnosed d))

/-- Tell one hook of a diagnostic; what it panics with is dropped. -/
def tellWith (performer : Performer) (d : Diagnostic) (hook : Hook) : Run Process Unit := do
  let _ ← catching (performer (hook.react d))

/-- The fields of the log entry for a diagnostic. -/
def diagnosticFields (d : Diagnostic) : List (String × Log.FieldValue) :=
  [("code", .text d.fault.code), ("sequence", .unsigned (UInt64.ofNat d.sequence))]

/-- Remember a diagnostic, log it, and tell the hooks registered by then. -/
def deliverWith (performer : Performer) (d : Diagnostic) : Run Process Unit := do
  Run.modify fun p => { p with last := some d }
  writeWith performer d.severity.level (some "tether::fault") d.text (diagnosticFields d)
  Run.forAll (tellWith performer d) (← Run.get).hooks

/-- Unwind with a diagnostic, or end the process if the configuration asks for that. -/
def raise {α : Type} (d : Diagnostic) : Run Process α := do
  if (← Run.get).activeConfig.diagnostics.abortOnFatal then Run.abort (.fatal d)
  else panic (.diagnostic d)

/-- Report a fault. A fatal one unwinds, unless the thread is unwinding already. -/
def reportWith (performer : Performer) (fault : Fault) (severity : Severity) :
    Run Process Unit := do
  let d ← diagnose fault severity
  deliverWith performer d
  if severity = .fatal && !(← Run.get).isUnwinding then raise d

/-- Report a fatal fault and never come back. -/
def failWith {α : Type} (performer : Performer) (fault : Fault) : Run Process α := do
  let d ← diagnose fault .fatal
  deliverWith performer d
  if (← Run.get).isUnwinding then Run.abort (.fatal d) else raise d

/-- Carry out one action. -/
def performOne (performer : Performer) : Action → Run Process Unit
  | .note event _ => note event
  | .emit level target message fields => writeWith performer level target message fields
  | .installSink tag react => setSink (some ⟨tag, react⟩)
  | .removeSink => setSink none
  | .register name react => do let _ ← register name react
  | .unregister name => do note (.unhooked name (← unregisterNamed name))
  | .clearHooks => clearHooks
  | .countFaults => do
    let p ← Run.get
    note (.counted p.faults (p.last.map (·.sequence)))
  | .report fault severity => reportWith performer fault severity
  | .fail fault => failWith performer fault
  | .panic payload => panic payload

/-- Carry out actions that are nested at most this deep. -/
def perform : Nat → Performer
  | _, [] => pure ()
  | 0, _ :: _ => Run.abort .stackExhausted
  | depth + 1, actions => Run.forAll (performOne (perform depth)) actions

/-- How deep the actions of sinks and hooks may nest before the stack is exhausted. -/
def stackDepth : Nat := 256

/-- Write an entry as it is. -/
def emit (e : Log.Entry) : Run Process Unit := emitWith (perform stackDepth) e

/-- Write an entry that carries the name of the running thread. -/
def write (level : Log.Level) (target : Option String) (message : String)
    (fields : List (String × Log.FieldValue)) : Run Process Unit :=
  writeWith (perform stackDepth) level target message fields

/-- Report a fault. A fatal one unwinds, unless the thread is unwinding already. -/
def report (fault : Fault) (severity : Severity) : Run Process Unit :=
  reportWith (perform stackDepth) fault severity

/-- Report a fatal fault and never come back. -/
def fail {α : Type} (fault : Fault) : Run Process α := failWith (perform stackDepth) fault

/-- The sink that notes every entry and does nothing else. -/
def recordingSink (tag : String) : Sink := ⟨tag, fun e => [.note (.logged tag e)]⟩

/-- The process in which everything from a level on goes to a sink that notes it. The layout of
printed lines is the one for people again. -/
def listening (p : Process) (level : Log.Level) : Process :=
  { p with log := { threshold := level }, sink := some (recordingSink "log") }

/-- The process in which nobody listens any more: what is at least informative is printed, in
the layout that was chosen last. -/
def doneListening (p : Process) : Process :=
  { p with log := { format := p.log.format }, sink := none }

end Custody.Process
