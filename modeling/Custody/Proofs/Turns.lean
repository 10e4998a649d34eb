import Custody.Proofs.Conduct

/-!
# The turns that programs take

While a fault is reported, a sink and several hooks may run, and what they do may report again. A
*turn* is a moment at which one of these programs, or the code that they serve, is about to do the
next thing or has come to its end: whose program it is, what it is about to do, and the process
that it finds. `Process.turns` lists the turns of actions as they are carried out, in their order,
those of nested reports between the turns of the program that made the report.

The list follows the definitions of `Custody.Process.Report` one by one, and takes every process in
it from the operations themselves. A program that panics or that is cut short has no further turns;
a hook whose panic is caught has none, but the next hook does.

`Code` is what the code may look like that sinks and hooks serve: it does things, catches panics,
and has destructors that do things while a panic passes.
-/

namespace Custody

/-- Whose program acts. -/
inductive Author
  /-- The code that sinks and hooks serve. -/
  | caller
  /-- A sink that was given an entry. -/
  | sink (entry : Log.Entry)
  /-- A hook that was told of a diagnostic. -/
  | hook (told : Diagnostic)

/-- A moment at which a program is about to do something. -/
structure Turn where
  /-- Whose program it is. -/
  author : Author
  /-- What it does next; nothing if it has come to its end. -/
  next : Option Action
  /-- The process as the program finds it. -/
  found : Process

namespace Turn

/-- The diagnostic that is made next, but for its number, if a fault is reported. -/
def makes? (t : Turn) : Option (Nat → Diagnostic) :=
  match t.next with
  | some (.report fault severity) => some fun n => ⟨fault, severity, n, t.found.thread.name⟩
  | some (.fail fault) => some fun n => ⟨fault, .fatal, n, t.found.thread.name⟩
  | _ => none

/-- What the program notes next, if it notes something. -/
def notes? (t : Turn) : Option Event :=
  match t.next with
  | some (.note event _) => some event
  | some (.unregister name) =>
    some (.unhooked name
      ((t.found.hookNamed? name).map fun id => t.found.hooks.any (·.id == id)))
  | some .countFaults => some (.counted t.found.faults (t.found.last.map (·.sequence)))
  | _ => none

/-- How many faults are reported in turns. -/
def calls (turns : List Turn) : Nat := (turns.filterMap makes?).length

/-- The diagnostics that are made in turns after so many others, numbered in their order. -/
def numbered (others : Nat) (turns : List Turn) : List Diagnostic :=
  (turns.filterMap makes?).mapIdx fun n make => make (others + n + 1)

end Turn

/-- The turns behind an operation, of which there are none unless it returns. -/
def Outcome.onwards {α : Type} (o : Outcome Process α) (next : α → Process → List Turn) :
    List Turn :=
  match o with
  | .returned a p => next a p
  | .unwinding _ _ => []
  | .aborted _ _ => []

namespace Process

/-- The turns of a loop, from those of each round. -/
def along {β : Type} (act : β → Run Process Unit) (turns : β → Process → List Turn) :
    List β → Process → List Turn
  | [], _ => []
  | b :: rest, p => turns b p ++ (act b p).onwards fun _ q => along act turns rest q

/-- The turns of a program, given its author and what it does. -/
abbrev Observer := Author → List Action → Process → List Turn

/-- The turns while an entry is handed on: those of the sink, if it gets the entry. -/
def emitTurns (observe : Observer) (e : Log.Entry) (p : Process) : List Turn :=
  if p.log.admits e.level then
    match p.sink with
    | some sink => observe (.sink e) (sink.react e) p
    | none => []
  else []

/-- The turns while an entry is written that carries the name of the running thread. -/
def writeTurns (observe : Observer) (level : Log.Level) (target : Option String)
    (message : String) (fields : List (String × Log.FieldValue)) (p : Process) : List Turn :=
  emitTurns observe
    { level := level, message := message, fields := fields, thread := p.thread.name,
      target := target } p

/-- The turns while a diagnostic is delivered: those of the sink, then those of the hooks that are
registered by then, one after another. -/
def deliverTurns (performer : Performer) (observe : Observer) (d : Diagnostic) (p : Process) :
    List Turn :=
  let entry := writeWith performer d.severity.level (some "tether::fault") d.text
    (diagnosticFields d)
  let remembered := { p with last := some d }
  writeTurns observe d.severity.level (some "tether::fault") d.text (diagnosticFields d)
      remembered ++
    (entry remembered).onwards fun _ q =>
      along (tellWith performer d) (fun hook => observe (.hook d) (hook.react d)) q.hooks q

/-- The turns while a fault is reported. -/
def reportTurns (performer : Performer) (observe : Observer) (fault : Fault)
    (severity : Severity) (p : Process) : List Turn :=
  (diagnose fault severity p).onwards fun d q => deliverTurns performer observe d q

/-- The turns of sinks and hooks while an action is carried out. -/
def actionTurns (performer : Performer) (observe : Observer) : Action → Process → List Turn
  | .emit level target message fields => writeTurns observe level target message fields
  | .report fault severity => reportTurns performer observe fault severity
  | .fail fault => reportTurns performer observe fault .fatal
  | _ => fun _ => []

/-- The turns while actions are carried out that are nested at most this deep. -/
def turns : Nat → Observer
  | 0, author, actions, p => (perform 0 actions p).onwards fun _ q => [⟨author, none, q⟩]
  | depth + 1, author, actions, p =>
    along (performOne (perform depth))
        (fun a q => ⟨author, some a, q⟩ :: actionTurns (perform depth) (turns depth) a q)
        actions p ++
      (perform (depth + 1) actions p).onwards fun _ q => [⟨author, none, q⟩]

end Process

/-- The code that sinks and hooks serve. -/
inductive Code
  /-- Do some things. -/
  | acts (actions : List Action)
  /-- One piece of code after another. -/
  | andThen (first second : Code)
  /-- Catch a panic. -/
  | catching (body : Code)
  /-- Do something at the end, also while a panic passes. -/
  | atEnd (body last : Code)

namespace Code

open Process

/-- Run code, with actions that are nested at most this deep. -/
def run (depth : Nat) : Code → Run Process Unit
  | acts actions => perform depth actions
  | andThen first second => do first.run depth; second.run depth
  | catching body => do let _ ← Process.catching (body.run depth)
  | atEnd body last => Run.atEnd (body.run depth) (last.run depth)

/-- The turns while code is run. -/
def turns (depth : Nat) : Code → Process → List Turn
  | acts actions, p => Process.turns depth .caller actions p
  | andThen first second, p =>
    first.turns depth p ++ (first.run depth p).onwards fun _ q => second.turns depth q
  | catching body, p => body.turns depth p
  | atEnd body last, p =>
    body.turns depth p ++
      match body.run depth p with
      | .returned _ q | .unwinding _ q => last.turns depth q
      | .aborted _ _ => []

end Code

end Custody
