import Custody.Session.Basic

/-!
# Sessions about diagnostics

These sessions report faults, panic in other ways, catch panics, and register hooks that react
to what they are told. An action may nest: it may be caught, or be followed by a report from a
destructor, which is made even while the action unwinds.

Actions that just return something return a value of any type `ν`.
-/

namespace Custody.Session

/-- What a hook does beside noting what it is told. -/
inductive HookManner
  | record
  | panic
  | unhook (name : String)
  | hook (name : String)
  | clear
  | count
  /-- Report a double free, unless it is told of one. -/
  | report
  /-- Raise a double free, unless it is told of one. -/
  | raise
  deriving DecidableEq, Inhabited

/-- The fault that hooks report. -/
def hookFault : Fault := .doubleFree "hook"

/-- Whether a fault is a double free. -/
def isDoubleFree : Fault → Bool
  | .doubleFree _ => true
  | _ => false

/-- What a hook that only notes does. -/
def recordDiagnostic (name : String) (d : Diagnostic) : List Action := [.note (.notified name d)]

/-- What a hook of a name and a manner does. -/
def hookOf (name : String) (manner : HookManner) (d : Diagnostic) : List Action :=
  recordDiagnostic name d ++
    match manner with
    | .record => []
    | .panic => [.panic (.text "hook panicked")]
    | .unhook other => [.unregister other]
    | .hook other => [.register other (recordDiagnostic other)]
    | .clear => [.clearHooks]
    | .count => [.countFaults]
    | .report => if isDoubleFree d.fault then [] else [.report hookFault .warning]
    | .raise => if isDoubleFree d.fault then [] else [.fail hookFault]

/-- Something that is done and may panic. -/
inductive Act (ν : Type)
  | value (v : ν)
  | panic (payload : Payload)
  /-- Panic with the last diagnostic. -/
  | panicAgain
  | report (fault : Fault) (severity : Severity)
  | fail (fault : Fault)
  | catching (act : Act ν)
  /-- Do something, and raise a fault from a destructor afterwards; it may insist. -/
  | thenFault (fault : Fault) (act : Act ν) (insist : Bool)
  | refused (refusal : Refusal)

instance {ν : Type} : Inhabited (Act ν) := ⟨.refused .badStep⟩

/-- A step of a session about diagnostics. -/
inductive DiagnosticStep (ν : Type)
  | act (act : Act ν)
  | hook (name : String) (manner : HookManner)
  | unhook (name : String)
  | clear
  | count
  | last
  | onThread (name : Option String) (act : Act ν)

/-- The answer of such a step. -/
inductive DiagnosticReply (ν : Type)
  | value (v : ν)
  | returned
  | done
  /-- What was caught, or what was not. -/
  | caught (result : Except Trouble (DiagnosticReply ν))
  | removed (answer : Option Bool)
  | count (faults : Nat)
  | last (diagnostic : Option Diagnostic)

/-- The last diagnostic, if it was made after a number of faults, counted from there. -/
def lastSince (before : Nat) (p : Process) : Option Diagnostic :=
  (p.last.filter fun d => before < d.sequence).map (·.since before)

namespace Act

variable {ν : Type}

/-- Raise a fault from a destructor, in one of two ways. -/
def faultAtEnd (fault : Fault) (insist : Bool) : Run Process Unit := do
  if insist then Process.fail fault
  else
    Process.report fault .fatal
    Process.note (.survived fault.code)

/-- Do what an action says, in a session before which a number of faults were reported. -/
def perform (before : Nat) : Act ν → Run Process (Result (DiagnosticReply ν))
  | value v => return .ok (.value v)
  | panic payload => Process.panic payload
  | panicAgain => do
    match (← Run.get).last.filter fun d => before < d.sequence with
    | some d => Process.panic (.diagnostic d)
    | none => return refuse .noDiagnostic
  | report fault severity => do
    Process.report fault severity
    return .ok .returned
  | fail fault => Process.fail fault
  | catching act => do
    let outcome ← Process.catching (act.perform before)
    return .ok (.caught (resultOf outcome))
  | thenFault fault act insist => Run.atEnd (act.perform before) (faultAtEnd fault insist)
  | refused r => return refuse r

end Act

namespace DiagnosticStep

/-- What is said of a name that no thread can have, since a null byte is in it: where the first
one is, and all bytes of the name. -/
def nameRefusal? (name : String) : Option String :=
  let bytes := name.toUTF8.toList
  (bytes.findIdx? (· == 0)).map fun place =>
    "thread name may not contain interior null bytes: NulError(" ++ toString place ++ ", [" ++
      ", ".intercalate (bytes.map toString) ++ "])"

variable {ν : Type}

/-- Carry out a step. -/
def perform (before : Nat) : DiagnosticStep ν → Run Process (Result (DiagnosticReply ν))
  | act a => a.perform before
  | hook name manner => do
    let _ ← Process.register name (hookOf name manner)
    return .ok .done
  | unhook name => do return .ok (.removed (← Process.unregisterNamed name))
  | clear => do
    Process.clearHooks
    return .ok .done
  | count => do return .ok (.count ((← Run.get).faults - before))
  | last => do return .ok (.last (lastSince before (← Run.get)))
  | onThread name a => do
    match name.bind nameRefusal? with
    | some message => Process.panic (.text message)
    | none =>
      let outcome ← Process.onThread name (a.perform before)
      return .ok (.caught (resultOf outcome))

end DiagnosticStep

/-- Carry out a session about diagnostics. -/
def runDiagnosing {ν : Type} (level : Option Log.Level) (steps : List (DiagnosticStep ν)) :
    Run Machine (List (StepReport (DiagnosticReply ν))) :=
  run level () do
    let before := (← Run.get).faultsBefore
    observeAll (fun step => onProcess (step.perform before)) steps

end Custody.Session
