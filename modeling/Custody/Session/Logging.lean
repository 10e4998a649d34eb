import Custody.Session.Basic

/-!
# Sessions about the log

These sessions turn the switches of the log, write entries, and choose where entries go. A sink
notes every entry under its tag. An echoing sink then writes an entry of its own for every
entry that is not an echo already, and a swapping sink hands the log over to another sink.
-/

namespace Custody.Session

/-- What a sink does beside noting an entry. -/
inductive SinkManner
  | plain
  | echo
  | swap
  deriving DecidableEq, Inhabited

/-- A step of a session about the log. -/
inductive LogStep
  | setLevel (level : Log.Level)
  | level
  | enable (on : Bool)
  | would (level : Log.Level)
  | format (format : Log.Format)
  /-- Write an entry; the answer is the name of the thread that it carries, if that is asked. -/
  | emit (level : Log.Level) (target : Option String) (message : String)
      (fields : List (String × Log.FieldValue)) (tellThread : Bool)
  | sink (tag : String) (manner : SinkManner)
  | removeSink
  | unknown

/-- The answer of such a step. -/
inductive LogReply
  | done
  | level (level : Log.Level)
  | flag (value : Bool)
  | thread (name : Option String)
  deriving DecidableEq, Inhabited

/-- What marks a message as an echo. -/
def echoMark : String := "re:"

/-- The sink of a manner and a tag. -/
def sinkOf (tag : String) : SinkManner → Sink
  | .plain => Process.recordingSink tag
  | .echo =>
    ⟨tag, fun e =>
      .note (.logged tag e) (.refl true) ::
        if e.message.startsWith echoMark then []
        else [.emit e.level none (echoMark ++ e.message) []]⟩
  | .swap =>
    ⟨tag, fun e =>
      [.note (.logged tag e) (.refl true),
        .installSink "swapped" (Process.recordingSink "swapped").react]⟩

namespace LogStep

/-- Carry out a step. Only a session that found the log as it is may take the sink away. -/
def perform (mayRemoveSink : Bool) : LogStep → Run (Session Unit) (Result LogReply)
  | setLevel l => do
    onProcess (Process.setThreshold l)
    return .ok (.level (← Run.get).machine.process.log.threshold)
  | level => do return .ok (.level (← Run.get).machine.process.log.threshold)
  | enable on => do
    onProcess (Process.setEnabled on)
    return .ok (.flag (← Run.get).machine.process.log.enabled)
  | would l => do return .ok (.flag ((← Run.get).machine.process.log.admits l))
  | format f => do
    onProcess (Process.setFormat f)
    return .ok .done
  | emit l target message fields tellThread => do
    onProcess (Process.write l target message fields)
    let name := (← Run.get).machine.process.thread.name
    return .ok (if tellThread then .thread name else .done)
  | sink tag manner => do
    onProcess (Process.setSink (some (sinkOf tag manner)))
    return .ok .done
  | removeSink => do
    if mayRemoveSink then
      onProcess (Process.setSink none)
      return .ok .done
    else return refuse .keepLogOnly
  | unknown => return refuse .badStep

end LogStep

/-- Carry out a session about the log. -/
def runLogging (level : Option Log.Level) (steps : List LogStep) :
    Run Machine (List (StepReport LogReply)) :=
  run level () (observeAll (LogStep.perform level.isNone) steps)

end Custody.Session
