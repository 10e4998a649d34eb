import Custody.Config.Basic
import Custody.Process.Outcome
import Custody.Storage.Request

/-!
# What a step may run into

A step of a session is refused when it makes no sense where it stands; every refusal has a
short code. Otherwise it may be answered with an error, or leave by a panic that the session
catches.
-/

namespace Custody.Session

/-- Why a step, or a whole input, is refused. -/
inductive Refusal
  | noSlot
  | noAllocator
  | noKey
  | unsupported
  | sameSlot
  | otherAllocator
  | notArena
  | badStep
  | badType
  | badTag
  | badSlot
  | badSize
  | badWhat
  | badState
  | badFault
  | badOperation
  | badLayout
  | noDiagnostic
  | processOnly
  | keepLogOnly
  | badJson
  deriving DecidableEq, Inhabited

/-- The code of a refusal. -/
def Refusal.code : Refusal → String
  | noSlot => "no-slot"
  | noAllocator => "no-alloc"
  | noKey => "no-key"
  | unsupported => "unsupported"
  | sameSlot => "same-slot"
  | otherAllocator => "other-alloc"
  | notArena => "not-arena"
  | badStep => "bad-step"
  | badType => "bad-type"
  | badTag => "bad-tag"
  | badSlot => "bad-slot"
  | badSize => "bad-size"
  | badWhat => "bad-what"
  | badState => "bad-state"
  | badFault => "bad-fault"
  | badOperation => "bad-op"
  | badLayout => "LayoutError"
  | noDiagnostic => "no-diagnostic"
  | processOnly => "process-only"
  | keepLogOnly => "keep_log-only"
  | badJson => "bad-json"

/-- Why a step has no result. -/
inductive Trouble
  /-- It was refused. -/
  | refused (refusal : Refusal)
  /-- An allocator could not do what was asked. -/
  | allocation (error : AllocError)
  /-- A configuration is not valid. -/
  | configuration (error : ConfigError)
  /-- It panicked. -/
  | panicked (payload : Payload)
  deriving DecidableEq, Inhabited

namespace Trouble

/-- The code of an error of an allocator. -/
def allocationCode : AllocError → String
  | .outOfMemory .. => "OutOfMemory"
  | .collectUnsupported => "CollectUnsupported"
  | .invalidLayout => "InvalidLayout"

/-- The code of a panic: that of the fault, if it is one. -/
def panicCode (p : Payload) : String := (p.diagnostic?.map (·.fault.code)).getD "panic"

/-- The code under which trouble is reported. -/
def code : Trouble → String
  | refused r => r.code
  | allocation e => allocationCode e
  | configuration _ => "InvalidValue"
  | panicked p => panicCode p

/-- The message that goes with the code; a refusal has none. -/
def message? : Trouble → Option String
  | refused _ => none
  | allocation e => some e.message
  | configuration e => some e.message
  | panicked p => some p.message

end Trouble

/-- The result of a step. -/
abbrev Result (α : Type) := Except Trouble α

/-- Refuse. -/
def refuse {α : Type} (r : Refusal) : Result α := .error (.refused r)

end Custody.Session
