import Custody.Log.Level

/-!
# Faults and diagnostics

A fault is something gone wrong that the library notices by itself. Every fault has a stable
code and a sentence that describes it. A diagnostic is a fault with the circumstances of its
report: how severe it was, its place in the sequence of all reports, and the thread.
-/

namespace Custody

/-- Something gone wrong. -/
inductive Fault
  /-- An allocator could not satisfy a request. -/
  | outOfMemory (size align : Nat) (allocator : String)
  /-- Collected storage was asked of an allocator that is never released. -/
  | collectUnsupported (allocator : String)
  /-- An empty handle was dereferenced. -/
  | nothingDereferenced (type : String)
  /-- A value was read through a nothing instance. -/
  | nothingAccessed (type : String)
  /-- An allocator was released while allocations it handed out one by one were live. -/
  | notAllDeallocated (allocator : String) (live : Nat)
  /-- A reference count would grow past its limit. -/
  | refCountOverflow (type : String)
  /-- A reference was released more often than it was acquired. -/
  | doubleFree (type : String)
  deriving DecidableEq, Inhabited

namespace Fault

/-- The stable code of a kind of fault. -/
def code : Fault → String
  | outOfMemory .. => "out-of-memory"
  | collectUnsupported .. => "collect-unsupported"
  | nothingDereferenced .. => "nothing-dereferenced"
  | nothingAccessed .. => "pointer-to-nothing-accessed"
  | notAllDeallocated .. => "not-all-pointers-deallocated-during-allocator-cleanup"
  | refCountOverflow .. => "ref-count-overflow"
  | doubleFree .. => "double-free"

/-- The sentence that describes a fault. -/
def text : Fault → String
  | outOfMemory size align allocator =>
    "allocator '" ++ allocator ++ "' is out of memory (" ++ toString size ++ " bytes, align " ++
      toString align ++ ")"
  | collectUnsupported allocator => "allocator '" ++ allocator ++ "' cannot hold collected values"
  | nothingDereferenced type => "dereferenced an empty pointer to `" ++ type ++ "`"
  | nothingAccessed type => "accessed the nothing instance of `" ++ type ++ "`"
  | notAllDeallocated allocator live =>
    "allocator '" ++ allocator ++ "' cleaned up with " ++ toString live ++
      " allocation(s) still live"
  | refCountOverflow type => "reference count overflow on `" ++ type ++ "`"
  | doubleFree type => "reference to `" ++ type ++ "` released twice"

end Fault

/-- What a fault does to the running program. -/
inductive Severity
  /-- It is logged and delivered, and the program goes on. -/
  | warning
  /-- It is logged and delivered, and then the thread unwinds. -/
  | fatal
  deriving DecidableEq, Inhabited

namespace Severity

/-- The lower-case name of a severity. -/
def name : Severity → String
  | warning => "warning"
  | fatal => "fatal"

/-- The level at which a fault of this severity is logged. -/
def level : Severity → Log.Level
  | warning => .warn
  | fatal => .error

end Severity

/-- A fault together with the circumstances of its report. -/
structure Diagnostic where
  /-- What went wrong. -/
  fault : Fault
  /-- How severe the report was. -/
  severity : Severity
  /-- The place of this report among all reports, counted from one. -/
  sequence : Nat
  /-- The name of the reporting thread, if it has one. -/
  thread : Option String
  deriving DecidableEq, Inhabited

namespace Diagnostic

/-- Severity, code and sentence in one line. -/
def text (d : Diagnostic) : String :=
  d.severity.name ++ "[" ++ d.fault.code ++ "]: " ++ d.fault.text

/-- The diagnostic with its place counted among the reports after a number of them; reports
before that have place zero. -/
def since (before : Nat) (d : Diagnostic) : Diagnostic :=
  { d with sequence := d.sequence - before }

end Diagnostic

end Custody
