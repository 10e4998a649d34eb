import Custody.Fault
import Custody.Storage.Layout

/-!
# Requests for storage

What a request for storage may carry and how it may fail. A request with a destructor asks for
*collected* storage: the allocator runs the destructor when it is itself released.
-/

namespace Custody

/-- Names a cell, the place of one value. -/
abbrev CellId := Nat

/-- The destructor of a value that lies at an offset inside an allocation. -/
structure Destructor where
  /-- The offset of the value within the allocation. -/
  offset : Nat
  /-- The cell whose value it destroys. -/
  subject : CellId
  deriving DecidableEq, Inhabited

/-- How a destructor is shown. -/
def Destructor.shown (d : Destructor) : String :=
  "Destructor \x7b offset: " ++ toString d.offset ++ ", .. \x7d"

/-- Why an allocator refuses a request. -/
inductive AllocError
  /-- No memory is left for the request. -/
  | outOfMemory (size align : Nat)
  /-- The allocator cannot run destructors later. -/
  | collectUnsupported
  /-- The layout that would be needed is too large to be one. -/
  | invalidLayout
  deriving DecidableEq, Inhabited

namespace AllocError

/-- The refusal of a layout for want of memory. -/
def ofLayout (l : Layout) : AllocError := .outOfMemory l.size l.align

/-- The sentence that describes a refusal. -/
def message : AllocError → String
  | outOfMemory size align =>
    "out of memory allocating " ++ toString size ++ " bytes (align " ++ toString align ++ ")"
  | collectUnsupported => "allocator does not support collected storage"
  | invalidLayout => "allocation layout overflows"

/-- The fault that is reported when a refusal by the named allocator must not be. A layout that
is too large counts as a request for every byte there is. -/
def toFault (allocator : String) : AllocError → Fault
  | outOfMemory size align => .outOfMemory size align allocator
  | collectUnsupported => .collectUnsupported allocator
  | invalidLayout => .outOfMemory Word.greatest 1 allocator

end AllocError

end Custody
