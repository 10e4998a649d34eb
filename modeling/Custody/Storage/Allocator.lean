import Custody.Storage.Arena

/-!
# Allocators

The two kinds of allocator: a front end of the heap, which keeps only counters and refuses
collected storage, and an arena. Both take their blocks from the heap, which is a function here
that answers a layout with an address or not at all.
-/

namespace Custody

/-- A provider of storage. -/
inductive Allocator
  /-- A front end of the heap, with counters of its own. -/
  | heap (ledger : Ledger)
  | arena (arena : Arena)
  deriving DecidableEq, Inhabited

namespace Allocator

/-- The name used in diagnostics. All front ends of the heap share theirs. -/
def name : Allocator → String
  | heap _ => "system"
  | arena a => a.name

/-- The counters. -/
def ledger : Allocator → Ledger
  | heap l => l
  | arena a => a.ledger

/-- The arena that an allocator is, if it is one. -/
def arena? : Allocator → Option Arena
  | heap _ => none
  | arena a => some a

/-- A request to a front end of the heap. -/
def allocateOnHeap (memory : Layout → Option Address) (ledger : Ledger) (l : Layout)
    (destructor : Option Destructor) : Except AllocError Grant × Ledger :=
  if destructor.isSome then (.error .collectUnsupported, ledger)
  else if l.size = 0 then (.ok ⟨dangling l, .heap⟩, ledger.allocate 0 false)
  else
    match memory l with
    | none => (.error (.ofLayout l), ledger)
    | some address => (.ok ⟨address, .heap⟩, ledger.allocate l.size false)

/-- A request to an allocator: the answer, and the allocator afterwards. -/
def allocate (memory : Layout → Option Address) (l : Layout) (destructor : Option Destructor) :
    Allocator → Except AllocError Grant × Allocator
  | heap ledger =>
    let (answer, after) := allocateOnHeap memory ledger l destructor
    (answer, heap after)
  | arena a =>
    let (answer, after) := a.allocate memory l destructor
    (answer, arena after)

/-- The block that a request takes from the heap, given how it was served. -/
def heapRequest? (l : Layout) (grant : Grant) (a : Allocator) : Option Layout :=
  match grant.spot with
  | .heap => if l.size = 0 then none else some l
  | .freshChunk | .dedicatedChunk => a.arena?.bind (·.chunkLayout? l)
  | .nowhere | .bump => none

/-- The allocator after an allocation was given back. -/
def deallocate : Allocator → Allocator
  | heap l => heap l.deallocate
  | arena a => arena a.deallocate

/-- The allocator after an allocation was retired. -/
def retire : Allocator → Allocator
  | heap l => heap l.retire
  | arena a => arena a.retire

end Allocator

end Custody
