import Custody.Block.State
import Custody.Log.Entry
import Custody.Storage.Request

/-!
# Events

What can be seen of a run from outside, and what it did to storage, as a list of events. A
destructor of a value announces itself by a label; log sinks and hooks note what reaches them.
The events about storage and diagnostics are there to be reasoned about: they say which
allocator handed out what, what came back to it, which value's destruction began, which counts
in control blocks failed, and which diagnostics were made.
-/

namespace Custody

/-- Names an allocator; the first one is the system allocator. -/
abbrev AllocatorId := Nat

/-- What a destructor announces. -/
inductive Label
  | text (value : String)
  | number (value : Nat)
  deriving DecidableEq, Inhabited

/-- Something that was done with storage. -/
inductive StorageEvent
  /-- An allocator was made. -/
  | made (allocator : AllocatorId)
  /-- An allocator handed out storage, and registered a destructor if it was given one. -/
  | granted (allocator : AllocatorId) (address : Address) (layout : Layout)
      (destructor : Option Destructor)
  /-- Storage was given back to an allocator. -/
  | deallocated (allocator : AllocatorId) (address : Address) (layout : Layout)
  /-- Storage was given back to an allocator without being freed. -/
  | retired (allocator : AllocatorId) (address : Address) (layout : Layout)
  /-- A value was put into storage that an allocator had handed out. -/
  | placed (allocator : AllocatorId) (cell : CellId)
  /-- The destruction of the value in a cell began. -/
  | destructionBegan (cell : CellId)
  /-- A panic left the destruction of the value in a cell. -/
  | destructionFailed (cell : CellId)
  /-- The storage of a cell went back to its allocator. -/
  | handedBack (cell : CellId)
  /-- A counting operation on the control block of a cell failed. -/
  | miscounted (cell : CellId) (fault : CountFault)
  /-- The release of an arena began, and its list of destructors was taken out. -/
  | releaseBegan (allocator : AllocatorId)
  /-- A collected destructor was run. -/
  | collectedRun (allocator : AllocatorId) (address : Address) (destructor : Destructor)
  /-- An arena obtained a chunk from the heap. -/
  | chunkObtained (allocator : AllocatorId) (base : Address) (layout : Layout)
  /-- An arena gave a chunk back to the heap. -/
  | chunkReleased (allocator : AllocatorId) (base : Address) (layout : Layout)
  /-- A release was counted, with the live allocations it wrote off. -/
  | bulkReleased (allocator : AllocatorId) (leaked : Word)
  deriving DecidableEq

/-- Something that happened. -/
inductive Event
  /-- A destructor announced itself. -/
  | destroyed (label : Label)
  /-- A log sink took an entry; the tag is the sink's. -/
  | logged (sink : String) (entry : Log.Entry)
  /-- A hook was told of a diagnostic. -/
  | notified (hook : String) (diagnostic : Diagnostic)
  /-- A hook tried to remove a hook; nothing is known of a name never used. -/
  | unhooked (hook : String) (removed : Option Bool)
  /-- A hook looked at the number of faults and the last diagnostic's place. -/
  | counted (faults : Nat) (last : Option Nat)
  /-- A report made while unwinding came back. -/
  | survived (code : String)
  /-- A diagnostic was made. -/
  | diagnosed (diagnostic : Diagnostic)
  /-- Something was done with storage. -/
  | storage (event : StorageEvent)
  deriving DecidableEq

/-- Whether an event can be seen from outside. -/
def Event.isVisible : Event → Bool
  | diagnosed _ => false
  | storage _ => false
  | _ => true

end Custody
