import Custody.Machine.Basic

/-!
# Storage of a machine

Asking an allocator for storage and giving storage back, with the events that say so. A request
that makes an arena obtain a chunk, and a request to a front end of the heap, take a block from
the heap. What a front end of the heap gets back the heap gets back at once; an arena keeps it
until it is released.
-/

namespace Custody

namespace Memory

/-- The answer of an allocator to a request, and the memory afterwards. -/
def allocate (m : Memory) (id : AllocatorId) (a : Allocator) (l : Layout)
    (destructor : Option Destructor) : Except AllocError Grant × Memory :=
  match a.allocate m.heap.grant? l destructor with
  | (.ok grant, after) =>
    let heap :=
      match a.heapRequest? l grant with
      | some block => m.heap.afterGrant block
      | none => m.heap
    (.ok grant, { m.setAllocator id after with heap := heap })
  | (.error e, after) => (.error e, m.setAllocator id after)

/-- The memory after storage was given back to an allocator. -/
def deallocate (m : Memory) (id : AllocatorId) (address : Address) (l : Layout) : Memory :=
  let kept := (m.arena? id).isSome || l.size == 0
  { m.changeAllocator id Allocator.deallocate with
    heap := if kept then m.heap else m.heap.afterReturn address }

theorem cells_deallocate (m : Memory) (id : AllocatorId) (address : Address) (l : Layout) :
    (m.deallocate id address l).cells = m.cells :=
  cells_changeAllocator m id Allocator.deallocate

theorem weight_deallocate (m : Memory) (id : AllocatorId) (address : Address) (l : Layout) :
    (m.deallocate id address l).weight = m.weight :=
  weight_changeAllocator m id Allocator.deallocate

end Memory

namespace Machine

/-- The chunk that a request made an arena obtain, if it did. -/
def chunkObtained? (a : Allocator) (l : Layout) (grant : Grant) : Option Layout :=
  match grant.spot with
  | .freshChunk | .dedicatedChunk => a.heapRequest? l grant
  | .nowhere | .bump | .heap => none

/-- Note what a request that was satisfied did. -/
def noteGrant (id : AllocatorId) (a : Allocator) (l : Layout) (destructor : Option Destructor)
    (grant : Grant) : Run Machine Unit := do
  match chunkObtained? a l grant with
  | some chunk => noteStorage (.chunkObtained id grant.address chunk)
  | none => pure ()
  noteStorage (.granted id grant.address l destructor)

/-- Ask an allocator for storage. An allocator that is gone has none. -/
def allocate (id : AllocatorId) (l : Layout) (destructor : Option Destructor) :
    Run Machine (Except AllocError Grant) := do
  match (← Run.get).memory.allocator? id with
  | none => return .error (.ofLayout l)
  | some a =>
    let memory := (← Run.get).memory
    let (answer, after) := memory.allocate id a l destructor
    onMemory fun _ => after
    match answer with
    | .ok grant =>
      noteGrant id a l destructor grant
      return .ok grant
    | .error e => return .error e

/-- An allocator that is gone has no storage. -/
theorem allocate_of_none {m : Machine} {id : AllocatorId} (h : m.memory.allocator? id = none)
    (l : Layout) (destructor : Option Destructor) :
    allocate id l destructor m = .returned (.error (.ofLayout l)) m := by
  show (match m.memory.allocator? id with
    | none => return .error (.ofLayout l)
    | some a => _ : Run Machine (Except AllocError Grant)) m = _
  rw [h]
  rfl

/-- A request goes to the allocator, and what it did is noted if it was satisfied. -/
theorem allocate_of_some {m : Machine} {id : AllocatorId} {a : Allocator}
    (h : m.memory.allocator? id = some a) (l : Layout) (destructor : Option Destructor) :
    allocate id l destructor m =
      match m.memory.allocate id a l destructor with
      | (.ok grant, after) =>
        (noteGrant id a l destructor grant { m with memory := after }).andThen fun _ n =>
          .returned (.ok grant) n
      | (.error e, after) => .returned (.error e) { m with memory := after } := by
  show (match m.memory.allocator? id with
    | none => return .error (.ofLayout l)
    | some a => do
      let memory := (← Run.get).memory
      let (answer, after) := memory.allocate id a l destructor
      onMemory fun _ => after
      match answer with
      | .ok grant =>
        noteGrant id a l destructor grant
        return .ok grant
      | .error e => return .error e : Run Machine (Except AllocError Grant)) m = _
  rw [h]
  show (match (m.memory.allocate id a l destructor).1 with
    | .ok grant => do
      noteGrant id a l destructor grant
      return .ok grant
    | .error e => return .error e : Run Machine (Except AllocError Grant))
    { m with memory := (m.memory.allocate id a l destructor).2 } = _
  rcases m.memory.allocate id a l destructor with ⟨e | grant, after⟩ <;> rfl

/-- Change an allocator, if it is there. -/
def changeAllocator (id : AllocatorId) (f : Allocator → Allocator) : Run Machine Unit :=
  onMemory (·.changeAllocator id f)

/-- Give storage back to an allocator. -/
def deallocate (id : AllocatorId) (address : Address) (l : Layout) : Run Machine Unit := do
  noteStorage (.deallocated id address l)
  onMemory (·.deallocate id address l)

/-- Give storage back to an allocator without freeing it. -/
def retire (id : AllocatorId) (address : Address) (l : Layout) : Run Machine Unit := do
  noteStorage (.retired id address l)
  changeAllocator id Allocator.retire

end Machine

end Custody
