import Custody.Block.State
import Custody.Slab
import Custody.Storage.Allocator
import Custody.Storage.Heap
import Custody.Value.Destruction

/-!
# Memory

A cell is the place of one managed value: where its storage lies and which allocator it came
from, the type of the value, the state of its control block if it has one, and the value. The
storage of a cell may outlive the value, which leaves its bytes behind: observers keep the
block, and an arena keeps whatever lies in its chunks, given back or not, until it is released.
So a cell is never taken out of memory. That its value was destroyed, or its storage given
back, is noted among the events, and a handle that still points there goes on pointing there.

Memory is the heap, the allocators, the cells, and the registry of the types whose nothing
instance was asked for. Allocators and cells are numbered and never renumbered; allocator zero
is the system allocator, which is always there.
-/

namespace Custody

/-- The place of a managed value. -/
structure Cell where
  /-- The allocator that its storage came from; what lives for ever came from none. -/
  home : Option AllocatorId
  /-- Where its storage begins. -/
  base : Address
  /-- The layout that the storage was asked for with. -/
  layout : Layout
  /-- Where in the storage the value lies. -/
  offset : Nat
  /-- The type that the value was made with. -/
  kind : Kind
  /-- The state of the control block, if the value lies behind one. -/
  state : Option BlockState
  /-- The value, or what is left of it once it is destroyed or moved out. -/
  value : Value
  deriving DecidableEq, Inhabited

namespace Cell

/-- Where the value lies. -/
def address (c : Cell) : Address := c.base + UInt64.ofNat c.offset

/-- The weight of the tasks that the value in a cell takes to destroy. -/
def weight (c : Cell) : Nat := c.value.weight

end Cell

/-- The types whose nothing instance was asked for. -/
structure NothingRegistry where
  /-- The types in the order of their first request, with the instance once it is there. -/
  entries : List (Kind × Option CellId) := []
  /-- The types whose instance was begun to be made, newest first. -/
  attempts : List Kind := []
  deriving DecidableEq, Inhabited

/-- All that a program keeps in memory. -/
structure Memory where
  /-- What all storage comes from. -/
  heap : Heap := {}
  /-- The allocators; the first is the system allocator. -/
  allocators : Slab Allocator := ⟨[some (.heap {})]⟩
  /-- The cells. -/
  cells : Slab Cell := {}
  /-- The number that the next arena gets. -/
  nextArena : Nat := 1
  /-- The nothing instances. -/
  nothings : NothingRegistry := {}

/-- The system allocator. -/
def systemAllocator : AllocatorId := 0

namespace Memory

instance : Inhabited Memory := ⟨{}⟩

/-- The cell of a number. -/
def cell? (m : Memory) (c : CellId) : Option Cell := m.cells.get? c

/-- The allocator of a number. -/
def allocator? (m : Memory) (a : AllocatorId) : Option Allocator := m.allocators.get? a

/-- The name of an allocator. -/
def allocatorName (m : Memory) (a : AllocatorId) : String := (m.allocator? a).elim "" (·.name)

/-- The arena of a number. -/
def arena? (m : Memory) (a : AllocatorId) : Option Arena := (m.allocator? a).bind (·.arena?)

/-- The state of the control block of a cell. -/
def block? (m : Memory) (c : CellId) : Option BlockState := (m.cell? c).bind (·.state)

/-- The memory with an allocator replaced. -/
def setAllocator (m : Memory) (id : AllocatorId) (a : Allocator) : Memory :=
  { m with allocators := m.allocators.set id a }

/-- The memory after an allocator changed. -/
def changeAllocator (m : Memory) (id : AllocatorId) (f : Allocator → Allocator) : Memory :=
  match m.allocator? id with
  | some a => m.setAllocator id (f a)
  | none => m

/-- The memory with a cell replaced. -/
def setCell (m : Memory) (id : CellId) (c : Cell) : Memory :=
  { m with cells := m.cells.set id c }

/-- The memory with one cell more. -/
def addCell (m : Memory) (c : Cell) : Memory := { m with cells := m.cells.push c }

/-- Where a place lies. -/
def address? (m : Memory) (p : Place) : Option Address := do
  let c ← m.cell? p.cell
  let (_, offset) ← c.kind.fieldAt? p.path
  return c.address + UInt64.ofNat offset

/-- The value or the part of a value at a place. -/
def read? (m : Memory) (p : Place) : Option Value :=
  (m.cell? p.cell).bind fun c => c.value.part? p.path

/-- The memory after what lies at a place was changed. -/
def change (m : Memory) (p : Place) (f : Value → Value) : Memory :=
  match m.cell? p.cell with
  | some c => m.setCell p.cell { c with value := c.value.changePart f p.path }
  | none => m

/-- The weight of the tasks that the values in all cells take to destroy. -/
def weight (m : Memory) : Nat := m.cells.total Cell.weight

theorem arena?_of_allocator? {m : Memory} {id : AllocatorId} {a : Allocator}
    (found : m.allocator? id = some a) : m.arena? id = a.arena? := by
  unfold arena?
  rw [found]
  rfl

theorem cells_changeAllocator (m : Memory) (id : AllocatorId) (f : Allocator → Allocator) :
    (m.changeAllocator id f).cells = m.cells := by
  unfold changeAllocator
  split <;> rfl

theorem weight_changeAllocator (m : Memory) (id : AllocatorId) (f : Allocator → Allocator) :
    (m.changeAllocator id f).weight = m.weight := by
  unfold weight
  rw [cells_changeAllocator]

end Memory

end Custody
