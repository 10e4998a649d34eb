import Custody.Storage.Layout

/-!
# The heap

The memory that all storage comes from. The address space of a process has 47 bits, and the
program itself lies at two thirds of it. A block goes above the program if there is room, and
below it otherwise; where neither side has room the request is refused. A block that must be
aligned to more than sixteen bytes is cut from a larger one, so it takes room for its alignment
besides its size. What is given back makes room again.

Addresses say which block is which and how blocks are aligned, and nothing else. They are handed
out in order, each behind all earlier ones with a gap between, and none is handed out twice: no
two blocks overlap, none begins where another ends, and a pointer that outlives its block meets
no other.
-/

namespace Custody

/-- The two sides of the program on which blocks lie. -/
inductive Side
  | above
  | below
  deriving DecidableEq, Inhabited

/-- Where the address space ends, `2 ^ 47`. -/
def addressLimit : Nat := 140737488355328

/-- The room on a side of the program. -/
def Side.room : Side → Nat
  | above => addressLimit / 3
  | below => addressLimit * 2 / 3

/-- A block of the heap that was not given back. -/
structure HeapBlock where
  /-- Where it begins. -/
  address : Address
  /-- On which side of the program it lies. -/
  side : Side
  /-- How much room it takes. -/
  extent : Nat
  deriving DecidableEq, Inhabited

/-- The memory that all storage comes from. -/
structure Heap where
  /-- The first address never handed out. -/
  top : Nat := 65536
  /-- The blocks that were not given back, newest first. -/
  blocks : List HeapBlock := []
  deriving DecidableEq, Inhabited

namespace Heap

/-- Where a request would be placed. -/
def place (h : Heap) (l : Layout) : Nat := roundUp h.top l.align

/-- How much room a request takes. -/
def extent (l : Layout) : Nat := if l.align ≤ 16 then l.size else l.size + l.align

/-- How much room is taken on a side. -/
def taken (h : Heap) (s : Side) : Nat :=
  h.blocks.foldr (fun b n => if b.side = s then b.extent + n else n) 0

/-- The side with room for a request. -/
def sideFor? (h : Heap) (l : Layout) : Option Side :=
  [Side.above, Side.below].find? fun s => decide (h.taken s + extent l < s.room)

/-- The answer to a request. -/
def grant? (h : Heap) (l : Layout) : Option Address :=
  if (h.sideFor? l).isSome && decide (h.place l + l.size < Word.sizeLimit) then
    some (UInt64.ofNat (h.place l))
  else none

/-- The heap after it answered a request with an address. -/
def afterGrant (h : Heap) (l : Layout) : Heap :=
  { top := h.place l + l.size + 1
    blocks := ⟨UInt64.ofNat (h.place l), (h.sideFor? l).getD .below, extent l⟩ :: h.blocks }

/-- The heap after the block at an address was given back. -/
def afterReturn (h : Heap) (a : Address) : Heap :=
  { h with blocks := h.blocks.filter fun b => b.address != a }

end Heap

end Custody
