import Custody.Release.Settle

/-!
# Creating handles

A new handle owns a value that was put into fresh storage. A unique owner asks its allocator
for room for the value; every other owner asks for room for a control block in front of it, and
a collecting owner has its allocator register the destructor.

There are two ways to create. `tryCreate` answers with an error when there is no storage, and
has destroyed the value by then. `create` raises a fault instead: the value of a unique owner
is destroyed while the fault unwinds, any other before the fault is raised.
-/

namespace Custody

/-- The kinds of owner that can be created. -/
inductive Owner
  /-- Without a control block. -/
  | unique
  | block (owner : BlockOwner)
  deriving DecidableEq, Inhabited

namespace Owner

/-- The qualifier of a kind of owner. -/
def qualifier : Owner → Qualifier
  | unique => .unique
  | block owner => owner.qualifier

/-- How a handle of a kind owns a value, given the allocator it was created with. -/
def ownership (home : AllocatorId) : Owner → Ownership
  | unique => .unique home
  | block owner => .block owner

/-- The kind of owner of a qualifier that owns. -/
def ofQualifier? : Qualifier → Option Owner
  | .unique => some unique
  | .own => some (block .own)
  | .discard => some (block .discard)
  | .collect => some (block .collect)
  | .strong => some (block .strong)
  | .handle => some (block .handle)
  | .raw | .weak => none

end Owner

namespace Machine

/-- Put a value into storage. -/
def settleIn (home : AllocatorId) (grant : Grant) (l : Layout) (offset : Nat)
    (state : Option BlockState) (v : Value) : Run Machine CellId := fun m =>
  .returned m.memory.cells.next
    { process := m.process.after (.storage (.placed home m.memory.cells.next))
      memory := m.memory.addCell ⟨some home, grant.address, l, offset, v.kind, state, v⟩ }

/-- Create a unique owner, if there is storage. What becomes of the value otherwise is the
caller's concern. -/
def placeUnique (home : AllocatorId) (v : Value) : Run Machine (Except AllocError Handle) := do
  match ← allocate home v.kind.layout none with
  | .error e => return .error e
  | .ok grant =>
    let cell ← settleIn home grant v.kind.layout 0 none v
    return .ok (.whole (.unique home) v.kind cell)

/-- The destructor that a control block of an owner has registered. -/
def blockDestructor (owner : BlockOwner) (offset : Nat) (subject : CellId) : Option Destructor :=
  if owner = .collect then some ⟨offset, subject⟩ else none

/-- Create an owner behind a control block, if there is storage; destroy the value otherwise. -/
def tryCreateBlock (owner : BlockOwner) (home : AllocatorId) (v : Value) :
    Run Machine (Except AllocError Handle) := do
  match v.kind.layout.block? with
  | none =>
    dropValue v
    return .error .invalidLayout
  | some l =>
    let offset := v.kind.layout.valueOffset
    let subject ← ofMemory (·.cells.next)
    match ← allocate home l (blockDestructor owner offset subject) with
    | .error e =>
      dropValue v
      return .error e
    | .ok grant =>
      let cell ← settleIn home grant l offset (some (.fresh owner)) v
      return .ok (.whole (.block owner) v.kind cell)

/-- Create an owner, if there is storage; destroy the value otherwise. -/
def tryCreate (owner : Owner) (home : AllocatorId) (v : Value) :
    Run Machine (Except AllocError Handle) := do
  match owner with
  | .block o => tryCreateBlock o home v
  | .unique =>
    match ← placeUnique home v with
    | .ok h => return .ok h
    | .error e =>
      dropValue v
      return .error e

/-- Raise the fault that an allocation error is. -/
def failAllocation {α : Type} (home : AllocatorId) (e : AllocError) : Run Machine α := do
  let name ← ofMemory (·.allocatorName home)
  fail (e.toFault name)

/-- Create an owner; raise a fault if there is no storage. -/
def create (owner : Owner) (home : AllocatorId) (v : Value) : Run Machine Handle := do
  match owner with
  | .block o =>
    match ← tryCreateBlock o home v with
    | .ok h => return h
    | .error e => failAllocation home e
  | .unique =>
    match ← placeUnique home v with
    | .ok h => return h
    | .error e => Run.onUnwind (failAllocation home e) (dropValue v)

end Machine

end Custody
