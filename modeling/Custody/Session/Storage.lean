import Custody.Session.Allocators

/-!
# Sessions about storage

These sessions ask allocators for storage directly and give it back, under names of their own,
any number of times. Storage may be asked for with a tagged value whose destructor the
allocator is to run.
-/

namespace Custody.Session

/-- Storage that a session holds under a name. -/
structure Held where
  /-- Where it came from. -/
  allocator : AllocatorId
  /-- Where it begins. -/
  address : Address
  /-- The layout it was asked for with. -/
  layout : Layout
  deriving DecidableEq, Inhabited

/-- The storage held, by name. -/
abbrev StorageDesk := List (String × Held)

/-- A step of a session about storage. -/
inductive StorageStep
  | allocate (allocator key : String) (size align : Nat) (tag : Option Nat) (offset : Nat)
  | deallocate (key : String)
  | retire (key : String)
  | onAllocator (allocator : String) (action : AllocatorAction)
  | unknown
  deriving DecidableEq, Inhabited

/-- The answer of such a step. -/
inductive StorageReply
  /-- Storage was found; inside an arena, at an offset in its chunk. -/
  | granted (spot : Spot) (offset : Nat)
  | allocator (reply : AllocatorReply)
  deriving DecidableEq, Inhabited

namespace StorageStep

/-- The value that a request is tagged with: one that announces the number, or for storage of
no bytes one that announces just that. -/
def tagged (l : Layout) (tag : Nat) : Value :=
  if l.size = 0 then .mark "zero" else .tag (tag % 4294967296)

/-- Whether a tagged value fits into storage at an offset. -/
def tagFits (l : Layout) (offset : Nat) : Bool :=
  l.size = 0 || (4 ≤ l.align && offset % 4 = 0 && decide (offset + 4 ≤ l.size))

/-- Where in its chunk storage lies. Of storage of no bytes it is the address. -/
def offsetIn (a : Option Arena) (grant : Grant) : Nat :=
  match grant.spot with
  | .bump => (grant.address - ((a.bind (·.cursor)).map (·.base)).getD 0).toNat
  | .nowhere => grant.address.toNat
  | .freshChunk | .dedicatedChunk | .heap => 0

/-- The cell of a value that a request was tagged with. -/
def taggedCell (id : AllocatorId) (l : Layout) (offset : Nat) (grant : Grant) (v : Value) : Cell :=
  ⟨some id, grant.address, l, offset, v.kind, none, v⟩

/-- Ask for storage. -/
def request (id : AllocatorId) (key : String) (l : Layout) (tag : Option Nat) (offset : Nat) :
    Run (Session StorageDesk) (Result StorageReply) := do
  let subject ← ofMemory (·.cells.next)
  let destructor := tag.map fun _ => (⟨offset, subject⟩ : Destructor)
  match ← onMachine (Machine.allocate id l destructor) with
  | .error e => return .error (.allocation e)
  | .ok grant =>
    match tag with
    | some t =>
      let cell := taggedCell id l offset grant (tagged l t)
      onMachine (Machine.onMemory (·.addCell cell))
    | none => pure ()
    onDesk fun held => (key, ⟨id, grant.address, l⟩) :: held.filter fun h => h.1 != key
    return .ok (.granted grant.spot (offsetIn (← ofMemory (·.arena? id)) grant))

/-- Give back the storage held under a name; `free` is how. The counters are the answer. -/
def giveBack (key : String) (free : AllocatorId → Address → Layout → Run Machine Unit)
    (forget : Bool) : Run (Session StorageDesk) (Result StorageReply) := do
  match (← Run.get).desk.find? fun h => h.1 == key with
  | none => return refuse .noKey
  | some (_, held) =>
    match ← ofMemory (·.allocator? held.allocator) with
    | none => return refuse .noAllocator
    | some a =>
      onMachine (free held.allocator held.address held.layout)
      if forget && a.arena?.isNone then onDesk fun desk => desk.filter fun h => h.1 != key
      let after ← ofMemory (·.allocator? held.allocator)
      return .ok (.allocator (.ledger (after.getD a).ledger))

/-- Carry out a step. -/
def perform : StorageStep → Run (Session StorageDesk) (Result StorageReply)
  | allocate allocator key size align tag offset => do
    match allocator? allocator (← Run.get) with
    | none => return refuse .noAllocator
    | some (id, _) =>
      match Layout.ofSize? size align with
      | none => return refuse .badLayout
      | some l =>
        if tag.isSome && !tagFits l offset then return refuse .badTag
        else request id key l tag offset
  | deallocate key => giveBack key Machine.deallocate true
  | retire key => giveBack key Machine.retire false
  | onAllocator key action => do
    match allocator? key (← Run.get) with
    | none => return refuse .noAllocator
    | some (id, a) => return (← actOn id a action).map StorageReply.allocator
  | unknown => return refuse .badStep

end StorageStep

/-- The accounts of a session: of its steps, and of what was left to drop at its end. -/
structure Transcript (ρ : Type) where
  /-- The steps. -/
  steps : List (StepReport ρ)
  /-- What was dropped at the end. -/
  ending : List (StepReport String)

/-- Carry out a session about storage. -/
def runStorage (level : Option Log.Level) (declared : List (String × Declaration))
    (steps : List StorageStep) : Run Machine (Transcript StorageReply) :=
  run level [] do
    declareAll declared
    let reports ← observeAll StorageStep.perform steps
    let ending ← dropAllArenas
    return ⟨reports, ending⟩

end Custody.Session
