import Custody.Release.Settle

/-!
# Releasing an arena

A release counts what is still live, runs the destructors that were registered since the last
one, newest first, and gives all chunks back to the heap. If there was anything to release, it
writes the live allocations off, says so in the log, and reports them if the arena's leak
policy wants that. A destructor that panics ends the release where it stands: the list of
destructors is gone by then, the chunks and the counters are as they were.

An arena is released when it is reset, torn down or dropped. An arena that is torn down is
dropped right afterwards, so it is released a second time, even while the first release
unwinds.
-/

namespace Custody

namespace Machine

/-- Run a registered destructor. -/
def runDestructor (id : AllocatorId) (r : Registration) : Run Machine Unit := do
  noteStorage (.collectedRun id r.base r.destructor)
  let tasks ← beginDestruction r.destructor.subject
  settle tasks

/-- Note the return of a chunk. -/
def noteChunk (id : AllocatorId) (c : Chunk) : Run Machine Unit :=
  noteStorage (.chunkReleased id c.base c.layout)

/-- The severity with which a leak is reported, if it is. -/
def leakSeverity? : LeakPolicy → Option Severity
  | .fatal => some .fatal
  | .warn => some .warning
  | .ignore => none

/-- The fields of the log entry about a release. -/
def releaseFields (name : String) (r : ReleaseReport) : List (String × Log.FieldValue) :=
  [("arena", .text name), ("destroyed", .unsigned (UInt64.ofNat r.destroyed)),
    ("chunks", .unsigned (UInt64.ofNat r.chunks)), ("bytes", .unsigned (UInt64.ofNat r.bytes)),
    ("leaked", .unsigned r.leaked)]

/-- Report what leaked, as the policy of the arena wants it. -/
def reportLeak (name : String) (policy : LeakPolicy) (leaked : Word) : Run Machine Unit := do
  if 0 < leaked then
    match leakSeverity? policy with
    | some severity => report (.notAllDeallocated name leaked.toNat) severity
    | none => pure ()

/-- Count a release, and log it. -/
def logRelease (id : AllocatorId) (a : Arena) (r : ReleaseReport) : Run Machine Unit := do
  noteStorage (.bulkReleased id r.leaked)
  changeAllocator id fun
    | .arena b => .arena { b with ledger := b.ledger.writeOff r.leaked }
    | other => other
  write .debug "tether::arena" "arena torn down" (releaseFields a.name r)

/-- Count a release that released something, and say so. -/
def account (id : AllocatorId) (a : Arena) (r : ReleaseReport) : Run Machine Unit := do
  logRelease id a r
  reportLeak a.name a.config.leakPolicy r.leaked

/-- Give the chunks of an arena back. -/
def releaseChunks (id : AllocatorId) (a : Arena) : Run Machine Unit := do
  Run.forAll (noteChunk id) a.chunks.reverse
  onMemory fun m =>
    { m.setAllocator id (.arena a.emptied) with
      heap := a.chunks.foldl (fun heap c => heap.afterReturn c.base) m.heap }

/-- Release an arena. -/
def releaseArena (id : AllocatorId) : Run Machine ReleaseReport := do
  match ← ofMemory (·.arena? id) with
  | none => return ⟨0, 0, 0, 0⟩
  | some before =>
    let (registered, cleared) := before.takeDestructors
    noteStorage (.releaseBegan id)
    onMemory (·.setAllocator id (.arena cleared))
    Run.forAll (runDestructor id) registered
    let arena := (← ofMemory (·.arena? id)).getD cleared
    releaseChunks id arena
    let report : ReleaseReport :=
      ⟨registered.length, arena.chunks.length, arena.chunkBytes, before.live⟩
    if !report.isEmpty then account id arena report
    return report

/-- Make a fresh front end of the heap. -/
def makeHeap : Run Machine AllocatorId := fun m =>
  .returned m.memory.allocators.next
    { process := m.process.after (.storage (.made m.memory.allocators.next))
      memory := { m.memory with allocators := m.memory.allocators.push (.heap {}) } }

/-- Make an arena, named by its number unless it is given a name. -/
def makeArena (name : Option String) (config : ArenaConfig) : Run Machine AllocatorId := fun m =>
  let number := m.memory.nextArena
  let arena : Arena :=
    { id := number, name := name.getD ("arena-" ++ toString number), config := config }
  .returned m.memory.allocators.next
    { process := m.process.after (.storage (.made m.memory.allocators.next))
      memory :=
        { m.memory with
          allocators := m.memory.allocators.push (.arena arena)
          nextArena := number + 1 } }

/-- The memory in which an allocator is gone. -/
def forgetAllocator (id : AllocatorId) : Run Machine Unit :=
  onMemory fun m => { m with allocators := m.allocators.erase id }

/-- Drop an arena: release it, and it is gone. -/
def dropArena (id : AllocatorId) : Run Machine Unit :=
  Run.atEnd (do let _ ← releaseArena id) (forgetAllocator id)

/-- Tear an arena down: release it, and drop it. -/
def tearDown (id : AllocatorId) : Run Machine ReleaseReport :=
  Run.atEnd (releaseArena id) (dropArena id)

end Machine

end Custody
