import Custody.Config.Basic
import Custody.Storage.Cursor
import Custody.Storage.Ledger
import Custody.Storage.Request
import Custody.Text.Quoted

/-!
# Arenas

An arena hands out storage from chunks that it takes from the heap, and gives all of it back at
once. A request is served in one of four ways: a request for no bytes needs no storage; one
that fits the rest of the current chunk is carved from it; one for more than half a chunk gets
a chunk of its own, beside the current one; any other makes a new current chunk.

`Arena.reserve` is that decision, and `Arena.allocate` adds the bookkeeping: the list of
destructors to run at the release, newest first, and the counters. Both answer with the arena
afterwards even when they refuse, so that what a refusal leaves behind is part of what they
say. The heap is a function that answers every layout with an address or not at all.

Giving storage back one by one only moves counters. The release itself is in two parts, since
destructors run between them: `Arena.takeDestructors` empties the list, and `Arena.emptied`
drops the chunks.
-/

namespace Custody

/-- A block of memory that an arena holds. -/
structure Chunk where
  /-- Where it begins. -/
  base : Address
  /-- The layout it was obtained with. -/
  layout : Layout
  deriving DecidableEq, Inhabited

/-- The way in which a request was served. -/
inductive Spot
  /-- No bytes were asked for. -/
  | nowhere
  /-- From the rest of the current chunk. -/
  | bump
  /-- From the start of a new current chunk. -/
  | freshChunk
  /-- In a chunk of its own. -/
  | dedicatedChunk
  /-- By the heap itself. -/
  | heap
  deriving DecidableEq, Inhabited

/-- Storage that was handed out. -/
structure Grant where
  /-- Where it begins. -/
  address : Address
  /-- The way in which it was found. -/
  spot : Spot
  deriving DecidableEq, Inhabited

/-- The address that stands for storage of no bytes: the alignment itself. -/
def dangling (l : Layout) : Address := UInt64.ofNat l.align

/-- A destructor and the allocation it was registered with. -/
structure Registration where
  /-- Where the allocation begins. -/
  base : Address
  /-- What to run at the release. -/
  destructor : Destructor
  deriving DecidableEq, Inhabited

/-- An allocator that is released as a whole. -/
structure Arena where
  /-- The number of the arena among all that were ever made. -/
  id : Nat
  /-- The name used in diagnostics. -/
  name : String
  /-- Chunk size, capacity and leak policy. -/
  config : ArenaConfig
  /-- The chunks held, newest first. -/
  chunks : List Chunk := []
  /-- The place in the chunk being filled. -/
  cursor : Option Cursor := none
  /-- The bytes held. -/
  reserved : Nat := 0
  /-- The bytes handed out since the last release. -/
  used : Nat := 0
  /-- The destructors to run at the release, newest first. -/
  collected : List Registration := []
  /-- The counters. -/
  ledger : Ledger := {}
  deriving DecidableEq, Inhabited

/-- What a release released. -/
structure ReleaseReport where
  /-- Destructors run. -/
  destroyed : Nat
  /-- Chunks given back. -/
  chunks : Nat
  /-- Bytes given back. -/
  bytes : Nat
  /-- Allocations that were still live. -/
  leaked : Word
  deriving DecidableEq, Inhabited

/-- Whether a release found nothing to do. -/
def ReleaseReport.isEmpty (r : ReleaseReport) : Bool :=
  r.destroyed == 0 && r.chunks == 0 && r.leaked == 0

namespace Arena

/-- The least alignment of a chunk. -/
def chunkAlign : Nat := 16

/-- Whether a request is too large to share a chunk with others. -/
def isOversized (a : Arena) (l : Layout) : Bool := decide (a.config.chunkSize / 2 < l.size)

/-- The layout of the chunk that a request makes the arena obtain, if there is such a layout. -/
def chunkLayout? (a : Arena) (l : Layout) : Option Layout :=
  Layout.ofSize? (if a.isOversized l then l.size else a.config.chunkSize) (max l.align chunkAlign)

/-- Whether holding one more chunk would pass the capacity. -/
def exceedsCapacity (a : Arena) (chunk : Layout) : Bool :=
  a.config.maxSize != 0 && decide (a.config.maxSize < a.reserved + chunk.size)

/-- The arena with one more chunk, obtained for a request. -/
def pushChunk (a : Arena) (chunk : Chunk) (l : Layout) : Arena :=
  { a with
    chunks := chunk :: a.chunks
    reserved := a.reserved + chunk.layout.size
    used := a.used + l.size }

/-- The cursor at the start of a chunk. -/
def cursorInto (chunk : Chunk) : Cursor := ⟨chunk.base, UInt64.ofNat chunk.layout.size, 0⟩

/-- Serve a request from a chunk that has just been obtained. -/
def placeInChunk (a : Arena) (chunk : Chunk) (l : Layout) : Except AllocError Grant × Arena :=
  let grown := a.pushChunk chunk l
  if a.isOversized l then (.ok ⟨chunk.base, .dedicatedChunk⟩, grown)
  else
    match (cursorInto chunk).bump l with
    | some (address, cursor) =>
      (.ok ⟨address, .freshChunk⟩, { grown with cursor := some cursor })
    | none => (.error (.ofLayout l), grown)

/-- Serve a request that the current chunk has no room for. -/
def reserveChunk (heap : Layout → Option Address) (a : Arena) (l : Layout) :
    Except AllocError Grant × Arena :=
  match a.chunkLayout? l with
  | none => (.error .invalidLayout, a)
  | some layout =>
    if a.exceedsCapacity layout then (.error (.ofLayout l), a)
    else
      match heap layout with
      | none => (.error (.ofLayout l), a)
      | some base => a.placeInChunk ⟨base, layout⟩ l

/-- Serve a request for at least one byte. -/
def reserve (heap : Layout → Option Address) (a : Arena) (l : Layout) :
    Except AllocError Grant × Arena :=
  match a.cursor.bind (·.bump l) with
  | some (address, cursor) =>
    (.ok ⟨address, .bump⟩, { a with cursor := some cursor, used := a.used + l.size })
  | none => a.reserveChunk heap l

/-- The arena after a request has been served: its destructor is registered and it is counted. -/
def book (a : Arena) (l : Layout) (destructor : Option Destructor) (grant : Grant) : Arena :=
  { a with
    collected := (destructor.map fun d => ⟨grant.address, d⟩).toList ++ a.collected
    ledger := a.ledger.allocate l.size destructor.isSome }

/-- Serve a request, which may come with a destructor. -/
def allocate (heap : Layout → Option Address) (a : Arena) (l : Layout)
    (destructor : Option Destructor) : Except AllocError Grant × Arena :=
  match if l.size = 0 then (.ok ⟨dangling l, .nowhere⟩, a) else a.reserve heap l with
  | (.ok grant, after) => (.ok grant, after.book l destructor grant)
  | (.error e, after) => (.error e, after)

/-- The arena after an allocation was given back. -/
def deallocate (a : Arena) : Arena := { a with ledger := a.ledger.deallocate }

/-- The arena after an allocation was retired. -/
def retire (a : Arena) : Arena := { a with ledger := a.ledger.retire }

/-- Allocations handed out one by one that are still live. -/
def live (a : Arena) : Word := a.ledger.live

/-- The arena with its list of destructors taken out. -/
def takeDestructors (a : Arena) : List Registration × Arena :=
  (a.collected, { a with collected := [] })

/-- The arena with all its chunks given back. -/
def emptied (a : Arena) : Arena :=
  { a with chunks := [], cursor := none, reserved := 0, used := 0 }

/-- The bytes in the chunks held. -/
def chunkBytes (a : Arena) : Nat := a.chunks.foldr (fun c n => c.layout.size + n) 0

/-- The fields shown when an arena is inspected. -/
def shown (a : Arena) : String :=
  "Arena \x7b id: ArenaId(" ++ toString a.id ++ "), name: " ++ Text.quoted a.name ++
    ", used: " ++ toString a.used ++ ", capacity: " ++ toString a.reserved ++
    ", chunks: " ++ toString a.chunks.length ++
    ", pending_destructors: " ++ toString a.collected.length ++ " \x7d"

end Arena

end Custody
