import Custody.Proofs.Creating
import Custody.Proofs.Placement
import Custody.Proofs.Requests

/-!
# Storage that lasts

What lives for ever lies in storage that no allocator lent, and that never goes back. A memory is
fenced, `Memory.Fenced`, if such storage is apart from all other storage: from the chunks that
arenas hold, from which more storage will be carved, and from that of every other cell. It is
because the heap hands out no address twice that nothing gets inside the fence later: what a step
provides is carved from a chunk that is held, or lies behind all that was handed out before,
`Memory.Supplies`. `Situation.Step.expands` says so of every step.

In a fenced memory a value that lives for ever is known by its address
(`Memory.Fenced.address_eq_iff`): no other value of its type that takes any room lies there, whether
it is a value by itself or a part of another one.
-/

namespace Custody

/-- The storage of a cell. -/
def Cell.region (cell : Cell) : Region := ⟨cell.base, cell.layout⟩

theorem Cell.Endures.region {before after : Cell} (h : before.Endures after) :
    after.region = before.region := by
  unfold Cell.region
  rw [h.base, h.layout]

/-- Storage lies where the heap hands out nothing any more. Storage of no bytes is nowhere. -/
def Heap.Passed (h : Heap) (r : Region) : Prop :=
  0 < r.layout.size →
    r.start.toNat + r.layout.size < h.top ∧ r.start.toNat + r.layout.size < Word.sizeLimit

namespace Heap.Passed

variable {h h' : Heap} {r s : Region}

theorem mono (passed : h.Passed r) (top : h.top ≤ h'.top) : h'.Passed r := fun some =>
  have ⟨below, room⟩ := passed some
  ⟨Nat.lt_of_lt_of_le below top, room⟩

/-- What the heap hands out next is apart from it. -/
theorem apart (passed : h.Passed r) (above : h.top ≤ s.start.toNat) : r.Apart s := by
  rw [Region.apart_iff]
  rcases Nat.eq_zero_or_pos r.layout.size with empty | some
  · exact .inl empty
  · have below := (passed some).1
    omega

/-- So is what lies inside. -/
theorem inside (passed : h.Passed r) (inner : s.start.toNat + s.layout.size ≤
    r.start.toNat + r.layout.size) (low : r.start.toNat ≤ s.start.toNat) : h.Passed s := by
  intro some
  have outer := passed (by omega)
  omega

end Heap.Passed

/-- The heap only goes on. -/
theorem Heap.top_le_afterGrant (h : Heap) (l : Layout) : h.top ≤ (h.afterGrant l).top := by
  have above : h.top ≤ h.place l := le_roundUp l.align_pos
  show h.top ≤ h.place l + l.size + 1
  omega

/-- What the heap grants it has passed afterwards. -/
theorem Heap.grant?_passed {h : Heap} {l : Layout} {base : Address}
    (granted : h.grant? l = some base) :
    h.top ≤ base.toNat ∧ (h.afterGrant l).Passed ⟨base, l⟩ := by
  obtain ⟨place, above, -, room⟩ := Heap.grant?_spec granted
  refine ⟨above, fun _ => ⟨?_, room⟩⟩
  show base.toNat + l.size < h.place l + l.size + 1
  omega

namespace Memory

/-- Where storage comes from that was not there before. -/
inductive Supplies (m n : Memory) (r : Region) : Prop
  | nowhere (empty : r.layout.size = 0)
  /-- From a chunk that an arena held. -/
  | carved {id : AllocatorId} {a : Arena} {chunk : Chunk} (there : m.arena? id = some a)
      (held : chunk ∈ a.chunks) (encloses : chunk.Encloses r.start r.layout)
  /-- From the heap. -/
  | granted (above : m.heap.top ≤ r.start.toNat) (passed : n.heap.Passed r)

/-- What memory becomes in a step: the heap goes on, and all storage that is new was supplied by an
allocator. -/
structure Expands (m n : Memory) : Prop where
  top : m.heap.top ≤ n.heap.top
  chunks : ∀ id a, n.arena? id = some a → ∀ chunk ∈ a.chunks, m.Supplies n chunk.region
  cells : ∀ c cell, n.cell? c = some cell →
    (∃ old, m.cell? c = some old ∧ old.Endures cell) ∨
      cell.home ≠ none ∧ m.Supplies n cell.region

/-- All storage lies where the heap hands out nothing any more, and storage that no allocator lent
is apart from all the rest. -/
structure Fenced (m : Memory) : Prop where
  cells : ∀ c cell, m.cell? c = some cell → m.heap.Passed cell.region
  chunks : ∀ id a, m.arena? id = some a → ∀ chunk ∈ a.chunks, m.heap.Passed chunk.region
  /-- No chunk reaches in. -/
  outside : ∀ c cell, m.cell? c = some cell → cell.home = none →
    ∀ id a, m.arena? id = some a → ∀ chunk ∈ a.chunks, cell.region.Apart chunk.region
  /-- No other cell does. -/
  alone : ∀ c cell, m.cell? c = some cell → cell.home = none →
    ∀ d other, m.cell? d = some other → d ≠ c → cell.region.Apart other.region

namespace Fenced

variable {m n : Memory} {r : Region} {c : CellId} {cell : Cell}

/-- What is supplied the heap has passed. -/
theorem passed (fenced : m.Fenced) (top : m.heap.top ≤ n.heap.top) (supplied : m.Supplies n r) :
    n.heap.Passed r := by
  cases supplied with
  | nowhere empty => exact fun some => absurd empty (Nat.ne_of_gt some)
  | carved there held encloses =>
    exact ((fenced.chunks _ _ there _ held).mono top).inside encloses.2 encloses.1
  | granted above passed => exact passed

/-- What is supplied is outside of the fence. -/
theorem apart (fenced : m.Fenced) (found : m.cell? c = some cell) (lasts : cell.home = none)
    (supplied : m.Supplies n r) : cell.region.Apart r := by
  cases supplied with
  | nowhere empty => exact (Region.apart_of_empty empty _).symm
  | carved there held encloses =>
    have apart := fenced.outside c cell found lasts _ _ there _ held
    exact (apart.symm.inside encloses.1 encloses.2).symm
  | granted above passed => exact (fenced.cells c cell found).apart above

/-- The fence stands in a memory that expands. -/
theorem expands (fenced : m.Fenced) (expands : m.Expands n) : n.Fenced := by
  -- No value that lives for ever is new.
  have before {c : CellId} {cell : Cell} (found : n.cell? c = some cell)
      (lasts : cell.home = none) :
      ∃ old, m.cell? c = some old ∧ old.home = none ∧ cell.region = old.region := by
    rcases expands.cells c cell found with ⟨old, there, endures⟩ | ⟨lent, -⟩
    · exact ⟨old, there, endures.home.symm.trans lasts, endures.region⟩
    · exact absurd lasts lent
  refine ⟨?_, ?_, ?_, ?_⟩
  · intro c cell found
    rcases expands.cells c cell found with ⟨old, there, endures⟩ | ⟨-, supplied⟩
    · rw [endures.region]
      exact (fenced.cells c old there).mono expands.top
    · exact fenced.passed expands.top supplied
  · intro id a there chunk held
    exact fenced.passed expands.top (expands.chunks id a there chunk held)
  · intro c cell found lasts id a there chunk held
    obtain ⟨old, earlier, lasted, same⟩ := before found lasts
    rw [same]
    exact fenced.apart earlier lasted (expands.chunks id a there chunk held)
  · intro c cell found lasts d other there ne
    obtain ⟨old, earlier, lasted, same⟩ := before found lasts
    rw [same]
    rcases expands.cells d other there with ⟨old', there', endures⟩ | ⟨-, supplied⟩
    · rw [endures.region]
      exact fenced.alone c old earlier lasted d old' there' ne
    · exact fenced.apart earlier lasted supplied

/-- The fence has nothing to do with the registry. -/
theorem changeNothings (fenced : m.Fenced) (change : NothingRegistry → NothingRegistry) :
    (m.changeNothings change).Fenced :=
  ⟨fenced.cells, fenced.chunks, fenced.outside, fenced.alone⟩

/-- What the heap grants for ever is inside the fence. -/
theorem addLasting (fenced : m.Fenced) {base : Address} {v : Value}
    (granted : m.heap.grant? v.kind.layout = some base) : (m.addLasting base v).Fenced := by
  obtain ⟨above, passed⟩ := Heap.grant?_passed granted
  have top : m.heap.top ≤ (m.addLasting base v).heap.top := m.heap.top_le_afterGrant _
  have either {c : CellId} {cell : Cell} (found : (m.addLasting base v).cell? c = some cell) :
      m.cell? c = some cell ∨ c = m.cells.next ∧ cell = lastingCell base v := by
    by_cases new : c = m.cells.next
    · rw [new] at found
      exact .inr ⟨new, Option.some.inj (found.symm.trans (cell?_addCell_self m _))⟩
    · exact .inl ((cell?_addCell_of_ne m _ new).symm.trans found)
  refine ⟨?_, ?_, ?_, ?_⟩
  · intro c cell found
    rcases either found with before | ⟨-, rfl⟩
    · exact (fenced.cells c cell before).mono top
    · exact passed
  · intro id a there chunk held
    exact (fenced.chunks id a there chunk held).mono top
  · intro c cell found lasts id a there chunk held
    rcases either found with before | ⟨-, rfl⟩
    · exact fenced.outside c cell before lasts id a there chunk held
    · exact ((fenced.chunks id a there chunk held).apart above).symm
  · intro c cell found lasts d other there ne
    rcases either found with before | ⟨rfl, rfl⟩
    · rcases either there with before' | ⟨-, rfl⟩
      · exact fenced.alone c cell before lasts d other before' ne
      · exact (fenced.cells c cell before).apart above
    · rcases either there with before' | ⟨same, -⟩
      · exact ((fenced.cells d other before').apart above).symm
      · exact absurd same ne

end Fenced

end Memory

/-! ## What steps provide -/

/-- An arena that is there after an allocator was replaced is the one in its place, or was there
before. -/
theorem Memory.arena?_of_set {m n : Memory} {id other : AllocatorId} {x y : Allocator} {a : Arena}
    (found : m.allocator? id = some x) (allocators : n.allocators = m.allocators.set id y)
    (now : n.arena? other = some a) : other = id ∧ y.arena? = some a ∨ m.arena? other = some a := by
  have now : (n.allocators.get? other).bind Allocator.arena? = some a := now
  rw [allocators] at now
  by_cases same : other = id
  · subst same
    rw [Slab.get?_set_self found] at now
    exact .inl ⟨rfl, now⟩
  · rw [Slab.get?_set_of_ne _ (Ne.symm same)] at now
    exact .inr now

namespace Machine

open Session

variable {m n : Machine}

/-- What changes neither chunks nor cells, and hands out nothing. -/
theorem expands_of_chunks (top : m.memory.heap.top ≤ n.memory.heap.top)
    (chunks : ∀ id a, n.memory.arena? id = some a → ∀ chunk ∈ a.chunks,
      ∃ b, m.memory.arena? id = some b ∧ chunk ∈ b.chunks)
    (continues : m.Continues n) : m.memory.Expands n.memory where
  top := top
  chunks id a there chunk held := by
    obtain ⟨b, before, held⟩ := chunks id a there chunk held
    exact .carved before held ⟨Nat.le_refl _, Nat.le_refl _⟩
  cells _ _ found := .inl (continues.earlier found)

theorem expands_of_ordinary (ordinary : m.Ordinary n) (continues : m.Continues n) :
    m.memory.Expands n.memory := by
  refine expands_of_chunks ordinary.top (fun id a there chunk held => ?_) continues
  obtain ⟨b, before, same⟩ := ordinary.arenas id a there
  obtain ⟨-, -, -, chunks, -⟩ := Arena.mk.inj same
  exact ⟨b, before, chunks ▸ held⟩

theorem Settled.expands (settled : m.Settled n) : m.memory.Expands n.memory :=
  expands_of_ordinary settled.ordinary settled.continues

/-- An arena that is replaced by one with no other chunks. -/
theorem expands_of_setAllocator {id : AllocatorId} {a b : Arena}
    (there : m.memory.arena? id = some a) (fewer : ∀ chunk ∈ b.chunks, chunk ∈ a.chunks)
    (top : n.memory.heap.top = m.memory.heap.top) (cells : n.memory.cells = m.memory.cells)
    (allocators : n.memory.allocators = m.memory.allocators.set id (.arena b)) :
    m.memory.Expands n.memory := by
  obtain ⟨allocator, found, -⟩ := Option.bind_eq_some_iff.1 there
  refine expands_of_chunks (Nat.le_of_eq top.symm) (fun other c now chunk held => ?_)
    (.of_cells cells)
  rcases Memory.arena?_of_set found allocators now with ⟨rfl, is⟩ | before
  · cases is
    exact ⟨a, there, fewer chunk held⟩
  · exact ⟨c, before, held⟩

/-- A request that is satisfied goes to an allocator that is there. -/
theorem memory_of_allocate {home : AllocatorId} {l : Layout} {d : Option Destructor}
    {grant : Grant} (asked : allocate home l d m = .returned (.ok grant) n) :
    ∃ a, m.memory.allocator? home = some a ∧
      m.memory.allocate home a l d = (.ok grant, n.memory) := by
  cases there : m.memory.allocator? home with
  | none =>
    rw [allocate_of_none there] at asked
    cases asked
  | some a =>
    refine ⟨a, rfl, ?_⟩
    rw [allocate_of_some there] at asked
    generalize m.memory.allocate home a l d = reply at asked ⊢
    obtain ⟨e | granted, after⟩ := reply
    · cases asked
    · obtain ⟨o, noted, same, -⟩ := noteGrant_returned home a l d granted ⟨m.process, after⟩
      dsimp only at asked
      rw [noted] at asked
      cases asked
      exact congrArg _ same.symm

/-- A request that is refused changes nothing. -/
theorem eq_of_refused {home : AllocatorId} {l : Layout} {d : Option Destructor} {e : AllocError}
    (asked : allocate home l d m = .returned (.error e) n) : n = m := by
  cases there : m.memory.allocator? home with
  | none =>
    rw [allocate_of_none there] at asked
    cases asked
    rfl
  | some a =>
    rcases allocate_ends there l d with ⟨e', refused⟩ | ⟨grant, o, served, -⟩
    · rw [refused] at asked
      cases asked
      rfl
    · rw [served] at asked
      cases asked

/-- What a front end of the heap answers, and the memory afterwards. -/
theorem granted_of_answer {memory after : Memory} {home : AllocatorId} {ledger : Ledger}
    {l : Layout} {d : Option Destructor} {grant : Grant}
    (answer : memory.allocate home (.heap ledger) l d = (.ok grant, after)) :
    ∃ kept, Allocator.allocateOnHeap memory.heap.grant? ledger l d = (.ok grant, kept) ∧
      after.allocators = memory.allocators.set home (.heap kept) ∧
      after.heap = match (Allocator.heap ledger).heapRequest? l grant with
        | some block => memory.heap.afterGrant block
        | none => memory.heap := by
  rw [memory_allocate_heap] at answer
  generalize asked : Allocator.allocateOnHeap memory.heap.grant? ledger l d = reply at answer ⊢
  obtain ⟨e | granted, kept⟩ := reply
  · cases answer
  · cases answer
    exact ⟨kept, rfl, rfl, rfl⟩

/-- How an arena serves a request, and the memory afterwards. -/
theorem served_of_answer {memory after : Memory} {home : AllocatorId} {a : Arena} {l : Layout}
    {d : Option Destructor} {grant : Grant}
    (answer : memory.allocate home (.arena a) l d = (.ok grant, after)) :
    ∃ placed, Arena.Served memory.heap.grant? a l grant placed ∧
      after.allocators = memory.allocators.set home (.arena (placed.book l d grant)) ∧
      after.heap = match (Allocator.arena a).heapRequest? l grant with
        | some block => memory.heap.afterGrant block
        | none => memory.heap := by
  rw [memory_allocate_arena] at answer
  generalize asked : a.allocate memory.heap.grant? l d = reply at answer
  obtain ⟨e | granted, kept⟩ := reply
  · cases answer
  · cases answer
    obtain ⟨placed, rfl, served⟩ := Arena.allocate_ok (Arena.supplies_grant? _) asked
    exact ⟨placed, served, rfl, rfl⟩

/-- A front end of the heap serves from the heap. -/
theorem supplies_of_heap {home : AllocatorId} {l : Layout} {d : Option Destructor} {grant : Grant}
    {ledger : Ledger} (found : m.memory.allocator? home = some (.heap ledger))
    (cells : n.memory.cells = m.memory.cells)
    (answer : m.memory.allocate home (.heap ledger) l d = (.ok grant, n.memory)) :
    m.memory.Expands n.memory ∧ m.memory.Supplies n.memory ⟨grant.address, l⟩ := by
  obtain ⟨kept, asked, allocators, heap⟩ := granted_of_answer answer
  obtain ⟨-, spot, -, place⟩ := allocateOnHeap_ok asked
  have expands (top : m.memory.heap.top ≤ n.memory.heap.top) : m.memory.Expands n.memory := by
    refine expands_of_chunks top (fun other a now chunk held => ⟨a, ?_, held⟩) (.of_cells cells)
    exact (Memory.arena?_of_set found allocators now).resolve_left nofun
  unfold Allocator.heapRequest? at heap
  rw [spot] at heap
  obtain ⟨empty, -⟩ | ⟨needed, granted⟩ := place
  · rw [if_pos empty] at heap
    exact ⟨expands (Nat.le_of_eq (congrArg Heap.top heap.symm)), .nowhere empty⟩
  · rw [if_neg needed] at heap
    obtain ⟨above, passed⟩ := Heap.grant?_passed granted
    have top := m.memory.heap.top_le_afterGrant l
    rw [show m.memory.heap.afterGrant l = n.memory.heap from heap.symm] at passed top
    exact ⟨expands top, .granted above passed⟩

/-- What is carved from the rest of a chunk lies in the chunk. -/
theorem exists_encloses_of_bump {home : AllocatorId} {a : Arena} {cursor next : Cursor} {l : Layout}
    {address : Address} (sound : m.Sound) (there : m.memory.arena? home = some a)
    (filling : a.cursor = some cursor) (bumped : cursor.bump l = some (address, next)) :
    ∃ chunk ∈ a.chunks, chunk.Encloses address l := by
  have reflects := sound.arenas home a there
  obtain ⟨chunk, held, fills⟩ := reflects.cursor cursor filling
  exact ⟨chunk, reflects.chunks ▸ held, fills.encloses (sound.bounded home chunk held) bumped⟩

/-- An arena serves from its chunks, and from one more if there is no room. -/
theorem supplies_of_arena {home : AllocatorId} {l : Layout} {d : Option Destructor} {grant : Grant}
    {a : Arena} (sound : m.Sound) (found : m.memory.allocator? home = some (.arena a))
    (cells : n.memory.cells = m.memory.cells)
    (answer : m.memory.allocate home (.arena a) l d = (.ok grant, n.memory)) :
    m.memory.Expands n.memory ∧ m.memory.Supplies n.memory ⟨grant.address, l⟩ := by
  have there : m.memory.arena? home = some a := Memory.arena?_of_allocator? found
  obtain ⟨placed, served, allocators, heap⟩ := served_of_answer answer
  obtain ⟨chunk?, grown⟩ := served.grown
  rw [grown.request] at heap
  have top : m.memory.heap.top ≤ n.memory.heap.top := by
    rw [heap]
    exact (top_afterRequest grown.obtained).1
  -- A chunk that was obtained lies behind all that was there before.
  have obtained (c : Chunk) (here : chunk? = some c) :
      m.memory.heap.top ≤ c.base.toNat ∧ n.memory.heap.Passed c.region := by
    rw [here] at heap
    rw [heap]
    exact Heap.grant?_passed (grown.obtained c here).2
  constructor
  · refine ⟨top, fun other b now chunk held => ?_, fun c cell now => .inl ?_⟩
    · rcases Memory.arena?_of_set found allocators now with ⟨rfl, is⟩ | before
      · cases is
        have held : chunk ∈ placed.chunks := held
        rw [grown.chunks] at held
        rcases List.mem_append.1 held with new | old
        · obtain ⟨above, passed⟩ := obtained chunk (Option.mem_toList.1 new)
          exact .granted above passed
        · exact .carved there old ⟨Nat.le_refl _, Nat.le_refl _⟩
      · exact .carved before held ⟨Nat.le_refl _, Nat.le_refl _⟩
    · exact (Continues.of_cells cells).earlier now
  · rcases grown.stored with empty | ⟨cursor, next, filling, bumped⟩ | ⟨c, here, fits⟩
    · exact .nowhere empty
    · obtain ⟨chunk, held, encloses⟩ := exists_encloses_of_bump sound there filling bumped
      exact .carved there held encloses
    · obtain ⟨above, passed⟩ := obtained c here
      have base := (grown.obtained c here).1
      refine .granted (base ▸ above) (passed.inside ?_ (Nat.le_of_eq (congrArg _ base)))
      show grant.address.toNat + l.size ≤ c.base.toNat + c.layout.size
      rw [base]
      omega

/-- What a request that is satisfied provides: the storage that was asked for, and no cell. -/
theorem supplies_of_allocate {home : AllocatorId} {l : Layout} {d : Option Destructor}
    {grant : Grant} (sound : m.Sound) (asked : allocate home l d m = .returned (.ok grant) n) :
    m.memory.Expands n.memory ∧ m.memory.Supplies n.memory ⟨grant.address, l⟩ := by
  have cells := (Situation.of_returned (allocate_sameCells home l d) asked).1
  obtain ⟨a, found, answer⟩ := memory_of_allocate asked
  cases a with
  | heap ledger => exact supplies_of_heap found cells answer
  | arena a => exact supplies_of_arena sound found cells answer

end Machine

namespace Situation

open Machine

variable {may : Licence} {s t : Situation}

/-- A value in a new cell, in storage that was asked for. -/
private theorem expands_addCell {m n : Machine} {home : AllocatorId} {l : Layout}
    {d : Option Destructor} {grant : Grant} {cell : Cell} (sound : m.Sound)
    (asked : allocate home l d m = .returned (.ok grant) n) (lent : cell.home ≠ none)
    (region : cell.region = ⟨grant.address, l⟩) :
    m.memory.Expands (n.memory.addCell cell) := by
  obtain ⟨expands, supplied⟩ := supplies_of_allocate sound asked
  have carried {r : Region} (supplied : m.memory.Supplies n.memory r) :
      m.memory.Supplies (n.memory.addCell cell) r := by
    cases supplied with
    | nowhere empty => exact .nowhere empty
    | carved there held encloses => exact .carved there held encloses
    | granted above passed => exact .granted above passed
  refine ⟨expands.top, fun id a there chunk held => carried (expands.chunks id a there chunk held),
    fun c other found => ?_⟩
  by_cases new : c = n.memory.cells.next
  · rw [new, Memory.cell?_addCell_self] at found
    cases found
    exact .inr ⟨lent, region ▸ carried supplied⟩
  · rw [Memory.cell?_addCell_of_ne _ _ new] at found
    rcases expands.cells c other found with before | ⟨lent, supplied⟩
    · exact .inl before
    · exact .inr ⟨lent, carried supplied⟩

/-- In a step all storage that is new is supplied by an allocator. -/
theorem Step.expands (balanced : s.Balanced) (step : Step may s t) :
    s.machine.memory.Expands t.machine.memory := by
  have same (m : Machine) : m.memory.Expands m.memory := (Settled.refl m).expands
  cases step with
  | reordered order => exact same _
  | emptyGained empty => exact same _
  | emptyLost empty => exact same _
  | aside same => exact same.settled.expands
  | counted way done => exact (of_returned way.settled done).expands
  | @uncounted m k act way failed => exact (way.settled m).expands
  | redirected clonable owns cell => exact same _
  | @placed m n o k v home l offset state ownership d grant c housing asked put =>
    cases put
    exact expands_addCell balanced.sound asked nofun rfl
  | requested asked => exact (supplies_of_allocate balanced.sound asked).1
  | refused fresh asked =>
    rw [eq_of_refused asked]
    exact same _
  | registered asked => exact expands_addCell balanced.sound asked nofun rfl
  | @retagged m n k h g owner way done =>
    have seen : m.Seen ((h :: k).map .drop) h := seen_of_mem (List.mem_cons_self ..)
    rcases retagged_cases way balanced.books seen done with rfl | ⟨c, cell, found, rfl, endures⟩
    · exact same _
    · exact expands_of_chunks (Nat.le_refl _) (fun id a there _ held => ⟨a, there, held⟩)
        (continues_setCell found endures)
  | rewritten found moved =>
    exact expands_of_ordinary (setValue_ordinary found _)
      (continues_setCell found ⟨rfl, rfl, rfl, rfl, rfl, Iff.rfl, Iff.rfl⟩)
  | movedOut refers found returns =>
    exact expands_of_ordinary (setValue_ordinary found _)
      (continues_setCell found ⟨rfl, rfl, rfl, rfl, rfl, Iff.rfl, Iff.rfl⟩)
  | letGo h => exact same _
  | destroyed v => exact same _
  | settling step => exact step.settled.expands
  | left => exact same _
  | heapMade done =>
    exact expands_of_ordinary (of_returned makeHeap_ordinary done)
      (.of_cells (of_returned makeHeap_sameCells done).1)
  | @arenaMade m n k name config id done =>
    refine expands_of_chunks ?_ (fun other a now chunk held => ?_)
      (.of_cells (of_returned (makeArena_sameCells name config) done).1)
    · cases done
      exact Nat.le_refl _
    · cases done
      have now : ((m.memory.allocators.push _).get? other).bind Allocator.arena? = some a := now
      by_cases new : other = m.memory.allocators.next
      · rw [new, Slab.get?_push_next] at now
        cases now
        cases held
      · rw [Slab.get?_push_of_ne _ _ new] at now
        exact ⟨a, now, held⟩
  | @listTaken m k id a there =>
    exact expands_of_setAllocator (b := { a with collected := [] }) there (fun _ held => held) rfl
      rfl rfl
  | @destructorRun m n k id r others tasks running next =>
    have settled : (m.runNoted id r).Settled n :=
      of_returned (beginDestruction_settled r.destructor.subject) next
    exact settled.expands
  | @chunksReturned m n k id a there taken done =>
    obtain ⟨n', released, cells, allocators, top, -⟩ := releaseChunks_returns id a m
    rw [done] at released
    cases released
    exact expands_of_setAllocator there (fun _ held => absurd held List.not_mem_nil) top cells
      allocators
  | @writtenOff m k id a leaked there began =>
    exact expands_of_setAllocator (b := { a with ledger := a.ledger.writeOff leaked }) there
      (fun _ held => held) rfl rfl rfl
  | forgotten done =>
    exact expands_of_ordinary (of_returned (forgetAllocator_ordinary _) done)
      (.of_cells (of_returned (forgetAllocator_sameCells _) done).1)
  | deallocated allowed done => exact (of_returned (deallocate_settled _ _ _) done).expands
  | retired allowed done => exact (of_returned (retire_settled _ _ _) done).expands

/-- The fence stands whatever a program does. -/
theorem Leads.fenced (leads : Leads may s t) (balanced : s.Balanced)
    (fenced : s.machine.memory.Fenced) : t.machine.memory.Fenced := by
  induction leads with
  | refl => exact fenced
  | tail leads step ih => exact ih.expands (step.expands (balanced.leads leads))

end Situation

/-- There is no storage in a fresh memory. -/
theorem Client.start_fenced (p : Process) : (start p).machine.memory.Fenced := by
  have vacant (c : CellId) (cell : Cell) : (start p).machine.memory.cell? c ≠ some cell := by
    rw [start_vacant]
    exact nofun
  have noArena (id : AllocatorId) (a : Arena) : (start p).machine.memory.arena? id ≠ some a := by
    cases id <;> exact nofun
  constructor
  · exact fun c cell found => absurd found (vacant c cell)
  · exact fun id a there => absurd there (noArena id a)
  · exact fun c cell found => absurd found (vacant c cell)
  · exact fun c cell found => absurd found (vacant c cell)

/-! ## Values by their addresses -/

namespace Kind

/-- How many fields can follow one another in a path. -/
def depth : Kind → Nat
  | pair => 2
  | tracked => 1
  | _ => 0

theorem depth_field?_lt {k part : Kind} {f : Field} {offset : Nat}
    (h : k.field? f = some (part, offset)) : part.depth < k.depth := by
  unfold field? at h
  split at h <;> cases h <;> decide

/-- A part lies inside of the value, and is of a simpler type unless it is the value itself. -/
theorem fieldAt?_inside {k part : Kind} {path : List Field} {offset : Nat}
    (h : k.fieldAt? path = some (part, offset)) :
    offset + part.layout.size ≤ k.layout.size ∧ part.depth + path.length ≤ k.depth := by
  induction path generalizing k offset with
  | nil =>
    cases h
    exact ⟨by omega, Nat.le_refl _⟩
  | cons f path ih =>
    obtain ⟨⟨outer, start⟩, field, rest⟩ := Option.bind_eq_some_iff.1 h
    obtain ⟨⟨inner, more⟩, found, is⟩ := Option.bind_eq_some_iff.1 rest
    cases is
    have fits := field?_fits field
    have lower := depth_field?_lt field
    obtain ⟨inside, simpler⟩ := ih found
    constructor
    · omega
    · rw [List.length_cons]
      omega

end Kind

/-- The value in a cell lies in the cell's storage. -/
def Cell.Contained (cell : Cell) : Prop := cell.offset + cell.kind.layout.size ≤ cell.layout.size

/-- It does where the storage was asked for with the layout for it. -/
theorem Cell.Shaped.contained {cell : Cell} (shaped : cell.Shaped) : cell.Contained := by
  unfold Cell.Contained
  by_cases bare : cell.state = none
  · obtain ⟨layout, offset⟩ := shaped.bare bare
    rw [layout, offset, Nat.zero_add]
  · obtain ⟨layout, offset⟩ := shaped.block bare
    unfold Layout.block? at layout
    dsimp only at layout
    split at layout
    · rw [offset, ← Option.some.inj layout]
      exact le_roundUp (Nat.pos_of_isPowerOfTwo (Layout.max_align_power Layout.header _))
    · cases layout

/-- A value of a type lies at a place, in its cell's storage, at an address: the value of the cell,
or a part of it. -/
def Memory.Lies (m : Memory) (k : Kind) (p : Place) (a : Address) : Prop :=
  ∃ cell offset, m.cell? p.cell = some cell ∧ cell.Contained ∧
    cell.kind.fieldAt? p.path = some (k, offset) ∧ a = cell.address + UInt64.ofNat offset

namespace Cell

variable {cell : Cell} {k : Kind}

theorem Lasts.contained (lasts : cell.Lasts k) : cell.Contained := by
  unfold Contained
  rw [lasts.offset, lasts.kind, lasts.layout, Nat.zero_add]

theorem Lasts.address (lasts : cell.Lasts k) : cell.address = cell.base := by
  unfold Cell.address
  rw [lasts.offset]
  exact UInt64.add_zero _

end Cell

namespace Memory.Fenced

variable {m : Memory} {k : Kind} {c : CellId} {cell : Cell}

/-- No address of a part is beyond the greatest one. -/
theorem toNat_address (fenced : m.Fenced) {d : CellId} {other : Cell}
    (found : m.cell? d = some other) (contained : other.Contained) {path : List Field}
    {offset : Nat} (part : other.kind.fieldAt? path = some (k, offset)) (some : 0 < k.layout.size) :
    (other.address + UInt64.ofNat offset).toNat = other.base.toNat + other.offset + offset := by
  obtain ⟨inside, -⟩ := Kind.fieldAt?_inside part
  unfold Cell.Contained at contained
  obtain ⟨-, room⟩ := fenced.cells d other found (by
    show 0 < other.layout.size
    omega)
  change other.base.toNat + other.layout.size < Word.sizeLimit at room
  unfold Cell.address
  rw [UInt64.toNat_add, UInt64.toNat_add, Word.toNat_ofNat_of_le (by omega),
    Word.toNat_ofNat_of_le (by omega)]
  unfold Word.sizeLimit at room
  omega

/-- A value that lives for ever and takes any room is known by its address: no other value of its
type lies there. -/
theorem address_eq_iff (fenced : m.Fenced) (found : m.cell? c = some cell) (lasts : cell.Lasts k)
    (some : 0 < k.layout.size) {p : Place} {a : Address} (lies : m.Lies k p a) :
    cell.address = a ↔ p = ⟨c, []⟩ := by
  obtain ⟨other, offset, there, contained, part, rfl⟩ := lies
  obtain ⟨inside, simpler⟩ := Kind.fieldAt?_inside part
  have start := fenced.toNat_address there contained part some
  obtain ⟨d, path⟩ := p
  dsimp only at there part simpler
  constructor
  · intro same
    by_cases here : d = c
    · subst here
      rw [found] at there
      cases there
      rw [lasts.kind] at simpler
      have nowhere : path = [] := List.eq_nil_of_length_eq_zero (by omega)
      rw [nowhere]
    · exfalso
      have apart := fenced.alone c cell found lasts.home d other there here
      rw [← same, lasts.address] at start
      unfold Cell.Contained at contained
      refine apart cell.base.toNat ⟨Nat.le_refl _, ?_⟩ ⟨?_, ?_⟩
      · show cell.base.toNat < cell.base.toNat + cell.layout.size
        rw [lasts.layout]
        omega
      · show other.base.toNat ≤ cell.base.toNat
        omega
      · show cell.base.toNat < other.base.toNat + other.layout.size
        omega
  · intro is
    cases is
    rw [found] at there
    cases there
    cases part
    exact (UInt64.add_zero _).symm

end Memory.Fenced

end Custody
