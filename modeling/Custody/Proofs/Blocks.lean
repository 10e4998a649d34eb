import Custody.Proofs.Carving
import Custody.Proofs.Fencing

/-!
# Values behind control blocks

A control block and its value share one piece of storage: the header first, then the value at the
first offset behind it that is a multiple of the value's alignment. Layouts are put one behind the
other by `Layout.extend?`, which refuses what is too large, and `Layout.padded` rounds the size of
a layout up to its alignment. The layout of a block is the header extended by the value and padded,
`Layout.map_block?_eq`, so that at every multiple of its alignment it has room for both:
`Layout.BlockFor`.

What an allocator grants begins at such a multiple, `Machine.aligned_of_allocate`, so this is how
every block lies in memory at any time: `Cell.BehindHeader`. A collecting owner's value is destroyed
by its allocator, which knows no more of it than where the storage begins and an offset. By
`Machine.Recorded.registration_eq` these are the ones that the value was put at.
-/

namespace Custody

namespace Layout

/-! ## One layout behind another -/

/-- A layout with another behind it, and the offset of the other. The size is that up to the end of
the second, without any padding behind it. -/
def extend? (first second : Layout) : Option (Layout × Nat) :=
  let offset := roundUp first.size second.align
  (ofSize? (offset + second.size) (max first.align second.align)).map fun joined => (joined, offset)

/-- A layout with its size rounded up to its alignment. -/
def padded (l : Layout) : Layout where
  size := roundUp l.size l.align
  align := l.align
  alignPower := l.alignPower
  sizeBound := roundUp_add_le l.alignPower l.sizeBound

/-- Storage of a layout that begins at `base` has room for two others, the first at its start and
the second at an offset. -/
structure Holds (whole first second : Layout) (offset base : Nat) : Prop where
  firstAligned : first.align ∣ base
  secondAligned : second.align ∣ base + offset
  /-- No address is one of both. -/
  apart : ∀ address, base ≤ address ∧ address < base + first.size →
    ¬(base + offset ≤ address ∧ address < base + offset + second.size)
  firstInside : base + first.size ≤ base + whole.size
  secondInside : base + offset + second.size ≤ base + whole.size

variable {first second joined value whole : Layout} {offset base : Nat}

theorem extend?_eq_some_iff :
    first.extend? second = some (joined, offset) ↔
      offset = roundUp first.size second.align ∧ joined.size = offset + second.size ∧
        joined.align = max first.align second.align := by
  simp only [extend?, Option.map_eq_some_iff, ofSize?_eq_some_iff, Prod.mk.injEq]
  constructor
  · rintro ⟨l, ⟨size, align⟩, rfl, rfl⟩
    exact ⟨rfl, size, align⟩
  · rintro ⟨rfl, size, align⟩
    exact ⟨joined, ⟨size, align⟩, rfl, rfl⟩

/-- At a multiple of the greater alignment there is room for both. -/
theorem holds_of_extend? (extended : first.extend? second = some (joined, offset))
    (aligned : joined.align ∣ base) : joined.padded.Holds first second offset base := by
  obtain ⟨rfl, size, align⟩ := extend?_eq_some_iff.1 extended
  have behind : first.size ≤ roundUp first.size second.align := le_roundUp second.align_pos
  have room : roundUp first.size second.align + second.size ≤ joined.padded.size := by
    rw [← size]
    exact le_roundUp joined.align_pos
  -- Alignments are powers of two, so that each divides all greater ones.
  have divides {l : Layout} (le : l.align ≤ joined.align) : l.align ∣ base :=
    (dvd_of_isPowerOfTwo l.alignPower joined.alignPower le).trans aligned
  constructor
  · apply divides
    rw [align]
    exact Nat.le_max_left _ _
  · apply Nat.dvd_add _ (dvd_roundUp _ _)
    apply divides
    rw [align]
    exact Nat.le_max_right _ _
  · rintro address ⟨-, below⟩ ⟨above, -⟩
    omega
  · apply Nat.add_le_add_left
    omega
  · rw [Nat.add_assoc]
    exact Nat.add_le_add_left room base

/-! ## The layout of a block -/

/-- The layout of a block is the header extended by the value and padded. -/
theorem map_block?_eq (value : Layout) :
    value.block?.map (fun whole => (whole, value.valueOffset)) =
      (header.extend? value).map fun joined => (joined.1.padded, joined.2) := by
  have power := isPowerOfTwo_iff.2 (max_align_power header value)
  unfold block? extend? ofSize? valueOffset
  by_cases fits : roundUp header.size value.align + value.size + max header.align value.align ≤
      Word.sizeLimit
  · simp only [dif_pos fits, dif_pos (And.intro power fits), Option.map_some, padded]
  · have refused (accepted : isPowerOfTwo (max header.align value.align) = true ∧ _) : False :=
      fits accepted.2
    simp only [dif_neg fits, dif_neg refused, Option.map_none]

/-- The layout of a block for a value: no lesser offset and no lesser size would do, and there is
room for header and value wherever the alignment allows the block to begin. -/
structure BlockFor (whole value : Layout) : Prop where
  align : whole.align = max 8 value.align
  offset : IsLeast {offset | 88 ≤ offset ∧ value.align ∣ offset} value.valueOffset
  size : IsLeast {size | value.valueOffset + value.size ≤ size ∧ whole.align ∣ size} whole.size
  holds : ∀ base, whole.align ∣ base → whole.Holds header value value.valueOffset base

theorem blockFor_of_block? (found : value.block? = some whole) : whole.BlockFor value := by
  have composed := map_block?_eq value
  rw [found, Option.map_some] at composed
  obtain ⟨⟨joined, offset⟩, extended, same⟩ := Option.map_eq_some_iff.1 composed.symm
  obtain ⟨rfl, rfl⟩ := Prod.mk.inj same
  obtain ⟨-, size, align⟩ := extend?_eq_some_iff.1 extended
  constructor
  · exact align
  · exact roundUp_isLeast value.align_pos 88
  · rw [← size]
    exact roundUp_isLeast joined.align_pos joined.size
  · intro base aligned
    exact holds_of_extend? extended aligned

/-- The end of the value is reached without a carry, also where it is too far away. -/
theorem valueOffset_add_size_lt (value : Layout) :
    value.valueOffset + value.size < Word.modulus := by
  have close : value.valueOffset < 88 + value.align := roundUp_lt value.align_pos
  have bound := value.sizeBound
  unfold Word.sizeLimit at bound
  unfold Word.modulus
  omega

end Layout

/-! ## What is granted is aligned -/

theorem aligned_dangling (l : Layout) : (⟨dangling l, l⟩ : Region).Aligned := by
  show l.align ∣ (UInt64.ofNat l.align).toNat
  rw [Word.toNat_ofNat_of_le l.align_le]

/-- What the cursor carves out begins at the address that it rounded up to, whether or not the sum
that leads there wraps. -/
theorem Cursor.aligned_of_bump {c after : Cursor} {l : Layout} {address : Address}
    (bumped : c.bump l = some (address, after)) : (⟨address, l⟩ : Region).Aligned := by
  obtain ⟨aligned, stop, rounded, -, -, rfl, -⟩ := exists_of_bump bumped
  have reached : c.base + (c.used + (aligned - c.next)) = aligned := by
    rw [← UInt64.add_assoc, UInt64.add_comm]
    exact UInt64.sub_add_cancel aligned c.next
  show l.align ∣ (c.base + (c.used + (aligned - c.next))).toNat
  rw [reached, (toNat_of_alignUp? rounded).1]
  exact dvd_roundUp _ _

/-- However an arena serves a request, the storage is aligned. -/
theorem Arena.Served.aligned {heap : Layout → Option Address} {a placed : Arena} {l : Layout}
    {grant : Grant} (supplies : Supplies heap) (served : Served heap a l grant placed) :
    (⟨grant.address, l⟩ : Region).Aligned := by
  have start {chunk : Layout} {base : Address} (layout : a.chunkLayout? l = some chunk)
      (obtained : heap chunk = some base) : (⟨base, l⟩ : Region).Aligned :=
    (chunkLayout?_spec layout).1.trans (supplies chunk base obtained).1
  cases served with
  | nowhere empty => exact aligned_dangling l
  | bump filled bumped => exact Cursor.aligned_of_bump bumped
  | dedicated layout obtained => exact start layout obtained
  | fresh layout obtained _ _ _ => exact start layout obtained

namespace Machine

variable {m n : Machine} {home : AllocatorId} {l : Layout} {grant : Grant}

/-- A front end of the heap aligns what it grants. -/
theorem aligned_of_granted {h : Heap} {ledger after : Ledger} {d : Option Destructor}
    (answer : Allocator.allocateOnHeap h.grant? ledger l d = (.ok grant, after)) :
    (⟨grant.address, l⟩ : Region).Aligned := by
  obtain ⟨-, -, -, ⟨-, place⟩ | ⟨-, granted⟩⟩ := allocateOnHeap_ok answer
  · rw [place]
    exact aligned_dangling l
  · exact (Heap.grant?_spec granted).2.2.1

/-- Every request that is satisfied is satisfied with storage that is aligned. -/
theorem aligned_of_allocate {d : Option Destructor}
    (asked : allocate home l d m = .returned (.ok grant) n) :
    (⟨grant.address, l⟩ : Region).Aligned := by
  obtain ⟨a, -, answer⟩ := memory_of_allocate asked
  cases a with
  | heap ledger =>
    obtain ⟨kept, granted, -⟩ := granted_of_answer answer
    exact aligned_of_granted granted
  | arena a =>
    obtain ⟨placed, served, -⟩ := served_of_answer answer
    exact served.aligned (Arena.supplies_grant? _)

/-- A destructor that a request comes with is put in front of those that the arena has. -/
theorem collected_of_allocate {d : Destructor}
    (asked : allocate home l (some d) m = .returned (.ok grant) n) :
    ∃ a b, m.memory.arena? home = some a ∧ n.memory.arena? home = some b ∧
      b.collected = ⟨grant.address, d⟩ :: a.collected := by
  obtain ⟨a, found, answer⟩ := memory_of_allocate asked
  cases a with
  | heap ledger =>
    obtain ⟨kept, granted, -⟩ := granted_of_answer answer
    exact absurd (allocateOnHeap_ok granted).1 nofun
  | arena a =>
    obtain ⟨placed, served, allocators, -⟩ := served_of_answer answer
    obtain ⟨chunk?, grown⟩ := served.grown
    refine ⟨a, placed.book l (some d) grant, Memory.arena?_of_allocator? found, ?_, ?_⟩
    · show (n.memory.allocators.get? home).bind Allocator.arena? = _
      rw [allocators, Slab.get?_set_self found]
      rfl
    · rw [Arena.collected_book, grown.collected]
      rfl

/-! ## Creating behind a block -/

/-- A value was put behind a new control block: where the layout for both says, and with an owner
that collects, its destructor was registered with the place where it is. -/
structure BuildsBlock (m n : Machine) (owner : BlockOwner) (home : AllocatorId) (v : Value)
    (cell : Cell) : Prop where
  found : n.memory.cell? m.memory.cells.next = some cell
  lender : cell.home = some home
  value : cell.value = v
  kind : cell.kind = v.kind
  state : cell.state = some (.fresh owner)
  layout : v.kind.layout.block? = some cell.layout
  offset : cell.offset = v.kind.layout.valueOffset
  holds : cell.layout.Holds Layout.header v.kind.layout cell.offset cell.base.toNat
  /-- The value was put there right after its storage was lent, and what came with the request is
  the destructor of a value that is to be collected, or none. -/
  deeds : ∃ older, n.deeds = .placed home m.memory.cells.next ::
    .granted home cell.base cell.layout (cell.destructor m.memory.cells.next) :: older
  registered : owner = .collect → ∃ a b, m.memory.arena? home = some a ∧
    n.memory.arena? home = some b ∧
    b.collected = ⟨cell.base, ⟨cell.offset, m.memory.cells.next⟩⟩ :: a.collected

theorem exists_buildsBlock {owner : BlockOwner} {v : Value} {h : Handle}
    (done : tryCreateBlock owner home v m = .returned (.ok h) n) :
    ∃ cell, m.BuildsBlock n owner home v cell := by
  obtain ⟨l, grant, o, c, layout, asked, put, -⟩ := returned_tryCreateBlock done
  have same := (Situation.of_returned (allocate_sameCells home l _) asked).1
  have next : o.memory.cells.next = m.memory.cells.next := congrArg Slab.next same
  obtain ⟨-, -, chunks, lent, -⟩ := allocate_deeds asked
  let cell : Cell :=
    ⟨some home, grant.address, l, v.kind.layout.valueOffset, v.kind, some (.fresh owner), v⟩
  have destructor : cell.destructor m.memory.cells.next =
      blockDestructor owner v.kind.layout.valueOffset m.memory.cells.next := by
    unfold Cell.destructor blockDestructor
    cases owner <;> rfl
  cases put
  refine ⟨cell, ?_, rfl, rfl, rfl, rfl, layout, rfl, ?_, ⟨chunks ++ m.deeds, ?_⟩, ?_⟩
  · rw [← next]
    exact Memory.cell?_addCell_self o.memory cell
  · apply (Layout.blockFor_of_block? layout).holds
    exact aligned_of_allocate asked
  · rw [destructor]
    show StorageEvent.placed home o.memory.cells.next :: o.deeds = _
    rw [next, lent]
  · intro collects
    rw [collects] at asked
    obtain ⟨a, b, there, now, collected⟩ := collected_of_allocate asked
    exact ⟨a, b, there, now, collected⟩

/-! ## Destructors that are registered -/

/-- The ways in which it shows that a destructor was registered with an allocator. -/
inductive Registered (m : Machine) (id : AllocatorId) (r : Registration) : Prop
  /-- It came with a request that was satisfied. -/
  | asked {l : Layout} (granted : .granted id r.base l (some r.destructor) ∈ m.deeds)
  /-- It was run. -/
  | ran (among : r ∈ runs id m.deeds)
  /-- It will be run when the arena is released. -/
  | pending {a : Arena} (there : m.memory.arena? id = some a) (listed : r ∈ a.collected)

end Machine

/-- Where a destructor finds its value. -/
def Registration.address (r : Registration) : Address := r.base + UInt64.ofNat r.destructor.offset

/-- A lawful history has one event at most with a destructor for a subject. -/
theorem Lawful.eq_of_mem {deeds : List StorageEvent} {e e' : StorageEvent} {c : CellId}
    (lawful : Lawful deeds) (member : e ∈ deeds) (member' : e' ∈ deeds)
    (subject : e.subject? = some c) (subject' : e'.subject? = some c) : e = e' := by
  obtain ⟨newer, older, split⟩ := List.append_of_mem member
  obtain ⟨newer', older', split'⟩ := List.append_of_mem member'
  exact (eq_of_subject (split ▸ lawful) (split.symm.trans split') subject subject').2

namespace Machine

variable {m : Machine} {id : AllocatorId} {r : Registration} {c : CellId} {cell : Cell}

/-- What is registered came with a request that was satisfied. -/
theorem Registered.exists_granted (registered : m.Registered id r) (sound : m.Sound) :
    ∃ l, .granted id r.base l (some r.destructor) ∈ m.deeds := by
  cases registered with
  | asked granted => exact ⟨_, granted⟩
  | ran among =>
    obtain ⟨e, member, runs⟩ := List.mem_filterMap.1 among
    obtain ⟨newer, older, split⟩ := List.append_of_mem member
    cases e with
    | collectedRun home base d =>
      obtain ⟨rfl, is⟩ := Option.ite_none_right_eq_some.1 runs
      cases is
      obtain ⟨l, lent, -⟩ := (sound.lawful.collectedSafely _).alive newer older base d split
      rw [split]
      exact ⟨l, List.mem_append_right _ (List.mem_cons_of_mem _ lent)⟩
    | _ => cases runs
  | @pending a there listed =>
    rw [(sound.arenas id a there).collected] at listed
    obtain ⟨b, booked, rfl⟩ := List.mem_map.1 listed
    obtain ⟨e, member, is⟩ := booked_of_mem_sinceTaken booked
    rw [granted_of_booked is] at member
    exact ⟨b.layout, member⟩

/-- What is registered for a value that a collecting owner put behind a block is the place where it
was put, with the allocator that lent the storage. -/
theorem Recorded.registration_eq (recorded : m.Recorded c cell) (sound : m.Sound)
    (collects : cell.state = some .collect) (registered : m.Registered id r)
    (subject : r.destructor.subject = c) :
    cell.home = some id ∧ r = ⟨cell.base, ⟨cell.offset, c⟩⟩ := by
  rcases recorded with ⟨bare, -⟩ | ⟨home, lent, -, newer, older, placed⟩
  · rw [collects] at bare
    cases bare
  · have destructor : cell.destructor c = some ⟨cell.offset, c⟩ := if_pos collects
    rw [destructor] at placed
    have known : .granted home cell.base cell.layout (some ⟨cell.offset, c⟩) ∈ m.deeds := by
      rw [placed]
      exact List.mem_append_right _ (List.mem_cons_of_mem _ (List.mem_cons_self ..))
    -- Both events have the cell for their subject, so they are one.
    obtain ⟨l, granted⟩ := registered.exists_granted sound
    have same := sound.lawful.eq_of_mem granted known (congrArg some subject) rfl
    obtain ⟨base, d⟩ := r
    cases same
    exact ⟨lent, rfl⟩

end Machine

/-! ## Blocks in memory -/

/-- A value and the block in front of it lie in the cell's storage as the layout for both says. -/
structure Cell.BehindHeader (cell : Cell) : Prop where
  layout : cell.kind.layout.block? = some cell.layout
  offset : cell.offset = cell.kind.layout.valueOffset
  /-- The sum of the words is the sum of the numbers. -/
  address : cell.address.toNat = cell.base.toNat + cell.offset
  holds : cell.layout.Holds Layout.header cell.kind.layout cell.offset cell.base.toNat

/-- That is so of storage that was asked for with this layout, is aligned, and is in the address
space. -/
theorem Cell.Shaped.behindHeader {cell : Cell} {h : Heap} (shaped : cell.Shaped)
    (blocked : cell.state ≠ none) (aligned : cell.region.Aligned) (passed : h.Passed cell.region) :
    cell.BehindHeader := by
  obtain ⟨layout, offset⟩ := shaped.block blocked
  have holds := (Layout.blockFor_of_block? layout).holds cell.base.toNat aligned
  rw [← offset] at holds
  refine ⟨layout, offset, ?_, holds⟩
  have inside := holds.secondInside
  have headed : 88 ≤ cell.layout.size := Nat.le_of_add_le_add_left holds.firstInside
  have room : cell.base.toNat + cell.layout.size < Word.sizeLimit :=
    (passed (Nat.lt_of_lt_of_le (by decide) headed)).2
  -- A value of no bytes has an address as well, so it is the block that has to have some.
  unfold Cell.address
  unfold Word.sizeLimit at room
  rw [UInt64.toNat_add, Word.toNat_ofNat_of_le (by unfold Word.sizeLimit; omega)]
  apply Nat.mod_eq_of_lt
  omega

namespace Situation

open Machine

variable {may : Licence} {s t : Situation}

/-- All values lie in storage that is aligned. -/
def Aligned (s : Situation) : Prop :=
  ∀ c cell, s.machine.memory.cell? c = some cell → cell.region.Aligned

theorem Aligned.step (aligned : s.Aligned) (balanced : s.Balanced) (step : Step may s t) :
    t.Aligned := by
  intro c later found
  rcases step.cells balanced with continues | ⟨new, cells, -, home, d, grant, n, asked, address⟩
  · obtain ⟨cell, there, endures⟩ := continues.earlier found
    rw [endures.region]
    exact aligned c cell there
  · -- Besides the old cells there is one in storage that this step asked for.
    have there : (s.machine.memory.cells.push new).get? c = some later := cells ▸ found
    by_cases last : c = s.machine.memory.cells.next
    · rw [last, Slab.get?_push_next] at there
      cases there
      have lent := aligned_of_allocate asked
      rw [address] at lent
      exact lent
    · rw [Slab.get?_push_of_ne _ _ last] at there
      exact aligned c later there

theorem Aligned.leads (leads : Leads may s t) (balanced : s.Balanced) (aligned : s.Aligned) :
    t.Aligned := by
  induction leads with
  | refl => exact aligned
  | tail leads step ih => exact ih.step (balanced.leads leads) step

end Situation

namespace Client

open Machine

/-- In every run, values lie behind their blocks, and what is registered for one that is to be
collected is where it lies. -/
theorem run_behindHeader (p : Process) (ops : List Operation) {c : CellId} {cell : Cell}
    (found : (run ops (start p)).state.machine.memory.cell? c = some cell)
    (blocked : cell.state ≠ none) :
    cell.BehindHeader ∧ (cell.state = some .collect → ∀ id r,
      (run ops (start p)).state.machine.Registered id r → r.destructor.subject = c →
        cell.home = some id ∧ r = ⟨cell.base, ⟨cell.offset, c⟩⟩) := by
  have balanced : (start p).situation.Balanced := start_balanced p
  have led : Leads True (start p).situation (run ops (start p)) :=
    run_leads ops (fun _ _ _ => trivial) balanced
  obtain ⟨t, leads, same⟩ := led.exists_state
  rw [← same] at found ⊢
  have vacant (c : CellId) : (start p).machine.memory.cell? c = none := start_vacant p c
  have recorded := Situation.Recorded.leads leads balanced (Situation.recorded_of_vacant vacant)
  have sound := (balanced.leads leads).sound
  have aligned : t.Aligned := by
    apply Situation.Aligned.leads leads balanced
    intro c cell found
    have nothing := (vacant c).symm.trans found
    cases nothing
  have fenced := leads.fenced balanced (start_fenced p)
  rcases recorded c cell found with ⟨bare, -⟩ | ⟨home, -, shaped, -⟩
  · exact absurd bare blocked
  · refine ⟨shaped.behindHeader blocked (aligned c cell found) (fenced.cells c cell found), ?_⟩
    intro collects id r registered subject
    exact (recorded c cell found).registration_eq sound collects registered subject

end Client

namespace Layout

open Machine

/-- Blocks are laid out for values of every layout, whether they take no room or are aligned to more
than the header is. No sum on the way needs more than a word. The layout of a block is the header
extended by the value and padded, which fails exactly where the two together are too large for one
object, and then a value is destroyed and refused as such. Otherwise the layout has room for both,
and the destructor of a value that is to be collected is registered with the offset that the value
was put at: when it is created, and in all that follows. -/
theorem blocks_laidOut (value : Layout) :
    (header.size = 88 ∧ header.align = 8 ∧ roundUp 88 value.align + value.size < 2 ^ 64) ∧
      value.block?.map (fun whole => (whole, value.valueOffset)) =
        (header.extend? value).map (fun joined => (joined.1.padded, joined.2)) ∧
      (value.block? = none ↔ 2 ^ 63 - max 8 value.align < roundUp 88 value.align + value.size) ∧
      (roundUp 88 value.align + value.size ≤ 2 ^ 63 - max 8 value.align →
        ∃ whole, value.block? = some whole ∧ whole.BlockFor value) ∧
      (∀ (v : Value) owner home m, v.kind.layout = value →
        (value.block? = none → tryCreateBlock owner home v m =
          (dropValue v m).andThen fun _ n => .returned (.error .invalidLayout) n) ∧
        ∀ h n, tryCreateBlock owner home v m = .returned (.ok h) n →
          ∃ cell, m.BuildsBlock n owner home v cell) ∧
      ∀ p ops c cell, (Client.run ops (Client.start p)).state.machine.memory.cell? c = some cell →
        cell.kind.layout = value → cell.state ≠ none →
          cell.BehindHeader ∧ (cell.state = some .collect → ∀ id r,
            (Client.run ops (Client.start p)).state.machine.Registered id r →
              r.destructor.subject = c → cell.home = some id ∧ r.base = cell.base ∧
                r.destructor.offset = value.valueOffset ∧ r.address = cell.address) := by
  have fits : roundUp 88 value.align + value.size < 2 ^ 64 := valueOffset_add_size_lt value
  refine ⟨⟨rfl, rfl, fits⟩, map_block?_eq value, block?_eq_none_iff, ?_, ?_, ?_⟩
  · intro small
    have made : value.block? ≠ none := by
      rw [Ne, block?_eq_none_iff]
      exact Nat.not_lt.2 small
    obtain ⟨whole, found⟩ := Option.ne_none_iff_exists'.1 made
    exact ⟨whole, found, blockFor_of_block? found⟩
  · rintro v owner home m rfl
    refine ⟨fun none => tryCreateBlock_of_tooLarge owner home none m, ?_⟩
    intro h n done
    exact exists_buildsBlock done
  · rintro p ops c cell found rfl blocked
    obtain ⟨behind, collected⟩ := Client.run_behindHeader p ops found blocked
    refine ⟨behind, ?_⟩
    intro collects id r registered subject
    obtain ⟨home, rfl⟩ := collected collects id r registered subject
    exact ⟨home, rfl, behind.offset, rfl⟩

/-- An arena is made, and comes to collect a value that is aligned to more than a header is. -/
def overAligned : List Operation :=
  [.makeArena none {}, .create (.block .collect) 1 (.bytes ⟨24, 128, ⟨7, rfl⟩, by decide⟩) true]

/-- A value of 24 bytes that is aligned to 128 lies 128 bytes behind the start of its block, which
takes 256, and there an arena that is to destroy it finds it. The largest value that is not aligned
and can lie behind a block has `2 ^ 63 - 96` bytes. -/
theorem blocks_laidOut_overAligned :
    let value : Layout := ⟨24, 128, ⟨7, rfl⟩, by decide⟩
    let whole : Layout := ⟨256, 128, ⟨7, rfl⟩, by decide⟩
    let largest : Layout := ⟨9223372036854775712, 1, ⟨0, rfl⟩, by decide⟩
    let tooLarge : Layout := ⟨9223372036854775713, 1, ⟨0, rfl⟩, by decide⟩
    let empty := (Client.start {}).machine
    let m := (Client.run overAligned (Client.start {})).state.machine
    (value.block? = some whole ∧ whole.BlockFor value ∧ whole.Holds header value 128 384) ∧
      (∃ n cell, tryCreateBlock .collect 1 (.bytes value) m =
          .returned (.ok (.whole (.block .collect) (.bytes value) 1)) n ∧
        m.BuildsBlock n .collect 1 (.bytes value) cell) ∧
      (∃ cell r, m.memory.cell? 0 = some cell ∧ cell.BehindHeader ∧ m.Registered 1 r ∧
        r.destructor.offset = 128 ∧ r.address = cell.address) ∧
      largest.block?.isSome = true ∧ tooLarge.block? = none ∧
        tryCreateBlock .own 0 (.bytes tooLarge) empty = .returned (.error .invalidLayout) empty := by
  intro value whole largest tooLarge empty m
  have found : value.block? = some whole := by decide
  have behind : value.valueOffset = 128 := by decide
  have refused : tooLarge.block? = none := by decide
  obtain ⟨-, -, -, laidOut, creation, runs⟩ := blocks_laidOut value
  obtain ⟨-, -, -, -, refusal, -⟩ := blocks_laidOut tooLarge
  obtain ⟨made, same, block⟩ := laidOut (by decide)
  obtain rfl : whole = made := Option.some.inj (found.symm.trans same)
  refine ⟨⟨found, block, ?_⟩, ?_, ?_, by decide, refused, ?_⟩
  · rw [← behind]
    exact block.holds 384 (by decide)
  · have done := Outcome.eq_returned_of_answer? (o := tryCreateBlock .collect 1 (.bytes value) m)
      (a := .ok (.whole (.block .collect) (.bytes value) 1)) (by decide +kernel)
    obtain ⟨cell, built⟩ := (creation (.bytes value) .collect 1 m rfl).2 _ _ done
    exact ⟨_, cell, done, built⟩
  · have there : (m.memory.cell? 0).map (fun cell => (cell.kind.layout, cell.state)) =
        some (value, some .collect) := by decide +kernel
    have pending : (m.memory.arena? 1).map (fun a => a.collected.map (·.destructor.subject)) =
        some [0] := by decide +kernel
    obtain ⟨cell, there, is⟩ := Option.map_eq_some_iff.1 there
    obtain ⟨layout, collects⟩ := Prod.mk.inj is
    obtain ⟨a, arena, list⟩ := Option.map_eq_some_iff.1 pending
    obtain ⟨r, others, collected, subject, -⟩ := List.map_eq_cons_iff.1 list
    have registered : m.Registered 1 r := by
      apply Registered.pending arena
      rw [collected]
      exact List.mem_cons_self ..
    have blocked : cell.state ≠ none := by
      rw [collects]
      exact nofun
    obtain ⟨laid, place⟩ := runs {} overAligned 0 cell there layout blocked
    obtain ⟨-, -, offset, address⟩ := place collects 1 r registered subject
    exact ⟨cell, r, there, laid, registered, offset.trans behind, address⟩
  · have destroyed : dropValue (.bytes tooLarge) empty = .returned () empty := drain_nil_nil empty
    rw [(refusal (.bytes tooLarge) .own 0 empty rfl).1 refused, destroyed]
    rfl

end Layout

end Custody
