import Custody.Proofs.Chunks
import Custody.Proofs.History

/-!
# Storage that is handed out together

What an arena hands out between two releases is used at the same time, so no two pieces of it may
share an address. A *region* is storage somewhere: it begins at an address and has a layout, as a
chunk does and whatever is carved from one. `Arena.Handed a regions` says that an arena can come
about in which `regions` were handed out since its chunks were last given back: it began with any
configuration, and any heap answered it, as long as what the heap gave was aligned, was in the
address space and was apart from the chunks that the arena held at the time.

The cursor is what keeps regions apart. What it has not yet carved out of its chunk is apart from
all that was handed out (`Cursor.Vacant`), and a chunk that is obtained is apart from everything.
-/

namespace Custody

/-- Storage: where it begins, and its layout. -/
structure Region where
  /-- Where it begins. -/
  start : Address
  /-- Its layout. -/
  layout : Layout
  deriving DecidableEq

namespace Region

/-- Whether an address is one of the storage. -/
def Covers (r : Region) (address : Nat) : Prop :=
  r.start.toNat ≤ address ∧ address < r.start.toNat + r.layout.size

/-- No address is one of both. -/
def Apart (r s : Region) : Prop := ∀ address, r.Covers address → ¬s.Covers address

/-- Storage begins at a multiple of its alignment. -/
def Aligned (r : Region) : Prop := r.layout.align ∣ r.start.toNat

instance (r : Region) : Decidable r.Aligned := inferInstanceAs (Decidable (_ ∣ _))

/-- Storage lies in the address space, `1` to `2 ^ 63`. -/
def Addressable (r : Region) : Prop :=
  1 ≤ r.start.toNat ∧ r.start.toNat + r.layout.size ≤ Word.sizeLimit

instance (r : Region) : Decidable r.Addressable := inferInstanceAs (Decidable (_ ∧ _))

theorem Apart.symm {r s : Region} (h : r.Apart s) : s.Apart r :=
  fun address covered other => h address other covered

theorem apart_of_empty {r : Region} (empty : r.layout.size = 0) (s : Region) : r.Apart s := by
  rintro address ⟨low, high⟩
  omega

/-- Regions are apart if one is empty, or if one ends before the other begins. -/
theorem apart_iff {r s : Region} :
    r.Apart s ↔ r.layout.size = 0 ∨ s.layout.size = 0 ∨
      r.start.toNat + r.layout.size ≤ s.start.toNat ∨
      s.start.toNat + s.layout.size ≤ r.start.toNat := by
  constructor
  · intro apart
    by_cases order : r.start.toNat ≤ s.start.toNat
    · have := apart s.start.toNat
      unfold Covers at this
      omega
    · have := apart r.start.toNat
      unfold Covers at this
      omega
  · rintro cases address ⟨low, high⟩ ⟨low', high'⟩
    omega

instance (r s : Region) : Decidable (r.Apart s) := decidable_of_iff' _ apart_iff

/-- What lies inside one of two regions that are apart is apart from the other. -/
theorem Apart.inside {r s inner : Region} (h : r.Apart s) (low : r.start.toNat ≤ inner.start.toNat)
    (high : inner.start.toNat + inner.layout.size ≤ r.start.toNat + r.layout.size) :
    inner.Apart s := by
  rintro address ⟨above, below⟩
  exact h address ⟨by omega, by omega⟩

end Region

/-- The storage that a chunk is. -/
def Chunk.region (c : Chunk) : Region := ⟨c.base, c.layout⟩

/-- What an arena relies on when it asks for a chunk while it holds others. -/
def Arena.Provides (heap : Layout → Option Address) (held : List Chunk) : Prop :=
  ∀ l base, heap l = some base →
    (⟨base, l⟩ : Region).Aligned ∧ (⟨base, l⟩ : Region).Addressable ∧
      ∀ c ∈ held, (⟨base, l⟩ : Region).Apart c.region

theorem Arena.Provides.supplies {heap : Layout → Option Address} {held : List Chunk}
    (provides : Arena.Provides heap held) : Arena.Supplies heap := fun l base obtained =>
  have ⟨aligned, addressable, _⟩ := provides l base obtained
  ⟨aligned, addressable.2⟩

/-! ## Arenas and what they handed out -/

/-- An arena that can come about, and what it handed out since its chunks were last given back,
newest first. -/
inductive Arena.Handed : Arena → List Region → Prop
  | made (id : Nat) (name : String) (config : ArenaConfig) :
    Handed { id := id, name := name, config := config } []
  | granted {a after : Arena} {regions : List Region} {heap : Layout → Option Address}
      {l : Layout} {d : Option Destructor} {grant : Grant} (before : Handed a regions)
      (provides : Arena.Provides heap a.chunks)
      (answer : a.allocate heap l d = (.ok grant, after)) :
    Handed after (⟨grant.address, l⟩ :: regions)
  | refused {a after : Arena} {regions : List Region} {heap : Layout → Option Address}
      {l : Layout} {d : Option Destructor} {e : AllocError} (before : Handed a regions)
      (provides : Arena.Provides heap a.chunks)
      (answer : a.allocate heap l d = (.error e, after)) :
    Handed after regions
  | deallocated {a : Arena} {regions : List Region} (before : Handed a regions) :
    Handed a.deallocate regions
  | retired {a : Arena} {regions : List Region} (before : Handed a regions) :
    Handed a.retire regions
  | destructorsTaken {a : Arena} {regions : List Region} (before : Handed a regions) :
    Handed a.takeDestructors.2 regions
  | chunksReturned {a : Arena} {regions : List Region} (before : Handed a regions) :
    Handed a.emptied []
  | writtenOff {a : Arena} {regions : List Region} (leaked : Word) (before : Handed a regions) :
    Handed { a with ledger := a.ledger.writeOff leaked } regions

/-- The cursor fills one of the chunks, and what it has not used of it was not handed out. -/
structure Cursor.Vacant (cursor : Cursor) (chunks : List Chunk) (regions : List Region) : Prop where
  chunk : ∃ c ∈ chunks, cursor.base = c.base ∧ cursor.size.toNat = c.layout.size
  used : cursor.used.toNat ≤ cursor.size.toNat
  free : ∀ r ∈ regions, ∀ address, r.Covers address →
    ¬(cursor.base.toNat + cursor.used.toNat ≤ address ∧
      address < cursor.base.toNat + cursor.size.toNat)

/-- What was handed out lies apart in the chunks that are held, and so does what the cursor will
hand out. -/
structure Arena.Placed (a : Arena) (regions : List Region) : Prop where
  addressable : ∀ c ∈ a.chunks, c.region.Addressable
  aligned : ∀ r ∈ regions, 0 < r.layout.size → r.Aligned
  enclosed : ∀ r ∈ regions, 0 < r.layout.size → ∃ c ∈ a.chunks, c.Encloses r.start r.layout
  apart : regions.Pairwise Region.Apart
  cursor : ∀ cursor, a.cursor = some cursor → cursor.Vacant a.chunks regions

namespace Arena

variable {a after : Arena} {regions : List Region}

/-- An arena with the chunks and the cursor of another has what was handed out in the same
places. -/
theorem Placed.of_same (placed : a.Placed regions) (chunks : after.chunks = a.chunks)
    (cursor : after.cursor = a.cursor) : after.Placed regions where
  addressable := chunks ▸ placed.addressable
  aligned := placed.aligned
  enclosed := chunks ▸ placed.enclosed
  apart := placed.apart
  cursor := by
    rw [chunks, cursor]
    exact placed.cursor

/-- With no chunk and no cursor, nothing is handed out. -/
theorem Placed.of_empty (chunks : a.chunks = []) (cursor : a.cursor = none) : a.Placed [] where
  addressable := by simp [chunks]
  aligned := by simp
  enclosed := by simp
  apart := .nil
  cursor := by simp [cursor]

/-! ## What is handed out next -/

section Next

variable {heap : Layout → Option Address} {l : Layout}

/-- Storage of no bytes is nowhere. -/
theorem Placed.nowhere (placed : a.Placed regions) (empty : l.size = 0) (address : Address) :
    a.Placed (⟨address, l⟩ :: regions) where
  addressable := placed.addressable
  aligned := by
    rintro r (_ | ⟨_, member⟩) some
    · exact absurd empty (Nat.ne_of_gt some)
    · exact placed.aligned r member some
  enclosed := by
    rintro r (_ | ⟨_, member⟩) some
    · exact absurd empty (Nat.ne_of_gt some)
    · exact placed.enclosed r member some
  apart := .cons (fun s _ => Region.apart_of_empty empty s) placed.apart
  cursor := fun cursor here =>
    have fills := placed.cursor cursor here
    { fills with
      free := by
        rintro r (_ | ⟨_, member⟩) address ⟨low, high⟩
        · change _ < _ + l.size at high
          omega
        · exact fills.free r member address ⟨low, high⟩ }

/-- What the cursor carves out lies behind what is used of the chunk that it fills, and is used
itself afterwards. -/
theorem Placed.carved (placed : a.Placed regions) {cursor next : Cursor} {address : Address}
    (filled : a.cursor = some cursor) (bumped : cursor.bump l = some (address, next)) :
    ∃ c ∈ a.chunks, cursor.base = c.base ∧ cursor.size.toNat = c.layout.size ∧
      address.toNat = roundUp (cursor.base.toNat + cursor.used.toNat) l.align ∧
      cursor.base.toNat + cursor.used.toNat ≤ address.toNat ∧
      address.toNat + l.size = cursor.base.toNat + next.used.toNat ∧
      next.used.toNat ≤ cursor.size.toNat := by
  have fills := placed.cursor cursor filled
  obtain ⟨c, held, base, size⟩ := fills.chunk
  obtain ⟨-, ending⟩ := placed.addressable c held
  change c.base.toNat + c.layout.size ≤ Word.sizeLimit at ending
  have start : cursor.base.toNat = c.base.toNat := congrArg UInt64.toNat base
  have room : cursor.base.toNat + cursor.size.toNat < Word.modulus := by
    unfold Word.sizeLimit at ending
    unfold Word.modulus
    omega
  obtain ⟨rounded, stop, inside⟩ := Cursor.bump_spec bumped fills.used room
  have above : cursor.base.toNat + cursor.used.toNat ≤ address.toNat :=
    rounded ▸ le_roundUp l.align_pos
  exact ⟨c, held, base, size, rounded, above, stop, inside⟩

/-- What the cursor carves out was free, and is inside its chunk. -/
theorem Placed.bump (placed : a.Placed regions) {cursor next : Cursor} {address : Address}
    (filled : a.cursor = some cursor) (bumped : cursor.bump l = some (address, next))
    (used : Nat) :
    ({ a with cursor := some next, used := used } : Arena).Placed (⟨address, l⟩ :: regions) := by
  have fills := placed.cursor cursor filled
  obtain ⟨c, held, base, size, rounded, above, stop, inside⟩ := placed.carved filled bumped
  have start : cursor.base.toNat = c.base.toNat := congrArg UInt64.toNat base
  obtain ⟨sameBase, sameSize⟩ := Cursor.bump_after bumped
  constructor
  case addressable => exact placed.addressable
  case aligned =>
    rintro r (_ | ⟨_, member⟩) some
    · show l.align ∣ address.toNat
      rw [rounded]
      exact dvd_roundUp _ _
    · exact placed.aligned r member some
  case enclosed =>
    rintro r (_ | ⟨_, member⟩) some
    · refine ⟨c, held, ?_, ?_⟩
      · show c.base.toNat ≤ address.toNat
        omega
      · show address.toNat + l.size ≤ c.base.toNat + c.layout.size
        omega
    · exact placed.enclosed r member some
  case apart =>
    refine .cons (fun s member n covered other => ?_) placed.apart
    refine fills.free s member n other ?_
    obtain ⟨low, high⟩ := covered
    change address.toNat ≤ n at low
    change n < address.toNat + l.size at high
    omega
  case cursor =>
    rintro _ ⟨⟩
    refine ⟨⟨c, held, sameBase.trans base, (congrArg _ sameSize).trans size⟩,
      sameSize ▸ inside, ?_⟩
    rw [sameBase, sameSize]
    rintro r (_ | ⟨_, member⟩) n covered free
    · obtain ⟨-, high⟩ := covered
      change n < address.toNat + l.size at high
      omega
    · refine fills.free r member n covered ⟨?_, free.2⟩
      omega

/-- What a chunk that was just obtained serves from its start is apart from all the rest. -/
theorem Placed.obtain (placed : a.Placed regions) (provides : Provides heap a.chunks)
    {chunk : Layout} {base : Address} (layout : a.chunkLayout? l = some chunk)
    (obtained : heap chunk = some base) :
    (a.pushChunk ⟨base, chunk⟩ l).Placed (⟨base, l⟩ :: regions) := by
  obtain ⟨aligned, addressable, beside⟩ := provides chunk base obtained
  obtain ⟨divides, fits⟩ := chunkLayout?_spec layout
  -- Everything older lies in an older chunk.
  have clear : ∀ r ∈ regions, (⟨base, chunk⟩ : Region).Apart r := by
    intro r member
    rcases Nat.eq_zero_or_pos r.layout.size with empty | some
    · exact (Region.apart_of_empty empty _).symm
    · obtain ⟨c, held, low, high⟩ := placed.enclosed r member some
      exact ((beside c held).symm.inside low high).symm
  constructor
  case addressable =>
    rintro c (_ | ⟨_, held⟩)
    · exact addressable
    · exact placed.addressable c held
  case aligned =>
    rintro r (_ | ⟨_, member⟩) some
    · exact Nat.dvd_trans divides aligned
    · exact placed.aligned r member some
  case enclosed =>
    rintro r (_ | ⟨_, member⟩) some
    · exact ⟨_, List.mem_cons_self .., Nat.le_refl _, Nat.add_le_add_left fits _⟩
    · obtain ⟨c, held, encloses⟩ := placed.enclosed r member some
      exact ⟨c, List.mem_cons_of_mem _ held, encloses⟩
  case apart =>
    refine .cons (fun s member => ?_) placed.apart
    exact (clear s member).inside (Nat.le_refl _) (Nat.add_le_add_left fits _)
  case cursor =>
    intro cursor here
    have fills := placed.cursor cursor here
    obtain ⟨c, held, start, size⟩ := fills.chunk
    refine ⟨⟨c, List.mem_cons_of_mem _ held, start, size⟩, fills.used, ?_⟩
    rintro r (_ | ⟨_, member⟩) n covered free
    · refine beside c held n ?_ ?_
      · obtain ⟨low, high⟩ := covered
        change n < base.toNat + l.size at high
        exact ⟨low, Nat.lt_of_lt_of_le high (Nat.add_le_add_left fits _)⟩
      · rw [start, size] at free
        exact ⟨Nat.le_trans (Nat.le_add_right _ _) free.1, free.2⟩
    · exact fills.free r member n covered free

/-- A chunk that was obtained and served its first request can be filled further. -/
theorem Placed.refill (placed : a.Placed regions) (provides : Provides heap a.chunks)
    {chunk : Layout} {base : Address} {cursor : Cursor} (layout : a.chunkLayout? l = some chunk)
    (obtained : heap chunk = some base) (start : cursor.base = base)
    (size : cursor.size.toNat = chunk.size) (used : cursor.used.toNat = l.size) :
    ({ a.pushChunk ⟨base, chunk⟩ l with cursor := some cursor } : Arena).Placed
      (⟨base, l⟩ :: regions) := by
  have grown := placed.obtain provides layout obtained
  obtain ⟨-, -, beside⟩ := provides chunk base obtained
  obtain ⟨-, fits⟩ := chunkLayout?_spec layout
  refine { grown with cursor := ?_ }
  rintro _ ⟨⟩
  refine ⟨⟨_, List.mem_cons_self .., start, size⟩, by omega, ?_⟩
  rw [start, size, used]
  rintro r (_ | ⟨_, member⟩) n covered free
  · obtain ⟨-, high⟩ := covered
    change n < base.toNat + l.size at high
    omega
  · have some : 0 < r.layout.size := by
      obtain ⟨low, high⟩ := covered
      omega
    obtain ⟨c, held, low, high⟩ := placed.enclosed r member some
    refine beside c held n ⟨Nat.le_trans (Nat.le_add_right _ _) free.1, free.2⟩ ?_
    exact ⟨Nat.le_trans low covered.1, Nat.lt_of_lt_of_le covered.2 high⟩

/-- However a request is served, what it is given lies apart from what was given before. -/
theorem Placed.served (placed : a.Placed regions) (provides : Provides heap a.chunks)
    {grant : Grant} (served : Served heap a l grant after) :
    after.Placed (⟨grant.address, l⟩ :: regions) := by
  cases served with
  | nowhere empty => exact placed.nowhere empty _
  | bump filled bumped => exact placed.bump filled bumped _
  | dedicated layout obtained => exact placed.obtain provides layout obtained
  | fresh layout obtained start size used =>
    exact placed.refill provides layout obtained start size used

end Next

/-- What an arena handed out is in its place at all times. -/
theorem Handed.places (h : a.Handed regions) : a.Placed regions := by
  induction h with
  | made id name config => exact .of_empty rfl rfl
  | granted before provides answer placed =>
    obtain ⟨served, rfl, how⟩ := allocate_ok provides.supplies answer
    exact (placed.served provides how).of_same rfl rfl
  | refused before provides answer placed =>
    rw [allocate_error provides.supplies answer]
    exact placed
  | deallocated before placed => exact placed.of_same rfl rfl
  | retired before placed => exact placed.of_same rfl rfl
  | destructorsTaken before placed => exact placed.of_same rfl rfl
  | chunksReturned before placed => exact .of_empty rfl rfl
  | writtenOff leaked before placed => exact placed.of_same rfl rfl

/-- All storage that an arena handed out since its chunks were last given back is aligned, lies in
one of the chunks that it holds, and shares no address with any other. -/
theorem Handed.keptApart (h : a.Handed regions) :
    (∀ r ∈ regions, 0 < r.layout.size →
      r.Aligned ∧ ∃ c ∈ a.chunks, c.Encloses r.start r.layout) ∧
    regions.Pairwise Region.Apart :=
  have placed := h.places
  ⟨fun r member some => ⟨placed.aligned r member some, placed.enclosed r member some⟩,
    placed.apart⟩

/-- A heap that has one chunk to give. -/
def oneChunk (c : Chunk) : Layout → Option Address :=
  fun l => if l = c.layout then some c.base else none

theorem provides_oneChunk {c : Chunk} {held : List Chunk} (aligned : c.region.Aligned)
    (addressable : c.region.Addressable) (apart : ∀ d ∈ held, c.region.Apart d.region) :
    Provides (oneChunk c) held := by
  intro l base obtained
  unfold oneChunk at obtained
  by_cases same : l = c.layout
  · rw [if_pos same] at obtained
    cases obtained
    subst same
    exact ⟨aligned, addressable, apart⟩
  · rw [if_neg same] at obtained
    cases obtained

/-- A request that is granted, with the arena that is left. -/
theorem Handed.grant (h : a.Handed regions) (l : Layout) (d : Option Destructor) (grant : Grant)
    {heap : Layout → Option Address} (provides : Provides heap a.chunks)
    (answer : (a.allocate heap l d).1 = .ok grant) :
    (a.allocate heap l d).2.Handed (⟨grant.address, l⟩ :: regions) :=
  .granted h provides (Prod.ext answer rfl)

/-- From a chunk of 64 bytes come 8 bytes and, behind a gap, 8 bytes that are aligned to 32, which
are given back; 100 bytes that are collected have a chunk to themselves; and 30 bytes aligned to
64 have no room behind the others and make a new chunk, which lies below. -/
theorem keptApart_overAligned :
    ∃ a : Arena, ∃ regions : List Region, a.Handed regions ∧
      regions.map (·.start) = [128, 8192, 4128, 4112] ∧
      (∀ r ∈ regions, 0 < r.layout.size →
        r.Aligned ∧ ∃ c ∈ a.chunks, c.Encloses r.start r.layout) ∧
      regions.Pairwise Region.Apart := by
  have made := Handed.made 0 "arena-0" { chunkSize := 64 }
  have first := made.grant (.small 8 3) none ⟨4112, .freshChunk⟩
    (provides_oneChunk (c := ⟨4112, .small 64 4⟩) (by decide) (by decide) (by decide)) rfl
  have second := first.grant (.small 8 5) none ⟨4128, .bump⟩
    (provides_oneChunk (c := ⟨128, .small 64 6⟩) (by decide) (by decide) (by decide)) rfl
  have third := second.deallocated.grant (.small 100 6) (some ⟨0, 0⟩) ⟨8192, .dedicatedChunk⟩
    (provides_oneChunk (c := ⟨8192, .small 100 6⟩) (by decide) (by decide) (by decide)) rfl
  have fourth := third.grant (.small 30 6) none ⟨128, .freshChunk⟩
    (provides_oneChunk (c := ⟨128, .small 64 6⟩) (by decide) (by decide) (by decide)) rfl
  exact ⟨_, _, fourth, rfl, fourth.keptApart⟩

end Arena

end Custody
