import Custody.Proofs.Placement
import Mathlib.Algebra.GroupWithZero.Nat
import Mathlib.Order.Interval.Finset.Nat

/-!
# What an arena holds and what it has handed out

An arena keeps two figures beside its chunks: the bytes that it holds, and the bytes that it has
handed out since its chunks were last given back. `Arena.Figures a regions` says what they amount
to when `regions` were handed out, and what an arena never holds: more than its capacity, a chunk
of no bytes, a cursor that is beyond the end of its chunk.

The two figures do not count the same. The one counts the bytes that were asked for; the cursor
counts the gaps in front of them as well, and what is left of a chunk is given up when the next one
is obtained. That no more is handed out than is held is therefore shown together with more: what
the cursor has left can still be handed out (`Arena.Measured.room`).

Chunks share no address, and there are no more than `2 ^ 63` addresses, so that all chunks together
are smaller than that (`Region.sum_size_lt`). This is why no sum carries that is computed when a
request is served (`Cursor.Sums`, `Arena.Sums`), although only two of them are checked.
-/

namespace Custody

namespace Region

/-! ## How much room there is -/

/-- The addresses of storage. -/
def addresses (r : Region) : Finset Nat := Finset.Ico r.start.toNat (r.start.toNat + r.layout.size)

theorem mem_addresses {r : Region} {address : Nat} : address ∈ r.addresses ↔ r.Covers address :=
  Finset.mem_Ico

theorem card_addresses (r : Region) : r.addresses.card = r.layout.size := by
  unfold addresses
  rw [Nat.card_Ico]
  exact Nat.add_sub_cancel_left ..

variable {regions : List Region}

/-- Regions that are apart cover as many addresses as they have bytes together. -/
theorem exists_addresses (apart : regions.Pairwise Apart) :
    ∃ all : Finset Nat, all.card = (regions.map (·.layout.size)).sum ∧
      ∀ address, address ∈ all ↔ ∃ r ∈ regions, r.Covers address := by
  induction regions with
  | nil => exact ⟨∅, rfl, fun address => by simp⟩
  | cons r rest ih =>
    obtain ⟨beside, apart⟩ := List.pairwise_cons.1 apart
    obtain ⟨all, card, covers⟩ := ih apart
    have disjoint : Disjoint r.addresses all := by
      rw [Finset.disjoint_left]
      intro address covered member
      obtain ⟨s, among, other⟩ := (covers address).1 member
      exact beside s among address (mem_addresses.1 covered) other
    refine ⟨r.addresses ∪ all, ?_, fun address => ?_⟩
    · rw [Finset.card_union_of_disjoint disjoint, card, card_addresses, List.map_cons,
        List.sum_cons]
    · simp [mem_addresses, covers]

/-- Storage in the address space that is apart is smaller together than the address space. -/
theorem sum_size_lt (apart : regions.Pairwise Apart) (addressable : ∀ r ∈ regions, r.Addressable) :
    (regions.map (·.layout.size)).sum < Word.sizeLimit := by
  obtain ⟨all, card, covers⟩ := exists_addresses apart
  have inside : all ⊆ Finset.Ico 1 Word.sizeLimit := by
    intro address member
    obtain ⟨r, among, low, high⟩ := (covers address).1 member
    obtain ⟨positive, ending⟩ := addressable r among
    rw [Finset.mem_Ico]
    omega
  have most := Finset.card_le_card inside
  rw [card, Nat.card_Ico] at most
  have some : 1 ≤ Word.sizeLimit := by decide
  omega

end Region

/-! ## Sums -/

/-- No sum that is computed to carve a layout out of a chunk is greater than a word: the first free
address, the one that is rounded down from it, the offset in the chunk, its end and its address. -/
structure Cursor.Sums (c : Cursor) (l : Layout) : Prop where
  next : c.base.toNat + c.used.toNat < Word.modulus
  top : c.next.toNat + (UInt64.ofNat l.align - 1).toNat < Word.modulus
  offset : ∀ aligned, alignUp? c.next (UInt64.ofNat l.align - 1) = some aligned →
    c.next ≤ aligned ∧ c.used.toNat + (aligned - c.next).toNat < Word.modulus
  stop : ∀ aligned, alignUp? c.next (UInt64.ofNat l.align - 1) = some aligned →
    (c.used + (aligned - c.next)).toNat + l.size < Word.modulus
  place : ∀ aligned, alignUp? c.next (UInt64.ofNat l.align - 1) = some aligned →
    (c.used + (aligned - c.next)).toNat + l.size ≤ c.size.toNat →
      c.base.toNat + (c.used + (aligned - c.next)).toNat < Word.modulus

/-- A cursor in a chunk that lies in the address space computes no sum that carries. -/
theorem Cursor.sums {c : Cursor} (used : c.used.toNat ≤ c.size.toNat)
    (some : 1 ≤ c.base.toNat) (ending : c.base.toNat + c.size.toNat ≤ Word.sizeLimit)
    (l : Layout) : c.Sums l := by
  have fits := l.sizeBound
  have low := toNat_low l
  have pos := l.align_pos
  unfold Word.sizeLimit at ending fits
  have next : c.next.toNat = c.base.toNat + c.used.toNat := by
    unfold next
    rw [UInt64.toNat_add, Nat.mod_eq_of_lt]
    omega
  have pad {aligned : Address}
      (moved : alignUp? c.next (UInt64.ofNat l.align - 1) = .some aligned) :
      c.next ≤ aligned ∧ (aligned - c.next).toNat < l.align := by
    have rounded := (toNat_of_alignUp? moved).1
    have above : c.next.toNat ≤ aligned.toNat := rounded ▸ le_roundUp pos
    have below : aligned.toNat < c.next.toNat + l.align := rounded ▸ roundUp_lt pos
    rw [← UInt64.le_iff_toNat_le] at above
    rw [UInt64.toNat_sub_of_le _ _ above]
    exact ⟨above, by omega⟩
  have offset {aligned : Address}
      (moved : alignUp? c.next (UInt64.ofNat l.align - 1) = .some aligned) :
      (c.used + (aligned - c.next)).toNat = c.used.toNat + (aligned - c.next).toNat := by
    have := (pad moved).2
    rw [UInt64.toNat_add, Nat.mod_eq_of_lt]
    omega
  constructor
  case next =>
    unfold Word.modulus
    omega
  case top =>
    rw [next, low]
    unfold Word.modulus
    omega
  case offset =>
    intro aligned moved
    obtain ⟨above, small⟩ := pad moved
    refine ⟨above, ?_⟩
    unfold Word.modulus
    omega
  case stop =>
    intro aligned moved
    have small := (pad moved).2
    rw [offset moved]
    unfold Word.modulus
    omega
  case place =>
    intro aligned moved inside
    unfold Word.modulus
    omega

namespace Arena

variable {a after : Arena} {regions : List Region}

/-- No sum that is computed to serve a request is greater than a word. -/
structure Sums (a : Arena) (heap : Layout → Option Address) (l : Layout) : Prop where
  cursor : ∀ cursor, a.cursor = some cursor → cursor.Sums l
  used : a.used + l.size < Word.modulus
  reserved : ∀ chunk, a.chunkLayout? l = some chunk → a.reserved + chunk.size < Word.modulus
  fresh : ∀ chunk base, a.chunkLayout? l = some chunk → heap chunk = some base →
    (cursorInto ⟨base, chunk⟩).Sums l

/-- The figures of an arena, when `regions` were handed out since its chunks were last given
back; those of no bytes add nothing. -/
structure Figures (a : Arena) (regions : List Region) : Prop where
  /-- What is held are the chunks. -/
  reserved : a.reserved = a.chunkBytes
  /-- No more is held than is allowed. -/
  capped : a.config.maxSize ≠ 0 → a.reserved ≤ a.config.maxSize
  /-- No more is handed out than is held. -/
  within : a.used ≤ a.reserved
  /-- What was handed out are the regions. -/
  used : a.used = (regions.map (·.layout.size)).sum
  /-- No chunk is empty. -/
  solid : ∀ c ∈ a.chunks, 0 < c.layout.size
  /-- The cursor is in one of the chunks. -/
  cursor : ∀ cursor, a.cursor = some cursor →
    (∃ c ∈ a.chunks, cursor.base = c.base ∧ cursor.size.toNat = c.layout.size) ∧
      cursor.used ≤ cursor.size

/-! ## What an arena asks for -/

/-- The chunk that an arena asks the heap for, if it needs one to serve a request. -/
def Asks (a : Arena) (l chunk : Layout) : Prop :=
  0 < l.size ∧ a.chunkLayout? l = some chunk ∧ a.exceedsCapacity chunk = false

instance (a : Arena) (l chunk : Layout) : Decidable (a.Asks l chunk) :=
  inferInstanceAs (Decidable (_ ∧ _ ∧ _))

variable {heap other : Layout → Option Address} {l chunk : Layout} {d : Option Destructor}

/-- An arena never asks for an empty chunk: a chunk that is shared is at least twice as large as
the request, whatever the configuration. -/
theorem Asks.pos (asks : a.Asks l chunk) : 0 < chunk.size :=
  Nat.lt_of_lt_of_le asks.1 (chunkLayout?_spec asks.2.1).2

theorem Asks.capped (asks : a.Asks l chunk) (limited : a.config.maxSize ≠ 0) :
    a.reserved + chunk.size ≤ a.config.maxSize := by
  have room := asks.2.2
  unfold exceedsCapacity at room
  simp only [Bool.and_eq_false_iff, bne_eq_false_iff_eq, decide_eq_false_iff_not] at room
  omega

/-- All that a request depends on is the answer of the heap to what the arena asks for. -/
theorem allocate_congr (same : ∀ chunk, a.Asks l chunk → heap chunk = other chunk) :
    a.allocate heap l d = a.allocate other l d := by
  unfold allocate
  by_cases empty : l.size = 0
  · rw [if_pos empty, if_pos empty]
  · have chunks : a.reserveChunk heap l = a.reserveChunk other l := by
      unfold reserveChunk
      cases layout : a.chunkLayout? l with
      | none => rfl
      | some chunk =>
        dsimp only
        by_cases full : a.exceedsCapacity chunk = true
        · rw [if_pos full, if_pos full]
        · have answer := same chunk
            ⟨Nat.pos_of_ne_zero empty, layout, Bool.eq_false_iff.2 full⟩
          rw [answer]
    have served : a.reserve heap l = a.reserve other l := by
      unfold reserve
      rw [chunks]
    rw [if_neg empty, if_neg empty, served]

/-- The heap as far as it is asked to serve a request. -/
def asked (a : Arena) (heap : Layout → Option Address) (l : Layout) : Layout → Option Address :=
  fun chunk => if a.Asks l chunk then heap chunk else none

theorem allocate_asked : a.allocate (a.asked heap l) l d = a.allocate heap l d :=
  allocate_congr fun _ asks => if_pos asks

theorem asked_eq_some {base : Address} (h : a.asked heap l chunk = some base) :
    a.Asks l chunk ∧ heap chunk = some base := by
  unfold asked at h
  by_cases asks : a.Asks l chunk
  · rw [if_pos asks] at h
    exact ⟨asks, h⟩
  · rw [if_neg asks] at h
    cases h

theorem Provides.asked {held : List Chunk} (provides : Provides heap held) :
    Provides (a.asked heap l) held := fun _ _ obtained =>
  provides _ _ (asked_eq_some obtained).2

/-! ## The figures from one request to the next -/

/-- What the cursor has left of its chunk. -/
def left (a : Arena) : Nat :=
  match a.cursor with
  | some cursor => cursor.size.toNat - cursor.used.toNat
  | none => 0

/-- The figures of an arena, and what makes them last: what the cursor has left can still be handed
out, and chunks share no address. -/
structure Measured (a : Arena) (regions : List Region) : Prop where
  reserved : a.reserved = a.chunkBytes
  capped : a.config.maxSize ≠ 0 → a.reserved ≤ a.config.maxSize
  room : a.used + a.left ≤ a.reserved
  used : a.used = (regions.map (·.layout.size)).sum
  solid : ∀ c ∈ a.chunks, 0 < c.layout.size
  apart : (a.chunks.map Chunk.region).Pairwise Region.Apart

theorem Measured.of_empty (chunks : a.chunks = []) (cursor : a.cursor = none)
    (reserved : a.reserved = 0) (used : a.used = 0) : a.Measured [] where
  reserved := by simp [reserved, chunkBytes, chunks]
  capped := by simp [reserved]
  room := by simp [used, left, cursor]
  used := used
  solid := by simp [chunks]
  apart := by simp [chunks]

/-- A request for no bytes moves no figure. -/
theorem Measured.nowhere (measured : a.Measured regions) (empty : l.size = 0) (address : Address) :
    a.Measured (⟨address, l⟩ :: regions) where
  reserved := measured.reserved
  capped := measured.capped
  room := measured.room
  used := by
    rw [measured.used, List.map_cons, List.sum_cons]
    exact (empty ▸ Nat.zero_add _).symm
  solid := measured.solid
  apart := measured.apart

/-- The cursor gives up at least the bytes that it hands out. -/
theorem Measured.bump (measured : a.Measured regions) (placed : a.Placed regions)
    {cursor next : Cursor} {address : Address} (filled : a.cursor = some cursor)
    (bumped : cursor.bump l = some (address, next)) :
    ({ a with cursor := some next, used := a.used + l.size } : Arena).Measured
      (⟨address, l⟩ :: regions) := by
  obtain ⟨-, -, -, -, -, above, stop, inside⟩ := placed.carved filled bumped
  refine { measured with room := ?_, used := ?_ }
  · have before := measured.room
    unfold left at before ⊢
    rw [filled] at before
    dsimp only at before ⊢
    rw [(Cursor.bump_after bumped).2]
    omega
  · rw [List.map_cons, List.sum_cons, ← measured.used, Nat.add_comm]

/-- A chunk that is obtained has room for the request it is obtained for. -/
theorem Measured.obtain (measured : a.Measured regions) (provides : Provides heap a.chunks)
    {base : Address} (asks : a.Asks l chunk) (obtained : heap chunk = some base) :
    (a.pushChunk ⟨base, chunk⟩ l).Measured (⟨base, l⟩ :: regions) where
  reserved := by
    show a.reserved + chunk.size = chunk.size + a.chunkBytes
    rw [measured.reserved, Nat.add_comm]
  capped := asks.capped
  room := by
    have fits := (chunkLayout?_spec asks.2.1).2
    have before := measured.room
    show a.used + l.size + a.left ≤ a.reserved + chunk.size
    omega
  used := by
    show a.used + l.size = _
    rw [List.map_cons, List.sum_cons, ← measured.used, Nat.add_comm]
  solid := by
    rintro c (_ | ⟨_, held⟩)
    · exact asks.pos
    · exact measured.solid c held
  apart := by
    refine .cons (fun s among => ?_) measured.apart
    obtain ⟨c, held, rfl⟩ := List.mem_map.1 among
    exact (provides chunk base obtained).2.2 c held

/-- The chunk that is filled from then on has the rest of its bytes left. -/
theorem Measured.refill (measured : a.Measured regions) (provides : Provides heap a.chunks)
    {base : Address} {cursor : Cursor} (asks : a.Asks l chunk) (obtained : heap chunk = some base)
    (size : cursor.size.toNat = chunk.size) (used : cursor.used.toNat = l.size) :
    ({ a.pushChunk ⟨base, chunk⟩ l with cursor := some cursor } : Arena).Measured
      (⟨base, l⟩ :: regions) := by
  refine { measured.obtain provides asks obtained with room := ?_ }
  have fits := (chunkLayout?_spec asks.2.1).2
  have before := measured.room
  show a.used + l.size + (cursor.size.toNat - cursor.used.toNat) ≤ a.reserved + chunk.size
  omega

/-- However a request is served, the figures move with it. -/
theorem Measured.served (measured : a.Measured regions) (placed : a.Placed regions)
    (provides : Provides heap a.chunks) {grant : Grant}
    (served : Served (a.asked heap l) a l grant after) :
    after.Measured (⟨grant.address, l⟩ :: regions) := by
  cases served with
  | nowhere empty => exact measured.nowhere empty _
  | bump filled bumped => exact measured.bump placed filled bumped
  | dedicated layout obtained =>
    obtain ⟨asks, obtained⟩ := asked_eq_some obtained
    exact measured.obtain provides asks obtained
  | fresh layout obtained start size used =>
    obtain ⟨asks, obtained⟩ := asked_eq_some obtained
    exact measured.refill provides asks obtained size used

/-- The figures of an arena are right at all times. -/
theorem Handed.measures (h : a.Handed regions) : a.Measured regions := by
  induction h with
  | made id name config => exact .of_empty rfl rfl rfl rfl
  | granted before provides answer measured =>
    rw [← allocate_asked] at answer
    obtain ⟨served, rfl, how⟩ := allocate_ok provides.asked.supplies answer
    exact { measured.served before.places provides how with }
  | refused before provides answer measured =>
    rw [allocate_error provides.supplies answer]
    exact measured
  | deallocated before measured => exact { measured with }
  | retired before measured => exact { measured with }
  | destructorsTaken before measured => exact { measured with }
  | chunksReturned before measured => exact .of_empty rfl rfl rfl rfl
  | writtenOff leaked before measured => exact { measured with }

theorem chunkBytes_eq (a : Arena) :
    a.chunkBytes = ((a.chunks.map Chunk.region).map (·.layout.size)).sum := by
  unfold chunkBytes
  induction a.chunks with
  | nil => rfl
  | cons c rest ih =>
    rw [List.foldr_cons, ih]
    rfl

/-- What an arena holds is less than the address space. -/
theorem Measured.reserved_lt (measured : a.Measured regions) (placed : a.Placed regions) :
    a.reserved < Word.sizeLimit := by
  rw [measured.reserved, chunkBytes_eq]
  refine Region.sum_size_lt measured.apart fun r among => ?_
  obtain ⟨c, held, rfl⟩ := List.mem_map.1 among
  exact placed.addressable c held

/-- No sum that an arena computes carries, whatever is asked for. -/
theorem Handed.sums (h : a.Handed regions) (provides : Provides heap a.chunks) (l : Layout) :
    a.Sums heap l := by
  have placed := h.places
  have measured := h.measures
  have small := measured.reserved_lt placed
  have size := l.size_le
  have room := measured.room
  constructor
  case cursor =>
    intro cursor filled
    have fills := placed.cursor cursor filled
    obtain ⟨c, held, base, size⟩ := fills.chunk
    obtain ⟨some, ending⟩ := placed.addressable c held
    apply Cursor.sums fills.used
    · rw [base]
      exact some
    · rw [base, size]
      exact ending
  case used =>
    unfold Word.modulus
    unfold Word.sizeLimit at small size
    omega
  case reserved =>
    intro chunk layout
    have size := chunk.size_le
    unfold Word.modulus
    unfold Word.sizeLimit at small size
    omega
  case fresh =>
    intro chunk base layout obtained
    obtain ⟨-, ⟨some, ending⟩, -⟩ := provides chunk base obtained
    apply Cursor.sums
    · exact Nat.zero_le _
    · exact some
    · show base.toNat + (UInt64.ofNat chunk.size).toNat ≤ Word.sizeLimit
      rw [Word.toNat_ofNat_of_le chunk.size_le]
      exact ending

/-- Whatever an arena's configuration and whatever it was asked for, its figures are right, and when
it serves the next request it computes no sum that carries and asks the heap for no empty chunk. -/
theorem Handed.accounted (h : a.Handed regions) :
    a.Figures regions ∧
      ∀ heap l, Provides heap a.chunks → a.Sums heap l ∧
        ∀ other d, (∀ chunk, 0 < chunk.size → heap chunk = other chunk) →
          a.allocate heap l d = a.allocate other l d := by
  have placed := h.places
  have measured := h.measures
  constructor
  · constructor
    case reserved => exact measured.reserved
    case capped => exact measured.capped
    case within => exact Nat.le_trans (Nat.le_add_right _ _) measured.room
    case used => exact measured.used
    case solid => exact measured.solid
    case cursor =>
      intro cursor filled
      have fills := placed.cursor cursor filled
      exact ⟨fills.chunk, UInt64.le_iff_toNat_le.2 fills.used⟩
  · intro heap l provides
    refine ⟨h.sums provides l, fun other d same => ?_⟩
    exact allocate_congr fun chunk asks => same chunk asks.pos

/-- Chunks of 7 bytes, and 40 bytes at most: a chunk serves 3 bytes and, behind a gap, 2 bytes; no
bytes come from nowhere; 30 bytes have a chunk to themselves; 3 bytes more would take a third
chunk, which is too much although the heap has one, and one of no bytes as well. -/
theorem accounted_oddChunks :
    ∃ a : Arena, ∃ regions : List Region, a.Handed regions ∧
      a.config = { chunkSize := 7, maxSize := 40 } ∧
      regions.map (·.layout.size) = [30, 2, 0, 3] ∧ a.chunks.map (·.layout.size) = [30, 7] ∧
      a.Figures regions ∧
      ∃ heap other l, Provides heap a.chunks ∧ a.Sums heap l ∧ other (.small 0 4) = some 16 ∧
        a.allocate heap l none = a.allocate other l none := by
  have made := Handed.made 0 "arena-0" { chunkSize := 7, maxSize := 40 }
  have first := made.grant (.small 3 0) none ⟨4112, .freshChunk⟩
    (provides_oneChunk (c := ⟨4112, .small 7 4⟩) (by decide) (by decide) (by decide)) rfl
  have second := first.grant (.small 0 5) none ⟨32, .nowhere⟩
    (provides_oneChunk (c := ⟨128, .small 7 4⟩) (by decide) (by decide) (by decide)) rfl
  have third := second.grant (.small 2 1) none ⟨4116, .bump⟩
    (provides_oneChunk (c := ⟨128, .small 7 4⟩) (by decide) (by decide) (by decide)) rfl
  have fourth := third.grant (.small 30 4) (some ⟨0, 0⟩) ⟨8192, .dedicatedChunk⟩
    (provides_oneChunk (c := ⟨8192, .small 30 4⟩) (by decide) (by decide) (by decide)) rfl
  have provides : Provides (oneChunk ⟨128, .small 7 4⟩)
      [⟨8192, .small 30 4⟩, ⟨4112, .small 7 4⟩] :=
    provides_oneChunk (by decide) (by decide) (by decide)
  have fifth := Handed.refused (l := .small 3 0) (d := none) (e := .ofLayout (.small 3 0)) fourth
    provides rfl
  obtain ⟨figures, requests⟩ := fifth.accounted
  obtain ⟨sums, solid⟩ := requests _ (.small 3 0) provides
  let other : Layout → Option Address := fun chunk =>
    if chunk.size = 0 then some 16 else oneChunk ⟨128, .small 7 4⟩ chunk
  exact ⟨_, _, fifth, rfl, rfl, rfl, figures, _, other, _, provides, sums, rfl,
    solid other none fun chunk some => (if_neg (Nat.ne_of_gt some)).symm⟩

end Arena

end Custody
