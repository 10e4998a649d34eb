import Custody.Storage.Allocator
import Custody.Storage.Heap

/-!
# Where storage lies

The arithmetic of arenas. Whatever the cursor carves out lies inside the chunk that it fills
(`Cursor.bump_within`), and from a chunk that was just obtained it carves the very start
(`Cursor.bump_start`), since the heap aligns chunks to what was asked for. So an arena that
obtains a chunk serves the request from its start, and one that refuses a request is as it was:
`Arena.allocate_ok` and `Arena.allocate_error` say all that a request can do to an arena.
-/

namespace Custody

/-! ## Words -/

namespace Word

/-- Clearing some bits of a word and keeping just them are two parts of it. -/
theorem toNat_clear_add_keep (w mask : Word) :
    (w &&& ~~~mask).toNat + (w &&& mask).toNat = w.toNat := by
  have apart : (w.toBitVec &&& ~~~mask.toBitVec) &&& (w.toBitVec &&& mask.toBitVec) = 0#64 := by
    ext i
    cases h : mask.toBitVec[i] <;> simp [h]
  have together : (w.toBitVec &&& ~~~mask.toBitVec) ||| (w.toBitVec &&& mask.toBitVec) =
      w.toBitVec := by
    ext i
    cases h : mask.toBitVec[i] <;> simp [h]
  have sum := BitVec.toNat_add_of_and_eq_zero apart
  rw [BitVec.add_eq_or_of_and_eq_zero _ _ apart, together] at sum
  exact sum.symm

theorem toNat_ofNat_of_le {n : Nat} (h : n ≤ sizeLimit) : (UInt64.ofNat n).toNat = n := by
  unfold sizeLimit at h
  exact UInt64.toNat_ofNat_of_lt' (by unfold UInt64.size; omega)

end Word

namespace Layout

theorem size_le (l : Layout) : l.size ≤ Word.sizeLimit := by
  have := l.sizeBound
  omega

theorem align_le (l : Layout) : l.align ≤ Word.sizeLimit := by
  have := l.sizeBound
  omega

end Layout

/-! ## The cursor -/

namespace Cursor

/-- The mask of an alignment is one less than it. -/
theorem toNat_low (l : Layout) : (UInt64.ofNat l.align - 1).toNat = l.align - 1 := by
  have align : (UInt64.ofNat l.align).toNat = l.align := Word.toNat_ofNat_of_le l.align_le
  rw [UInt64.toNat_sub_of_le _ _ ?_, align]
  · rfl
  · rw [UInt64.le_iff_toNat_le, align]
    exact l.align_pos

/-- To align an address is to round it up. -/
theorem toNat_of_alignUp? {start aligned : Address} {l : Layout}
    (h : alignUp? start (UInt64.ofNat l.align - 1) = some aligned) :
    aligned.toNat = roundUp start.toNat l.align ∧
      start.toNat + (l.align - 1) < Word.modulus := by
  obtain ⟨top, sum, masked⟩ := Option.map_eq_some_iff.1 h
  have sum := Word.checkedAdd_eq_some.1 sum
  rw [toNat_low] at sum
  have parts := Word.toNat_clear_add_keep top (UInt64.ofNat l.align - 1)
  rw [masked] at parts
  have kept : (top &&& (UInt64.ofNat l.align - 1)).toNat = top.toNat % l.align := by
    obtain ⟨k, power⟩ := l.alignPower
    rw [UInt64.toNat_and, toNat_low, power, Nat.and_two_pow_sub_one_eq_mod]
  have split := Nat.div_add_mod top.toNat l.align
  have bound := top.toNat_lt
  constructor
  · unfold roundUp
    rw [sum, Nat.mul_comm]
    omega
  · unfold Word.modulus
    omega

/-- An address that is a multiple of the alignment is not moved by aligning. -/
theorem alignUp?_of_dvd {start : Address} {l : Layout} (aligned : l.align ∣ start.toNat)
    (room : start.toNat + l.align ≤ Word.modulus) :
    alignUp? start (UInt64.ofNat l.align - 1) = some start := by
  have pos := l.align_pos
  cases moved : alignUp? start (UInt64.ofNat l.align - 1) with
  | none =>
    have carried := Word.checkedAdd_eq_none.1 (Option.map_eq_none_iff.1 moved)
    rw [toNat_low] at carried
    omega
  | some address =>
    have least := roundUp_le pos aligned (Nat.le_refl _)
    have above : start.toNat ≤ roundUp start.toNat l.align := le_roundUp pos
    rw [Option.some.injEq, ← UInt64.toNat_inj, (toNat_of_alignUp? moved).1]
    omega

/-- What the cursor computes on the way to something that it carves out. -/
theorem exists_of_bump {c after : Cursor} {l : Layout} {address : Address}
    (h : c.bump l = some (address, after)) :
    ∃ aligned stop, alignUp? c.next (UInt64.ofNat l.align - 1) = some aligned ∧
      (c.used + (aligned - c.next)).toNat + l.size = stop.toNat ∧ stop.toNat ≤ c.size.toNat ∧
      address = c.base + (c.used + (aligned - c.next)) ∧ after = { c with used := stop } := by
  unfold bump at h
  obtain ⟨aligned, moved, h⟩ := Option.bind_eq_some_iff.1 h
  obtain ⟨stop, sum, h⟩ := Option.bind_eq_some_iff.1 h
  have sum := Word.checkedAdd_eq_some.1 sum
  rw [Word.toNat_ofNat_of_le l.size_le] at sum
  by_cases fits : stop ≤ c.size
  · rw [if_pos fits] at h
    cases h
    exact ⟨aligned, stop, moved, sum, UInt64.le_iff_toNat_le.1 fits, rfl, rfl⟩
  · rw [if_neg fits] at h
    cases h

/-- The cursor goes on filling the same chunk. -/
theorem bump_after {c after : Cursor} {l : Layout} {address : Address}
    (h : c.bump l = some (address, after)) : after.base = c.base ∧ after.size = c.size := by
  obtain ⟨aligned, stop, -, -, -, -, rfl⟩ := exists_of_bump h
  exact ⟨rfl, rfl⟩

/-- What the cursor carves out lies inside the chunk that it fills. -/
theorem bump_within {c after : Cursor} {l : Layout} {address : Address}
    (h : c.bump l = some (address, after)) (room : c.base.toNat + c.size.toNat < Word.modulus) :
    c.base.toNat ≤ address.toNat ∧ address.toNat + l.size ≤ c.base.toNat + c.size.toNat := by
  obtain ⟨aligned, stop, -, sum, fits, rfl, -⟩ := exists_of_bump h
  generalize c.used + (aligned - c.next) = offset at sum
  have address : (c.base + offset).toNat = c.base.toNat + offset.toNat := by
    rw [UInt64.toNat_add, Nat.mod_eq_of_lt]
    unfold Word.modulus at room
    omega
  rw [address]
  constructor
  · exact Nat.le_add_right _ _
  · omega

/-- The cursor carves out the first address behind what is used that is aligned, and what lies
before the end of it is used afterwards. -/
theorem bump_spec {c after : Cursor} {l : Layout} {address : Address}
    (h : c.bump l = some (address, after)) (used : c.used.toNat ≤ c.size.toNat)
    (room : c.base.toNat + c.size.toNat < Word.modulus) :
    address.toNat = roundUp (c.base.toNat + c.used.toNat) l.align ∧
      address.toNat + l.size = c.base.toNat + after.used.toNat ∧
      after.used.toNat ≤ c.size.toNat := by
  obtain ⟨aligned, stop, moved, sum, fits, rfl, rfl⟩ := exists_of_bump h
  obtain ⟨rounded, fitting⟩ := toNat_of_alignUp? moved
  have next : c.next.toNat = c.base.toNat + c.used.toNat := by
    unfold next
    rw [UInt64.toNat_add, Nat.mod_eq_of_lt]
    unfold Word.modulus at room
    omega
  rw [next] at rounded fitting
  have above : c.base.toNat + c.used.toNat ≤ aligned.toNat := rounded ▸ le_roundUp l.align_pos
  have pad : (aligned - c.next).toNat = aligned.toNat - (c.base.toNat + c.used.toNat) := by
    rw [UInt64.toNat_sub_of_le _ _ (by rw [UInt64.le_iff_toNat_le, next]; exact above), next]
  have bound := aligned.toNat_lt
  have offset : (c.used + (aligned - c.next)).toNat = aligned.toNat - c.base.toNat := by
    rw [UInt64.toNat_add, pad, Nat.mod_eq_of_lt] <;> omega
  have place : (c.base + (c.used + (aligned - c.next))).toNat = aligned.toNat := by
    rw [UInt64.toNat_add, offset, Nat.mod_eq_of_lt] <;> omega
  refine ⟨place.trans rounded, ?_, fits⟩
  rw [place]
  show aligned.toNat + l.size = c.base.toNat + stop.toNat
  omega

/-- From an aligned start the cursor carves the start itself. -/
theorem bump_start {base : Address} {size : Word} {l : Layout} (aligned : l.align ∣ base.toNat)
    (room : base.toNat + l.align ≤ Word.modulus) (fits : l.size ≤ size.toNat) :
    (⟨base, size, 0⟩ : Cursor).bump l = some (base, ⟨base, size, UInt64.ofNat l.size⟩) := by
  have next : (⟨base, size, 0⟩ : Cursor).next = base := by
    show base + 0 = base
    exact UInt64.add_zero base
  have stop : Word.checkedAdd (0 + (base - base)) (UInt64.ofNat l.size) =
      some (UInt64.ofNat l.size) := by
    rw [UInt64.sub_self, UInt64.add_zero]
    exact Word.checkedAdd_eq_some.2 (Nat.zero_add _)
  have inside : UInt64.ofNat l.size ≤ size := by
    rw [UInt64.le_iff_toNat_le, Word.toNat_ofNat_of_le l.size_le]
    exact fits
  unfold bump
  rw [next, alignUp?_of_dvd aligned room]
  simp only [bind, Option.bind]
  rw [stop]
  dsimp only
  rw [if_pos inside, UInt64.sub_self, UInt64.add_zero, UInt64.add_zero]

end Cursor

/-! ## The heap -/

namespace Heap

/-- What the heap grants lies above all that it granted before, aligned and below its limit. -/
theorem grant?_spec {h : Heap} {l : Layout} {base : Address} (granted : h.grant? l = some base) :
    base.toNat = h.place l ∧ h.top ≤ base.toNat ∧ l.align ∣ base.toNat ∧
      base.toNat + l.size < Word.sizeLimit := by
  unfold grant? at granted
  by_cases fits : ((h.sideFor? l).isSome && decide (h.place l + l.size < Word.sizeLimit)) = true
  · rw [if_pos fits] at granted
    cases granted
    have room : h.place l + l.size < Word.sizeLimit :=
      of_decide_eq_true (Bool.and_eq_true _ _ ▸ fits).2
    have place : (UInt64.ofNat (h.place l)).toNat = h.place l := by
      refine Word.toNat_ofNat_of_le ?_
      omega
    rw [place]
    exact ⟨rfl, le_roundUp l.align_pos, dvd_roundUp _ _, room⟩
  · rw [if_neg fits] at granted
    cases granted

end Heap

/-! ## Arenas -/

namespace Arena

/-- What a source of chunks has to see to: chunks are aligned and end at the limit at the latest. -/
def Supplies (heap : Layout → Option Address) : Prop :=
  ∀ l base, heap l = some base → l.align ∣ base.toNat ∧ base.toNat + l.size ≤ Word.sizeLimit

theorem supplies_grant? (h : Heap) : Supplies h.grant? := fun l _ granted => by
  obtain ⟨-, -, aligned, room⟩ := Heap.grant?_spec granted
  exact ⟨aligned, Nat.le_of_lt room⟩

/-- The layout of a chunk is aligned to more than the request, and has room for it. -/
theorem chunkLayout?_spec {a : Arena} {l chunk : Layout} (h : a.chunkLayout? l = some chunk) :
    l.align ∣ chunk.align ∧ l.size ≤ chunk.size := by
  obtain ⟨size, align⟩ := Layout.ofSize?_eq_some_iff.1 h
  constructor
  · apply Layout.dvd_of_isPowerOfTwo l.alignPower chunk.alignPower
    rw [align]
    exact Nat.le_max_left _ _
  · rw [size]
    by_cases oversized : a.isOversized l = true
    · exact Nat.le_of_eq (if_pos oversized).symm
    · rw [if_neg oversized]
      have small : ¬a.config.chunkSize / 2 < l.size := fun h => oversized (decide_eq_true h)
      omega

/-- How a request is served: from nowhere, from the chunk being filled, or from the start of a
chunk that is obtained for it and that may become the one being filled. -/
inductive Served (heap : Layout → Option Address) (a : Arena) (l : Layout) :
    Grant → Arena → Prop
  | nowhere (empty : l.size = 0) : Served heap a l ⟨dangling l, .nowhere⟩ a
  | bump {cursor after : Cursor} {address : Address} (filled : a.cursor = some cursor)
      (bumped : cursor.bump l = some (address, after)) :
      Served heap a l ⟨address, .bump⟩ { a with cursor := some after, used := a.used + l.size }
  | dedicated {chunk : Layout} {base : Address} (layout : a.chunkLayout? l = some chunk)
      (obtained : heap chunk = some base) :
      Served heap a l ⟨base, .dedicatedChunk⟩ (a.pushChunk ⟨base, chunk⟩ l)
  | fresh {chunk : Layout} {base : Address} {cursor : Cursor}
      (layout : a.chunkLayout? l = some chunk) (obtained : heap chunk = some base)
      (start : cursor.base = base) (size : cursor.size.toNat = chunk.size)
      (used : cursor.used.toNat = l.size) :
      Served heap a l ⟨base, .freshChunk⟩
        { a.pushChunk ⟨base, chunk⟩ l with cursor := some cursor }

variable {heap : Layout → Option Address} {a after : Arena} {l : Layout}

/-- A chunk that was just obtained is carved from its start. -/
theorem bump_cursorInto (supplies : Supplies heap) {chunk : Layout} {base : Address}
    (layout : a.chunkLayout? l = some chunk) (obtained : heap chunk = some base) :
    (cursorInto ⟨base, chunk⟩).bump l =
      some (base, ⟨base, UInt64.ofNat chunk.size, UInt64.ofNat l.size⟩) := by
  obtain ⟨divides, room⟩ := chunkLayout?_spec layout
  obtain ⟨aligned, limit⟩ := supplies chunk base obtained
  have below : base.toNat + l.align ≤ Word.modulus := by
    have := l.align_le
    unfold Word.modulus
    unfold Word.sizeLimit at this limit
    omega
  have fits : l.size ≤ (UInt64.ofNat chunk.size).toNat := by
    rw [Word.toNat_ofNat_of_le chunk.size_le]
    exact room
  exact Cursor.bump_start (Nat.dvd_trans divides aligned) below fits

/-- A chunk that was just obtained serves the request from its start. -/
theorem placeInChunk_served (supplies : Supplies heap) {chunk : Layout} {base : Address}
    (layout : a.chunkLayout? l = some chunk) (obtained : heap chunk = some base) :
    ∃ grant placed, a.placeInChunk ⟨base, chunk⟩ l = (.ok grant, placed) ∧
      Served heap a l grant placed := by
  unfold placeInChunk
  by_cases oversized : a.isOversized l = true
  · rw [if_pos oversized]
    exact ⟨_, _, rfl, .dedicated layout obtained⟩
  · rw [if_neg oversized]
    let cursor : Cursor := ⟨base, UInt64.ofNat chunk.size, UInt64.ofNat l.size⟩
    refine ⟨⟨base, .freshChunk⟩, { a.pushChunk ⟨base, chunk⟩ l with cursor := some cursor }, ?_,
      .fresh layout obtained rfl (Word.toNat_ofNat_of_le chunk.size_le)
        (Word.toNat_ofNat_of_le l.size_le)⟩
    dsimp only
    rw [bump_cursorInto supplies layout obtained]

theorem reserveChunk_served (supplies : Supplies heap) {answer : Except AllocError Grant}
    (h : a.reserveChunk heap l = (answer, after)) :
    (∃ grant, answer = .ok grant ∧ Served heap a l grant after) ∨
      (∃ e, answer = .error e) ∧ after = a := by
  unfold reserveChunk at h
  cases layout : a.chunkLayout? l with
  | none =>
    rw [layout] at h
    cases h
    exact .inr ⟨⟨_, rfl⟩, rfl⟩
  | some chunk =>
    rw [layout] at h
    dsimp only at h
    by_cases full : a.exceedsCapacity chunk = true
    · rw [if_pos full] at h
      cases h
      exact .inr ⟨⟨_, rfl⟩, rfl⟩
    · rw [if_neg full] at h
      cases obtained : heap chunk with
      | none =>
        rw [obtained] at h
        cases h
        exact .inr ⟨⟨_, rfl⟩, rfl⟩
      | some base =>
        rw [obtained] at h
        obtain ⟨grant, placed, granted, served⟩ := placeInChunk_served supplies layout obtained
        dsimp only at h
        rw [granted] at h
        cases h
        exact .inl ⟨grant, rfl, served⟩

theorem reserve_served (supplies : Supplies heap) {answer : Except AllocError Grant}
    (h : a.reserve heap l = (answer, after)) :
    (∃ grant, answer = .ok grant ∧ Served heap a l grant after) ∨
      (∃ e, answer = .error e) ∧ after = a := by
  unfold reserve at h
  cases bumped : a.cursor.bind (·.bump l) with
  | none =>
    rw [bumped] at h
    exact reserveChunk_served supplies h
  | some found =>
    obtain ⟨address, cursor⟩ := found
    rw [bumped] at h
    cases h
    obtain ⟨filled, there, bumped⟩ := Option.bind_eq_some_iff.1 bumped
    exact .inl ⟨_, rfl, .bump there bumped⟩

private theorem decided_served (supplies : Supplies heap) {answer : Except AllocError Grant}
    (h : (if l.size = 0 then (.ok ⟨dangling l, .nowhere⟩, a) else a.reserve heap l) =
      (answer, after)) :
    (∃ grant, answer = .ok grant ∧ Served heap a l grant after) ∨
      (∃ e, answer = .error e) ∧ after = a := by
  by_cases empty : l.size = 0
  · rw [if_pos empty] at h
    cases h
    exact .inl ⟨_, rfl, .nowhere empty⟩
  · rw [if_neg empty] at h
    exact reserve_served supplies h

variable {destructor : Option Destructor}

/-- A request that is satisfied was served in one of four ways, and is on the arena's books. -/
theorem allocate_ok (supplies : Supplies heap) {grant : Grant}
    (h : a.allocate heap l destructor = (.ok grant, after)) :
    ∃ placed, after = placed.book l destructor grant ∧ Served heap a l grant placed := by
  unfold allocate at h
  generalize decided : (if l.size = 0 then _ else _ : Except AllocError Grant × Arena) = d at h
  obtain ⟨answer, placed⟩ := d
  rcases decided_served supplies decided with ⟨grant', rfl, served⟩ | ⟨⟨e, rfl⟩, -⟩
  · cases h
    exact ⟨placed, rfl, served⟩
  · cases h

/-- A request that is refused leaves the arena as it was. -/
theorem allocate_error (supplies : Supplies heap) {e : AllocError}
    (h : a.allocate heap l destructor = (.error e, after)) : after = a := by
  unfold allocate at h
  generalize decided : (if l.size = 0 then _ else _ : Except AllocError Grant × Arena) = d at h
  obtain ⟨answer, placed⟩ := d
  rcases decided_served supplies decided with ⟨grant', rfl, served⟩ | ⟨⟨e', rfl⟩, same⟩
  · cases h
  · cases h
    exact same

end Arena

end Custody
