import Custody.Proofs.Chunks
import Mathlib.Order.Bounds.Defs

/-!
# What the cursor carves

The cursor rounds an address up by masking off low bits, and reaches offsets and addresses through
sums and differences of words of which only two are checked. As long as its chunk lies below
`2 ^ 63`, all of these are sums and differences of numbers, for alignments up to `2 ^ 63`
(`Cursor.Exact`): the sum that is masked may pass `2 ^ 63`, but still fits a word. The check of the
end of an allocation may find a carry, and an end that does not fit a word does not fit the chunk
either. So the cursor carves out the least aligned address behind what is used, if and only if the
allocation then ends in the chunk: `Cursor.bump_exact`.
-/

namespace Custody

/-- Rounding up finds the least multiple that is not below. -/
theorem roundUp_isLeast {align : Nat} (pos : 0 < align) (n : Nat) :
    IsLeast {m | n ≤ m ∧ align ∣ m} (roundUp n align) := by
  refine ⟨⟨le_roundUp pos, dvd_roundUp n align⟩, ?_⟩
  rintro m ⟨above, multiple⟩
  exact roundUp_le pos multiple above

namespace Cursor

/-- The sums and differences of words that the cursor takes to carve out something aligned, and
does not check, are those of numbers; and so is the sum that it checks for the mask. -/
structure Exact (c : Cursor) (align : Nat) : Prop where
  /-- The mask has the bits below the alignment. -/
  mask : (UInt64.ofNat align - 1).toNat + 1 = align
  /-- What is used ends at an address. -/
  next : c.next.toNat = c.base.toNat + c.used.toNat
  /-- Rounding up gives an address, from which every other number is reached. -/
  rounds : ∃ aligned, alignUp? c.next (UInt64.ofNat align - 1) = some aligned ∧
    aligned.toNat = roundUp (c.base.toNat + c.used.toNat) align ∧
    (aligned - c.next).toNat + c.next.toNat = aligned.toNat ∧
    (c.used + (aligned - c.next)).toNat = c.used.toNat + (aligned - c.next).toNat ∧
    (c.base + (c.used + (aligned - c.next))).toNat =
      c.base.toNat + (c.used + (aligned - c.next)).toNat

variable {c : Cursor} {l : Layout}

/-- The first address that is not used lies below `2 ^ 63`, or at it. -/
theorem toNat_next (low : c.base.toNat + c.size.toNat ≤ Word.sizeLimit)
    (filled : c.used.toNat ≤ c.size.toNat) : c.next.toNat = c.base.toNat + c.used.toNat := by
  unfold next
  unfold Word.sizeLimit at low
  rw [UInt64.toNat_add]
  apply Nat.mod_eq_of_lt
  omega

/-- An address in the lower half of the words can be rounded up to any alignment. -/
theorem exists_alignUp? {start : Address} (low : start.toNat ≤ Word.sizeLimit) (l : Layout) :
    ∃ aligned, alignUp? start (UInt64.ofNat l.align - 1) = some aligned := by
  apply Option.ne_none_iff_exists'.1
  intro carried
  have carried := Word.checkedAdd_eq_none.1 (Option.map_eq_none_iff.1 carried)
  have align := l.align_le
  have pos := l.align_pos
  rw [toNat_low] at carried
  unfold Word.sizeLimit at low align
  unfold Word.modulus at carried
  omega

/-- In a chunk that lies in the lower half of the words the cursor computes as numbers do. -/
theorem exact_of_layout (low : c.base.toNat + c.size.toNat ≤ Word.sizeLimit)
    (filled : c.used.toNat ≤ c.size.toNat) (l : Layout) : c.Exact l.align := by
  have next := toNat_next low filled
  have pos := l.align_pos
  have half : c.next.toNat ≤ Word.sizeLimit := by omega
  obtain ⟨aligned, rounded⟩ := exists_alignUp? half l
  obtain ⟨address, -⟩ := toNat_of_alignUp? rounded
  have above : c.next.toNat ≤ aligned.toNat := address ▸ le_roundUp pos
  have bound := aligned.toNat_lt
  have pad : (aligned - c.next).toNat + c.next.toNat = aligned.toNat := by
    rw [UInt64.toNat_sub_of_le _ _ (UInt64.le_iff_toNat_le.2 above)]
    exact Nat.sub_add_cancel above
  have offset : (c.used + (aligned - c.next)).toNat = c.used.toNat + (aligned - c.next).toNat := by
    rw [UInt64.toNat_add]
    apply Nat.mod_eq_of_lt
    omega
  refine ⟨?_, next, aligned, rounded, next ▸ address, pad, offset, ?_⟩
  · rw [toNat_low]
    exact Nat.sub_add_cancel pos
  · rw [UInt64.toNat_add]
    apply Nat.mod_eq_of_lt
    omega

/-- No alignment up to `2 ^ 63` makes the cursor's arithmetic wrap. -/
theorem exact_of_power (low : c.base.toNat + c.size.toNat ≤ Word.sizeLimit)
    (filled : c.used.toNat ≤ c.size.toNat) {align : Nat} (power : align.isPowerOfTwo)
    (le : align ≤ Word.sizeLimit) : c.Exact align :=
  exact_of_layout low filled ⟨0, align, power, by simpa using le⟩

/-- Nothing is carved exactly if the aligned allocation would end behind the chunk. -/
theorem bump_eq_none_iff (low : c.base.toNat + c.size.toNat ≤ Word.sizeLimit)
    (filled : c.used.toNat ≤ c.size.toNat) :
    c.bump l = none ↔ c.base.toNat + c.size.toNat <
      roundUp (c.base.toNat + c.used.toNat) l.align + l.size := by
  obtain ⟨-, next, aligned, rounded, address, pad, offset, -⟩ := exact_of_layout low filled l
  have size : (UInt64.ofNat l.size).toNat = l.size := Word.toNat_ofNat_of_le l.size_le
  -- What is compared is the offset of the end, from the start of the chunk.
  unfold bump
  simp only [rounded, Option.bind_eq_bind, Option.bind_some]
  cases ends : Word.checkedAdd (c.used + (aligned - c.next)) (UInt64.ofNat l.size) with
  | none =>
    have carried := Word.checkedAdd_eq_none.1 ends
    unfold Word.sizeLimit at low
    unfold Word.modulus at carried
    simp only [Option.bind_none, true_iff]
    omega
  | some stop =>
    have sum := Word.checkedAdd_eq_some.1 ends
    simp only [Option.bind_some, ite_eq_right_iff, reduceCtorEq, imp_false, UInt64.not_le,
      UInt64.lt_iff_toNat_lt]
    omega

/-- Rounding up finds the least address behind what is used that is aligned. -/
theorem isLeast_roundUp (c : Cursor) (l : Layout) :
    IsLeast {a | c.base.toNat + c.used.toNat ≤ a ∧ l.align ∣ a}
      (roundUp (c.base.toNat + c.used.toNat) l.align) :=
  roundUp_isLeast l.align_pos _

/-- Of a chunk below `2 ^ 63`, the cursor carves out the least aligned address behind what is used
if the allocation then ends in the chunk, and uses what lies before its end. Otherwise nothing is
carved, and an arena goes on with the cursor as it was. No sum or difference on the way wraps, for
any alignment up to `2 ^ 63`. -/
theorem bump_exact (c : Cursor) (low : c.base.toNat + c.size.toNat ≤ Word.sizeLimit)
    (filled : c.used.toNat ≤ c.size.toNat) :
    (∀ align, align.isPowerOfTwo → align ≤ Word.sizeLimit → c.Exact align) ∧
      ∀ l : Layout, ∃ first, IsLeast {a | c.base.toNat + c.used.toNat ≤ a ∧ l.align ∣ a} first ∧
        (first + l.size ≤ c.base.toNat + c.size.toNat →
          ∃ address stop, c.bump l = some (address, { c with used := stop }) ∧
            address.toNat = first ∧ c.base.toNat + stop.toNat = first + l.size ∧
            stop.toNat ≤ c.size.toNat) ∧
        (c.base.toNat + c.size.toNat < first + l.size →
          c.bump l = none ∧ ∀ (heap : Layout → Option Address) (a : Arena), a.cursor = some c →
            a.reserve heap l = a.reserveChunk heap l) := by
  refine ⟨fun align power le => exact_of_power low filled power le, fun l => ?_⟩
  refine ⟨_, isLeast_roundUp c l, fun fits => ?_, fun passes => ?_⟩
  · have carved : c.bump l ≠ none := by
      rw [Ne, bump_eq_none_iff low filled]
      omega
    obtain ⟨⟨address, ⟨base, size, stop⟩⟩, bumped⟩ := Option.ne_none_iff_exists'.1 carved
    obtain ⟨rfl, rfl⟩ := bump_after bumped
    unfold Word.sizeLimit at low
    obtain ⟨first, ends, inside⟩ := bump_spec bumped filled (by unfold Word.modulus; omega)
    exact ⟨address, stop, bumped, first, by rw [← ends, first], inside⟩
  · have nothing := (bump_eq_none_iff low filled).2 passes
    refine ⟨nothing, fun heap a current => ?_⟩
    unfold Arena.reserve
    rw [current, Option.bind_some, nothing]

/-- The last page below `2 ^ 63`, of which one byte is used: 64 bytes are aligned to 64 inside it,
while the next multiple of `2 ^ 62` is where it ends. -/
theorem bump_exact_lastPage :
    let c : Cursor := ⟨9223372036854771712, 4096, 1⟩
    let near : Layout := ⟨64, 64, ⟨6, rfl⟩, by decide⟩
    let far : Layout := ⟨8, 4611686018427387904, ⟨62, rfl⟩, by decide⟩
    c.base.toNat + c.size.toNat ≤ Word.sizeLimit ∧ c.used.toNat ≤ c.size.toNat ∧
      c.Exact Word.sizeLimit ∧
      c.bump near = some (9223372036854771776, { c with used := 128 }) ∧ c.bump far = none ∧
      ∃ first, IsLeast {a | c.base.toNat + c.used.toNat ≤ a ∧ far.align ∣ a} first ∧
        c.base.toNat + c.size.toNat < first + far.size := by
  intro c near far
  have low : c.base.toNat + c.size.toNat ≤ Word.sizeLimit := by decide
  have filled : c.used.toNat ≤ c.size.toNat := by decide
  obtain ⟨exact, carves⟩ := bump_exact c low filled
  obtain ⟨first, least, fits, -⟩ := carves far
  refine ⟨low, filled, exact _ ⟨63, rfl⟩ (Nat.le_refl _), by decide, by decide, first, least, ?_⟩
  apply Nat.lt_of_not_le
  intro inside
  obtain ⟨address, stop, bumped, -⟩ := fits inside
  have nothing : c.bump far = none := by decide
  rw [nothing] at bumped
  cases bumped

end Cursor

end Custody
