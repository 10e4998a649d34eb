/-!
# Machine words

Reference counts, allocation counters and addresses are 64-bit words. Addition and
subtraction on `UInt64` wrap at `2 ^ 64`, which is what the counters are meant to do; where a
carry must be noticed instead, `Word.checkedAdd` returns nothing, and where a difference
must stop at zero, `Word.saturatingSub` does. Powers of two, which chunk sizes and alignments
have to be, are recognised by `isPowerOfTwo`.
-/

namespace Custody

/-- A 64-bit machine word. -/
abbrev Word := UInt64

/-- An address is a word; the zero address is null. -/
abbrev Address := UInt64

namespace Word

/-- One more than the greatest word. -/
def modulus : Nat := 18446744073709551616

/-- The greatest word, `2 ^ 64 - 1`. -/
def greatest : Nat := 18446744073709551615

/-- One more than the greatest size that one object may have, `2 ^ 63`. -/
def sizeLimit : Nat := 9223372036854775808

/-- The sum of two words, or nothing when it does not fit one. -/
def checkedAdd (a b : Word) : Option Word :=
  if a.toNat + b.toNat < modulus then some (a + b) else none

/-- The difference of two words, stopping at zero. -/
def saturatingSub (a b : Word) : Word :=
  if b ≤ a then a - b else 0

theorem checkedAdd_eq_some {a b c : Word} :
    checkedAdd a b = some c ↔ a.toNat + b.toNat = c.toNat := by
  unfold checkedAdd modulus
  have hc := c.toNat_lt
  constructor
  · intro h
    split at h
    · cases h
      rw [UInt64.toNat_add]
      omega
    · cases h
  · intro h
    rw [if_pos (by omega), Option.some.injEq, ← UInt64.toNat_inj, UInt64.toNat_add]
    omega

theorem checkedAdd_eq_none {a b : Word} :
    checkedAdd a b = none ↔ modulus ≤ a.toNat + b.toNat := by
  unfold checkedAdd
  split <;> simp <;> omega

/-- A counter that wraps is raised by no more than one. -/
theorem toNat_succ_le (w : Word) : (w + 1).toNat ≤ w.toNat + 1 := by
  rw [UInt64.toNat_add]
  exact Nat.mod_le _ _

/-- Subtraction that stops at zero is subtraction of natural numbers. -/
theorem toNat_saturatingSub (a b : Word) :
    (saturatingSub a b).toNat = a.toNat - b.toNat := by
  unfold saturatingSub
  split
  next h => exact UInt64.toNat_sub_of_le _ _ h
  next h =>
    have : a.toNat < b.toNat := by
      simpa [UInt64.le_iff_toNat_le] using h
    simp
    omega

end Word

/-- Whether a number is a power of two: one, shifted to its highest digit, is all of it. -/
def isPowerOfTwo (n : Nat) : Bool := 1 <<< n.log2 == n

theorem isPowerOfTwo_iff {n : Nat} : isPowerOfTwo n = true ↔ n.isPowerOfTwo := by
  unfold isPowerOfTwo
  rw [beq_iff_eq, Nat.one_shiftLeft]
  constructor
  · exact fun h => ⟨n.log2, h.symm⟩
  · rintro ⟨k, rfl⟩
    rw [Nat.log2_two_pow]

end Custody
