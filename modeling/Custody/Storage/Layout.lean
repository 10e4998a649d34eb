import Custody.Word

/-!
# Layouts

A layout is a size and an alignment that storage can have: the alignment is a power of two, and
the size, rounded up to the alignment, is at most `2 ^ 63 - 1`. `Layout.ofSize?` accepts exactly
the numbers that make one.

`Layout.block?` is the layout of a control block followed by a value: a header of 88 bytes
aligned to 8, then the value at the first offset behind the header that its alignment allows,
the whole rounded up to the greater of the two alignments.
-/

namespace Custody

/-- The least multiple of `align` that is at least `n`. -/
def roundUp (n align : Nat) : Nat := (n + (align - 1)) / align * align

theorem dvd_roundUp (n align : Nat) : align ∣ roundUp n align := ⟨_, Nat.mul_comm _ _⟩

theorem le_roundUp {n align : Nat} (pos : 0 < align) : n ≤ roundUp n align := by
  unfold roundUp
  have h := Nat.div_add_mod (n + (align - 1)) align
  have l := Nat.mod_lt (n + (align - 1)) pos
  rw [Nat.mul_comm] at h
  omega

theorem roundUp_lt {n align : Nat} (pos : 0 < align) : roundUp n align < n + align := by
  unfold roundUp
  have h := Nat.div_mul_le_self (n + (align - 1)) align
  omega

/-- Rounding up finds the least multiple. -/
theorem roundUp_le {n align m : Nat} (pos : 0 < align) (multiple : align ∣ m) (le : n ≤ m) :
    roundUp n align ≤ m := by
  obtain ⟨k, rfl⟩ := multiple
  unfold roundUp
  rw [Nat.mul_comm align k]
  apply Nat.mul_le_mul_right
  apply Nat.le_of_lt_succ
  rw [Nat.div_lt_iff_lt_mul pos, Nat.succ_mul, Nat.mul_comm k align]
  omega

/-- A size and an alignment that storage can have. -/
structure Layout where
  /-- The number of bytes. -/
  size : Nat
  /-- The number that the address is a multiple of. -/
  align : Nat
  /-- Alignments are powers of two. -/
  alignPower : align.isPowerOfTwo
  /-- Rounded up to the alignment, the size is still a legal size. -/
  sizeBound : size + align ≤ Word.sizeLimit
  deriving DecidableEq

namespace Layout

theorem align_pos (l : Layout) : 0 < l.align := by
  obtain ⟨k, h⟩ := l.alignPower
  rw [h]
  exact Nat.two_pow_pos k

/-- The layout of a size and an alignment, if they make one. -/
def ofSize? (size align : Nat) : Option Layout :=
  if h : isPowerOfTwo align = true ∧ size + align ≤ Word.sizeLimit then
    some ⟨size, align, isPowerOfTwo_iff.1 h.1, h.2⟩
  else none

theorem ofSize?_eq_some_iff {size align : Nat} {l : Layout} :
    ofSize? size align = some l ↔ l.size = size ∧ l.align = align := by
  unfold ofSize?
  constructor
  · intro h
    split at h
    · cases h
      exact ⟨rfl, rfl⟩
    · cases h
  · rintro ⟨rfl, rfl⟩
    rw [dif_pos ⟨isPowerOfTwo_iff.2 l.alignPower, l.sizeBound⟩]

theorem ofSize?_eq_none_iff {size align : Nat} :
    ofSize? size align = none ↔ ¬(align.isPowerOfTwo ∧ size + align ≤ Word.sizeLimit) := by
  rw [← isPowerOfTwo_iff]
  unfold ofSize?
  split
  · exact ⟨nofun, fun refused => absurd ‹_› refused⟩
  · exact ⟨fun _ => ‹_›, fun _ => rfl⟩

/-- The small layout of a size and an alignment that is given as an exponent of two, which
counts modulo 16. -/
def small (size exponent : UInt16) : Layout where
  size := size.toNat
  align := 1 <<< (exponent.toNat % 16)
  alignPower := ⟨exponent.toNat % 16, Nat.one_shiftLeft _⟩
  sizeBound := by
    have := size.toNat_lt
    have := Nat.pow_le_pow_right (by decide : 0 < 2)
      (Nat.le_of_lt (Nat.mod_lt exponent.toNat (by decide : 0 < 16)))
    rw [Nat.one_shiftLeft]
    unfold Word.sizeLimit
    omega

instance : Inhabited Layout := ⟨.small 0 0⟩

/-- The alignment as an exponent of two. -/
def alignExponent (l : Layout) : Nat := l.align.log2

/-- The layout of the header in front of a managed value. -/
def header : Layout := .small 88 3

/-- The greater of two alignments is an alignment. -/
theorem max_align_power (a b : Layout) : (max a.align b.align).isPowerOfTwo := by
  rcases Nat.le_total a.align b.align with h | h
  · rw [Nat.max_eq_right h]
    exact b.alignPower
  · rw [Nat.max_eq_left h]
    exact a.alignPower

/-- A power of two that is no greater than another divides it. -/
theorem dvd_of_isPowerOfTwo {a b : Nat} (powerA : a.isPowerOfTwo) (powerB : b.isPowerOfTwo)
    (le : a ≤ b) : a ∣ b := by
  obtain ⟨j, rfl⟩ := powerA
  obtain ⟨k, rfl⟩ := powerB
  exact Nat.pow_dvd_pow 2 ((Nat.pow_le_pow_iff_right (by decide)).1 le)

/-- A length that leaves room for the alignment still does when it is rounded up. -/
theorem roundUp_add_le {length align : Nat} (power : align.isPowerOfTwo)
    (bound : length + align ≤ Word.sizeLimit) :
    roundUp length align + align ≤ Word.sizeLimit := by
  have pos : 0 < align := Nat.pos_of_isPowerOfTwo power
  have multiple : align ∣ Word.sizeLimit - align :=
    Nat.dvd_sub (dvd_of_isPowerOfTwo power ⟨63, rfl⟩ (by omega)) (Nat.dvd_refl _)
  have := roundUp_le pos multiple (by omega : length ≤ Word.sizeLimit - align)
  omega

/-- The offset of a value behind the header. -/
def valueOffset (value : Layout) : Nat := roundUp header.size value.align

/-- The layout of a header followed by a value, if the two fit one allocation. -/
def block? (value : Layout) : Option Layout :=
  let align := max header.align value.align
  let length := valueOffset value + value.size
  if h : length + align ≤ Word.sizeLimit then
    some ⟨roundUp length align, align, max_align_power header value,
      roundUp_add_le (max_align_power header value) h⟩
  else none

theorem block?_eq_none_iff {value : Layout} :
    block? value = none ↔
      Word.sizeLimit - max 8 value.align < roundUp 88 value.align + value.size := by
  have small : max 8 value.align ≤ Word.sizeLimit := by
    have := value.sizeBound
    unfold Word.sizeLimit at *
    omega
  constructor
  · intro none
    refine Nat.lt_of_not_le fun le => ?_
    have fits : valueOffset value + value.size + max header.align value.align ≤
        Word.sizeLimit := by
      show roundUp 88 value.align + value.size + max 8 value.align ≤ Word.sizeLimit
      omega
    rw [block?, dif_pos fits] at none
    cases none
  · intro tooLarge
    refine dif_neg ?_
    show ¬roundUp 88 value.align + value.size + max 8 value.align ≤ Word.sizeLimit
    omega

end Layout

end Custody
