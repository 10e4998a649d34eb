import Custody.Storage.Layout

/-!
# The bump cursor

An arena fills one chunk at a time from its start. The cursor into that chunk knows where the
chunk begins, how long it is and how much of it is used. `Cursor.bump` carves the next
allocation out of the rest: it rounds the next free address up to the alignment by masking off
low bits, and gives up if the address or the end would not fit a word, or if the end would lie
behind the chunk. The arithmetic is that of words; the sums that are not checked are the ones
that cannot carry while the chunk lies below `2 ^ 63`.
-/

namespace Custody

/-- A place inside the chunk that is being filled. -/
structure Cursor where
  /-- Where the chunk begins. -/
  base : Address
  /-- How long the chunk is. -/
  size : Word
  /-- How many bytes from the start are used, gaps included. -/
  used : Word
  deriving DecidableEq, Inhabited

namespace Cursor

/-- The first address that is not used. -/
def next (c : Cursor) : Address := c.base + c.used

/-- The least address from `start` on that has zeros where `low` has ones, if it fits a word. -/
def alignUp? (start : Address) (low : Word) : Option Address :=
  (Word.checkedAdd start low).map fun top => top &&& ~~~low

/-- The address of the next allocation of a layout and the cursor behind it, if it fits. -/
def bump (c : Cursor) (l : Layout) : Option (Address × Cursor) := do
  let aligned ← alignUp? c.next (UInt64.ofNat l.align - 1)
  let offset := c.used + (aligned - c.next)
  let stop ← Word.checkedAdd offset (UInt64.ofNat l.size)
  if stop ≤ c.size then some (c.base + offset, { c with used := stop }) else none

end Cursor

end Custody
