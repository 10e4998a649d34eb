import Custody.Word

/-!
# Extents

An extent is a range of addresses: where an object begins and how many bytes it has.
`Extent.contains` says whether one object lies inside another. The end of a range may not carry
past the greatest word, and the inner object has to begin strictly before the end of the outer
one, so that an object of no bytes behind the last byte is not inside.
-/

namespace Custody

/-- A range of addresses. -/
structure Extent where
  /-- Where it begins. -/
  start : Address
  /-- How many bytes it has. -/
  size : Word
  deriving DecidableEq, Inhabited

namespace Extent

/-- The first address behind a range, if it fits a word. -/
def stop? (e : Extent) : Option Address := Word.checkedAdd e.start e.size

/-- Whether an inner range lies inside an outer one. -/
def contains (outer inner : Extent) : Bool :=
  match outer.stop?, inner.stop? with
  | some stop, some last => outer.start ≤ inner.start && inner.start < stop && last ≤ stop
  | _, _ => false

end Extent

end Custody
