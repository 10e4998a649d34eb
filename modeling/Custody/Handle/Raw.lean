import Custody.Handle.Qualifier
import Custody.Text.Hex
import Custody.Word

/-!
# Raw pointers

A raw pointer is an address and nothing else: it owns nothing, checks nothing and may dangle.
The zero address makes the null pointer. Two raw pointers are equal when their addresses are.
-/

namespace Custody

/-- An unchecked pointer. -/
structure RawPointer where
  /-- Where it points, unless it is null. -/
  target : Option Address
  deriving DecidableEq, Inhabited

namespace RawPointer

/-- The pointer to nowhere. -/
def null : RawPointer := ⟨none⟩

/-- The pointer to an address. -/
def ofAddress (a : Address) : RawPointer := if a = 0 then null else ⟨some a⟩

/-- Whether a pointer is null. -/
def isNull (p : RawPointer) : Bool := p.target.isNone

/-- The address of a pointer. -/
def address (p : RawPointer) : Address := p.target.getD 0

/-- The qualifier of raw pointers. -/
def qualifier (_ : RawPointer) : Qualifier := .raw

/-- How a pointer is shown. -/
def shown (p : RawPointer) : String :=
  "Raw(0x" ++ String.ofList (Text.Hex.digits p.address.toNat) ++ ")"

theorem isNull_ofAddress (a : Address) : (ofAddress a).isNull = (a == 0) := by
  unfold ofAddress
  split
  next h => simp [isNull, null, h]
  next h => simp [isNull, h]

end RawPointer

end Custody
