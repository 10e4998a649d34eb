import Custody.Handle.Extent
import Custody.Handle.Share

/-!
# Narrowing handles

A strong or a local handle may be narrowed to a part of its value. The narrowed handle keeps
the whole value alive, counts like any other, and only points somewhere else. `narrow` checks
that the part lies inside the value that the handle points at, and gives an empty handle if it
does not; `narrowTo` takes any place there is.
-/

namespace Custody

/-- The extent of a value of some type at an address. -/
def Kind.extentAt (k : Kind) (a : Address) : Extent := ⟨a, UInt64.ofNat k.layout.size⟩

namespace Machine

/-- A handle that keeps the same value alive and points at a place. -/
def narrowTo (h : Handle) (kind : Kind) (target : Option Place) : Run Machine Handle := do
  match h.link, target with
  | some _, some place =>
    acquire h
    return h.narrowed kind place
  | _, _ => return .empty h.ownership kind

/-- Whether a value of some type at a place lies inside the value of a handle. -/
def surrounds (h : Handle) (kind : Kind) (place : Place) (m : Memory) : Bool :=
  match h.target?.bind m.address?, m.address? place with
  | some outer, some inner => (h.kind.extentAt outer).contains (kind.extentAt inner)
  | _, _ => false

/-- A handle that keeps the same value alive and points at a part of what the handle points at;
an empty handle if it is no part. -/
def narrow (h : Handle) (kind : Kind) (place : Place) : Run Machine Handle := do
  if surrounds h kind place (← Run.get).memory then narrowTo h kind (some place)
  else return .empty h.ownership kind

end Machine

end Custody
