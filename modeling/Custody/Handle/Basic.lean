import Custody.Block.State
import Custody.Process.Event
import Custody.Value.Kind

/-!
# Handles

A handle is a pointer that says how it refers to its value. It is empty, or it has a link: the
cell whose control block it counts in, the place it points at, and whether it was narrowed to
something other than the cell's own value. A unique owner has no control block, and carries
the allocator it allocates from also when it is empty.
-/

namespace Custody

/-- A place where a value or a part of a value lies. -/
structure Place where
  /-- The cell. -/
  cell : CellId
  /-- The way from the cell's value to the part, outermost step first. -/
  path : List Field := []
  deriving DecidableEq, Inhabited

/-- What a handle that is not empty refers to. -/
structure Link where
  /-- The cell whose value the handle keeps alive or observes. -/
  cell : CellId
  /-- Where the handle points. -/
  target : Place
  /-- Whether the handle was narrowed, even if to a part at the same address. -/
  projected : Bool
  deriving DecidableEq, Inhabited

/-- How a handle refers to its value. -/
inductive Ownership
  /-- As the only owner, without a control block, with storage from the given allocator. -/
  | unique (home : AllocatorId)
  /-- As an owner of the kind that governs the control block. -/
  | block (owner : BlockOwner)
  /-- As an observer of a strong group. -/
  | weak
  deriving DecidableEq, Inhabited

/-- The qualifier of a way of owning. -/
def Ownership.qualifier : Ownership → Qualifier
  | unique _ => .unique
  | block owner => owner.qualifier
  | weak => .weak

/-- A pointer that owns or observes a value. -/
structure Handle where
  /-- How it refers to the value. -/
  ownership : Ownership
  /-- The type of value it points at. -/
  kind : Kind
  /-- What it refers to, unless it is empty. -/
  link : Option Link
  deriving DecidableEq, Inhabited

namespace Handle

/-- The qualifier of a handle. -/
def qualifier (h : Handle) : Qualifier := h.ownership.qualifier

/-- A handle that refers to nothing. -/
def empty (ownership : Ownership) (kind : Kind) : Handle := ⟨ownership, kind, none⟩

/-- A handle to the value of a cell itself. -/
def whole (ownership : Ownership) (kind : Kind) (cell : CellId) : Handle :=
  ⟨ownership, kind, some ⟨cell, ⟨cell, []⟩, false⟩⟩

/-- Whether a handle refers to nothing. -/
def isEmpty (h : Handle) : Bool := h.link.isNone

/-- Where a handle points. -/
def target? (h : Handle) : Option Place := h.link.map (·.target)

/-- The handle after its reference was moved out. -/
def emptied (h : Handle) : Handle := { h with link := none }

/-- The same reference held in another way. -/
def held (h : Handle) (ownership : Ownership) : Handle := { h with ownership := ownership }

/-- A handle with the same cell, narrowed to a place with a value of some type. -/
def narrowed (h : Handle) (kind : Kind) (target : Place) : Handle :=
  { h with kind := kind, link := h.link.map fun l => ⟨l.cell, target, true⟩ }

/-- The cell with the control block of a handle that has one and was not narrowed. -/
def wholeBlock? (h : Handle) : Option CellId :=
  match h.ownership, h.link with
  | .unique _, _ => none
  | _, some l => if l.projected then none else some l.cell
  | _, none => none

@[simp] theorem isEmpty_empty (o : Ownership) (k : Kind) : (empty o k).isEmpty = true := rfl

@[simp] theorem isEmpty_emptied (h : Handle) : h.emptied.isEmpty = true := rfl

end Handle

end Custody
