import Custody.Handle.Create

/-!
# Contexts

A context names an allocator for each of three uses, and creates handles in the one that suits
the kind of owner: unique, own and local owners in the standard slot, strong owners in the
parallel slot, and those that release in bulk in the sequential slot.

A child is a copy with another allocator in one slot. A replacement changes a slot of the
context itself until its guard is closed; closing a guard puts back what the slot held when the
guard was opened. A guard that is forgotten leaves its replacement in place.
-/

namespace Custody

/-- A use of an allocator. -/
inductive ContextSlot
  | standard
  | sequential
  | parallel
  deriving DecidableEq, Inhabited

namespace ContextSlot

/-- All slots, in order. -/
def all : List ContextSlot := [standard, sequential, parallel]

/-- The name of a slot with a capital letter. -/
def title : ContextSlot → String
  | standard => "Standard"
  | sequential => "Sequential"
  | parallel => "Parallel"

/-- The name of a slot. -/
def name : ContextSlot → String
  | standard => "standard"
  | sequential => "sequential"
  | parallel => "parallel"

/-- The slot of a name. -/
def parse? (text : String) : Option ContextSlot := all.find? fun s => s.name == text

/-- The slot in which a kind of owner is created. -/
def ofOwner : Owner → ContextSlot
  | .unique | .block .own | .block .handle => standard
  | .block .strong => parallel
  | .block .discard | .block .collect => sequential

end ContextSlot

/-- An allocator for each use. -/
structure Context where
  /-- For unique, own and local owners. -/
  standard : AllocatorId
  /-- For owners that are released in bulk. -/
  sequential : AllocatorId
  /-- For strong owners. -/
  parallel : AllocatorId
  deriving DecidableEq, Inhabited

/-- An open replacement. -/
structure ContextGuard where
  /-- The slot that was replaced. -/
  slot : ContextSlot
  /-- What the slot held before. -/
  previous : AllocatorId
  deriving DecidableEq, Inhabited

namespace Context

/-- The context with one allocator for all uses. -/
def uniform (a : AllocatorId) : Context := ⟨a, a, a⟩

/-- The context with the system allocator for all uses. -/
def global : Context := uniform systemAllocator

/-- The allocator in a slot. -/
def get (c : Context) : ContextSlot → AllocatorId
  | .standard => c.standard
  | .sequential => c.sequential
  | .parallel => c.parallel

/-- The context with another allocator in a slot. -/
def set (c : Context) (s : ContextSlot) (a : AllocatorId) : Context :=
  match s with
  | .standard => { c with standard := a }
  | .sequential => { c with sequential := a }
  | .parallel => { c with parallel := a }

@[simp] theorem get_set_self (c : Context) (s : ContextSlot) (a : AllocatorId) :
    (c.set s a).get s = a := by
  cases s <;> rfl

theorem get_set_of_ne (c : Context) {s t : ContextSlot} (a : AllocatorId) (h : s ≠ t) :
    (c.set s a).get t = c.get t := by
  cases s <;> cases t <;> simp_all [get, set]

theorem eq_of_get {c d : Context} (h : ∀ s, c.get s = d.get s) : c = d := by
  cases c
  cases d
  have standard := h .standard
  have sequential := h .sequential
  have parallel := h .parallel
  simp only [get] at standard sequential parallel
  subst standard sequential parallel
  rfl

/-- Replace what a slot holds; the guard keeps what it held. -/
def replace (c : Context) (s : ContextSlot) (a : AllocatorId) : Context × ContextGuard :=
  (c.set s a, ⟨s, c.get s⟩)

/-- Put back what a slot held when a guard was opened. -/
def close (c : Context) (g : ContextGuard) : Context := c.set g.slot g.previous

/-- Closing a guard right after it was opened leaves the context as it was. -/
theorem close_replace (c : Context) (s : ContextSlot) (a : AllocatorId) :
    (c.replace s a).1.close (c.replace s a).2 = c := by
  cases s <;> rfl

/-- Create an owner with the allocator that suits its kind. -/
def create (c : Context) (owner : Owner) (v : Value) : Run Machine Handle :=
  Machine.create owner (c.get (.ofOwner owner)) v

/-- The names of the allocators in the slots, in order. -/
def names (c : Context) : Run Machine (List String) :=
  Machine.ofMemory fun m => ContextSlot.all.map fun s => m.allocatorName (c.get s)

/-- How a context with allocators of these names is shown. -/
def shown (standard sequential parallel : String) : String :=
  "Context \x7b standard: " ++ Text.quoted standard ++ ", sequential: " ++
    Text.quoted sequential ++ ", parallel: " ++ Text.quoted parallel ++ " \x7d"

end Context

end Custody
