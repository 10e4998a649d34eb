import Custody.Handle.Access

/-!
# From one way of owning to another

Conversions are explicit. Those between unique owners and owners behind a control block move
the value: its storage is given back first, and new storage asked for. Those between owners
that all have a control block only change its state, and the value stays where it is. A strong
or a local handle becomes the sole owner only if it is alone and was not narrowed; otherwise it
is let go of, and the log says so.
-/

namespace Custody

namespace Machine

/-- Move the value of a sole owner out, and give its storage back. -/
def moveOut (h : Handle) : Run Machine (Option Value) := do
  match h.link with
  | none => return none
  | some l =>
    let v ← ofMemory fun m => (m.cell? l.cell).map (·.value)
    onMemory (·.change ⟨l.cell, []⟩ Value.remains)
    match h.ownership with
    | .unique home => settle [.giveBack home h.kind.layout l.cell]
    | _ => settle (← storageTask .giveBack l.cell)
    return v

/-- Move the value of a unique owner behind a control block. -/
def fromUnique (owner : BlockOwner) (h : Handle) : Run Machine Handle := do
  let home := (h.home? (← Run.get).memory).getD systemAllocator
  match ← moveOut h with
  | some v => create (.block owner) home v
  | none => return .empty (.block owner) h.kind

/-- Move the value of an owner from behind its control block. -/
def intoUnique (h : Handle) : Run Machine Handle := do
  match h.home? (← Run.get).memory with
  | none => return .empty (.unique systemAllocator) h.kind
  | some home =>
    match ← moveOut h with
    | some v => create .unique home v
    | none => return .empty (.unique home) h.kind

/-- Give a control block a fresh state for another kind of owner. -/
def retag (c : CellId) (owner : BlockOwner) : Run Machine Unit :=
  onMemory fun m =>
    match m.cell? c with
    | none => m
    | some cell => m.setCell c { cell with state := some (.fresh owner) }

/-- The same value, held by another kind of owner. -/
def retagged (h : Handle) (owner : BlockOwner) : Run Machine Handle := do
  match h.link with
  | none => pure ()
  | some l => retag l.cell owner
  return h.held (.block owner)

/-- Say in the log that a shared handle was let go of instead of becoming the sole owner. -/
def logRefusal (h : Handle) (cell : CellId) : Run Machine Unit := do
  match ← ofMemory (·.cell? cell) with
  | none => pure ()
  | some c =>
    write .debug "tether::convert" "conversion to own released a shared reference"
      [("from", .text h.qualifier.name), ("type", .text c.kind.name),
        ("owners", .unsigned ((c.state.map (·.owners)).getD 0))]

/-- Whether a shared handle can become the sole owner. A narrowed one cannot, and is not asked
whether it is alone. -/
def canOwnAlone (h : Handle) (l : Link) : Run Machine Bool :=
  if l.projected then return false else isExclusive h

/-- Make a shared handle the sole owner, or let go of it. -/
def intoOwn (h : Handle) : Run Machine Handle := do
  match h.link with
  | none => return .empty (.block .own) h.kind
  | some l =>
    if ← canOwnAlone h l then retagged h .own
    else
      logRefusal h l.cell
      dropHandle h
      return .empty (.block .own) h.kind

/-- Turn a handle into an owner of another kind, where there is such a conversion. -/
def convert (h : Handle) (owner : Owner) : Option (Run Machine Handle) :=
  match h.ownership, owner with
  | .unique _, .block .own => some (fromUnique .own h)
  | .unique _, .block .discard => some (fromUnique .discard h)
  | .unique _, .block .collect => some (fromUnique .collect h)
  | .block .own, .unique => some (intoUnique h)
  | .block .own, .block .strong => some (retagged h .strong)
  | .block .own, .block .handle => some (retagged h .handle)
  | .block .strong, .block .own => some (intoOwn h)
  | .block .handle, .block .own => some (intoOwn h)
  | _, _ => none

end Machine

end Custody
