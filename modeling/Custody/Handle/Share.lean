import Custody.Handle.Create

/-!
# Sharing, moving and copying handles

A strong or a local handle may be cloned, and so may an observer; a strong handle may be
observed, and an observer may be upgraded as long as an owner is left. Moving a handle leaves
its source empty and counts nothing. Copying a handle in depth copies the value into fresh
storage of the same allocator, and the handles inside a node are shared by the copy.
-/

namespace Custody

namespace Machine

/-- Count one more handle like this one. Handles that are not shared are not counted. -/
def acquire (h : Handle) : Run Machine Unit :=
  match h.link with
  | none => pure ()
  | some l =>
    match h.ownership with
    | .block .strong => recount l.cell BlockState.incrementStrong
    | .block .handle => recount l.cell BlockState.incrementLocal
    | .weak => recount l.cell BlockState.incrementWeak
    | .unique _ | .block .own | .block .discard | .block .collect => pure ()

/-- One more handle to the same value. -/
def clone (h : Handle) : Run Machine Handle := do
  acquire h
  return h

/-- An observer of the value of a strong handle. -/
def downgrade (h : Handle) : Run Machine Handle := clone (h.held .weak)

/-- A strong handle to the value of an observer, if an owner is left. -/
def upgrade (h : Handle) : Run Machine (Option Handle) := do
  match h.link with
  | none => return none
  | some l =>
    if ← recount l.cell BlockState.tryUpgrade then return some (h.held (.block .strong))
    else return none

/-- Copies of handles; the copies made so far are let go of if one cannot be made. -/
def cloneAll : List Handle → Run Machine (List Handle)
  | [] => return []
  | h :: rest => do
    let copy ← clone h
    let copies ← Run.onUnwind (cloneAll rest) (dropHandle copy)
    return copy :: copies

/-- What a label of a copied value gets appended. -/
def copyMark : String := "+"

/-- A copy of a value. -/
def copyValue : Value → Run Machine Value
  | .tracked label => return .tracked (label ++ copyMark)
  | .pair left right n m => return .pair (left ++ copyMark) (right ++ copyMark) n m
  | .node label next back => do
    let nextCopy ← clone next
    let backCopy ← Run.onUnwind (clone back) (dropHandle nextCopy)
    return .node (label ++ copyMark) nextCopy backCopy
  | .bundle label held => return .bundle (label ++ copyMark) (← cloneAll held)
  | other => return other

end Machine

namespace Handle

/-- The value that a handle points at, if it may be looked at. Observers may not look. -/
def value? (h : Handle) (m : Memory) : Option Value :=
  match h.ownership with
  | .weak => none
  | .unique _ | .block _ => h.target?.bind m.read?

/-- The allocator of a handle: the one that a unique owner carries, or the one that the control
block came from. Observers do not tell. -/
def home? (h : Handle) (m : Memory) : Option AllocatorId :=
  match h.ownership with
  | .unique home => some home
  | .block _ => (h.link.bind fun l => m.cell? l.cell).bind (·.home)
  | .weak => none

/-- The kind of owner that a handle is. -/
def owner? (h : Handle) : Option Owner :=
  match h.ownership with
  | .unique _ => some .unique
  | .block owner => some (.block owner)
  | .weak => none

end Handle

namespace Machine

/-- A handle like this one to a copy of its value. -/
def deepCopy (h : Handle) : Run Machine Handle := do
  let memory := (← Run.get).memory
  match h.owner?, h.value? memory, h.home? memory with
  | some owner, some v, some home => create owner home (← copyValue v)
  | _, _, _ => return h.emptied

end Machine

end Custody
