import Custody.Handle.Inspect
import Custody.Session.Contexts

/-!
# Named slots

A session about handles keeps its handles in named slots. A slot remembers which declared
allocator it belongs to: when an arena is released, the handles in its slots are forgotten
first, since they must not outlive it. Putting a handle into a slot that holds one already lets
go of the old one, after the new one is in its place.
-/

namespace Custody.Session

/-- A handle that a session holds under a name. -/
structure Slot where
  /-- The handle. -/
  handle : Handle
  /-- The declared allocator that it belongs to, if it belongs to one. -/
  belongs : AllocatorRef
  deriving DecidableEq, Inhabited

/-- The slots, by name. -/
abbrev Slots := List (String × Slot)

namespace Slots

/-- The slot of a name. -/
def get? (s : Slots) (name : String) : Option Slot := (s.find? fun e => e.1 == name).map (·.2)

/-- The slots without that of a name. -/
def erase (s : Slots) (name : String) : Slots := s.filter fun e => e.1 != name

/-- The slots with that of a name filled. -/
def insert (s : Slots) (name : String) (slot : Slot) : Slots := (name, slot) :: s.erase name

/-- The slots that belong to no allocator of a name. -/
def notOf (s : Slots) (key : String) : Slots := s.filter fun e => e.2.belongs != some key

/-- The slots in the order of the characters of their names. -/
def sorted (s : Slots) : Slots := s.mergeSort fun a b => !decide (b.1 < a.1)

theorem get?_insert_self (s : Slots) (name : String) (slot : Slot) :
    (s.insert name slot).get? name = some slot := by
  simp [get?, insert]

theorem get?_erase_self (s : Slots) (name : String) : (s.erase name).get? name = none := by
  simp [get?, erase]

end Slots

/-- What can be told of a raw pointer to what a handle points at. -/
structure RawView where
  /-- Whether it is null. -/
  isNull : Bool
  /-- The value behind it. -/
  value : Option Shown
  /-- Whether that is the nothing instance. -/
  isNothing : Bool
  /-- The value that a checked access finds. -/
  checked : Shown
  deriving DecidableEq, Inhabited

/-- What can be told of a handle. -/
structure HandleView where
  /-- The handle in brief. -/
  brief : Brief
  /-- The name of its allocator. -/
  allocator : Option String
  /-- The type it points at. -/
  kind : Kind
  /-- How it is shown. -/
  shown : String
  /-- Its value. -/
  value : Option Shown
  deriving DecidableEq, Inhabited

/-- The answer of a step about handles. -/
inductive HandleReply
  | done
  /-- There was nothing to store. -/
  | absent
  | brief (brief : Brief)
  | briefs (first second : Brief)
  | value (shown : Option Shown)
  | flag (value : Bool)
  | orNothing (shown : Shown) (isNothing : Bool)
  | raw (view : RawView)
  | view (view : HandleView)
  | block (view : Option BlockView)
  | allocator (reply : AllocatorReply)
  deriving DecidableEq, Inhabited

/-- The session that steps about handles work on. -/
abbrev HandleSession := Session Slots

/-- What a step about handles comes to. -/
abbrev HandleRun := Run HandleSession (Result HandleReply)

/-- A handle in brief. -/
def briefOf (h : Handle) : Run HandleSession Brief := ofMemory h.brief

/-- Let go of the handle of a slot, if there is one. -/
def letGo (slot : Option Slot) : Run HandleSession Unit :=
  match slot with
  | none => pure ()
  | some s => onMachine (Machine.dropHandle s.handle)

/-- Put a handle into a slot, and then let go of the one that was there. -/
def store (name : String) (h : Handle) (belongs : AllocatorRef) : HandleRun := do
  let brief ← briefOf h
  let old := (← Run.get).desk.get? name
  onDesk (·.insert name ⟨h, belongs⟩)
  letGo old
  return .ok (.brief brief)

/-- Put another handle into a slot that there is. -/
def update (name : String) (slot : Slot) (h : Handle) : Run HandleSession Unit :=
  onDesk (·.insert name { slot with handle := h })

/-- Do something with the slot of a name. -/
def withSlot (name : String) (act : Slot → HandleRun) : HandleRun := do
  match (← Run.get).desk.get? name with
  | none => return refuse .noSlot
  | some slot => act slot

/-- Do something with the slots of two names. -/
def withSlots (first second : String) (act : Slot → Slot → HandleRun) : HandleRun :=
  withSlot first fun a => withSlot second fun b => act a b

/-- Refuse what a handle cannot do. -/
def unsupported : HandleRun := return refuse .unsupported

end Custody.Session
