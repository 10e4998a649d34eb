import Custody.Handle.Share

/-!
# Reading and writing through handles

A handle that is not empty may be read. It may be written through if nobody else can be looking
at the value: owners that are alone always, a strong handle if it is the only one and nobody
observes, a local handle if it is the only one. A strong handle to a value that no strong group
governs cannot tell, and panics. Dereferencing an empty handle is a fault.

`Shown` is what a session shows of a value. A node shows the labels of its neighbours, and to
see the one it only observes it has to upgrade the observer for a moment.
-/

namespace Custody

namespace Handle

/-- How many owners the value of a handle has; none for an empty handle. -/
def owners (h : Handle) (m : Memory) : Word :=
  ((h.link.bind fun l => m.block? l.cell).map (·.owners)).getD 0

/-- How many observers the value of a handle has; none for an empty handle. -/
def observers (h : Handle) (m : Memory) : Word :=
  ((h.link.bind fun l => m.block? l.cell).map (·.observers)).getD 0

/-- Where a handle points to; zero for an empty handle. -/
def address (h : Handle) (m : Memory) : Address := (h.target?.bind m.address?).getD 0

/-- How a handle is shown when it is inspected. -/
def shown (h : Handle) (m : Memory) : String :=
  match h.ownership with
  | .weak => "(Weak)"
  | _ =>
    h.qualifier.title ++ "(" ++
      ((h.value? m).map fun v => "Some(" ++ v.shown ++ ")").getD "None" ++ ")"

end Handle

/-- What a session shows of a value. -/
inductive Shown
  | number (value : Nat)
  | text (value : String)
  | members (left right : String) (n m : Nat)
  /-- The label of a node and those of its neighbours. -/
  | node (label : String) (next back : Option String)
  deriving DecidableEq, Inhabited

namespace Machine

/-- The label of the node that a handle owns. -/
def nodeLabel (h : Handle) : Run Machine (Option String) :=
  ofMemory fun m => (h.value? m).bind (·.nodeLabel?)

/-- The label of the node that a handle observes, if it is still there. -/
def observedLabel (h : Handle) : Run Machine (Option String) := do
  match ← upgrade h with
  | none => return none
  | some owner =>
    let label ← nodeLabel owner
    dropHandle owner
    return label

/-- Show a value. -/
def present : Value → Run Machine Shown
  | .num value | .big value | .wide value | .tag value => return .number value
  | .text value => return .text value
  | .tracked label | .mark label | .bundle label _ => return .text label
  | .unit => return .text "()"
  | .pair left right n m => return .members left right n m
  | .node label next back => do
    let nextLabel ← nodeLabel next
    return .node label nextLabel (← observedLabel back)
  | .bytes _ => return .text ""
  | .record typeName => return .text typeName

/-- Show the value of a handle, if it has one. -/
def showValue? (h : Handle) : Run Machine (Option Shown) := do
  match h.value? (← Run.get).memory with
  | none => return none
  | some v => return some (← present v)

/-- Whether a handle is the only reference to the value that it keeps. -/
def isExclusive (h : Handle) : Run Machine Bool :=
  match h.ownership, h.link with
  | _, none | .weak, some _ => return false
  | .unique _, some _ => return true
  | .block owner, some l => recount l.cell fun state => (state, state.isAlone owner)

/-- Change the value of a handle if the handle admits it; says whether it does. -/
def changeIfExclusive (h : Handle) (f : Value → Value) : Run Machine Bool := do
  match h.target? with
  | none => return false
  | some place =>
    if ← isExclusive h then
      onMemory (·.change place f)
      return true
    else return false

/-- Where a handle points; an empty handle must not be dereferenced. -/
def target (h : Handle) : Run Machine Place :=
  match h.target? with
  | some place => return place
  | none => fail (.nothingDereferenced h.kind.name)

end Machine

end Custody
