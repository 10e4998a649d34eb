import Custody.Handle.Access

/-!
# Nothing instances

Every type has at most one value that stands for nothing. It is made when it is first asked
for, lives for ever, and is told apart from all other values by its address alone. Making the
instance of one type may ask for the instances of others; a type is registered before its
instance is made, and if making it fails, the next request tries again. Storage for an instance
is asked for when it is made, and without any the process ends.

How instances are made is given by recipes. Requests that go round in a circle never end; here
they exhaust the stack, `requestDepth` deep, and abort the process.
-/

namespace Custody

/-- How the nothing instance of a type is made. -/
structure Recipe where
  /-- The types whose instances are asked for meanwhile. -/
  requests : List Kind := []
  /-- How many attempts fail before one succeeds, and the message of the panics. -/
  failures : Nat × String := (0, "")
  deriving Inhabited

namespace NothingRegistry

/-- Whether a type was ever asked for. -/
def isRegistered (r : NothingRegistry) (k : Kind) : Bool := r.entries.any fun e => e.1 == k

/-- The instance of a type, once it is there. -/
def instance? (r : NothingRegistry) (k : Kind) : Option CellId :=
  (r.entries.find? fun e => e.1 == k).bind (·.2)

/-- How many types were asked for. -/
def count (r : NothingRegistry) : Nat := r.entries.length

/-- How often making the instance of a type was begun. -/
def attemptsOf (r : NothingRegistry) (k : Kind) : Nat := (r.attempts.filter (· == k)).length

/-- The registry in which a type is registered. -/
def register (r : NothingRegistry) (k : Kind) : NothingRegistry :=
  if r.isRegistered k then r else { r with entries := r.entries ++ [(k, none)] }

/-- The registry in which the instance of a type is there. -/
def fill (r : NothingRegistry) (k : Kind) (c : CellId) : NothingRegistry :=
  { r with entries := r.entries.map fun e => if e.1 == k then (k, some c) else e }

/-- The registry in which making the instance of a type was begun once more. -/
def attempt (r : NothingRegistry) (k : Kind) : NothingRegistry :=
  { r with attempts := k :: r.attempts }

end NothingRegistry

namespace Memory

/-- The cell of a value that lives for ever. -/
def lastingCell (base : Address) (v : Value) : Cell :=
  ⟨none, base, v.kind.layout, 0, v.kind, none, v⟩

/-- The memory with a value more that lives for ever, at an address that the heap granted. -/
def addLasting (m : Memory) (base : Address) (v : Value) : Memory :=
  { m.addCell (lastingCell base v) with heap := m.heap.afterGrant v.kind.layout }

/-- The memory with its registry changed. -/
def changeNothings (m : Memory) (f : NothingRegistry → NothingRegistry) : Memory :=
  { m with nothings := f m.nothings }

/-- Whether the value of a type at an address is the type's nothing instance. -/
def isNothing (m : Memory) (k : Kind) (a : Address) : Bool :=
  ((m.nothings.instance? k).bind m.cell?).any fun c => c.address == a

end Memory

namespace Machine

/-- Make a value that lives for ever. Without storage for it the process ends. -/
def makeLasting (v : Value) : Run Machine CellId := fun m =>
  match m.memory.heap.grant? v.kind.layout with
  | some base => .returned m.memory.cells.next { m with memory := m.memory.addLasting base v }
  | none => .aborted (.outOfMemory v.kind.layout.size) m

/-- How deep requests for nothing instances may nest before the stack is exhausted. -/
def requestDepth : Nat := 256

/-- The nothing instance of a type, with requests nested at most this deep. -/
def request (recipe : Kind → Recipe) : Nat → Kind → Run Machine CellId
  | 0, _ => Run.abort .stackExhausted
  | depth + 1, k => do
    onMemory (·.changeNothings (·.register k))
    match ← ofMemory (·.nothings.instance? k) with
    | some c => return c
    | none =>
      onMemory (·.changeNothings (·.attempt k))
      Run.forAll (fun other => do let _ ← request recipe depth other) (recipe k).requests
      if (← ofMemory (·.nothings.attemptsOf k)) ≤ (recipe k).failures.1 then
        panic (.text (recipe k).failures.2)
      else
        let c ← makeLasting (.ofNothing k)
        onMemory (·.changeNothings (·.fill k c))
        return c

/-- The type whose nothing instance is made without further ado, so that the attempts to make it
can be counted. -/
def counted : Kind := .record "driver::pure::Counted"

/-- The type whose nothing instance holds the counted type's. -/
def outer : Kind := .record "driver::pure::Outer"

/-- The type whose nothing instance cannot be made at the first attempt. -/
def flaky : Kind := .record "driver::pure::Flaky"

/-- How the nothing instances of all types are made. -/
def recipes (k : Kind) : Recipe :=
  if k = outer then { requests := [counted] }
  else if k = flaky then { failures := (1, "flaky construction") }
  else {}

/-- The nothing instance of a type. -/
def nothing (k : Kind) : Run Machine CellId := request recipes requestDepth k

/-- Report an access to the value of a type at an address if it is the nothing instance, unless
the configuration has that check off. -/
def checkAccess (k : Kind) (a : Address) : Run Machine Unit := do
  let m ← Run.get
  if m.process.activeConfig.diagnostics.checkNothingAccess && m.memory.isNothing k a then
    report (.nothingAccessed k.name) .warning

/-- The value of a handle, or the nothing instance of its type if it is empty: where it is.
`request` is how instances are asked for. -/
def orNothingWith (request : Kind → Run Machine CellId) (h : Handle) : Run Machine Place := do
  match h.target? with
  | some place => return place
  | none => return ⟨← request h.kind, []⟩

/-- The value of a handle, or the nothing instance of its type if it is empty: where it is. -/
def orNothing (h : Handle) : Run Machine Place := orNothingWith nothing h

/-- The value at a place, or what stands for nothing if there is none. -/
def read (k : Kind) (p : Place) : Run Machine Value :=
  ofMemory fun m => (m.read? p).getD (.ofNothing k)

/-- The value that a raw pointer to what a handle points at finds, checked on access: a null
pointer finds the nothing instance. `request` is how instances are asked for. -/
def getCheckedWith (request : Kind → Run Machine CellId) (h : Handle) : Run Machine Value := do
  let place ← orNothingWith request h
  let address ← ofMemory fun m => (m.address? place).getD 0
  checkAccess h.kind address
  read h.kind place

/-- The value that a raw pointer to what a handle points at finds, checked on access. -/
def getChecked (h : Handle) : Run Machine Value := getCheckedWith nothing h

end Machine

end Custody
