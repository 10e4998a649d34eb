import Custody.Handle.Convert
import Custody.Handle.Narrow
import Custody.Proofs.Situations

/-!
# Clients

A client is a program that uses handles: the machine it runs on, the handles it holds, and those
that it forgot, which nobody lets go of any more. `Client.perform` says what an operation of a
client does to all three. A client can use up only handles that it holds, and it can look at
those inside values as well; what it asks for otherwise does not happen. It may create handles
of every kind, share, narrow, copy, move and convert them, put values with handles into storage
and exchange them for others, let go of handles and forget them; it may ask allocators for
storage and give storage back; it may make allocators and release them; and it may do all that
hooks and sinks do. Where an operation panics the client goes on, with the thread unwinding until
the panic is caught.

`Client.run` carries out a list of operations.
-/

namespace Custody

/-- A program that uses handles. -/
structure Client where
  /-- What it runs on. -/
  machine : Machine
  /-- The handles that it holds. -/
  held : List Handle := []
  /-- The handles that it forgot. -/
  forgotten : List Handle := []

/-- A way of releasing an arena. -/
inductive Exit
  | reset
  | tearDown
  | drop
  deriving DecidableEq, Inhabited

/-- What a client can do. -/
inductive Operation
  /-- Create an owner of a value; without storage that is an error or a fault. -/
  | create (owner : Owner) (home : AllocatorId) (v : Value) (fallible : Bool)
  /-- Destroy a value that is in no storage. -/
  | destroy (v : Value)
  | clone (h : Handle)
  | downgrade (h : Handle)
  | upgrade (h : Handle)
  /-- Narrow a handle to a place, which has to lie inside the value if that is checked. -/
  | narrow (h : Handle) (kind : Kind) (place : Place) (checked : Bool)
  | deepCopy (h : Handle)
  /-- Move a handle out of its variable, which is empty then. -/
  | take (h : Handle)
  /-- Let go of a handle; its variable is empty then. -/
  | reset (h : Handle)
  /-- Put a handle in the place of another, which is let go of. -/
  | assign (old new : Handle)
  | drop (h : Handle)
  | forget (h : Handle)
  | convert (h : Handle) (owner : Owner)
  /-- Move the value of a sole owner out. -/
  | moveOut (h : Handle)
  /-- Set a value through a handle. -/
  | set (h : Handle) (d : Datum)
  /-- Exchange the value in a cell for another. -/
  | exchange (c : CellId) (v : Value)
  | linkNext (p : Place) (h : Handle)
  | linkBack (p : Place) (h : Handle)
  | unlinkNext (p : Place)
  /-- Ask for storage, and put a value there that the allocator is to destroy. -/
  | allocateFor (v : Value) (a : AllocatorId) (l : Layout) (offset : Nat)
  /-- Ask for storage. -/
  | allocate (a : AllocatorId) (l : Layout)
  | deallocate (a : AllocatorId) (address : Address) (l : Layout)
  | retire (a : AllocatorId) (address : Address) (l : Layout)
  | makeHeap
  | makeArena (name : Option String) (config : ArenaConfig)
  | release (a : AllocatorId) (exit : Exit)
  /-- Do what hooks and sinks do. -/
  | act (actions : List Action)
  /-- Catch the last panic. -/
  | caught

namespace Memory

/-- Whether some value holds a handle. -/
def stores (m : Memory) (h : Handle) : Bool :=
  m.cells.places.any fun place => place.any fun cell => decide (h ∈ cell.value.handles)

/-- A handle that is stored is stored in a cell. -/
theorem exists_of_stores {m : Memory} {h : Handle} (stores : m.stores h = true) :
    ∃ c cell, m.cell? c = some cell ∧ h ∈ cell.value.handles := by
  obtain ⟨place, member, there⟩ := List.any_eq_true.1 stores
  cases place with
  | none => cases there
  | some cell =>
    obtain ⟨c, bound, here⟩ := List.getElem_of_mem member
    refine ⟨c, cell, ?_, of_decide_eq_true there⟩
    show (m.cells.places[c]?).join = some cell
    rw [List.getElem?_eq_getElem bound, here]
    rfl

end Memory

namespace Client

open Session

/-- The handles of a client, each as the task of letting go of it. -/
def duties (c : Client) : List Task := (c.held ++ c.forgotten).map .drop

/-- Whether a client can look at a handle: it holds it, or a value does. -/
def knows (c : Client) (h : Handle) : Bool := decide (h ∈ c.held) || c.machine.memory.stores h

/-- The handles that are left when some are taken away, if they are there. Empty handles can be
had at any time. -/
def takeAll : List Handle → List Handle → Option (List Handle)
  | [], held => some held
  | h :: rest, held =>
    if h.isEmpty then takeAll rest held
    else if h ∈ held then takeAll rest (held.erase h)
    else none

/-- Do something with the machine. -/
def onMachine {α : Type} (act : Run Machine α) : Run Client α :=
  Run.within (·.machine) (fun c m => { c with machine := m }) act

/-- Come to hold handles. -/
def hold (handles : List Handle) : Run Client Unit :=
  Run.modify fun c => { c with held := handles ++ c.held }

/-- Have handles that nobody will let go of. -/
def lose (handles : List Handle) : Run Client Unit :=
  Run.modify fun c => { c with forgotten := handles ++ c.forgotten }

/-- Do something with the machine, and hold what comes of it. -/
def yielding {α : Type} (act : Run Machine α) (handles : α → List Handle) : Run Client Unit := do
  hold (handles (← onMachine act))

/-- Do something that uses handles up, if they are held. -/
def spending (handles : List Handle) (act : Run Client Unit) : Run Client Unit := fun c =>
  match takeAll handles c.held with
  | some rest => act { c with held := rest }
  | none => .returned () c

/-- Do something if a condition is met. -/
def provided (condition : Client → Bool) (act : Run Client Unit) : Run Client Unit := fun c =>
  if condition c then act c else .returned () c

/-- Make a shared handle the sole owner, or let go of it. A panic that the log entry about it
raises leaves the handle to nobody. -/
def intoOwn (h : Handle) : Run Client Unit := do
  match h.link with
  | none => hold [.empty (.block .own) h.kind]
  | some l =>
    if ← onMachine (Machine.canOwnAlone h l) then yielding (Machine.retagged h .own) ([·])
    else
      Run.onUnwind (onMachine (Machine.logRefusal h l.cell)) (lose [h])
      yielding (Machine.dropHandle h) fun _ => [.empty (.block .own) h.kind]

/-- Whether a handle becomes a sole owner only if it is alone. -/
def mustBeAlone (h : Handle) (owner : Owner) : Bool :=
  h.qualifier.isShared && owner = .block .own

/-- Turn a handle into an owner of another kind, where there is such a conversion. -/
def convert (h : Handle) (owner : Owner) : Run Client Unit :=
  if mustBeAlone h owner then intoOwn h
  else
    match Machine.convert h owner with
    | some conversion => yielding conversion ([·])
    | none => hold [h]

/-- Ask for storage and put a value there; without storage the value stays where it was. -/
def allocateFor (v : Value) (a : AllocatorId) (l : Layout) (offset : Nat) : Run Client Unit := do
  let subject ← onMachine (Machine.ofMemory (·.cells.next))
  match ← onMachine (Machine.allocate a l (some ⟨offset, subject⟩)) with
  | .error _ => hold v.handles
  | .ok grant =>
    onMachine (Machine.onMemory (·.addCell (StorageStep.taggedCell a l offset grant v)))

/-- Exchange the value in a cell for one of the same type, and hold what the old one held. -/
def exchange (cell : CellId) (v : Value) : Run Client Unit := do
  match ← onMachine (Machine.ofMemory fun m => (m.cell? cell).map (·.value)) with
  | none => hold v.handles
  | some old =>
    if old.kind = v.kind then
      onMachine (Machine.onMemory (·.change ⟨cell, []⟩ fun _ => v))
      hold old.handles
    else hold v.handles

/-- Whether a place has a neighbour of a node. -/
def isNodeAt (p : Place) (c : Client) : Bool :=
  ((c.machine.memory.read? p).bind Value.next?).isSome

/-- Whether all handles inside the value of a handle can be cloned. -/
def isCopyable (h : Handle) (c : Client) : Bool :=
  (h.value? c.machine.memory).all fun v => v.handles.all isClonable

/-- Whether a handle is the sole owner of a value that it can give away. -/
def isSole (h : Handle) : Bool := h.qualifier = .unique || h.qualifier = .own

/-- Release an arena. -/
def release (a : AllocatorId) : Exit → Run Client Unit
  | .reset => yielding (Machine.releaseArena a) fun _ => []
  | .tearDown => yielding (Machine.tearDown a) fun _ => []
  | .drop => yielding (Machine.dropArena a) fun _ => []

/-- Carry out an operation. -/
def perform : Operation → Run Client Unit
  | .create owner home v fallible =>
    spending v.handles <|
      if fallible then yielding (Machine.tryCreate owner home v) (·.toOption.toList)
      else yielding (Machine.create owner home v) ([·])
  | .destroy v => spending v.handles (yielding (Machine.dropValue v) fun _ => [])
  | .clone h => provided (fun c => c.knows h && isClonable h) (yielding (Machine.clone h) ([·]))
  | .downgrade h =>
    provided (fun c => c.knows h && h.qualifier = .strong) (yielding (Machine.downgrade h) ([·]))
  | .upgrade h =>
    provided (fun c => c.knows h && h.qualifier = .weak) (yielding (Machine.upgrade h) (·.toList))
  | .narrow h kind place checked =>
    provided (fun c => c.knows h && isNarrowable h) <|
      if checked then yielding (Machine.narrow h kind place) ([·])
      else yielding (Machine.narrowTo h kind (some place)) ([·])
  | .deepCopy h =>
    provided (fun c => c.knows h && isCopyable h c) (yielding (Machine.deepCopy h) ([·]))
  | .take h => spending [h] (hold [h, h.emptied])
  | .reset h => spending [h] (yielding (Machine.dropHandle h) fun _ => [h.emptied])
  | .assign old new =>
    spending [old, new] (Run.atEnd (onMachine (Machine.dropHandle old)) (hold [new]))
  | .drop h => spending [h] (yielding (Machine.dropHandle h) fun _ => [])
  | .forget h => spending [h] (lose [h])
  | .convert h owner => spending [h] (convert h owner)
  | .moveOut h =>
    provided (fun _ => isSole h) <|
      spending [h] (yielding (Machine.moveOut h) fun v? => v?.elim [] Value.handles)
  | .set h d =>
    provided (fun c => c.knows h) (yielding (Machine.changeIfExclusive h (·.setTo d)) fun _ => [])
  | .exchange c v => spending v.handles (exchange c v)
  | .linkNext p h =>
    provided (fun c => c.knows h && h.qualifier = .strong && isNodeAt p c)
      (yielding (Machine.linkNext p h) fun _ => [])
  | .linkBack p h =>
    provided (fun c => c.knows h && h.qualifier = .strong && isNodeAt p c)
      (yielding (Machine.linkBack p h) fun _ => [])
  | .unlinkNext p => yielding (Machine.unlinkNext p) fun _ => []
  | .allocateFor v a l offset => spending v.handles (allocateFor v a l offset)
  | .allocate a l => yielding (Machine.allocate a l none) fun _ => []
  | .deallocate a address l => yielding (Machine.deallocate a address l) fun _ => []
  | .retire a address l => yielding (Machine.retire a address l) fun _ => []
  | .makeHeap => yielding Machine.makeHeap fun _ => []
  | .makeArena name config => yielding (Machine.makeArena name config) fun _ => []
  | .release a exit => release a exit
  | .act actions =>
    yielding (Machine.onProcess (Process.perform Process.stackDepth actions)) fun _ => []
  | .caught =>
    yielding (Run.modify fun m => { m with process := m.process.panicCaught }) fun _ => []

/-- Carry out an operation, and go on if it panics. -/
def attempt (op : Operation) : Run Client Unit := do
  let _ ← Run.catchingWith id (perform op)

/-- Carry out operations in order. -/
def run (ops : List Operation) : Run Client Unit := Run.forAll attempt ops

/-- A client on a fresh memory. -/
def start (p : Process) : Client := { machine := { process := { p with trace := [] } } }

end Client

end Custody
