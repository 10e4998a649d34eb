import Custody.Context
import Custody.Handle.Share
import Custody.Session.Allocators

/-!
# Sessions about contexts

These sessions create handles in a context, and derive children and open replacements whose
bodies are lists of steps in turn. A step that panics cuts the body it stands in short; the
step that the body belongs to is left by that panic, after its guard was closed.
-/

namespace Custody.Session

/-- An allocator that a step names; without a name it is the system allocator. -/
abbrev AllocatorRef := Option String

variable {δ : Type}

/-- The allocator that a step means, if it is not gone. -/
def resolve (ref : AllocatorRef) (s : Session δ) : Option AllocatorId :=
  match ref with
  | none => some systemAllocator
  | some key => (allocator? key s).map (·.1)

/-- What context a session starts with. -/
inductive ContextSource
  | global
  | uniform (allocator : String)
  | slots (standard sequential parallel : AllocatorRef)
  deriving DecidableEq, Inhabited

/-- The context that a session starts with, if all allocators in it are known. -/
def ContextSource.context? (s : Session δ) : ContextSource → Option Context
  | global => some .global
  | uniform key => (resolve (some key) s).map .uniform
  | slots standard sequential parallel => do
    return ⟨← resolve standard s, ← resolve sequential s, ← resolve parallel s⟩

/-- A step of a session about contexts; a slot without a value has an unknown name. -/
inductive ContextStep
  | names
  /-- Run the body on a child with another allocator in a slot. -/
  | derive (slot : Option ContextSlot) (allocator : AllocatorRef) (body : List ContextStep)
  /-- Run the body while a slot is replaced. -/
  | replace (slot : Option ContextSlot) (allocator : AllocatorRef) (body : List ContextStep)
  /-- Make the current context uniform. -/
  | set (allocator : AllocatorRef)
  /-- Replace a slot and forget the guard. -/
  | leak (slot : Option ContextSlot) (allocator : AllocatorRef)
  | panic
  /-- Create an owner of a labelled value, and drop it. -/
  | create (owner : Owner) (label : String)
  | stats (allocator : AllocatorRef)
  | unknown

instance : Inhabited ContextStep := ⟨.unknown⟩

/-- What a step that panics panics with. -/
def bodyFailure : Payload := .text "body failed"

/-- The names of the allocators in the three slots. -/
abbrev SlotNames := List String

/-- The answer of such a step. -/
inductive ContextReply
  | names (slots : SlotNames)
  | derived (child parent : SlotNames) (body : List (StepReport ContextReply))
  | replaced (slot : ContextSlot) (inside : SlotNames) (body : List (StepReport ContextReply))
      (after : SlotNames)
  /-- The step was left by a panic in its body, after these steps of it. -/
  | interrupted (body : List (StepReport ContextReply))
  | created (qualifier : Qualifier) (isEmpty : Bool) (allocator : String)
  | ledger (ledger : Ledger)

namespace ContextStep

/-- The names of the allocators in the slots of the current context. -/
def slotNames : Run (Session Context) SlotNames := do
  onMachine (← Run.get).desk.names

/-- Answer with the names of the current context. -/
def answerNames : Run (Session Context) (Result ContextReply) := do
  return .ok (.names (← slotNames))

/-- Create an owner in the current context, look at it, and drop it. -/
def createAndDrop (owner : Owner) (label : String) :
    Run (Session Context) (Result ContextReply) := do
  let context := (← Run.get).desk
  onMachine do
    let h ← context.create owner (.tracked label)
    let memory := (← Run.get).memory
    let name := (h.home? memory).elim "" memory.allocatorName
    Machine.dropHandle h
    return .ok (.created h.qualifier h.isEmpty name)

/-- Find the slot and the allocator that a step is about. The slot is looked at first. -/
def target (slot : Option ContextSlot) (ref : AllocatorRef) :
    Run (Session Context) (Result (ContextSlot × AllocatorId)) := do
  match slot, resolve ref (← Run.get) with
  | none, _ => return refuse .badSlot
  | some _, none => return refuse .noAllocator
  | some s, some id => return .ok (s, id)

/-- What became of a body: the accounts of its steps, and whether it was cut short. -/
structure Body where
  /-- The steps that were carried out. -/
  reports : List (StepReport ContextReply)
  /-- Whether a step that panics came before the end. -/
  cut : Bool

/-- The result of a step with a body: the given one unless the body was cut short. -/
def resultOfBody (b : Body) (reply : ContextReply) : Result ContextReply :=
  .ok (if b.cut then .interrupted b.reports else reply)

mutual

/-- Carry out a step. -/
def perform : ContextStep → Run (Session Context) (Result ContextReply)
  | names => answerNames
  | derive slot ref body => do
    match ← target slot ref with
    | .error t => return .error t
    | .ok (s, id) =>
      let parent := (← Run.get).desk
      onDesk (·.set s id)
      let done ← performBody body
      let childNames ← slotNames
      onDesk fun _ => parent
      return resultOfBody done (.derived childNames (← slotNames) done.reports)
  | replace slot ref body => do
    match ← target slot ref with
    | .error t => return .error t
    | .ok (s, id) =>
      let (inner, guard) := (← Run.get).desk.replace s id
      onDesk fun _ => inner
      let insideNames ← slotNames
      let done ← performBody body
      onDesk (·.close guard)
      return resultOfBody done (.replaced s insideNames done.reports (← slotNames))
  | set ref => do
    match resolve ref (← Run.get) with
    | none => return refuse .noAllocator
    | some id =>
      onDesk fun _ => .uniform id
      answerNames
  | leak slot ref => do
    match ← target slot ref with
    | .error t => return .error t
    | .ok (s, id) =>
      onDesk fun c => (c.replace s id).1
      answerNames
  | panic => return .ok (.interrupted [])
  | create owner label => createAndDrop owner label
  | stats ref => do
    match (resolve ref (← Run.get)).bind (← Run.get).machine.memory.allocator? with
    | none => return refuse .noAllocator
    | some a => return .ok (.ledger a.ledger)
  | unknown => return refuse .badStep

/-- Carry out the steps of a body, up to one that panics. -/
def performBody : List ContextStep → Run (Session Context) Body
  | [] => return ⟨[], false⟩
  | .panic :: _ => return ⟨[], true⟩
  | step :: rest => do
    let report ← observe (perform step)
    let others ← performBody rest
    return { others with reports := report :: others.reports }

end

end ContextStep

/-- The accounts of a session about contexts: of its steps, which are refused together if the
session names an allocator it does not know, and of the arenas dropped at the end. -/
structure ContextTranscript where
  /-- The steps, or why they were refused. -/
  steps : Result (List (StepReport ContextReply))
  /-- The live allocations of the declared allocators after the steps. -/
  live : List (Option Word)
  /-- What was dropped at the end. -/
  ending : List (StepReport String)

/-- Carry out the steps of a session from the context it starts with. -/
def performFrom (source : ContextSource) (steps : List ContextStep) :
    Run (Session Context) (Result (List (StepReport ContextReply))) := do
  match source.context? (← Run.get) with
  | none => return refuse .noAllocator
  | some c =>
    onDesk fun _ => c
    return .ok (← observeAll ContextStep.perform steps)

/-- Carry out a session about contexts. -/
def runContexts (level : Option Log.Level) (declared : List (String × Declaration))
    (source : ContextSource) (steps : List ContextStep) : Run Machine ContextTranscript :=
  run level .global do
    declareAll declared
    let reports ← performFrom source steps
    let live := liveCounts (← Run.get)
    return ⟨reports, live, ← dropAllArenas⟩

end Custody.Session
