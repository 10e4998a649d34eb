import Custody.Handle.Convert
import Custody.Handle.Narrow
import Custody.Handle.Neighbours
import Custody.Nothing.Registry
import Custody.Session.Slots
import Custody.Session.Storage

/-!
# Sessions about handles

These sessions create handles, look at them, and do with them all that can be done, one step at
a time. Steps come in families: those that make a handle from nothing; those that use a handle
and leave it in its slot; those that make a handle from another and store it; those that take a
handle out of its slot; and those about two handles.
-/

namespace Custody.Session

/-- What a new handle is made as. -/
inductive Making
  /-- As the owner of a new value, or with an error instead of a fault if there is no storage. -/
  | value (datum : Datum) (fallible : Bool)
  /-- As an empty handle, which may be tied to the allocator. -/
  | empty (tied : Bool)
  deriving DecidableEq, Inhabited

/-- What a handle is used for without leaving its slot. -/
inductive Use
  | get
  | deref
  | set (datum : Datum)
  | derefSet (datum : Datum)
  | reset
  | orNothing
  | raw
  | inspect
  | block
  | poke (owners observers : Option Word)
  | threads (count rounds : Nat)
  | unlink
  deriving DecidableEq, Inhabited

/-- What a handle is narrowed to. -/
inductive Part
  | field (field : Field)
  | self
  /-- A value that has nothing to do with the handle. -/
  | outside
  | nothing
  | null
  deriving DecidableEq, Inhabited

/-- How a handle is made from another. -/
inductive Derivation
  | take
  | clone
  | downgrade
  | upgrade
  | deepCopy
  /-- Narrowed to a part, which has to lie inside the value if that is checked. -/
  | narrow (part : Option Part) (checked : Bool)
  deriving DecidableEq, Inhabited

/-- What is done with a handle that is taken out of its slot. -/
inductive Spending
  | drop
  | forget
  | convert (owner : Owner) (target : String)
  | intoInner
  deriving DecidableEq, Inhabited

/-- What is done with two handles. -/
inductive Pairing
  | assign
  | sameTarget
  | link
  | back
  deriving DecidableEq, Inhabited

/-- A step of a session about handles. What is not known by its name is left out. -/
inductive HandleStep
  | make (target : String) (qualifier : Option Qualifier) (home : AllocatorRef) (kind : Option Kind)
      (making : Making)
  | makeInContext (target : String) (qualifier : Option Qualifier) (label : String)
      (standard sequential parallel : AllocatorRef)
  | use (slot : String) (use : Use)
  | derive (slot target : String) (derivation : Derivation)
  | spend (slot : String) (spending : Spending)
  | pair (first second : String) (pairing : Pairing)
  | onAllocator (key : String) (action : AllocatorAction)
  /-- A step of an unknown name that names a slot. -/
  | unknown (slot : String)
  deriving DecidableEq, Inhabited

/-! ## Making handles -/

/-- The kind of owner that a value can be given; without an allocator of its own it cannot be
released in bulk. -/
def ownerIn (home : AllocatorRef) (q : Option Qualifier) : Option Owner :=
  match q.bind Owner.ofQualifier?, home with
  | some (.block .discard), none | some (.block .collect), none => none
  | owner, _ => owner

/-- Make an owner of a value and store it; a value that cannot be owned is destroyed. -/
def makeOwner (target : String) (owner : Option Owner) (id : AllocatorId) (home : AllocatorRef)
    (v : Value) (fallible : Bool) : HandleRun := do
  match owner with
  | none =>
    onMachine (Machine.dropValue v)
    unsupported
  | some o =>
    if fallible && home.isSome then
      match ← onMachine (Machine.tryCreate o id v) with
      | .ok h => store target h home
      | .error e => return .error (.allocation e)
    else
      let h ← onMachine (Machine.create o id v)
      store target h home

/-- How an empty handle of a qualifier refers to its value. -/
def emptyOwnership? (home : AllocatorId) : Qualifier → Option Ownership
  | .weak => some .weak
  | q => (Owner.ofQualifier? q).map (Owner.ownership home)

/-- Make an empty handle and store it. -/
def makeEmpty (target : String) (q : Option Qualifier) (id : AllocatorId) (home : AllocatorRef)
    (k : Kind) : HandleRun := do
  match q.bind (emptyOwnership? id) with
  | none => unsupported
  | some o => store target (.empty o k) home

/-- Make a handle. -/
def make (target : String) (q : Option Qualifier) (home : AllocatorRef) (k : Option Kind)
    (m : Making) : HandleRun := do
  match resolve home (← Run.get), k with
  | none, _ => return refuse .noAllocator
  | some _, none => return refuse .badType
  | some id, some k =>
    match m with
    | .value d fallible => makeOwner target (ownerIn home q) id home (.make k d) fallible
    | .empty tied => makeEmpty target q (if tied then id else systemAllocator) home k

/-- The allocator of a context that suits a kind of owner, as a step named it. -/
def contextRef (standard sequential parallel : AllocatorRef) (owner : Owner) : AllocatorRef :=
  match ContextSlot.ofOwner owner with
  | .standard => standard
  | .sequential => sequential
  | .parallel => parallel

/-- Make an owner of a labelled value in a context. -/
def makeInContext (target : String) (q : Option Qualifier) (label : String)
    (standard sequential parallel : AllocatorRef) : HandleRun := do
  match ContextSource.context? (← Run.get) (.slots standard sequential parallel) with
  | none => return refuse .noAllocator
  | some context =>
    match q.bind Owner.ofQualifier? with
    | none =>
      onMachine (Machine.dropValue (.tracked label))
      unsupported
    | some owner =>
      let h ← onMachine (context.create owner (.tracked label))
      store target h (contextRef standard sequential parallel owner)

/-! ## Using handles -/

/-- Show the value at a place. -/
def showAt (k : Kind) (p : Place) : Run HandleSession Shown :=
  onMachine do
    let v ← Machine.read k p
    Machine.present v

/-- Whether the value of a type at a place is the nothing instance. -/
def isNothingAt (k : Kind) (p : Place) : Run HandleSession Bool :=
  ofMemory fun m => (m.address? p).any (m.isNothing k)

/-- What can be told of a raw pointer to what a handle points at. -/
def rawView (h : Handle) : Run HandleSession RawView := do
  let value ← onMachine (Machine.showValue? h)
  let isNothing ← match h.target? with
    | some p => isNothingAt h.kind p
    | none => pure false
  let checked ← onMachine do
    let v ← Machine.getChecked h
    Machine.present v
  return ⟨h.isEmpty, value, isNothing, checked⟩

/-- What can be told of a handle. -/
def handleView (h : Handle) : Run HandleSession HandleView := do
  let m := (← Run.get).machine.memory
  let value ← onMachine (Machine.showValue? h)
  return ⟨h.brief m, (h.home? m).map m.allocatorName, h.kind, h.shown m, value⟩

/-- Overwrite the counts of a control block that has some. -/
def poke (h : Handle) (owners observers : Option Word) : HandleRun := do
  match h.wholeBlock?, h.blockView? (← Run.get).machine.memory with
  | some c, some view =>
    match view.state with
    | .strong .. =>
      onMachine (Machine.onMemory (·.setCounts c owners observers))
      return .ok (.brief (← briefOf h))
    | .handle _ =>
      onMachine (Machine.onMemory (·.setCounts c (some (owners.getD 0)) none))
      return .ok (.brief (← briefOf h))
    | .own | .discard | .collect => unsupported
  | _, _ => unsupported

/-- The place of the node that a handle owns, if it owns one. -/
def ownedNode? (h : Handle) : Option Place :=
  match h.ownership, h.kind with
  | .weak, _ => none
  | _, .node => h.target?
  | _, _ => none

/-- Show the node at a place. -/
def answerNode (p : Place) : HandleRun := do
  let shown ← showAt .node p
  return .ok (.value (some shown))

/-- Use a handle that is no observer. -/
def useOwner (name : String) (slot : Slot) : Use → HandleRun
  | .deref => do
    let place ← onMachine (Machine.target slot.handle)
    let shown ← showAt slot.handle.kind place
    return .ok (.value (some shown))
  | .set d => do
    let changed ← onMachine (Machine.changeIfExclusive slot.handle (·.setTo d))
    return .ok (.flag changed)
  | .derefSet d => do
    match slot.handle.ownership with
    | .block .strong | .block .handle | .weak => unsupported
    | .unique _ | .block .own | .block .discard | .block .collect =>
      let place ← onMachine (Machine.target slot.handle)
      onMachine (Machine.onMemory (·.change place (·.setTo d)))
      return .ok .done
  | .orNothing => do
    let place ← onMachine (Machine.orNothing slot.handle)
    let shown ← showAt slot.handle.kind place
    return .ok (.orNothing shown (← isNothingAt slot.handle.kind place))
  | .raw => do
    let view ← rawView slot.handle
    return .ok (.raw view)
  | .threads count rounds => do
    if slot.handle.ownership = .block .strong then
      onMachine (Machine.shareAmong count rounds slot.handle)
      return .ok (.brief (← briefOf slot.handle))
    else unsupported
  | .unlink => do
    match ownedNode? slot.handle with
    | none => unsupported
    | some p =>
      onMachine (Machine.unlinkNext p)
      answerNode p
  | .get => do
    let shown ← onMachine (Machine.showValue? slot.handle)
    return .ok (.value shown)
  | .reset => do
    update name slot slot.handle.emptied
    onMachine (Machine.dropHandle slot.handle)
    return .ok (.brief (← briefOf slot.handle.emptied))
  | .inspect => do
    let view ← handleView slot.handle
    return .ok (.view view)
  | .block => do return .ok (.block (slot.handle.blockView? (← Run.get).machine.memory))
  | .poke owners observers => poke slot.handle owners observers

/-- Whether an observer can be used in some way. -/
def Use.suitsObservers : Use → Bool
  | get | reset | inspect | block | poke .. => true
  | deref | set _ | derefSet _ | orNothing | raw | threads .. | unlink => false

/-- Use a handle. -/
def useHandle (name : String) (use : Use) (slot : Slot) : HandleRun :=
  if slot.handle.ownership = .weak && !use.suitsObservers then unsupported
  else useOwner name slot use

/-! ## Handles from handles -/

/-- Whether a handle can be cloned. -/
def isClonable (h : Handle) : Bool :=
  match h.ownership with
  | .block .strong | .block .handle | .weak => true
  | .unique _ | .block .own | .block .discard | .block .collect => false

/-- Whether a handle can be narrowed. -/
def isNarrowable (h : Handle) : Bool :=
  match h.ownership with
  | .block .strong | .block .handle => true
  | .unique _ | .block .own | .block .discard | .block .collect | .weak => false

/-- Whether handles to a type can be narrowed to values outside it. -/
def admitsOutside (k : Kind) : Bool := k != .unit && k != .node

/-- Where a field of the value of a handle lies. An empty handle has none, and the nothing
instance of the field's type stands in for it. -/
def fieldPlace (h : Handle) (f : Field) (k : Kind) : Run HandleSession Place := do
  match h.target? with
  | some p => return { p with path := p.path ++ [f] }
  | none => return ⟨← onMachine (Machine.nothing k), []⟩

/-- The type and the place of a part that a handle can be narrowed to; without a place it is
null. -/
def partOf (h : Handle) (checked : Bool) : Part →
    Run HandleSession (Option (Kind × Option Place))
  | .field f =>
    match h.kind.field? f with
    | none => return none
    | some (k, _) => return some (k, some (← fieldPlace h f k))
  | .self => return some (h.kind, h.target?)
  | .outside => do
    if admitsOutside h.kind then
      let c ← onMachine (Machine.makeLasting (.make h.kind (.text "outside")))
      return some (h.kind, some ⟨c, []⟩)
    else return none
  | .nothing => do
    if admitsOutside h.kind then
      let c ← onMachine (Machine.nothing h.kind)
      return some (h.kind, some ⟨c, []⟩)
    else return none
  | .null => return if h.kind != .unit && !checked then some (h.kind, none) else none

/-- Narrow a handle to a part, and store the result. -/
def narrowAndStore (slot : Slot) (target : String) (part : Option Part) (checked : Bool) :
    HandleRun := do
  match part with
  | none => unsupported
  | some part =>
    match ← partOf slot.handle checked part with
    | none => unsupported
    | some (k, none) => store target (.empty slot.handle.ownership k) slot.belongs
    | some (k, some place) =>
      let h ← onMachine <|
        if checked then Machine.narrow slot.handle k place
        else Machine.narrowTo slot.handle k (some place)
      store target h slot.belongs

/-- Make a handle from another, and store it. -/
def deriveHandle (name target : String) (d : Derivation) (slot : Slot) : HandleRun := do
  match d with
  | .take =>
    update name slot slot.handle.emptied
    store target slot.handle slot.belongs
  | .clone =>
    if isClonable slot.handle then
      let h ← onMachine (Machine.clone slot.handle)
      store target h slot.belongs
    else unsupported
  | .downgrade =>
    if slot.handle.ownership = .block .strong then
      let h ← onMachine (Machine.downgrade slot.handle)
      store target h slot.belongs
    else unsupported
  | .upgrade =>
    if slot.handle.ownership = .weak then
      match ← onMachine (Machine.upgrade slot.handle) with
      | some h => store target h slot.belongs
      | none => return .ok .absent
    else unsupported
  | .deepCopy =>
    if slot.handle.ownership = .weak then unsupported
    else
      let h ← onMachine (Machine.deepCopy slot.handle)
      store target h slot.belongs
  | .narrow part checked =>
    if isNarrowable slot.handle then narrowAndStore slot target part checked else unsupported

/-! ## Handles that leave their slots -/

/-- Let go of a handle that cannot do what was asked. -/
def dropUnsupported (h : Handle) : HandleRun := do
  onMachine (Machine.dropHandle h)
  unsupported

/-- Show a value and destroy it. -/
def showAndDrop (v : Value) : Run HandleSession Shown :=
  onMachine (Run.atEnd (Machine.present v) (Machine.dropValue v))

/-- Do something with a handle that was taken out of its slot. -/
def spendHandle (name : String) (s : Spending) (slot : Slot) : HandleRun := do
  onDesk (·.erase name)
  match s with
  | .drop =>
    onMachine (Machine.dropHandle slot.handle)
    return .ok .done
  | .forget => return .ok .done
  | .convert owner target =>
    match Machine.convert slot.handle owner with
    | none => dropUnsupported slot.handle
    | some conversion =>
      let h ← onMachine conversion
      store target h slot.belongs
  | .intoInner =>
    match slot.handle.ownership with
    | .unique _ | .block .own =>
      match ← onMachine (Machine.moveOut slot.handle) with
      | some v =>
        let shown ← showAndDrop v
        return .ok (.value (some shown))
      | none => return .ok (.value none)
    | .block .discard | .block .collect | .block .strong | .block .handle | .weak =>
      dropUnsupported slot.handle

/-! ## Pairs of handles -/

/-- Whether two handles are of one kind and type. -/
def isAlike (a b : Handle) : Bool := a.qualifier == b.qualifier && a.kind == b.kind

/-- Give a slot the handle of another: a shared handle is cloned, any other moved. The old
handle is let go of when the new one is in its place. -/
def assign (first second : String) (a b : Slot) : HandleRun := do
  if isAlike a.handle b.handle then
    if isClonable b.handle then
      onDesk (·.insert first { a with belongs := b.belongs })
      let h ← onMachine (Machine.clone b.handle)
      onDesk (·.insert first ⟨h, b.belongs⟩)
    else
      update second b b.handle.emptied
      onDesk (·.insert first b)
    onMachine (Machine.dropHandle a.handle)
    let now := (← Run.get).desk
    let one ← briefOf ((now.get? first).elim a.handle (·.handle))
    return .ok (.briefs one (← briefOf ((now.get? second).elim b.handle (·.handle))))
  else unsupported

/-- Make the node of a slot own or observe the node of another. -/
def linkNodes (first second : String) (how : Place → Handle → Run Machine Unit) : HandleRun :=
  withSlot first fun a =>
    match ownedNode? a.handle with
    | none => unsupported
    | some p =>
      withSlot second fun b => do
        if a.belongs != b.belongs then return refuse .otherAllocator
        else if b.handle.ownership = .block .strong && b.handle.kind = .node then
          onMachine (how p b.handle)
          answerNode p
        else unsupported

/-- Do something with the handles of two slots. -/
def pairHandles (first second : String) : Pairing → HandleRun
  | .link => linkNodes first second Machine.linkNext
  | .back => linkNodes first second Machine.linkBack
  | .assign =>
    if first = second then return refuse .sameSlot
    else withSlot second fun b => withSlot first fun a => assign first second a b
  | .sameTarget =>
    if first = second then return refuse .sameSlot
    else
      withSlots first second fun a b => do
        let m := (← Run.get).machine.memory
        if a.handle.kind = b.handle.kind then
          return .ok (.flag (a.handle.address m == b.handle.address m))
        else unsupported

/-! ## Sessions -/

/-- Whether a step about an allocator releases it. -/
def AllocatorAction.releases : AllocatorAction → Bool
  | reset | tearDown | drop => true
  | stats | name | inspect => false

/-- Do what a step asks of an allocator; before a release the handles into it are forgotten. -/
def actOnAllocator (key : String) (action : AllocatorAction) : HandleRun := do
  match allocator? key (← Run.get) with
  | none => return refuse .noAllocator
  | some (id, a) =>
    if action.releases then onDesk (·.notOf key)
    let result ← actOn id a action
    return result.map HandleReply.allocator

/-- Carry out a step. -/
def HandleStep.perform : HandleStep → HandleRun
  | make target q home k making => Session.make target q home k making
  | makeInContext target q label standard sequential parallel =>
    Session.makeInContext target q label standard sequential parallel
  | use name u => withSlot name (useHandle name u)
  | derive name target d => withSlot name (deriveHandle name target d)
  | spend name s => withSlot name (spendHandle name s)
  | pair first second p => pairHandles first second p
  | onAllocator key action => actOnAllocator key action
  | unknown name => withSlot name fun _ => return refuse .badStep

/-- Drop the handles of slots in order. -/
def dropSlots : Slots → Run HandleSession (List (StepReport String))
  | [] => return []
  | (name, slot) :: rest => do
    let report ← observe do
      onDesk (·.erase name)
      onMachine (Machine.dropHandle slot.handle)
      return .ok name
    return report :: (← dropSlots rest)

/-- Carry out a session about handles. -/
def runHandles (level : Option Log.Level) (declared : List (String × Declaration))
    (steps : List HandleStep) : Run Machine (Transcript HandleReply) :=
  run level [] do
    declareAll declared
    let reports ← observeAll HandleStep.perform steps
    let dropped ← dropSlots (Slots.sorted (← Run.get).desk)
    let ending ← dropAllArenas
    return ⟨reports, dropped ++ ending⟩

end Custody.Session
