import Custody.Machine.Storage

/-!
# Letting go, one task at a time

`Task.advance` carries out one task and answers with the tasks that it leads to, which come
before everything else that is still to be done. What letting go of a handle leads to depends
on how the handle refers to its value:

* a unique owner destroys the value and gives the storage back by itself, through the allocator
  that the handle carries and the layout of its type;
* an own or a local owner that is the last destroys the value and gives the block back;
* a discarding owner destroys the value and retires the block;
* a collected value is left to its allocator;
* the last strong owner destroys the value and gives up the reference that the strong owners
  share, and the last observer gives the block back.

A value whose destruction begins leaves its remains in the cell, so that its handles are let go
of once, however often it is destroyed. A task that advances leads to tasks of less weight, the
values in their cells included; this is `Task.advance_ensures`.
-/

namespace Custody

namespace Machine

/-- Begin the destruction of the value in a cell; the answer is what it takes. -/
def beginDestruction (c : CellId) : Run Machine (List Task) := fun m =>
  match m.memory.cell? c with
  | none => .returned [] m
  | some cell =>
    .returned cell.value.plan
      { process := m.process.after (.storage (.destructionBegan c))
        memory := m.memory.setCell c { cell with value := cell.value.remains } }

/-- What comes of a counting operation that failed. -/
def countFailed {α : Type} (kind : Kind) (state : BlockState) : CountFault → Run Machine α
  | .overflow => fail (.refCountOverflow kind.name)
  | .doubleFree => fail (.doubleFree kind.name)
  | .wrongGroup needed =>
    panic (.text ("internal error: entered unreachable code: " ++ state.qualifier.title ++
      " block used as a " ++ needed.qualifier.name ++ " group"))

/-- Note that a counting operation on the control block of a cell failed, and fail. -/
def miscount {α : Type} (c : CellId) (kind : Kind) (state : BlockState) (fault : CountFault) :
    Run Machine α := do
  noteStorage (.miscounted c fault)
  countFailed kind state fault

/-- Do a counting operation on the control block of a cell. -/
def recount {α : Type} [Inhabited α] (c : CellId)
    (operation : BlockState → BlockState × Except CountFault α) : Run Machine α := fun m =>
  match m.memory.cell? c with
  | none => .returned default m
  | some cell =>
    match cell.state with
    | none => .returned default m
    | some state =>
      let after :=
        { m with memory := m.memory.setCell c { cell with state := some (operation state).1 } }
      match (operation state).2 with
      | .ok answer => .returned answer after
      | .error fault => miscount c cell.kind state fault after

/-- A task that concerns the storage of a cell. -/
def storageTask (task : AllocatorId → Layout → CellId → Task) (c : CellId) :
    Run Machine (List Task) :=
  ofMemory fun m =>
    match m.cell? c with
    | none => []
    | some cell => cell.home.toList.map fun home => task home cell.layout c

/-- Destroy the value in a cell, and have its storage dealt with after that. -/
def destroyWith (task : AllocatorId → Layout → CellId → Task) (c : CellId) :
    Run Machine (List Task) := do
  let tasks ← beginDestruction c
  return tasks ++ (← storageTask task c)

/-- What letting go of a handle that is not empty leads to. -/
def letGo (kind : Kind) (c : CellId) : Ownership → Run Machine (List Task)
  | .unique home => do return (← beginDestruction c) ++ [.giveBack home kind.layout c]
  | .block .own => destroyWith .giveBack c
  | .block .discard => destroyWith .retire c
  | .block .collect => return []
  | .block .strong => do
    if ← recount c BlockState.decrementStrong then return (← beginDestruction c) ++ [.leaveGroup c]
    else return []
  | .block .handle => do
    if ← recount c BlockState.decrementLocal then destroyWith .giveBack c else return []
  | .weak => do
    if ← recount c BlockState.decrementWeak then storageTask .giveBack c else return []

/-- Announce a label. Some labels panic then, unless the thread is unwinding already. -/
def announce (label : Label) : Run Machine Unit := do
  note (.destroyed label)
  match label.panicMessage? with
  | none => pure ()
  | some message => if ← isUnwinding then pure () else panic (.text message)

/-- Where the storage of a cell begins. -/
def base (c : CellId) : Run Machine Address :=
  ofMemory fun m => (m.cell? c).elim 0 (·.base)

end Machine

namespace Task

/-- Carry out a task; the answer is what it leads to. -/
def advance : Task → Run Machine (List Task)
  | drop h =>
    match h.link with
    | none => return []
    | some l => Machine.letGo h.kind l.cell h.ownership
  | announce label => do
    Machine.announce label
    return []
  | leaveGroup c => do
    if ← Machine.recount c BlockState.decrementWeak then Machine.storageTask .giveBack c
    else return []
  | giveBack a l c => do
    Machine.noteStorage (.handedBack c)
    Machine.deallocate a (← Machine.base c) l
    return []
  | retire a l c => do
    Machine.noteStorage (.handedBack c)
    Machine.retire a (← Machine.base c) l
    return []

/-- An empty handle is let go of at once. -/
theorem advance_drop_of_none {h : Handle} (link : h.link = none) : (drop h).advance = pure [] := by
  simp only [advance, link]

theorem advance_drop_of_some {h : Handle} {l : Link} (link : h.link = some l) :
    (drop h).advance = Machine.letGo h.kind l.cell h.ownership := by
  simp only [advance, link]

end Task

/-! ## Weights -/

namespace Memory

theorem weight_setCell {m : Memory} {c : CellId} {old : Cell} (new : Cell)
    (h : m.cell? c = some old) :
    (m.setCell c new).weight + old.weight = m.weight + new.weight :=
  Slab.total_set Cell.weight h

end Memory

namespace Machine

open Outcome

/-- Operations of the process leave the weight of the memory alone. -/
theorem onProcess_ensures {α : Type} (act : Run Process α) (m : Machine) :
    (onProcess act m).Ensures (fun _ n => n.memory = m.memory) (fun n => n.memory = m.memory) := by
  unfold onProcess Run.within
  cases act m.process <;> simp [mapState, Ensures]

/-- The weight of a value moves from its cell to the tasks, and what is left weighs little. -/
theorem beginDestruction_ensures (c : CellId) (m : Machine) :
    (beginDestruction c m).Ensures
      (fun tasks n => n.memory.weight + Task.total tasks ≤ m.memory.weight + 5 ∧
        n.memory.weight ≤ m.memory.weight)
      (fun n => n.memory.weight ≤ m.memory.weight) := by
  unfold beginDestruction
  split
  · exact ⟨Nat.le_add_right _ _, Nat.le_refl _⟩
  next cell found =>
    have kept := Memory.weight_setCell { cell with value := cell.value.remains } found
    have small := cell.value.weight_remains_le
    have less := cell.value.weight_remains_le_weight
    simp only [Cell.weight] at kept
    constructor
    · show (m.memory.setCell c { cell with value := cell.value.remains }).weight +
        cell.value.weight ≤ _
      omega
    · show (m.memory.setCell c { cell with value := cell.value.remains }).weight ≤ _
      omega

/-- A failed count is the business of the process alone. -/
theorem countFailed_ensures {α : Type} (kind : Kind) (state : BlockState) (f : CountFault)
    (m : Machine) :
    (countFailed kind state f m : Outcome Machine α).Ensures (fun _ n => n.memory = m.memory)
      (fun n => n.memory = m.memory) := by
  cases f with
  | overflow => exact onProcess_ensures (Process.fail _) m
  | doubleFree => exact onProcess_ensures (Process.fail _) m
  | wrongGroup needed => exact onProcess_ensures (Process.panic _) m

theorem miscount_ensures {α : Type} (c : CellId) (kind : Kind) (state : BlockState)
    (f : CountFault) (m : Machine) :
    (miscount c kind state f m : Outcome Machine α).Ensures (fun _ n => n.memory = m.memory)
      (fun n => n.memory = m.memory) := by
  have noted : noteStorage (.miscounted c f) m = .returned ()
      { m with process := m.process.after (.storage (.miscounted c f)) } := rfl
  unfold miscount
  rw [Run.bind_apply, noted]
  exact countFailed_ensures kind state f _

/-- Counting leaves the weight of the memory alone, also where it fails. -/
theorem recount_ensures {α : Type} [Inhabited α] (c : CellId)
    (operation : BlockState → BlockState × Except CountFault α) (m : Machine) :
    (recount c operation m).Ensures (fun _ n => n.memory.weight = m.memory.weight)
      (fun n => n.memory.weight = m.memory.weight) := by
  unfold recount
  split
  · rfl
  next cell found =>
    split
    · rfl
    next state _ =>
      have same := Memory.weight_setCell { cell with state := some (operation state).1 } found
      have same : (m.memory.setCell c { cell with state := some (operation state).1 }).weight =
          m.memory.weight := Nat.add_right_cancel same
      dsimp only
      split
      · exact same
      next fault _ =>
        exact (miscount_ensures c cell.kind state fault _).mono
          (fun _ n h => by rw [h]; exact same) (fun n h => by rw [h]; exact same)

/-- Finding out where storage belongs changes nothing. -/
theorem storageTask_ensures (task : AllocatorId → Layout → CellId → Task)
    (light : ∀ a l c, (task a l c).weight = 1) (c : CellId) (m : Machine) :
    (storageTask task c m).Ensures (fun tasks n => n = m ∧ Task.total tasks ≤ 1)
      (fun n => n = m) := by
  refine ⟨rfl, ?_⟩
  dsimp only
  split
  · exact Nat.zero_le _
  next cell _ => cases cell.home <;> simp [light]

theorem destroyWith_ensures (task : AllocatorId → Layout → CellId → Task)
    (light : ∀ a l c, (task a l c).weight = 1) (c : CellId) (m : Machine) :
    (destroyWith task c m).Ensures
      (fun tasks n => n.memory.weight + Task.total tasks ≤ m.memory.weight + 6)
      (fun n => n.memory.weight ≤ m.memory.weight) := by
  refine (beginDestruction_ensures c m).andThen fun taken n first => ?_
  rw [Run.bind_apply]
  refine ((storageTask_ensures task light c n).mono (fun _ _ h => h) ?_).andThen ?_
  · rintro _ rfl
    omega
  · rintro more o ⟨rfl, second⟩
    show _ + Task.total (taken ++ more) ≤ _
    simp only [Task.total_append]
    omega

/-- Announcing a label leaves the memory alone. -/
theorem announce_ensures (label : Label) (m : Machine) :
    (announce label m).Ensures (fun _ n => n.memory = m.memory) (fun n => n.memory = m.memory) := by
  unfold announce
  rw [Run.bind_apply]
  refine (onProcess_ensures _ m).andThen fun _ n kept => ?_
  cases label.panicMessage? with
  | none => exact kept
  | some message =>
    show Ensures _ _ ((if n.process.isUnwinding then pure () else panic (.text message) :
      Run Machine Unit) n)
    split
    · exact kept
    · exact kept

/-- To count a reference out adds no weight, and what is done about the last one may add less than
is allowed for. -/
theorem countOut_ensures {last : Run Machine (List Task)} {allowed : Nat} (positive : 0 < allowed)
    (light : ∀ m, (last m).Ensures
      (fun tasks n => n.memory.weight + Task.total tasks < m.memory.weight + allowed)
      (fun n => n.memory.weight ≤ m.memory.weight))
    (c : CellId) (operation : BlockState → BlockState × Except CountFault Bool) (m : Machine) :
    ((do if ← recount c operation then last else return [] : Run Machine (List Task)) m).Ensures
      (fun tasks n => n.memory.weight + Task.total tasks < m.memory.weight + allowed)
      (fun n => n.memory.weight ≤ m.memory.weight) := by
  refine ((recount_ensures c operation m).mono (fun _ _ h => h) fun _ h => Nat.le_of_eq h).andThen
    fun isLast n kept => ?_
  cases isLast with
  | false =>
    show _ + 0 < _
    omega
  | true =>
    rw [← kept]
    exact light n

/-- What letting go of a handle leads to weighs less than a handle that is not empty. -/
theorem letGo_ensures (kind : Kind) (c : CellId) (o : Ownership) (m : Machine) :
    (letGo kind c o m).Ensures
      (fun tasks n => n.memory.weight + Task.total tasks < m.memory.weight + 8)
      (fun n => n.memory.weight ≤ m.memory.weight) := by
  match o with
  | .unique home =>
    refine (beginDestruction_ensures c m).andThen fun taken n first => ?_
    show _ + Task.total (taken ++ _) < _
    simp only [Task.total_append, Task.total_cons, Task.total_nil, Task.weight]
    omega
  | .block .own =>
    exact (destroyWith_ensures _ (fun _ _ _ => rfl) c m).mono (fun _ _ _ => by omega) fun _ h => h
  | .block .discard =>
    exact (destroyWith_ensures _ (fun _ _ _ => rfl) c m).mono (fun _ _ _ => by omega) fun _ h => h
  | .block .collect =>
    show _ + 0 < _
    omega
  | .block .strong =>
    refine countOut_ensures (by decide) (fun n => ?_) c _ m
    refine (beginDestruction_ensures c n).andThen fun taken o first => ?_
    show _ + Task.total (taken ++ _) < _
    simp only [Task.total_append, Task.total_cons, Task.total_nil, Task.weight]
    omega
  | .block .handle =>
    refine countOut_ensures (by decide) (fun n => ?_) c _ m
    exact (destroyWith_ensures _ (fun _ _ _ => rfl) c n).mono (fun _ _ _ => by omega) fun _ h => h
  | .weak =>
    refine countOut_ensures (by decide) (fun n => ?_) c _ m
    refine (storageTask_ensures _ (fun _ _ _ => rfl) c n).mono ?_ ?_
    · rintro _ _ ⟨rfl, _⟩
      omega
    · rintro _ rfl
      exact Nat.le_refl _

end Machine

namespace Task

open Machine Outcome

/-- Giving storage back adds no weight. -/
private theorem giveBack_ensures (mark : Address → StorageEvent)
    (take : Address → Memory → Memory) (kept : ∀ a m, (take a m).weight = m.weight) (c : CellId)
    (m : Machine) :
    ((do
      noteStorage (.handedBack c)
      let a ← base c
      noteStorage (mark a)
      onMemory (take a)
      return [] : Run Machine (List Task)) m).Ensures
      (fun tasks n => n.memory.weight + Task.total tasks ≤ m.memory.weight)
      (fun n => n.memory.weight ≤ m.memory.weight) := by
  show Memory.weight (take _ _) + 0 ≤ _
  exact Nat.le_of_eq (kept _ m.memory)

/-- A task leads to tasks that weigh less, with what they take out of cells. -/
theorem advance_ensures (t : Task) (m : Machine) :
    (t.advance m).Ensures
      (fun more n => n.memory.weight + total more < m.memory.weight + t.weight)
      (fun n => n.memory.weight ≤ m.memory.weight) := by
  match t with
  | drop ⟨o, kind, none⟩ =>
    show _ + 0 < _ + 1
    omega
  | drop ⟨o, kind, some l⟩ => exact letGo_ensures kind l.cell o m
  | announce label =>
    refine ((announce_ensures label m).mono (fun _ _ h => h) fun n h => ?_).andThen
      fun _ n h => ?_
    · exact Nat.le_of_eq (congrArg Memory.weight h)
    · show n.memory.weight + 0 < m.memory.weight + 1
      rw [h]
      exact Nat.lt_succ_self _
  | leaveGroup c =>
    refine countOut_ensures (Nat.succ_pos 1) (fun n => ?_) c _ m
    refine (storageTask_ensures _ (fun _ _ _ => rfl) c n).mono ?_ ?_
    · rintro _ _ ⟨rfl, _⟩
      omega
    · rintro _ rfl
      exact Nat.le_refl _
  | giveBack a l c =>
    exact (giveBack_ensures (fun start => .deallocated a start l) (fun start m =>
      m.deallocate a start l) (fun _ m => m.weight_deallocate a _ l) c m).mono
      (fun _ _ h => Nat.lt_succ_of_le h) fun _ h => h
  | retire a l c =>
    exact (giveBack_ensures (fun start => .retired a start l) (fun _ m =>
      m.changeAllocator a Allocator.retire) (fun _ m => m.weight_changeAllocator a _) c m).mono
      (fun _ _ h => Nat.lt_succ_of_le h) fun _ h => h

end Task

end Custody
