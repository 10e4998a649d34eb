import Custody.Proofs.Likeness
import Custody.Proofs.Moving

/-!
# Strong groups and their local twins

Two runs of a program, one with groups of strong owners that nobody observes, the other with groups
on one thread in their place. `Handle.Twin` relates the handles of the first run to those of the
second, and `Cell.Twin` the cells: a cell of such a group has the same value and the same count of
owners, and the observers of the strong one are at most the one that stands for its owners.

`Machine.Twins` relates whole machines. What does not depend on how a group counts they do in
pairs: `Machine.Pairs`.
-/

namespace Custody

/-! ## Twins -/

/-- The same handle, or a local owner for a strong one. -/
inductive Handle.Twin : Handle → Handle → Prop
  | same (h : Handle) : Twin h h
  | shared {h : Handle} (owns : h.ownership = .block .strong) : Twin h (h.held (.block .handle))

namespace Handle.Twin

variable {h h' : Handle}

theorem link (twin : h.Twin h') : h'.link = h.link := by
  cases twin <;> rfl

theorem target? (twin : h.Twin h') : h'.target? = h.target? :=
  congrArg (Option.map Link.target) twin.link

theorem isClonable (twin : h.Twin h') : Session.isClonable h' = Session.isClonable h := by
  cases twin with
  | same => rfl
  | shared owns =>
    unfold Session.isClonable
    rw [owns]
    rfl

end Handle.Twin

/-- The same cell, or one whose local group has as many owners as a strong one that nobody
observes. -/
inductive Cell.Twin : Cell → Cell → Prop
  | same (c : Cell) : Twin c c
  | shared {c : Cell} {owners observers : Word} (state : c.state = some (.strong owners observers))
      (few : observers = 0 ∨ observers = 1) : Twin c { c with state := some (.handle owners) }

namespace Cell.Twin

variable {c c' : Cell}

theorem home (twin : c.Twin c') : c'.home = c.home := by
  cases twin <;> rfl

theorem base (twin : c.Twin c') : c'.base = c.base := by
  cases twin <;> rfl

theorem layout (twin : c.Twin c') : c'.layout = c.layout := by
  cases twin <;> rfl

theorem kind (twin : c.Twin c') : c'.kind = c.kind := by
  cases twin <;> rfl

theorem value (twin : c.Twin c') : c'.value = c.value := by
  cases twin <;> rfl

theorem address (twin : c.Twin c') : c'.address = c.address := by
  cases twin <;> rfl

theorem owners (twin : c.Twin c') :
    c'.state.map BlockState.owners = c.state.map BlockState.owners := by
  cases twin with
  | same => rfl
  | shared state few =>
    rw [state]
    rfl

/-- Twins with another value. -/
theorem withValue (twin : c.Twin c') (v : Value) :
    Twin { c with value := v } { c' with value := v } := by
  cases twin with
  | same => exact .same _
  | shared state few => exact .shared (c := { c with value := v }) state few

/-- Cells that differ in no more than the state are the same with the same state. -/
theorem withState (twin : c.Twin c') (s : Option BlockState) :
    { c' with state := s } = { c with state := s } := by
  cases twin <;> rfl

end Cell.Twin

/-- Memories whose cells are twins and that are otherwise the same. -/
structure Memory.Twins (m n : Memory) : Prop where
  heap : n.heap = m.heap
  allocators : n.allocators = m.allocators
  nextArena : n.nextArena = m.nextArena
  nothings : n.nothings = m.nothings
  next : n.cells.next = m.cells.next
  cells : ∀ c, Option.Rel Cell.Twin (m.cell? c) (n.cell? c)

namespace Memory.Twins

variable {m n : Memory} {c : CellId} {cell cell' : Cell}

theorem refl (m : Memory) : m.Twins m := by
  refine ⟨rfl, rfl, rfl, rfl, rfl, fun c => ?_⟩
  cases m.cell? c with
  | none => exact .none
  | some cell => exact .some (.same cell)

theorem found (twins : m.Twins n) (found : m.cell? c = some cell) :
    ∃ cell', n.cell? c = some cell' ∧ cell.Twin cell' :=
  (twins.cells c).exists_right found

theorem missing (twins : m.Twins n) (vacant : m.cell? c = none) : n.cell? c = none := by
  have related := twins.cells c
  rw [vacant] at related
  generalize n.cell? c = other at related
  cases related with
  | none => rfl

/-- What twins have in common can be seen in either. -/
theorem bind {α : Type} (twins : m.Twins n) {f : Cell → Option α}
    (common : ∀ cell cell', cell.Twin cell' → f cell' = f cell) (c : CellId) :
    (n.cell? c).bind f = (m.cell? c).bind f := by
  cases found : m.cell? c with
  | none => rw [twins.missing found]
  | some cell =>
    obtain ⟨cell', there, twin⟩ := twins.found found
    rw [there]
    exact common cell cell' twin

theorem read? (twins : m.Twins n) (p : Place) : n.read? p = m.read? p :=
  twins.bind (fun _ _ twin => by rw [twin.value]) p.cell

theorem address? (twins : m.Twins n) (p : Place) : n.address? p = m.address? p :=
  twins.bind (fun _ _ twin => by rw [twin.kind, twin.address]) p.cell

theorem owners (twins : m.Twins n) (c : CellId) :
    (n.block? c).map BlockState.owners = (m.block? c).map BlockState.owners := by
  unfold Memory.block?
  rw [Option.map_bind, Option.map_bind]
  exact twins.bind (fun _ _ twin => twin.owners) c

/-- Twins in place of twins. -/
theorem setCell (twins : m.Twins n) {old old' : Cell} (found : m.cell? c = some old)
    (found' : n.cell? c = some old') (twin : cell.Twin cell') :
    (m.setCell c cell).Twins (n.setCell c cell') := by
  refine { twins with next := ?_, cells := fun d => ?_ }
  · show (n.cells.set c cell').next = (m.cells.set c cell).next
    rw [Slab.next_set, Slab.next_set, twins.next]
  · by_cases same : d = c
    · subst same
      rw [cell?_setCell_self found, cell?_setCell_self found']
      exact .some twin
    · rw [cell?_setCell_of_ne m cell same, cell?_setCell_of_ne n cell' same]
      exact twins.cells d

theorem addCell (twins : m.Twins n) (twin : cell.Twin cell') :
    (m.addCell cell).Twins (n.addCell cell') := by
  refine { twins with next := ?_, cells := fun d => ?_ }
  · show (n.cells.push cell').next = (m.cells.push cell).next
    rw [Slab.next_push, Slab.next_push, twins.next]
  · by_cases same : d = m.cells.next
    · subst same
      have there := cell?_addCell_self n cell'
      rw [twins.next] at there
      rw [cell?_addCell_self, there]
      exact .some twin
    · have other : d ≠ n.cells.next := by rwa [twins.next]
      rw [cell?_addCell_of_ne m cell same, cell?_addCell_of_ne n cell' other]
      exact twins.cells d

theorem change (twins : m.Twins n) (p : Place) (f : Value → Value) :
    (m.change p f).Twins (n.change p f) := by
  unfold Memory.change
  cases found : m.cell? p.cell with
  | none =>
    rw [twins.missing found]
    exact twins
  | some cell =>
    obtain ⟨cell', there, twin⟩ := twins.found found
    rw [there]
    refine twins.setCell found there ?_
    rw [twin.value]
    exact twin.withValue _

theorem setAllocator (twins : m.Twins n) (id : AllocatorId) (a : Allocator) :
    (m.setAllocator id a).Twins (n.setAllocator id a) :=
  { twins with allocators := congrArg (Slab.set · id a) twins.allocators }

theorem allocator? (twins : m.Twins n) (id : AllocatorId) : n.allocator? id = m.allocator? id :=
  congrArg (Slab.get? · id) twins.allocators

theorem changeAllocator (twins : m.Twins n) (id : AllocatorId) (f : Allocator → Allocator) :
    (m.changeAllocator id f).Twins (n.changeAllocator id f) := by
  unfold Memory.changeAllocator
  rw [twins.allocator?]
  cases m.allocator? id with
  | none => exact twins
  | some a => exact twins.setAllocator id (f a)

/-- Twins answer a request alike. -/
theorem allocate (twins : m.Twins n) (id : AllocatorId) (a : Allocator) (l : Layout)
    (d : Option Destructor) :
    (n.allocate id a l d).1 = (m.allocate id a l d).1 ∧
      (m.allocate id a l d).2.Twins (n.allocate id a l d).2 := by
  unfold Memory.allocate
  rw [twins.heap]
  rcases a.allocate m.heap.grant? l d with ⟨e | grant, after⟩
  · exact ⟨rfl, twins.setAllocator id after⟩
  · exact ⟨rfl, { twins.setAllocator id after with heap := rfl }⟩

theorem deallocate (twins : m.Twins n) (id : AllocatorId) (address : Address) (l : Layout) :
    (m.deallocate id address l).Twins (n.deallocate id address l) := by
  have arena : n.arena? id = m.arena? id := by
    unfold Memory.arena?
    rw [twins.allocator?]
  unfold Memory.deallocate
  rw [arena, twins.heap]
  exact { twins.changeAllocator id Allocator.deallocate with heap := rfl }

end Memory.Twins

/-- Machines that are twins: what concerns the process is alike, and the memories are twins. -/
structure Machine.Twins (m n : Machine) : Prop where
  process : m.process.Alike n.process
  memory : m.memory.Twins n.memory

/-! ## What twins do in pairs -/

namespace Machine

variable {α β : Type}

/-- Twins do this in pairs. -/
def Pairs (act act' : Run Machine α) : Prop :=
  ∀ m n, m.Twins n → (act m).Paired Eq Twins (act' n)

namespace Pairs

theorem pure (a : α) : Pairs (pure a) (pure a) := fun _ _ twins => .returned rfl twins

theorem bind {act act' : Run Machine α} {next next' : α → Run Machine β} (first : Pairs act act')
    (second : ∀ a, Pairs (next a) (next' a)) : Pairs (act >>= next) (act' >>= next') := by
  refine fun m n twins => Run.bind_paired (first m n twins) fun a b u v _ _ same twins => ?_
  cases same
  exact second a u v twins

theorem ofMemory {f : Memory → α} (common : ∀ m n : Memory, m.Twins n → f n = f m) :
    Pairs (ofMemory f) (ofMemory f) :=
  fun _ _ twins => .returned (common _ _ twins.memory).symm twins

theorem onMemory {f : Memory → Memory} (kept : ∀ m n, m.Twins n → (f m).Twins (f n)) :
    Pairs (onMemory f) (onMemory f) :=
  fun _ _ twins => .returned rfl ⟨twins.process, kept _ _ twins.memory⟩

theorem onProcess {act act' : Run Process α} (h : Process.Pairs act act') :
    Pairs (onProcess act) (onProcess act') := by
  intro m n twins
  exact (h _ _ twins.process).mapState fun p q alike => ⟨alike, twins.memory⟩

end Pairs

theorem note_pairs (e : Event) : Pairs (note e) (note e) :=
  .onProcess (Process.note_pairs (.same e))

theorem noteStorage_pairs (e : StorageEvent) : Pairs (noteStorage e) (noteStorage e) :=
  note_pairs (.storage e)

theorem fail_pairs (fault : Fault) : Pairs (fail fault : Run Machine α) (fail fault) :=
  .onProcess (Process.failWith_pairs (Process.perform_alike _) fault)

theorem panic_pairs (payload : Payload) : Pairs (panic payload : Run Machine α) (panic payload) :=
  .onProcess (Process.panic_pairs payload)

theorem isUnwinding_pairs : Pairs isUnwinding isUnwinding :=
  fun _ _ twins => .returned twins.process.isUnwinding.symm twins

theorem announce_pairs (label : Label) : Pairs (announce label) (announce label) := by
  refine .bind (note_pairs _) fun _ => ?_
  cases label.panicMessage? with
  | none => exact .pure ()
  | some message =>
    refine .bind isUnwinding_pairs fun unwinding => ?_
    cases unwinding with
    | true => exact .pure ()
    | false => exact panic_pairs _

theorem noteGrant_pairs (id : AllocatorId) (a : Allocator) (l : Layout) (d : Option Destructor)
    (grant : Grant) : Pairs (noteGrant id a l d grant) (noteGrant id a l d grant) := by
  unfold noteGrant
  cases chunkObtained? a l grant with
  | none => exact noteStorage_pairs _
  | some chunk => exact .bind (noteStorage_pairs _) fun _ => noteStorage_pairs _

theorem allocate_pairs (id : AllocatorId) (l : Layout) (d : Option Destructor) :
    Pairs (allocate id l d) (allocate id l d) := by
  intro m n twins
  have there := twins.memory.allocator? id
  cases found : m.memory.allocator? id with
  | none =>
    rw [found] at there
    rw [allocate_of_none found, allocate_of_none there]
    exact .returned rfl twins
  | some a =>
    rw [found] at there
    rw [allocate_of_some found, allocate_of_some there]
    obtain ⟨answers, memories⟩ := twins.memory.allocate id a l d
    generalize m.memory.allocate id a l d = first at answers memories
    generalize n.memory.allocate id a l d = second at answers memories
    obtain ⟨answer, after⟩ := first
    obtain ⟨answer', after'⟩ := second
    obtain rfl : answer' = answer := answers
    cases answer' with
    | error e => exact .returned rfl ⟨twins.process, memories⟩
    | ok grant =>
      have noted := noteGrant_pairs id a l d grant { m with memory := after }
        { n with memory := after' } ⟨twins.process, memories⟩
      exact noted.andThen fun _ _ _ _ _ _ _ twins => .returned rfl twins

theorem base_pairs (c : CellId) : Pairs (base c) (base c) :=
  .ofMemory fun m n twins => by
    cases found : m.cell? c with
    | none => rw [twins.missing found]
    | some cell =>
      obtain ⟨cell', there, twin⟩ := twins.found found
      rw [there]
      exact twin.base

theorem deallocate_pairs (id : AllocatorId) (address : Address) (l : Layout) :
    Pairs (deallocate id address l) (deallocate id address l) :=
  .bind (noteStorage_pairs _) fun _ => .onMemory fun _ _ twins => twins.deallocate id address l

theorem retire_pairs (id : AllocatorId) (address : Address) (l : Layout) :
    Pairs (retire id address l) (retire id address l) :=
  .bind (noteStorage_pairs _) fun _ => .onMemory fun _ _ twins => twins.changeAllocator id _

theorem beginDestruction_pairs (c : CellId) : Pairs (beginDestruction c) (beginDestruction c) := by
  intro m n twins
  unfold beginDestruction
  cases found : m.memory.cell? c with
  | none =>
    rw [twins.memory.missing found]
    exact .returned rfl twins
  | some cell =>
    obtain ⟨cell', there, twin⟩ := twins.memory.found found
    rw [there]
    dsimp only
    rw [twin.value]
    exact .returned rfl ⟨twins.process.after (.same _),
      twins.memory.setCell found there (twin.withValue _)⟩

theorem storageTask_pairs (task : AllocatorId → Layout → CellId → Task) (c : CellId) :
    Pairs (storageTask task c) (storageTask task c) :=
  .ofMemory fun m n twins => by
    cases found : m.cell? c with
    | none => rw [twins.missing found]
    | some cell =>
      obtain ⟨cell', there, twin⟩ := twins.found found
      rw [there]
      dsimp only
      rw [twin.home, twin.layout]

theorem destroyWith_pairs (task : AllocatorId → Layout → CellId → Task) (c : CellId) :
    Pairs (destroyWith task c) (destroyWith task c) :=
  .bind (beginDestruction_pairs c) fun _ => .bind (storageTask_pairs task c) fun _ => .pure _

/-! ## Counting -/

section Counting

variable {m n : Machine} {c : CellId} {cell : Cell}

theorem countFailed_pairs (kind : Kind) (state : BlockState) (f : CountFault) :
    Pairs (countFailed kind state f : Run Machine α) (countFailed kind state f) := by
  cases f with
  | overflow => exact fail_pairs _
  | doubleFree => exact fail_pairs _
  | wrongGroup needed => exact panic_pairs _

theorem miscount_pairs (c : CellId) (kind : Kind) (state : BlockState) (f : CountFault) :
    Pairs (miscount c kind state f : Run Machine α) (miscount c kind state f) :=
  .bind (noteStorage_pairs _) fun _ => countFailed_pairs kind state f

/-- Where the cells are the same, counting comes to the same. -/
theorem recount_paired [Inhabited α] (operation : BlockState → BlockState × Except CountFault α)
    (twins : m.Twins n) (same : n.memory.cell? c = m.memory.cell? c) :
    (recount c operation m).Paired Eq Twins (recount c operation n) := by
  unfold recount
  rw [same]
  cases found : m.memory.cell? c with
  | none => exact .returned rfl twins
  | some cell =>
    dsimp only
    cases cell.state with
    | none => exact .returned rfl twins
    | some s =>
      have after : Twins
          { m with memory := m.memory.setCell c { cell with state := some (operation s).1 } }
          { n with memory := n.memory.setCell c { cell with state := some (operation s).1 } } :=
        ⟨twins.process, twins.memory.setCell found (same.trans found) (.same _)⟩
      dsimp only
      cases (operation s).2 with
      | ok answer => exact .returned rfl after
      | error fault => exact miscount_pairs c cell.kind s fault _ _ after

/-- Where they are twins, each counts in its own way. -/
theorem recount_shared [Inhabited α]
    {operation operation' : BlockState → BlockState × Except CountFault α}
    {s w s' w' : Word} {answer : α} (twins : m.Twins n) (found : m.memory.cell? c = some cell)
    (state : cell.state = some (.strong s w))
    (found' : n.memory.cell? c = some { cell with state := some (.handle s) })
    (counted : operation (.strong s w) = (.strong s' w', .ok answer))
    (counted' : operation' (.handle s) = (.handle s', .ok answer)) (few : w' = 0 ∨ w' = 1) :
    (recount c operation m).Paired Eq Twins (recount c operation' n) := by
  rw [recount_ok found state counted, recount_ok found' rfl counted']
  refine .returned rfl ⟨twins.process, twins.memory.setCell found found' ?_⟩
  exact .shared (c := { cell with state := some (.strong s' w') }) rfl few

end Counting

end Machine

end Custody
