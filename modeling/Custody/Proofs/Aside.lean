import Custody.Handle.Create
import Custody.Proofs.Silence
import Custody.Release.Teardown

/-!
# What does not concern cells

Allocators hand out storage, take it back and are released, and the process writes and reports,
without any of it touching a cell: the cells are as they were, and so is the part of the deeds
that is about cells. `Machine.SameCells` says that of an operation. Tallies and what blocks say
of them depend on nothing else.
-/

namespace Custody

/-- Whether an event is about one cell. -/
def StorageEvent.isAboutCell : StorageEvent → Bool
  | placed .. | destructionBegan _ | destructionFailed _ | handedBack _ => true
  | made _ | granted .. | deallocated .. | retired .. | miscounted .. | releaseBegan _
  | collectedRun .. | chunkObtained .. | chunkReleased .. | bulkReleased .. => false

namespace Machine

/-- The deeds that are about cells, newest first. -/
def cellDeeds (m : Machine) : List StorageEvent := m.deeds.filter StorageEvent.isAboutCell

/-- The cells are as they were, and nothing was done with them. -/
def SameCells (m n : Machine) : Prop :=
  n.memory.cells = m.memory.cells ∧ n.cellDeeds = m.cellDeeds

instance : IsPreorder Machine SameCells where
  refl _ := ⟨rfl, rfl⟩
  trans _ _ _ first second := ⟨second.1.trans first.1, second.2.trans first.2⟩

theorem Undisturbed.sameCells {m n : Machine} (h : m.Undisturbed n) : m.SameCells n := by
  refine ⟨congrArg Memory.cells h.1, ?_⟩
  unfold cellDeeds
  rw [h.2]

/-- Deeds about cells are counted among all deeds. -/
theorem count_cellDeeds (m : Machine) {e : StorageEvent} (h : e.isAboutCell) :
    m.cellDeeds.count e = m.deeds.count e :=
  List.count_filter h

theorem countP_cellDeeds (m : Machine) {p : StorageEvent → Bool}
    (h : ∀ e, p e = true → e.isAboutCell = true) : m.cellDeeds.countP p = m.deeds.countP p := by
  unfold cellDeeds
  rw [List.countP_filter]
  refine List.countP_congr fun e _ => ?_
  rw [Bool.and_eq_true]
  exact ⟨And.left, fun holds => ⟨holds, h e holds⟩⟩

/-! ## Operations -/

open Run

theorem onMemory_sameCells {f : Memory → Memory} (h : ∀ m, (f m).cells = m.cells) :
    (onMemory f).Keeps SameCells := fun m => ⟨h m.memory, rfl⟩

theorem noteStorage_sameCells {e : StorageEvent} (h : e.isAboutCell = false) :
    (noteStorage e).Keeps SameCells := by
  intro m
  refine ⟨rfl, ?_⟩
  show (e :: m.deeds).filter StorageEvent.isAboutCell = m.deeds.filter StorageEvent.isAboutCell
  rw [List.filter_cons_of_neg]
  rw [h]
  exact Bool.false_ne_true

theorem changeAllocator_sameCells (id : AllocatorId) (f : Allocator → Allocator) :
    (changeAllocator id f).Keeps SameCells :=
  onMemory_sameCells fun m => m.cells_changeAllocator id f

theorem noteGrant_sameCells (id : AllocatorId) (a : Allocator) (l : Layout)
    (destructor : Option Destructor) (grant : Grant) :
    (noteGrant id a l destructor grant).Keeps SameCells := by
  have granted : (noteStorage (.granted id grant.address l destructor)).Keeps SameCells :=
    noteStorage_sameCells rfl
  unfold noteGrant
  cases chunkObtained? a l grant with
  | none => exact Keeps.bind (Keeps.pure ()) fun _ => granted
  | some chunk => exact Keeps.bind (noteStorage_sameCells rfl) fun _ => granted

theorem cells_allocate (m : Memory) (id : AllocatorId) (a : Allocator) (l : Layout)
    (destructor : Option Destructor) : (m.allocate id a l destructor).2.cells = m.cells := by
  unfold Memory.allocate
  split <;> rfl

theorem allocate_sameCells (id : AllocatorId) (l : Layout) (destructor : Option Destructor) :
    (allocate id l destructor).Keeps SameCells := by
  intro m
  cases found : m.memory.allocator? id with
  | none =>
    rw [allocate_of_none found]
    exact ⟨rfl, rfl⟩
  | some a =>
    rw [allocate_of_some found]
    have same := cells_allocate m.memory id a l destructor
    generalize m.memory.allocate id a l destructor = answer at same ⊢
    obtain ⟨e | grant, after⟩ := answer
    · exact ⟨same, rfl⟩
    · have kept : m.SameCells { m with memory := after } := ⟨same, rfl⟩
      refine trans_of SameCells kept ?_
      show SameCells _ ((noteGrant id a l destructor grant { m with memory := after }).andThen
        fun _ n => .returned (Except.ok grant) n).state
      rw [Outcome.state_andThen_returned]
      exact noteGrant_sameCells id a l destructor grant _

theorem noteGrant_returns (id : AllocatorId) (a : Allocator) (l : Layout)
    (destructor : Option Destructor) (grant : Grant) (m : Machine) :
    ∃ n, noteGrant id a l destructor grant m = .returned () n := by
  unfold noteGrant
  cases chunkObtained? a l grant with
  | none => exact ⟨_, rfl⟩
  | some chunk => exact ⟨_, rfl⟩

/-- A request is always answered, if only with an error. -/
theorem allocate_returns (id : AllocatorId) (l : Layout) (destructor : Option Destructor)
    (m : Machine) : ∃ answer n, allocate id l destructor m = .returned answer n := by
  cases found : m.memory.allocator? id with
  | none =>
    rw [allocate_of_none found]
    exact ⟨_, _, rfl⟩
  | some a =>
    rw [allocate_of_some found]
    rcases m.memory.allocate id a l destructor with ⟨e | grant, after⟩
    · exact ⟨_, _, rfl⟩
    · obtain ⟨n, noted⟩ := noteGrant_returns id a l destructor grant { m with memory := after }
      dsimp only
      rw [noted]
      exact ⟨_, _, rfl⟩

theorem deallocate_sameCells (id : AllocatorId) (address : Address) (l : Layout) :
    (deallocate id address l).Keeps SameCells :=
  Keeps.bind (noteStorage_sameCells rfl) fun _ =>
    onMemory_sameCells fun m => m.cells_deallocate id address l

theorem retire_sameCells (id : AllocatorId) (address : Address) (l : Layout) :
    (retire id address l).Keeps SameCells :=
  Keeps.bind (noteStorage_sameCells rfl) fun _ => changeAllocator_sameCells id _

theorem reportLeak_undisturbed (name : String) (policy : LeakPolicy) (leaked : Word) :
    (reportLeak name policy leaked).Keeps Undisturbed := by
  unfold reportLeak
  by_cases some : 0 < leaked
  · rw [if_pos some]
    cases leakSeverity? policy with
    | none => exact Keeps.pure ()
    | some severity => exact report_undisturbed _ _
  · rw [if_neg some]
    exact Keeps.pure ()

theorem releaseChunks_sameCells (id : AllocatorId) (a : Arena) :
    (releaseChunks id a).Keeps SameCells :=
  Keeps.bind (Keeps.forAll fun _ _ => noteStorage_sameCells rfl) fun _ =>
    onMemory_sameCells fun _ => rfl

theorem makeHeap_sameCells : makeHeap.Keeps SameCells := fun _ => ⟨rfl, rfl⟩

theorem makeArena_sameCells (name : Option String) (config : ArenaConfig) :
    (makeArena name config).Keeps SameCells := fun _ => ⟨rfl, rfl⟩

theorem forgetAllocator_sameCells (id : AllocatorId) : (forgetAllocator id).Keeps SameCells :=
  onMemory_sameCells fun _ => rfl

end Machine

end Custody
