import Custody.Proofs.Aside
import Custody.Proofs.Laws
import Custody.Proofs.Steps

/-!
# Books that balance

`Machine.Books m tasks` says that all counts of a machine are right: every cell says of its tally
what its control block has to say, where the tally is taken over the cells and over a list of
tasks that stands for everything outside of them. In such a machine no count is found spent, so
letting go of a handle never fails by itself: `Task.advance_books` says that a task is carried
out and the books balance again, and the only panic there is comes from a destructor.
-/

namespace Custody

theorem StorageEvent.isAboutCell_of_places {e : StorageEvent} {c : CellId}
    (h : e.places c = true) : e.isAboutCell = true := by
  cases e with
  | placed a d => rfl
  | _ => cases h

namespace Machine

/-- Every cell fits its tally. -/
def Books (m : Machine) (tasks : List Task) : Prop :=
  ∀ c, (m.tally tasks c).Fits (m.memory.cell? c)

/-! ## Tallies of tasks -/

section Tallies

variable (m : Machine) (tasks : List Task)

theorem tally_perm {tasks more : List Task} (h : tasks.Perm more) (c : CellId) :
    m.tally tasks c = m.tally more c := by
  unfold tally
  congr 1
  · funext q
    rw [Task.refs_perm q c h]
  · exact h.count_eq _
  · exact h.countP_eq _

/-- What does not concern cells changes no tally. -/
theorem tally_of_sameCells {m n : Machine} (h : m.SameCells n) (c : CellId) :
    n.tally tasks c = m.tally tasks c := by
  obtain ⟨cells, deeds⟩ := h
  have refs (q : Qualifier) : n.memory.refs q c = m.memory.refs q c := by
    unfold Memory.refs
    rw [cells]
  unfold tally
  simp only [refs]
  rw [← count_cellDeeds n rfl, ← count_cellDeeds n rfl, ← count_cellDeeds n rfl,
    ← countP_cellDeeds n fun _ => StorageEvent.isAboutCell_of_places, deeds, count_cellDeeds m rfl,
    count_cellDeeds m rfl, count_cellDeeds m rfl,
    countP_cellDeeds m fun _ => StorageEvent.isAboutCell_of_places]

theorem tally_drop_self {h : Handle} {l : Link} (link : h.link = some l) :
    m.tally (.drop h :: tasks) l.cell = (m.tally tasks l.cell).adding h.qualifier := by
  ext q
  · show Task.refs q l.cell (.drop h :: tasks) + m.memory.refs q l.cell =
      if q = h.qualifier then Task.refs q l.cell tasks + m.memory.refs q l.cell + 1
      else Task.refs q l.cell tasks + m.memory.refs q l.cell
    rw [Task.refs_cons]
    show refs q l.cell [h] + _ + _ = _
    by_cases same : q = h.qualifier
    · rw [if_pos same, same, refs_of_link_self link]
      omega
    · rw [if_neg same, refs_of_qualifier_ne _ same, Nat.zero_add]
  all_goals rfl

theorem tally_drop_of_ne {h : Handle} {l : Link} (link : h.link = some l) {c : CellId}
    (other : c ≠ l.cell) : m.tally (.drop h :: tasks) c = m.tally tasks c := by
  ext q
  · show Task.refs q c (.drop h :: tasks) + _ = Task.refs q c tasks + _
    rw [Task.refs_cons]
    show refs q c [h] + _ + _ = _
    rw [refs_of_ne q link other, Nat.zero_add]
  all_goals rfl

theorem tally_drop_of_isEmpty {h : Handle} (empty : h.isEmpty) (c : CellId) :
    m.tally (.drop h :: tasks) c = m.tally tasks c := by
  ext q
  · show Task.refs q c (.drop h :: tasks) + _ = Task.refs q c tasks + _
    rw [Task.refs_cons]
    show refs q c [h] + _ + _ = _
    rw [refs_of_isEmpty q c empty, Nat.zero_add]
  all_goals rfl

theorem tally_announce (label : Label) (c : CellId) :
    m.tally (.announce label :: tasks) c = m.tally tasks c := by
  ext q
  · exact congrArg (· + _) (Task.refs_cons_of_handles_eq_nil q c rfl tasks)
  all_goals rfl

theorem tally_leaveGroup_self (c : CellId) :
    m.tally (.leaveGroup c :: tasks) c = (m.tally tasks c).toLeave := by
  ext q
  · exact congrArg (· + _) (Task.refs_cons_of_handles_eq_nil q c rfl tasks)
  · show (Task.leaveGroup c :: tasks).count (.leaveGroup c) = tasks.count (.leaveGroup c) + 1
    rw [List.count_cons_self]
  all_goals rfl

theorem tally_leaveGroup_of_ne {c d : CellId} (other : d ≠ c) :
    m.tally (.leaveGroup c :: tasks) d = m.tally tasks d := by
  ext q
  · exact congrArg (· + _) (Task.refs_cons_of_handles_eq_nil q d rfl tasks)
  · show (Task.leaveGroup c :: tasks).count (.leaveGroup d) = tasks.count (.leaveGroup d)
    rw [List.count_cons_of_ne]
    rintro ⟨⟩
    exact other rfl
  all_goals rfl

/-- The two ways in which the storage of a cell is dealt with. -/
def Returning (task : AllocatorId → Layout → CellId → Task) : Prop :=
  task = Task.giveBack ∨ task = Task.retire

theorem tally_return_self {task : AllocatorId → Layout → CellId → Task} (way : Returning task)
    (a : AllocatorId) (l : Layout) (c : CellId) :
    m.tally (task a l c :: tasks) c = (m.tally tasks c).toReturn := by
  rcases way with rfl | rfl
  all_goals
    ext q
    · exact congrArg (· + _) (Task.refs_cons_of_handles_eq_nil q c rfl tasks)
    · rfl
    · show List.countP (Task.returns c) (_ :: tasks) = tasks.countP (Task.returns c) + 1
      rw [List.countP_cons_of_pos]
      exact beq_self_eq_true c
    all_goals rfl

theorem tally_return_of_ne {task : AllocatorId → Layout → CellId → Task} (way : Returning task)
    (a : AllocatorId) (l : Layout) {c d : CellId} (other : d ≠ c) :
    m.tally (task a l c :: tasks) d = m.tally tasks d := by
  rcases way with rfl | rfl
  all_goals
    ext q
    · exact congrArg (· + _) (Task.refs_cons_of_handles_eq_nil q d rfl tasks)
    · rfl
    · show List.countP (Task.returns d) (_ :: tasks) = tasks.countP (Task.returns d)
      rw [List.countP_cons_of_neg]
      show ¬(c == d) = true
      rw [beq_iff_eq]
      exact Ne.symm other
    all_goals rfl

end Tallies

/-! ## What changes a tally -/

/-- The machine with another state in the control block of a cell. -/
def withState (m : Machine) (c : CellId) (cell : Cell) (s : BlockState) : Machine :=
  { m with memory := m.memory.setCell c { cell with state := some s } }

/-- The machine in which the value in a cell was taken out. -/
def vacated (m : Machine) (c : CellId) (cell : Cell) : Machine :=
  { m with memory := m.memory.setCell c { cell with value := cell.value.remains } }

/-- The machine in which the destruction of the value in a cell began. -/
def begun (m : Machine) (c : CellId) (cell : Cell) : Machine :=
  { m.vacated c cell with process := m.process.after (.storage (.destructionBegan c)) }

section Changes

variable {m : Machine} {c : CellId} {cell : Cell} (found : m.memory.cell? c = some cell)
  (tasks : List Task)

include found

theorem cell?_withState_self (s : BlockState) :
    (m.withState c cell s).memory.cell? c = some { cell with state := some s } :=
  Memory.cell?_setCell_self found _

theorem cell?_begun_self :
    (m.begun c cell).memory.cell? c = some { cell with value := cell.value.remains } :=
  Memory.cell?_setCell_self found _

/-- Counting changes no tally. -/
theorem tally_withState (s : BlockState) (d : CellId) :
    (m.withState c cell s).tally tasks d = m.tally tasks d := by
  ext q
  · have same :
        (m.memory.setCell c { cell with state := some s }).refs q d = m.memory.refs q d := by
      apply Memory.refs_setCell_of_value found
      rfl
    exact congrArg (Task.refs q d tasks + ·) same
  all_goals rfl

/-- The handles of a value that is taken out of its cell are outside of cells then. -/
private theorem refs_vacated (q : Qualifier) (d : CellId) :
    Task.refs q d (cell.value.plan ++ tasks) + (m.vacated c cell).memory.refs q d =
      Task.refs q d tasks + m.memory.refs q d := by
  have moved := Memory.refs_setCell found { cell with value := cell.value.remains } q d
  rw [Value.refs_remains] at moved
  rw [Task.refs_append, Task.refs_plan]
  show _ + (m.memory.setCell c _).refs q d = _
  omega

theorem cell?_vacated_self :
    (m.vacated c cell).memory.cell? c = some { cell with value := cell.value.remains } :=
  Memory.cell?_setCell_self found _

theorem tally_vacated (d : CellId) :
    (m.vacated c cell).tally (cell.value.plan ++ tasks) d = m.tally tasks d := by
  ext q
  · exact refs_vacated found tasks q d
  · show Task.leaving d _ = Task.leaving d _
    rw [Task.leaving_plan_append]
  · show Task.returning d _ = Task.returning d _
    rw [Task.returning_plan_append]
  all_goals rfl

theorem tally_begun_self :
    (m.begun c cell).tally (cell.value.plan ++ tasks) c = (m.tally tasks c).beginning := by
  ext q
  · exact refs_vacated found tasks q c
  · show Task.leaving c _ = Task.leaving c _
    rw [Task.leaving_plan_append]
  · show Task.returning c _ = Task.returning c _
    rw [Task.returning_plan_append]
  · show List.count _ (.destructionBegan c :: m.deeds) = List.count _ m.deeds + 1
    rw [List.count_cons_self]
  all_goals rfl

theorem tally_begun_of_ne {d : CellId} (other : d ≠ c) :
    (m.begun c cell).tally (cell.value.plan ++ tasks) d = m.tally tasks d := by
  ext q
  · exact refs_vacated found tasks q d
  · show Task.leaving d _ = Task.leaving d _
    rw [Task.leaving_plan_append]
  · show Task.returning d _ = Task.returning d _
    rw [Task.returning_plan_append]
  · show List.count _ (.destructionBegan c :: m.deeds) = List.count _ m.deeds
    rw [List.count_cons_of_ne]
    rintro ⟨⟩
    exact other rfl
  all_goals rfl

end Changes

theorem cell?_withState_of_ne (m : Machine) (cell : Cell) (s : BlockState) {c d : CellId}
    (other : d ≠ c) : (m.withState c cell s).memory.cell? d = m.memory.cell? d :=
  Memory.cell?_setCell_of_ne _ _ other

theorem cell?_begun_of_ne (m : Machine) (cell : Cell) {c d : CellId} (other : d ≠ c) :
    (m.begun c cell).memory.cell? d = m.memory.cell? d :=
  Memory.cell?_setCell_of_ne _ _ other

/-! ## Books -/

namespace Books

variable {m n : Machine} {tasks more : List Task}

theorem perm (books : m.Books tasks) (h : tasks.Perm more) : m.Books more := fun c => by
  rw [← tally_perm m h]
  exact books c

theorem sameCells (books : m.Books tasks) (h : m.SameCells n) : n.Books tasks := by
  intro c
  rw [tally_of_sameCells tasks h, Memory.cell?, h.1]
  exact books c

theorem undisturbed (books : m.Books tasks) (h : m.Undisturbed n) : n.Books tasks :=
  books.sameCells h.sameCells

theorem of_drop_isEmpty {h : Handle} (empty : h.isEmpty) :
    m.Books (.drop h :: tasks) ↔ m.Books tasks := by
  unfold Books
  simp only [tally_drop_of_isEmpty m tasks empty]

theorem of_announce {label : Label} : m.Books (.announce label :: tasks) ↔ m.Books tasks := by
  unfold Books
  simp only [tally_announce]

/-- A value outside of cells counts as its handles do. -/
theorem of_plan {v : Value} :
    m.Books (v.plan ++ tasks) ↔ m.Books (v.handles.map .drop ++ tasks) := by
  have same (c : CellId) : m.tally (v.plan ++ tasks) c =
      m.tally (v.handles.map .drop ++ tasks) c := by
    ext q
    · show Task.refs q c _ + _ = Task.refs q c _ + _
      rw [Task.refs_append, Task.refs_plan, Task.refs_append, Task.refs_map_drop]
    · show Task.leaving c _ = Task.leaving c _
      rw [Task.leaving_plan_append, Task.leaving_append, Task.leaving_map_drop, Nat.zero_add]
    · show Task.returning c _ = Task.returning c _
      rw [Task.returning_plan_append, Task.returning_append, Task.returning_map_drop,
        Nat.zero_add]
    all_goals rfl
  unfold Books
  simp only [same]

/-- What a handle refers to is there, with a block that admits the handle. -/
theorem found {h : Handle} (books : m.Books (.drop h :: tasks)) {l : Link}
    (link : h.link = some l) :
    ∃ cell, m.memory.cell? l.cell = some cell ∧ Governed h.qualifier cell.state ∧
      (cell.state.isSome → cell.home.isSome) ∧
      ((m.tally tasks l.cell).adding h.qualifier).Law cell.state := by
  have fits := books l.cell
  rw [tally_drop_self m tasks link] at fits
  refine fits.admits ?_
  rw [Tally.adding_refs_self]
  exact Nat.succ_pos _

/-- What a block says of its cell is so. -/
theorem law (books : m.Books tasks) {c : CellId} {s : BlockState}
    (block : m.memory.block? c = some s) : (m.tally tasks c).Law (some s) := by
  obtain ⟨cell, found, state⟩ := Option.bind_eq_some_iff.1 block
  rw [← state]
  exact (books c).law found

end Books

/-! ## Books that balance but for one cell -/

/-- Every cell but one fits its tally. -/
def BooksBut (c : CellId) (m : Machine) (tasks : List Task) : Prop :=
  ∀ d, d ≠ c → (m.tally tasks d).Fits (m.memory.cell? d)

section But

variable {m : Machine} {tasks : List Task} {c : CellId}

theorem Books.but (books : m.Books tasks) : BooksBut c m tasks := fun d _ => books d

theorem BooksBut.books (but : BooksBut c m tasks)
    (here : (m.tally tasks c).Fits (m.memory.cell? c)) : m.Books tasks := by
  intro d
  by_cases same : d = c
  · rw [same]
    exact here
  · exact but d same

theorem BooksBut.of_drop {h : Handle} {l : Link} (link : h.link = some l)
    (but : BooksBut l.cell m (.drop h :: tasks)) : BooksBut l.cell m tasks := by
  intro d other
  rw [← tally_drop_of_ne m tasks link other]
  exact but d other

theorem BooksBut.drop {h : Handle} {l : Link} (link : h.link = some l)
    (but : BooksBut l.cell m tasks) : BooksBut l.cell m (.drop h :: tasks) := by
  intro d other
  rw [tally_drop_of_ne m tasks link other]
  exact but d other

theorem BooksBut.of_leaveGroup (but : BooksBut c m (.leaveGroup c :: tasks)) :
    BooksBut c m tasks := by
  intro d other
  rw [← tally_leaveGroup_of_ne m tasks other]
  exact but d other

theorem BooksBut.leaveGroup (but : BooksBut c m tasks) :
    BooksBut c m (.leaveGroup c :: tasks) := by
  intro d other
  rw [tally_leaveGroup_of_ne m tasks other]
  exact but d other

theorem BooksBut.return {task : AllocatorId → Layout → CellId → Task} (way : Returning task)
    (a : AllocatorId) (l : Layout) (but : BooksBut c m tasks) :
    BooksBut c m (task a l c :: tasks) := by
  intro d other
  rw [tally_return_of_ne m tasks way a l other]
  exact but d other

theorem BooksBut.withState {cell : Cell} (found : m.memory.cell? c = some cell) (s : BlockState)
    (but : BooksBut c m tasks) : BooksBut c (m.withState c cell s) tasks := by
  intro d other
  rw [tally_withState found, cell?_withState_of_ne m cell s other]
  exact but d other

theorem BooksBut.vacated {cell : Cell} (found : m.memory.cell? c = some cell)
    (but : BooksBut c m tasks) : BooksBut c (m.vacated c cell) (cell.value.plan ++ tasks) := by
  intro d other
  rw [tally_vacated found, Machine.vacated, Memory.cell?_setCell_of_ne _ _ other]
  exact but d other

theorem BooksBut.begun {cell : Cell} (found : m.memory.cell? c = some cell)
    (but : BooksBut c m tasks) : BooksBut c (m.begun c cell) (cell.value.plan ++ tasks) := by
  intro d other
  rw [tally_begun_of_ne found tasks other, cell?_begun_of_ne m cell other]
  exact but d other

end But

end Machine

end Custody
