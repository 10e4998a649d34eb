import Custody.Proofs.Books

/-!
# Letting go keeps the books

Carrying out a task in a machine with balanced books: no count is found spent, so the task
returns unless a destructor panics, and the books balance again with what the task leads to.
When a panic takes away what was to follow a destruction, that is on the books too: the block
of the value keeps what would have been given up. Here it matters in which order tasks come,
which is `Machine.Orderly`: the storage of a strong group goes back as soon as the last
reference is gone, with nothing in between that could panic.
-/

namespace Custody

/-- Where the storage of a strong group is to go back, that is what comes next. -/
def Machine.Orderly (m : Machine) (tasks : List Task) : Prop :=
  ∀ c s w, m.memory.block? c = some (.strong s w) → Task.returning c tasks.tail = 0

namespace Machine

open Tally

variable {m : Machine} {tasks : List Task}

/-! ## What single operations do -/

section Operations

variable {c : CellId} {cell : Cell} (found : m.memory.cell? c = some cell)

include found

theorem recount_ok {α : Type} [Inhabited α] {s after : BlockState} {answer : α}
    {operation : BlockState → BlockState × Except CountFault α} (state : cell.state = some s)
    (counted : operation s = (after, .ok answer)) :
    recount c operation m = .returned answer (m.withState c cell after) := by
  unfold recount
  rw [found]
  dsimp only
  rw [state]
  dsimp only
  rw [counted]
  rfl

theorem recount_error {α : Type} [Inhabited α] {s after : BlockState} {fault : CountFault}
    {operation : BlockState → BlockState × Except CountFault α} (state : cell.state = some s)
    (counted : operation s = (after, .error fault)) :
    recount c operation m = miscount c cell.kind s fault (m.withState c cell after) := by
  unfold recount
  rw [found]
  dsimp only
  rw [state]
  dsimp only
  rw [counted]
  rfl

theorem beginDestruction_of_found :
    beginDestruction c m = .returned cell.value.plan (m.begun c cell) := by
  unfold beginDestruction
  rw [found]
  rfl

theorem storageTask_of_found (task : AllocatorId → Layout → CellId → Task) {a : AllocatorId}
    (home : cell.home = some a) : storageTask task c m = .returned [task a cell.layout c] m := by
  simp only [storageTask, ofMemory, Run.gets, found, home]
  rfl

theorem destroyWith_of_found (task : AllocatorId → Layout → CellId → Task) {a : AllocatorId}
    (home : cell.home = some a) :
    destroyWith task c m =
      .returned (cell.value.plan ++ [task a cell.layout c]) (m.begun c cell) := by
  unfold destroyWith
  rw [Run.bind_apply, beginDestruction_of_found found]
  show (storageTask task c >>= fun more => pure (cell.value.plan ++ more) : Run Machine _)
    (m.begun c cell) = _
  rw [Run.bind_apply, storageTask_of_found (cell?_begun_self found) task home]
  rfl

/-- The last owner of a shared value destroys it, and the group is left after that. -/
theorem letGo_strong_last {w : Word} (state : cell.state = some (.strong 1 w)) (kind : Kind) :
    letGo kind c (.block .strong) m =
      .returned (cell.value.plan ++ [.leaveGroup c])
        ((m.withState c cell (.strong 0 w)).begun c { cell with state := some (.strong 0 w) }) := by
  have counted : BlockState.decrementStrong (.strong 1 w) = (.strong 0 w, .ok true) := rfl
  show (recount c BlockState.decrementStrong m).andThen _ = _
  rw [recount_ok found state counted]
  show (beginDestruction c (m.withState c cell (.strong 0 w))).andThen _ = _
  rw [beginDestruction_of_found (cell?_withState_self found _)]
  rfl

/-- An owner of a shared value that is not the last one is counted off. -/
theorem letGo_strong_more {s w : Word} (state : cell.state = some (.strong s w)) (alive : s ≠ 0)
    (more : s ≠ 1) (kind : Kind) :
    letGo kind c (.block .strong) m = .returned [] (m.withState c cell (.strong (s - 1) w)) := by
  have counted : BlockState.decrementStrong (.strong s w) = (.strong (s - 1) w, .ok false) := by
    simp only [BlockState.decrementStrong, BlockState.loweredAnswer, if_neg more, if_neg alive]
  show (recount c BlockState.decrementStrong m).andThen _ = _
  rw [recount_ok found state counted]
  rfl

/-- The last owner on one thread destroys the value, and its storage goes back after that. -/
theorem letGo_local_last {a : AllocatorId} (state : cell.state = some (.handle 1))
    (home : cell.home = some a) (kind : Kind) :
    letGo kind c (.block .handle) m =
      .returned (cell.value.plan ++ [.giveBack a cell.layout c])
        ((m.withState c cell (.handle 0)).begun c { cell with state := some (.handle 0) }) := by
  have counted : BlockState.decrementLocal (.handle 1) = (.handle 0, .ok true) := rfl
  show (recount c BlockState.decrementLocal m).andThen _ = _
  rw [recount_ok found state counted]
  exact destroyWith_of_found (cell?_withState_self found _) .giveBack home

/-- An owner on one thread that is not the last one is counted off. -/
theorem letGo_local_more {count : Word} (state : cell.state = some (.handle count))
    (alive : count ≠ 0) (more : count ≠ 1) (kind : Kind) :
    letGo kind c (.block .handle) m = .returned [] (m.withState c cell (.handle (count - 1))) := by
  have counted : BlockState.decrementLocal (.handle count) = (.handle (count - 1), .ok false) := by
    simp only [BlockState.decrementLocal, if_neg alive, beq_false_of_ne more]
  show (recount c BlockState.decrementLocal m).andThen _ = _
  rw [recount_ok found state counted]
  rfl

end Operations

/-! ## Letting go of a handle -/

/-- The value in a cell is destroyed, and its storage is to go back after that. -/
private theorem destroyed_books {task : AllocatorId → Layout → CellId → Task}
    (way : Returning task) (a : AllocatorId) (l : Layout) {c : CellId} {cell : Cell}
    (found : m.memory.cell? c = some cell) (homed : cell.state.isSome → cell.home.isSome)
    (but : BooksBut c m tasks) (law : (m.tally tasks c).toReturn.beginning.Law cell.state)
    (notStrong : ∀ s w, cell.state ≠ some (.strong s w)) :
    (m.begun c cell).Books (cell.value.plan ++ [task a l c] ++ tasks) ∧
      (m.begun c cell).Orderly (cell.value.plan ++ [task a l c]) := by
  constructor
  · rw [List.append_assoc]
    refine ((but.return way a l).begun found).books ?_
    rw [tally_begun_self found, cell?_begun_self found]
    show ((m.tally (task a l c :: tasks) c).beginning).Fits _
    rw [tally_return_self m tasks way]
    exact ⟨homed, law⟩
  · intro d s w strong
    by_cases same : d = c
    · subst same
      unfold Memory.block? at strong
      rw [cell?_begun_self found] at strong
      exact absurd strong (notStrong s w)
    · refine Nat.le_zero.1 (Nat.le_trans (Task.returning_tail_le d _) ?_)
      rw [Task.returning_plan_append]
      have none := congrArg Tally.returning (tally_return_of_ne m [] way a l same)
      exact Nat.le_of_eq none

/-- What letting go of a handle guarantees. -/
private def LetGo (m : Machine) (h : Handle) (l : Link) (tasks : List Task) : Prop :=
  ∃ more n, letGo h.kind l.cell h.ownership m = .returned more n ∧ n.Books (more ++ tasks) ∧
    n.Orderly more

private theorem orderly_nil (m : Machine) : m.Orderly [] := fun _ _ _ _ => rfl

private theorem orderly_singleton (m : Machine) (t : Task) : m.Orderly [t] := fun _ _ _ _ => rfl

section Handles

variable {h : Handle} {l : Link}

private theorem letGo_unique (link : h.link = some l) {home : AllocatorId}
    (owns : h.ownership = .unique home) (books : m.Books (.drop h :: tasks)) :
    LetGo m h l tasks := by
  obtain ⟨cell, found, governed, homed, law⟩ := books.found link
  have qualifier : h.qualifier = .unique := congrArg Ownership.qualifier owns
  rw [qualifier] at governed law
  have state : cell.state = none := governed
  rw [state] at law
  have law : ((m.tally tasks l.cell).adding .unique).BareLaw := law
  refine ⟨cell.value.plan ++ [.giveBack home h.kind.layout l.cell], m.begun l.cell cell, ?_, ?_⟩
  · rw [owns]
    show (beginDestruction l.cell m).andThen _ = _
    rw [beginDestruction_of_found found]
    rfl
  · refine destroyed_books (.inl rfl) home h.kind.layout found homed (books.but.of_drop link) ?_ ?_
    · rw [state]
      exact law.letGo
    · rw [state]
      exact fun _ _ => nofun

/-- Where an own and a discarding owner differ is the task that follows the destruction. -/
private theorem letGo_sole (link : h.link = some l) {owner : BlockOwner} {state : BlockState}
    {task : AllocatorId → Layout → CellId → Task} (way : Returning task)
    (owns : h.ownership = .block owner)
    (leads : letGo h.kind l.cell (.block owner) = destroyWith task l.cell)
    (governs : ∀ s, Governed owner.qualifier s → s = some state)
    (lawful : ∀ t : Tally, t.Law (some state) ↔ t.SoleLaw owner.qualifier)
    (notStrong : ∀ s w, state ≠ .strong s w) (books : m.Books (.drop h :: tasks)) :
    LetGo m h l tasks := by
  obtain ⟨cell, found, governed, homed, law⟩ := books.found link
  have qualifier : h.qualifier = owner.qualifier := congrArg Ownership.qualifier owns
  rw [qualifier] at governed law
  have atState : cell.state = some state := governs _ governed
  rw [atState] at law
  obtain ⟨a, home⟩ := Option.isSome_iff_exists.1 (homed (by rw [atState]; rfl))
  refine ⟨cell.value.plan ++ [task a cell.layout l.cell], m.begun l.cell cell, ?_, ?_⟩
  · rw [owns, leads]
    exact destroyWith_of_found found task home
  · refine destroyed_books way a cell.layout found homed (books.but.of_drop link) ?_ ?_
    · rw [atState]
      exact (lawful _).2 ((lawful _).1 law).letGo
    · intro s w strong
      rw [atState] at strong
      exact notStrong s w (Option.some.inj strong)

private theorem letGo_collect (link : h.link = some l) (owns : h.ownership = .block .collect)
    (books : m.Books (.drop h :: tasks)) : LetGo m h l tasks := by
  obtain ⟨cell, found, governed, homed, law⟩ := books.found link
  have qualifier : h.qualifier = .collect := congrArg Ownership.qualifier owns
  rw [qualifier] at governed law
  have state : cell.state = some .collect := governed
  rw [state] at law
  have law : ((m.tally tasks l.cell).adding .collect).CollectLaw := law
  refine ⟨[], m, ?_, ?_, orderly_nil m⟩
  · rw [owns]
    rfl
  · refine (books.but.of_drop link).books ?_
    rw [found]
    refine ⟨homed, ?_⟩
    rw [state]
    exact law.letGo

private theorem letGo_strong (link : h.link = some l) (owns : h.ownership = .block .strong)
    (books : m.Books (.drop h :: tasks)) : LetGo m h l tasks := by
  obtain ⟨cell, found, governed, homed, law⟩ := books.found link
  have qualifier : h.qualifier = .strong := congrArg Ownership.qualifier owns
  rw [qualifier] at governed law
  obtain ⟨s, w, state⟩ : ∃ s w, cell.state = some (.strong s w) := governed
  rw [state] at law
  have law : ((m.tally tasks l.cell).adding .strong).StrongLaw s w := law
  have but := books.but.of_drop link
  have homed : cell.home.isSome := homed (by rw [state]; rfl)
  have alive : s ≠ 0 := (law.alive (by rw [Tally.adding_refs_self]; omega)).1
  by_cases last : s = 1
  · -- the last owner destroys the value and leaves the group after that
    subst last
    let n := m.withState l.cell cell (.strong 0 w)
    let aged : Cell := { cell with state := some (.strong 0 w) }
    have aged_found : n.memory.cell? l.cell = some aged := cell?_withState_self found _
    refine ⟨cell.value.plan ++ [.leaveGroup l.cell], n.begun l.cell aged, ?_, ?_, ?_⟩
    · rw [owns]
      exact letGo_strong_last found state _
    · rw [List.append_assoc]
      refine ((but.withState found _).leaveGroup.begun aged_found).books ?_
      rw [tally_begun_self aged_found, cell?_begun_self aged_found]
      show ((n.tally (.leaveGroup l.cell :: tasks) l.cell).beginning).Fits _
      rw [tally_leaveGroup_self, tally_withState found]
      exact ⟨fun _ => homed, law.decrementStrong_last⟩
    · intro d s' w' strong
      refine Nat.le_zero.1 (Nat.le_trans (Task.returning_tail_le d _) ?_)
      rw [Task.returning_plan_append]
      exact Nat.le_refl 0
  · refine ⟨[], m.withState l.cell cell (.strong (s - 1) w), ?_, ?_, orderly_nil _⟩
    · rw [owns]
      exact letGo_strong_more found state alive last _
    · refine (but.withState found _).books ?_
      rw [tally_withState found, cell?_withState_self found]
      exact ⟨fun _ => homed, law.decrementStrong last⟩

private theorem letGo_local (link : h.link = some l) (owns : h.ownership = .block .handle)
    (books : m.Books (.drop h :: tasks)) : LetGo m h l tasks := by
  obtain ⟨cell, found, governed, homed, law⟩ := books.found link
  have qualifier : h.qualifier = .handle := congrArg Ownership.qualifier owns
  rw [qualifier] at governed law
  obtain ⟨count, state⟩ : ∃ count, cell.state = some (.handle count) := governed
  rw [state] at law
  have law : ((m.tally tasks l.cell).adding .handle).LocalLaw count := law
  have but := books.but.of_drop link
  have homed : cell.home.isSome := homed (by rw [state]; rfl)
  have alive : count ≠ 0 := law.alive (by rw [Tally.adding_refs_self]; omega)
  by_cases last : count = 1
  · subst last
    obtain ⟨a, home⟩ := Option.isSome_iff_exists.1 homed
    let n := m.withState l.cell cell (.handle 0)
    let aged : Cell := { cell with state := some (.handle 0) }
    have aged_found : n.memory.cell? l.cell = some aged := cell?_withState_self found _
    refine ⟨cell.value.plan ++ [.giveBack a cell.layout l.cell], n.begun l.cell aged, ?_, ?_⟩
    · rw [owns]
      exact letGo_local_last found state home _
    · refine destroyed_books (.inl rfl) a cell.layout aged_found (fun _ => homed)
        (but.withState found _) ?_ fun _ _ => nofun
      rw [tally_withState found]
      exact law.decrementLocal_last
  · refine ⟨[], m.withState l.cell cell (.handle (count - 1)), ?_, ?_, orderly_nil _⟩
    · rw [owns]
      exact letGo_local_more found state alive last _
    · refine (but.withState found _).books ?_
      rw [tally_withState found, cell?_withState_self found]
      exact ⟨fun _ => homed, law.decrementLocal last⟩

end Handles

/-- A reference to a strong group goes, be it an observer's or the one that the owners share. -/
private theorem reference_books {c : CellId} {cell : Cell} {s w : Word}
    (found : m.memory.cell? c = some cell) (state : cell.state = some (.strong s w))
    (homed : cell.home.isSome) (but : BooksBut c m tasks)
    (verdict : w ≠ 0 ∧ (w ≠ 1 → (m.tally tasks c).StrongLaw s (w - 1)) ∧
      (w = 1 → (m.tally tasks c).toReturn.StrongLaw s 0)) :
    ∃ more n, (do
        if ← recount c BlockState.decrementWeak then storageTask .giveBack c else return [] :
        Run Machine (List Task)) m = .returned more n ∧
      n.Books (more ++ tasks) ∧ n.Orderly more := by
  obtain ⟨alive, goesOn, ends⟩ := verdict
  by_cases last : w = 1
  · subst last
    obtain ⟨a, home⟩ := Option.isSome_iff_exists.1 homed
    let n := m.withState c cell (.strong s 0)
    have aged_found : n.memory.cell? c = some { cell with state := some (.strong s 0) } :=
      cell?_withState_self found _
    refine ⟨[.giveBack a cell.layout c], n, ?_, ?_, orderly_singleton _ _⟩
    · have counted : BlockState.decrementWeak (.strong s 1) = (.strong s 0, .ok true) := rfl
      rw [Run.bind_apply, recount_ok found state counted]
      exact storageTask_of_found aged_found .giveBack home
    · refine ((but.withState found _).return (.inl rfl) a cell.layout).books ?_
      rw [tally_return_self n tasks (.inl rfl), tally_withState found, aged_found]
      exact ⟨fun _ => homed, ends rfl⟩
  · refine ⟨[], m.withState c cell (.strong s (w - 1)), ?_, ?_, orderly_nil _⟩
    · have counted : BlockState.decrementWeak (.strong s w) = (.strong s (w - 1), .ok false) := by
        simp only [BlockState.decrementWeak, BlockState.loweredAnswer, if_neg last, if_neg alive]
      rw [Run.bind_apply, recount_ok found state counted]
      rfl
    · refine (but.withState found _).books ?_
      rw [tally_withState found, cell?_withState_self found]
      exact ⟨fun _ => homed, goesOn last⟩

private theorem letGo_weak {h : Handle} {l : Link} (link : h.link = some l)
    (owns : h.ownership = .weak) (books : m.Books (.drop h :: tasks)) : LetGo m h l tasks := by
  obtain ⟨cell, found, governed, homed, law⟩ := books.found link
  have qualifier : h.qualifier = .weak := congrArg Ownership.qualifier owns
  rw [qualifier] at governed law
  obtain ⟨s, w, state⟩ : ∃ s w, cell.state = some (.strong s w) := governed
  rw [state] at law
  have law : ((m.tally tasks l.cell).adding .weak).StrongLaw s w := law
  unfold LetGo
  rw [owns]
  exact reference_books found state (homed (by rw [state]; rfl)) (books.but.of_drop link)
    law.decrementWeak

/-- Letting go of a handle goes through, and the books balance with what it leads to. -/
theorem letGo_books {h : Handle} {l : Link} (link : h.link = some l)
    (books : m.Books (.drop h :: tasks)) :
    ∃ more n, letGo h.kind l.cell h.ownership m = .returned more n ∧ n.Books (more ++ tasks) ∧
      n.Orderly more := by
  cases owns : h.ownership with
  | unique home => exact owns ▸ letGo_unique link owns books
  | weak => exact owns ▸ letGo_weak link owns books
  | block owner =>
    rw [← owns]
    cases owner with
    | own =>
      exact letGo_sole link (.inl rfl) owns rfl (fun _ h => h) (fun _ => Iff.rfl)
        (fun _ _ => nofun) books
    | discard =>
      exact letGo_sole link (.inr rfl) owns rfl (fun _ h => h) (fun _ => Iff.rfl)
        (fun _ _ => nofun) books
    | collect => exact letGo_collect link owns books
    | strong => exact letGo_strong link owns books
    | handle => exact letGo_local link owns books

/-! ## Carrying out a task -/

/-- What is known of a cell with something to give up. -/
theorem found_of_leaveGroup {c : CellId} (books : m.Books (.leaveGroup c :: tasks)) :
    ∃ cell s w, m.memory.cell? c = some cell ∧ cell.state = some (.strong s w) ∧
      cell.home.isSome ∧ (m.tally tasks c).toLeave.StrongLaw s w := by
  have fits := books c
  rw [tally_leaveGroup_self] at fits
  cases found : m.memory.cell? c with
  | none =>
    rw [found] at fits
    exact absurd (Untouched.leaving fits) (Nat.succ_ne_zero _)
  | some cell =>
    rw [found] at fits
    obtain ⟨homed, law⟩ := fits
    cases state : cell.state with
    | none =>
      rw [state] at law
      exact absurd (BareLaw.leaving law) (Nat.succ_ne_zero _)
    | some s =>
      rw [state] at law homed
      cases s with
      | own => exact absurd (SoleLaw.leaving law) (Nat.succ_ne_zero _)
      | discard => exact absurd (SoleLaw.leaving law) (Nat.succ_ne_zero _)
      | collect => exact absurd (CollectLaw.leaving law) (Nat.succ_ne_zero _)
      | handle n => exact absurd (LocalLaw.leaving law) (Nat.succ_ne_zero _)
      | strong s w => exact ⟨cell, s, w, rfl, state, homed rfl, law⟩

/-- Giving up the reference that the owners shared goes through. -/
theorem leaveGroup_books {c : CellId} (books : m.Books (.leaveGroup c :: tasks)) :
    ∃ more n, (Task.leaveGroup c).advance m = .returned more n ∧ n.Books (more ++ tasks) ∧
      n.Orderly more := by
  obtain ⟨cell, s, w, found, state, homed, law⟩ := found_of_leaveGroup books
  exact reference_books found state homed books.but.of_leaveGroup law.leave

/-- The storage of a cell went back, which was to happen. -/
private theorem returned_books {n : Machine} {task : AllocatorId → Layout → CellId → Task}
    (way : Returning task) {a : AllocatorId} {l : Layout} {c : CellId}
    (books : m.Books (task a l c :: tasks)) (cells : n.memory.cells = m.memory.cells)
    {freed : StorageEvent} (deeds : n.deeds = freed :: .handedBack c :: m.deeds)
    (other : ∀ d, freed ≠ .destructionBegan d ∧ freed ≠ .destructionFailed d ∧
      freed ≠ .handedBack d ∧ freed.places d = false) : n.Books tasks := by
  have tallies (d : CellId) : n.tally tasks d =
      if d = c then (m.tally tasks d).afterReturn else m.tally tasks d := by
    obtain ⟨notBegan, notFailed, notBack, notPlaced⟩ := other d
    have refs (q : Qualifier) : n.memory.refs q d = m.memory.refs q d := by
      unfold Memory.refs
      rw [cells]
    have back : (freed :: .handedBack c :: m.deeds).count (.handedBack d) =
        m.deeds.count (.handedBack d) + if d = c then 1 else 0 := by
      rw [List.count_cons_of_ne notBack, List.count_cons]
      by_cases same : d = c
      · subst same
        simp
      · have : (StorageEvent.handedBack c == .handedBack d) = false := by
          rw [beq_eq_false_iff_ne]
          rintro ⟨⟩
          exact same rfl
        rw [this, if_neg same]
        rfl
    have placed : (freed :: .handedBack c :: m.deeds).countP (·.places d) =
        m.deeds.countP (·.places d) := by
      rw [List.countP_cons_of_neg (by simp [notPlaced])]
      exact List.countP_cons_of_neg (by simp [StorageEvent.places])
    have kept : (freed :: .handedBack c :: m.deeds).count (.destructionBegan d) =
          m.deeds.count (.destructionBegan d) ∧
        (freed :: .handedBack c :: m.deeds).count (.destructionFailed d) =
          m.deeds.count (.destructionFailed d) := by
      rw [List.count_cons_of_ne notBegan, List.count_cons_of_ne notFailed]
      exact ⟨List.count_cons_of_ne (by simp), List.count_cons_of_ne (by simp)⟩
    unfold tally
    simp only [refs, deeds, back, kept.1, kept.2, placed]
    by_cases same : d = c
    · rw [if_pos same, if_pos same]
      rfl
    · rw [if_neg same, if_neg same]
      rfl
  have find (d : CellId) : n.memory.cell? d = m.memory.cell? d := by
    unfold Memory.cell?
    rw [cells]
  intro d
  rw [tallies d, find d]
  by_cases same : d = c
  · subst same
    have fits := books d
    rw [tally_return_self m tasks way] at fits
    rw [if_pos rfl]
    cases found : m.memory.cell? d with
    | none =>
      rw [found] at fits
      exact absurd (Untouched.returning fits) (Nat.succ_ne_zero _)
    | some cell =>
      rw [found] at fits
      exact ⟨fits.1, fits.2.afterReturn⟩
  · rw [if_neg same, ← tally_return_of_ne m tasks way a l same]
    exact books d

/-- A task is carried out and the books balance with what it leads to; if its destructor panics
they balance without it. -/
theorem advance_books (t : Task) (books : m.Books (t :: tasks)) :
    (t.advance m).Ensures (fun more n => n.Books (more ++ tasks) ∧ n.Orderly more)
      (fun n => n.Books tasks) := by
  cases t with
  | drop h =>
    cases link : h.link with
    | none =>
      rw [Task.advance_drop_of_none link]
      refine ⟨(Books.of_drop_isEmpty ?_).1 books, orderly_nil m⟩
      rw [Handle.isEmpty, link]
      rfl
    | some l =>
      obtain ⟨more, n, went, balanced, orderly⟩ := letGo_books link books
      rw [Task.advance_drop_of_some link, went]
      exact ⟨balanced, orderly⟩
  | announce label =>
    have books := Books.of_announce.1 books
    refine Run.bind_ensures (Outcome.Ensures.of_state (announce_undisturbed label m)) ?_ |>.mono
      (fun _ _ h => h) fun n same => books.undisturbed same
    exact fun _ n same => ⟨books.undisturbed same, orderly_nil n⟩
  | leaveGroup c =>
    obtain ⟨more, n, advanced, balanced⟩ := leaveGroup_books books
    rw [advanced]
    exact balanced
  | giveBack a l c =>
    refine ⟨returned_books (.inl rfl) books ?_ rfl fun d => ?_, orderly_nil _⟩
    · exact Memory.cells_deallocate _ _ _ _
    · simp [StorageEvent.places]
  | retire a l c =>
    refine ⟨returned_books (.inr rfl) books ?_ rfl fun d => ?_, orderly_nil _⟩
    · exact Memory.cells_changeAllocator _ _ _
    · simp [StorageEvent.places]

/-- Carrying out a task does not end the process: only a destructor's label can panic, and it does
not while a panic is on its way. -/
theorem advance_ne_aborted (t : Task) (books : m.Books (t :: tasks)) (cause : Abort)
    (n : Machine) : t.advance m ≠ .aborted cause n := by
  cases t with
  | drop h =>
    cases link : h.link with
    | none =>
      rw [Task.advance_drop_of_none link]
      rintro ⟨⟩
    | some l =>
      obtain ⟨more, o, went, -⟩ := letGo_books link books
      rw [Task.advance_drop_of_some link, went]
      rintro ⟨⟩
  | announce label =>
    show ((announce label m).andThen fun _ o => .returned [] o) ≠ _
    have ended : ∀ o, announce label m ≠ .aborted cause o := by
      intro o
      unfold announce
      rw [Run.bind_apply]
      show (Outcome.returned () _).andThen _ ≠ _
      dsimp only [Outcome.andThen]
      cases label.panicMessage? with
      | none => rintro ⟨⟩
      | some message =>
        show (if _ then pure () else panic (.text message) : Run Machine Unit) _ ≠ _
        split <;> rintro ⟨⟩
    cases left : announce label m with
    | returned u o => rintro ⟨⟩
    | unwinding p o => rintro ⟨⟩
    | aborted cause' o =>
      rintro ⟨⟩
      exact ended n left
  | leaveGroup c =>
    obtain ⟨more, o, advanced, -⟩ := leaveGroup_books books
    rw [advanced]
    rintro ⟨⟩
  | giveBack a l c => rintro ⟨⟩
  | retire a l c => rintro ⟨⟩

end Machine

end Custody
