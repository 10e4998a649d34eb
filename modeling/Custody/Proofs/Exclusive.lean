import Custody.Proofs.Cascade
import Custody.Proofs.Collected
import Custody.Proofs.Directions

/-!
# Values with one owner

A value that is not shared has one owner. A unique, an own or a discarding owner destroys it, and
the storage goes back after that: `Cell.returning` is the task that it takes, and `Cell.freed` the
event that it leaves. A collecting owner leaves the value to the allocator.

What carrying out a task can do to such values is said once, by `Machine.advanced`. It follows that
a value stays as it is as long as its owner is not let go of, whatever is destroyed besides:
`Situation.drain_value?`.
-/

namespace Custody

namespace Cell

/-- Whether the value is destroyed by the one owner that it has. -/
def Sole (cell : Cell) : Prop :=
  cell.state = none ∨ cell.state = some .own ∨ cell.state = some .discard

/-- The task that follows the destruction of a value with one owner. -/
def returning (cell : Cell) (home : AllocatorId) (c : CellId) : Task :=
  if cell.state = some .discard then .retire home cell.layout c else .giveBack home cell.layout c

/-- The return of the storage of a value with one owner. -/
def freed (cell : Cell) (home : AllocatorId) : StorageEvent :=
  if cell.state = some .discard then .retired home cell.base cell.layout
  else .deallocated home cell.base cell.layout

@[simp] theorem follows?_returning (cell : Cell) (home : AllocatorId) (c : CellId) :
    (cell.returning home c).follows? = some c := by
  unfold returning
  split <;> rfl

/-- What a cell keeps as long as its owner is of the same kind. -/
structure Stays (before after : Cell) : Prop extends before.Endures after where
  owner : after.state.map BlockState.owner = before.state.map BlockState.owner

theorem Stays.refl (c : Cell) : c.Stays c := ⟨Endures.refl c, rfl⟩

theorem Ages.stays {before after : Cell} (h : before.Ages after) : before.Stays after :=
  ⟨h.endures, h.owner⟩

/-- A block whose state is no count is told by its owner. -/
theorem state_iff {s : BlockState} (plain : s = .own ∨ s = .discard ∨ s = .collect) (c : Cell) :
    c.state = some s ↔ c.state.map BlockState.owner = some s.owner := by
  rcases plain with rfl | rfl | rfl
  all_goals
    cases c.state with
    | none => simp
    | some s => cases s <;> simp [BlockState.owner]

theorem Stays.state {before after : Cell} (h : before.Stays after) {s : BlockState}
    (plain : s = .own ∨ s = .discard ∨ s = .collect) :
    after.state = some s ↔ before.state = some s := by
  rw [state_iff plain, state_iff plain, h.owner]

theorem Stays.sole {before after : Cell} (h : before.Stays after) : after.Sole ↔ before.Sole := by
  unfold Sole
  rw [h.bare, h.state (.inl rfl), h.state (.inr (.inl rfl))]

theorem Stays.returning {before after : Cell} (h : before.Stays after) :
    after.returning = before.returning := by
  funext home c
  unfold Cell.returning
  rw [h.layout]
  exact if_congr (h.state (.inr (.inl rfl))) rfl rfl

theorem Stays.freed {before after : Cell} (h : before.Stays after) :
    after.freed = before.freed := by
  funext home
  unfold Cell.freed
  rw [h.base, h.layout]
  exact if_congr (h.state (.inr (.inl rfl))) rfl rfl

/-- What is shared has no sole owner, and neither has what is collected. -/
theorem not_sole_of_some {cell : Cell} {s : BlockState} (state : cell.state = some s)
    (own : s ≠ .own) (discard : s ≠ .discard) : ¬cell.Sole := by
  rintro (none | owned | discarded)
  · exact nomatch state.symm.trans none
  · exact own (Option.some.inj (state.symm.trans owned))
  · exact discard (Option.some.inj (state.symm.trans discarded))

end Cell

namespace Machine

variable {m n : Machine} {tasks more : List Task}

/-! ## What a task does -/

/-- What a task comes to that returns. -/
inductive Advanced (m : Machine) : Task → List Task → Machine → Prop
  /-- No destruction begins, and no storage goes back. What is to follow concerns shared values. -/
  | quiet {t : Task} {more : List Task} {n : Machine} (deeds : n.deeds = m.deeds)
      (values : n.value? = m.value?)
      (shared : ∀ u ∈ more, ∀ c cell, u.follows? = some c → m.memory.cell? c = some cell →
        ¬cell.Sole) : Advanced m t more n
  /-- The destruction of a value begins that is not collected. -/
  | began {h : Handle} {l : Link} {cell : Cell} {last : Task} {n : Machine}
      (link : h.link = some l) (found : m.memory.cell? l.cell = some cell)
      (uncollected : cell.state ≠ some .collect)
      (deeds : n.deeds = .destructionBegan l.cell :: m.deeds)
      (values : n.value? = Function.update m.value? l.cell (some cell.value.remains))
      (follows : last.follows? = some l.cell)
      (returning : cell.Sole → ∃ home, cell.home = some home ∧ last = cell.returning home l.cell) :
      Advanced m (.drop h) (cell.value.plan ++ [last]) n
  /-- Storage is given back to its allocator. -/
  | gaveBack {a : AllocatorId} {l : Layout} {c : CellId} {cell : Cell} {n : Machine}
      (found : m.memory.cell? c = some cell)
      (deeds : n.deeds = .deallocated a cell.base l :: .handedBack c :: m.deeds)
      (values : n.value? = m.value?) : Advanced m (.giveBack a l c) [] n
  /-- Storage is retired. -/
  | retired {a : AllocatorId} {l : Layout} {c : CellId} {cell : Cell} {n : Machine}
      (found : m.memory.cell? c = some cell)
      (deeds : n.deeds = .retired a cell.base l :: .handedBack c :: m.deeds)
      (values : n.value? = m.value?) : Advanced m (.retire a l c) [] n

/-- A count that does not fail leaves the history and all values alone. -/
theorem recount_returned {α : Type} [Inhabited α] {c : CellId}
    {operation : BlockState → BlockState × Except CountFault α} {answer : α}
    (counted : recount c operation m = .returned answer n) :
    n.deeds = m.deeds ∧ n.value? = m.value? := by
  have spared := recount_spares c operation m
  rw [counted] at spared
  refine ⟨?_, spared.values⟩
  unfold recount at counted
  cases found : m.memory.cell? c with
  | none =>
    rw [found] at counted
    cases counted
    rfl
  | some cell =>
    rw [found] at counted
    dsimp only at counted
    cases state : cell.state with
    | none =>
      rw [state] at counted
      cases counted
      rfl
    | some s =>
      rw [state] at counted
      dsimp only at counted
      cases answered : (operation s).2 with
      | ok a =>
        rw [answered] at counted
        cases counted
        rfl
      | error fault =>
        rw [answered] at counted
        have never := miscount_noted (α := α) c cell.kind s fault
          { m with memory := m.memory.setCell c { cell with state := some (operation s).1 } }
        rw [show miscount c cell.kind s fault _ = _ from counted] at never
        exact never.elim

theorem value?_of_cells (same : n.memory.cells = m.memory.cells) : n.value? = m.value? := by
  unfold value? Memory.cell?
  rw [same]

theorem value?_begun {c : CellId} {cell : Cell} (found : m.memory.cell? c = some cell) :
    (m.begun c cell).value? = Function.update m.value? c (some cell.value.remains) :=
  value?_setCell found _

/-- The sole owner of a value that is let go of destroys it, and the storage goes back next. -/
theorem letGo_of_sole {h : Handle} {l : Link} {cell : Cell} (link : h.link = some l)
    (books : m.Books (.drop h :: tasks)) (directed : m.Directed (.drop h))
    (found : m.memory.cell? l.cell = some cell) (sole : cell.Sole) :
    ∃ home, cell.home = some home ∧ (Task.drop h).advance m =
      .returned (cell.value.plan ++ [cell.returning home l.cell]) (m.begun l.cell cell) := by
  obtain ⟨there, found', governed, homed, -⟩ := books.found link
  obtain rfl : cell = there := Option.some.inj (found.symm.trans found')
  rw [Task.advance_drop_of_some link]
  obtain ⟨ownership, kind, link'⟩ := h
  cases ownership with
  | unique home =>
    obtain ⟨there, found'', home', layout⟩ := directed l home link rfl
    obtain rfl : cell = there := Option.some.inj (found.symm.trans found'')
    have state : cell.state = none := governed
    refine ⟨home, home', ?_⟩
    show (beginDestruction l.cell m).andThen _ = _
    rw [beginDestruction_of_found found, Cell.returning, if_neg (by simp [state]), layout]
    rfl
  | weak =>
    obtain ⟨s, w, state⟩ : ∃ s w, cell.state = some (.strong s w) := governed
    exact absurd sole (Cell.not_sole_of_some state nofun nofun)
  | block owner =>
    cases owner with
    | own =>
      have state : cell.state = some .own := governed
      obtain ⟨home, there⟩ := Option.isSome_iff_exists.1 (homed (by rw [state]; rfl))
      refine ⟨home, there, ?_⟩
      rw [Cell.returning, if_neg (by simp [state])]
      exact destroyWith_of_found found .giveBack there
    | discard =>
      have state : cell.state = some .discard := governed
      obtain ⟨home, there⟩ := Option.isSome_iff_exists.1 (homed (by rw [state]; rfl))
      refine ⟨home, there, ?_⟩
      rw [Cell.returning, if_pos state]
      exact destroyWith_of_found found .retire there
    | collect => exact absurd sole (Cell.not_sole_of_some governed nofun nofun)
    | strong =>
      obtain ⟨s, w, state⟩ : ∃ s w, cell.state = some (.strong s w) := governed
      exact absurd sole (Cell.not_sole_of_some state nofun nofun)
    | handle =>
      obtain ⟨n, state⟩ : ∃ n, cell.state = some (.handle n) := governed
      exact absurd sole (Cell.not_sole_of_some state nofun nofun)

/-- To let go of the owner of a value that is collected is to do nothing. -/
theorem letGo_of_collected {h : Handle} {l : Link} {cell : Cell} (link : h.link = some l)
    (books : m.Books (.drop h :: tasks)) (found : m.memory.cell? l.cell = some cell)
    (collected : cell.state = some .collect) : (Task.drop h).advance m = .returned [] m := by
  obtain ⟨there, found', governed, -⟩ := books.found link
  obtain rfl : cell = there := Option.some.inj (found.symm.trans found')
  rw [Task.advance_drop_of_some link]
  obtain ⟨ownership, kind, link'⟩ := h
  rw [collected] at governed
  cases ownership with
  | unique home => exact nomatch governed
  | weak =>
    obtain ⟨s, w, state⟩ := governed
    exact nomatch state
  | block owner =>
    cases owner with
    | collect => rfl
    | own => exact nomatch governed
    | discard => exact nomatch governed
    | strong =>
      obtain ⟨s, w, state⟩ := governed
      exact nomatch state
    | handle =>
      obtain ⟨n, state⟩ := governed
      exact nomatch state

/-- Where the storage of a cell is to go back that has no sole owner. -/
private theorem shared_storageTask {c : CellId} {cell : Cell} (found : m.memory.cell? c = some cell)
    (shared : ¬cell.Sole) {o : Machine}
    (led : storageTask .giveBack c n = .returned more o) :
    o = n ∧ ∀ u ∈ more, ∀ d there, u.follows? = some d → m.memory.cell? d = some there →
      ¬there.Sole := by
  cases led
  refine ⟨rfl, fun u member d there follows found' => ?_⟩
  dsimp only at member
  cases later : n.memory.cell? c with
  | none =>
    rw [later] at member
    cases member
  | some cell' =>
    rw [later] at member
    obtain ⟨home, -, rfl⟩ := List.mem_map.1 member
    cases follows
    cases found.symm.trans found'
    exact shared

/-- The last reference to a group is given up, or one that is not the last. -/
private theorem quiet_leave {t : Task} {c : CellId} {cell : Cell}
    {operation : BlockState → BlockState × Except CountFault Bool}
    (found : m.memory.cell? c = some cell) (shared : ¬cell.Sole)
    (led : (do if ← recount c operation then storageTask .giveBack c else return [] :
      Run Machine (List Task)) m = .returned more n) : Advanced m t more n := by
  obtain ⟨last, o, counted, next⟩ := Run.returned_of_bind led
  obtain ⟨deeds, values⟩ := recount_returned counted
  cases last with
  | false =>
    cases next
    exact .quiet deeds values (List.forall_mem_nil _)
  | true =>
    obtain ⟨rfl, follows⟩ := shared_storageTask found shared next
    exact .quiet deeds values follows

/-- The owners of a shared value are counted off, and the last one destroys it. -/
private theorem began_shared {h : Handle} {l : Link} {cell : Cell} {o : Machine}
    {operation : BlockState → BlockState × Except CountFault Bool} {last : Task}
    (link : h.link = some l) (found : m.memory.cell? l.cell = some cell) (shared : ¬cell.Sole)
    (uncollected : cell.state ≠ some .collect)
    (counted : recount l.cell operation m = .returned true o) {cell' : Cell}
    (found' : o.memory.cell? l.cell = some cell') (follows : last.follows? = some l.cell) :
    Advanced m (.drop h) (cell'.value.plan ++ [last]) (o.begun l.cell cell') := by
  obtain ⟨deeds, values⟩ := recount_returned counted
  have value : cell'.value = cell.value := by
    have same := congrFun values l.cell
    unfold value? at same
    rw [found, found'] at same
    exact Option.some.inj same
  rw [value]
  refine .began link found uncollected (congrArg _ deeds) ?_ follows fun sole => absurd sole shared
  rw [value?_begun found', values, value]

/-- What letting go of a handle comes to. -/
private theorem letGo_advanced {h : Handle} {l : Link} (link : h.link = some l)
    (books : m.Books (.drop h :: tasks)) (directed : m.Directed (.drop h))
    (advanced : (Task.drop h).advance m = .returned more n) : Advanced m (.drop h) more n := by
  obtain ⟨cell, found, governed, homed, -⟩ := books.found link
  by_cases sole : cell.Sole
  · obtain ⟨home, there, went⟩ := letGo_of_sole link books directed found sole
    cases went.symm.trans advanced
    refine .began link found ?_ rfl (value?_begun found) (cell.follows?_returning home l.cell)
      fun _ => ⟨home, there, rfl⟩
    intro collected
    exact Cell.not_sole_of_some collected nofun nofun sole
  · by_cases collected : cell.state = some .collect
    · cases (letGo_of_collected link books found collected).symm.trans advanced
      exact .quiet rfl rfl (List.forall_mem_nil _)
    · rw [Task.advance_drop_of_some link] at advanced
      have kept {operation : BlockState → BlockState × Except CountFault Bool}
          (owner : ∀ s, (operation s).1.owner = s.owner) {o : Machine} {last : Bool}
          (counted : recount l.cell operation m = .returned last o) :
          ∃ cell', o.memory.cell? l.cell = some cell' ∧ cell.Ages cell' := by
        have settled := Situation.of_returned (recount_settled l.cell owner) counted
        exact (settled.cells l.cell).exists_right found
      obtain ⟨ownership, kind, link'⟩ := h
      cases ownership with
      | unique home => exact absurd (.inl governed) sole
      | weak => exact quiet_leave found sole advanced
      | block owner =>
        cases owner with
        | own => exact absurd (.inr (.inl governed)) sole
        | discard => exact absurd (.inr (.inr governed)) sole
        | collect => exact absurd governed collected
        | strong =>
          obtain ⟨last, o, counted, next⟩ := Run.returned_of_bind advanced
          cases last with
          | false =>
            cases next
            obtain ⟨deeds, values⟩ := recount_returned counted
            exact .quiet deeds values (List.forall_mem_nil _)
          | true =>
            obtain ⟨cell', found', -⟩ := kept (fun s => by cases s <;> rfl) counted
            obtain ⟨taken, q, began, next⟩ := Run.returned_of_bind next
            cases (beginDestruction_of_found found').symm.trans began
            cases next
            exact began_shared link found sole collected counted found' rfl
        | handle =>
          obtain ⟨last, o, counted, next⟩ := Run.returned_of_bind advanced
          cases last with
          | false =>
            cases next
            obtain ⟨deeds, values⟩ := recount_returned counted
            exact .quiet deeds values (List.forall_mem_nil _)
          | true =>
            obtain ⟨cell', found', aged⟩ := kept BlockState.owner_decrementLocal counted
            obtain ⟨k, state⟩ : ∃ k, cell.state = some (.handle k) := governed
            obtain ⟨home, there⟩ := Option.isSome_iff_exists.1 (homed (by rw [state]; rfl))
            have went := destroyWith_of_found found' .giveBack (aged.home.trans there)
            cases went.symm.trans next
            exact began_shared link found sole collected counted found' rfl

/-- What a task can come to that returns. -/
theorem advanced {t : Task} (books : m.Books (t :: tasks)) (directed : m.Directed t)
    (advanced : t.advance m = .returned more n) : Advanced m t more n := by
  cases t with
  | drop h =>
    cases link : h.link with
    | none =>
      rw [Task.advance_drop_of_none link] at advanced
      cases advanced
      exact .quiet rfl rfl (List.forall_mem_nil _)
    | some l => exact letGo_advanced link books directed advanced
  | announce label =>
    obtain ⟨u, o, announced, rest⟩ := Run.returned_of_bind advanced
    cases rest
    have same := Situation.of_returned (announce_undisturbed label) announced
    exact .quiet same.2 same.spares.values (List.forall_mem_nil _)
  | leaveGroup c =>
    obtain ⟨cell, s, w, found, state, -⟩ := found_of_leaveGroup books
    exact quiet_leave found (Cell.not_sole_of_some state nofun nofun) advanced
  | giveBack a l c =>
    obtain ⟨cell, found, -⟩ := directed
    have start : (m.memory.cell? c).elim 0 (·.base) = cell.base := by
      rw [found]
      rfl
    cases advanced
    refine .gaveBack found ?_ (value?_of_cells (Memory.cells_deallocate _ _ _ _))
    rw [← start]
    rfl
  | retire a l c =>
    obtain ⟨cell, found, -⟩ := directed
    have start : (m.memory.cell? c).elim 0 (·.base) = cell.base := by
      rw [found]
      rfl
    cases advanced
    refine .retired found ?_ (value?_of_cells (Memory.cells_changeAllocator _ _ _))
    rw [← start]
    rfl

/-- What panics is the announcement of a label, which concerns no storage. -/
theorem undisturbed_of_panicked {t : Task} {payload : Payload}
    (books : m.Books (t :: tasks)) (panicked : t.advance m = .unwinding payload n) :
    m.Undisturbed n := by
  cases t with
  | drop h =>
    cases link : h.link with
    | none =>
      rw [Task.advance_drop_of_none link] at panicked
      cases panicked
    | some l =>
      obtain ⟨more, o, went, -⟩ := letGo_books link books
      rw [Task.advance_drop_of_some link, went] at panicked
      cases panicked
  | announce label =>
    have same := Run.Keeps.bind (announce_undisturbed label)
      (fun _ => Run.Keeps.pure ([] : List Task)) m
    rw [show (announce label >>= fun _ => pure []) m = _ from panicked] at same
    exact same
  | leaveGroup c =>
    obtain ⟨more, o, went, -⟩ := leaveGroup_books books
    cases went.symm.trans panicked
  | giveBack a l c => cases panicked
  | retire a l c => cases panicked

end Machine

namespace Situation

open Machine

variable {may : Licence} {s t : Situation}

/-! ## Values that stay -/

/-- The value of an owner that is not let go of is not being destroyed, unless it is collected. -/
theorem Balanced.unbegun (balanced : s.Balanced) {h : Handle} {l : Link}
    (member : .drop h ∈ s.duties) (link : h.link = some l)
    (exclusive : Session.isClonable h = false) :
    ∃ cell, s.machine.memory.cell? l.cell = some cell ∧
      (cell.state = some .collect ∨ s.machine.destructions l.cell = 0) := by
  have books : s.machine.Books s.duties := balanced.balanced.books
  have seen := seen_of_mem (m := s.machine) member
  obtain ⟨cell, found, governed, -, law⟩ := books.found_of_seen seen link
  have positive := seen l link
  have sole {q : Qualifier} (law : (s.machine.tally s.duties l.cell).SoleLaw q)
      (owned : 0 < (s.machine.tally s.duties l.cell).refs q) :
      s.machine.destructions l.cell = 0 := by
    have began : (s.machine.tally s.duties l.cell).began = 0 := by
      have once := law.began
      omega
    exact began
  refine ⟨cell, found, ?_⟩
  obtain ⟨ownership, kind, link'⟩ := h
  cases ownership with
  | weak => cases exclusive
  | unique home =>
    have state : cell.state = none := governed
    rw [state] at law
    have law : (s.machine.tally s.duties l.cell).BareLaw := law
    have positive : 0 < (s.machine.tally s.duties l.cell).refs .unique := positive
    have began : (s.machine.tally s.duties l.cell).began = 0 := by
      have once := law.once
      rcases law.began with none | some <;> omega
    exact .inr began
  | block owner =>
    cases owner with
    | strong => cases exclusive
    | handle => cases exclusive
    | collect => exact .inl governed
    | own =>
      have state : cell.state = some .own := governed
      rw [state] at law
      exact .inr (sole law positive)
    | discard =>
      have state : cell.state = some .discard := governed
      rw [state] at law
      exact .inr (sole law positive)

/-- A step of a destruction leaves the value in a cell as it is, or its destruction begins. -/
theorem value?_of_step {m n : Machine} {k : List Handle} {tasks tasks' : List Task}
    {panics panics' : List Passage} (balanced : Balanced ⟨m, k, tasks, panics⟩)
    (directed : Directed ⟨m, k, tasks, panics⟩)
    (step : Destruction.Step ⟨tasks, panics, m⟩ ⟨tasks', panics', n⟩) {c : CellId} {cell : Cell}
    (found : m.memory.cell? c = some cell) :
    n.value? c = m.value? c ∨ cell.state ≠ some .collect ∧ 0 < n.destructions c := by
  have books := balanced.balanced.books
  cases step with
  | cleanup => exact .inl rfl
  | panic panicked =>
    have same := undisturbed_of_panicked books panicked
    exact .inl (congrFun (value?_of_cells (congrArg Memory.cells same.1)) c)
  | task went =>
    have did := advanced books (directed.duties _
      (List.mem_append_left _ (List.mem_append_left _ (List.mem_cons_self ..)))) went
    cases did with
    | quiet deeds values shared => exact .inl (congrFun values c)
    | gaveBack found' deeds values => exact .inl (congrFun values c)
    | retired found' deeds values => exact .inl (congrFun values c)
    | @began h l cell' last _ link found' uncollected deeds values follows returning =>
      by_cases same : c = l.cell
      · subst same
        obtain rfl : cell' = cell := Option.some.inj (found'.symm.trans found)
        refine .inr ⟨uncollected, ?_⟩
        unfold destructions
        rw [deeds, List.count_cons_self]
        exact Nat.succ_pos _
      · refine .inl ?_
        rw [values, Function.update_of_ne same]

/-- Whatever is settled, the value of an owner that is not let go of stays as it is, also when a
destructor panics or the process ends. -/
theorem drain_value? {k : List Handle} {h : Handle} {l : Link} (held : h ∈ k)
    (link : h.link = some l) (exclusive : Session.isClonable h = false) (tasks : List Task)
    (panics : List Passage) (m : Machine) (balanced : Balanced ⟨m, k, tasks, panics⟩)
    (directed : Directed ⟨m, k, tasks, panics⟩) :
    (drain tasks panics m).state.value? l.cell = m.value? l.cell := by
  have kept {m n : Machine} {tasks tasks' : List Task} {panics panics' : List Passage}
      (balanced : Balanced ⟨m, k, tasks, panics⟩) (directed : Directed ⟨m, k, tasks, panics⟩)
      (step : Destruction.Step ⟨tasks, panics, m⟩ ⟨tasks', panics', n⟩)
      (rest : Balanced ⟨n, k, tasks', panics'⟩ → Directed ⟨n, k, tasks', panics'⟩ →
        (drain tasks' panics' n).state.value? l.cell = n.value? l.cell) :
      (drain tasks' panics' n).state.value? l.cell = m.value? l.cell := by
    have step' : Step ⟨False, False⟩ ⟨m, k, tasks, panics⟩ ⟨n, k, tasks', panics'⟩ := .settling step
    have balanced' := balanced.step step'
    rw [rest balanced' (directed.step balanced step')]
    obtain ⟨cell, found, before⟩ := balanced.unbegun
      (List.mem_append_right _ (List.mem_map_of_mem held)) link exclusive
    obtain ⟨later, found', after⟩ := balanced'.unbegun
      (List.mem_append_right _ (List.mem_map_of_mem held)) link exclusive
    rcases value?_of_step balanced directed step found with same | ⟨uncollected, began⟩
    · exact same
    · rcases after with collected | never
      · obtain ⟨old, there, endures⟩ := step.settled.continues.earlier found'
        obtain rfl : cell = old := Option.some.inj (found.symm.trans there)
        exact absurd (endures.collected.1 collected) uncollected
      · exact absurd began (by rw [show Machine.destructions n l.cell = 0 from never]; simp)
  induction tasks, panics, m using drain.induct with
  | case1 m t rest panics more n went ih =>
    rw [drain_cons_returned went]
    exact kept balanced directed (.task went) ih
  | case2 m t rest panics payload n panicked ih =>
    rw [drain_cons_unwinding panicked]
    exact kept balanced directed (.panic panicked) ih
  | case3 m t rest panics cause n aborted =>
    exact absurd aborted (advance_ne_aborted t balanced.balanced.books cause n)
  | case4 m payload t rest others ih =>
    rw [drain_nil_cleanup]
    exact kept balanced directed .cleanup ih
  | case5 m => rw [drain_nil_nil]; rfl
  | case6 m payload => rw [drain_nil_singleton]; rfl
  | case7 m payload head tail => rw [drain_nil_cons_cons]; rfl

end Situation

end Custody
