import Custody.Proofs.Census
import Custody.Proofs.Ledgers
import Custody.Release.Settle

/-!
# What settling leaves alone

To settle tasks is to count in control blocks, to destroy values and to give storage back one
by one, and nothing else. `Machine.Settled m n` says so of the machine before and the machine
that is left: a cell keeps its place, its type and its kind of owner, and its value or what is
left of it; an allocator keeps all but its counters, so that an arena has the same chunks, the
same cursor and the same list of destructors, and the counters still count what was done; no address
of the heap is handed out; and the deeds that are new are those of letting go. This holds however
settling ends.
-/

namespace Option.Rel

variable {α β : Type} {R S : α → β → Prop} {a : Option α} {b : Option β}

/-- What something is related to is something. -/
theorem exists_right (related : Option.Rel R a b) {x : α} (left : a = Option.some x) :
    ∃ y, b = Option.some y ∧ R x y := by
  subst left
  cases related with
  | some holds => exact ⟨_, rfl, holds⟩

theorem exists_left (related : Option.Rel R a b) {y : β} (right : b = Option.some y) :
    ∃ x, a = Option.some x ∧ R x y := by
  subst right
  cases related with
  | some holds => exact ⟨_, rfl, holds⟩

theorem mono (related : Option.Rel R a b) (le : ∀ x y, R x y → S x y) : Option.Rel S a b := by
  cases related with
  | none => exact .none
  | some holds => exact .some (le _ _ holds)

end Option.Rel

namespace Custody

/-- What settling may make of a cell. -/
structure Cell.Ages (before after : Cell) : Prop where
  home : after.home = before.home
  base : after.base = before.base
  layout : after.layout = before.layout
  offset : after.offset = before.offset
  kind : after.kind = before.kind
  owner : after.state.map BlockState.owner = before.state.map BlockState.owner
  value : after.value = before.value ∨ after.value = before.value.remains

@[simp] theorem Value.remains_remains (v : Value) : v.remains.remains = v.remains := by
  cases v <;> rfl

namespace Cell

theorem Ages.refl (c : Cell) : c.Ages c := ⟨rfl, rfl, rfl, rfl, rfl, rfl, .inl rfl⟩

theorem Ages.trans {a b c : Cell} (first : a.Ages b) (second : b.Ages c) : a.Ages c where
  home := second.home.trans first.home
  base := second.base.trans first.base
  layout := second.layout.trans first.layout
  offset := second.offset.trans first.offset
  kind := second.kind.trans first.kind
  owner := second.owner.trans first.owner
  value := by
    rcases first.value with kept | spent <;> rcases second.value with kept' | spent'
    · exact .inl (kept'.trans kept)
    · exact .inr (by rw [spent', kept])
    · exact .inr (by rw [kept', spent])
    · exact .inr (by rw [spent', spent, Value.remains_remains])

end Cell

/-- An allocator without its counters. -/
def Allocator.uncounted : Allocator → Allocator
  | heap _ => heap {}
  | arena a => arena { a with ledger := {} }

namespace BlockState

/-! Counting leaves a block to its kind of owner. -/

theorem owner_incrementStrong (s : BlockState) : s.incrementStrong.1.owner = s.owner := by
  cases s with
  | strong s w =>
    unfold incrementStrong
    dsimp only
    split <;> rfl
  | _ => rfl

theorem owner_incrementWeak (s : BlockState) : s.incrementWeak.1.owner = s.owner := by
  cases s with
  | strong s w =>
    unfold incrementWeak
    dsimp only
    split <;> rfl
  | _ => rfl

theorem owner_incrementLocal (s : BlockState) : s.incrementLocal.1.owner = s.owner := by
  cases s with
  | handle n =>
    unfold incrementLocal
    dsimp only
    split <;> rfl
  | _ => rfl

theorem owner_decrementLocal (s : BlockState) : s.decrementLocal.1.owner = s.owner := by
  cases s with
  | handle n =>
    unfold decrementLocal
    dsimp only
    split <;> rfl
  | _ => rfl

theorem owner_tryUpgrade (s : BlockState) : s.tryUpgrade.1.owner = s.owner := by
  cases s with
  | strong s w =>
    unfold tryUpgrade
    dsimp only
    by_cases gone : s = 0
    · rw [if_pos gone]
    · rw [if_neg gone]
      split <;> rfl
  | _ => rfl

end BlockState

/-- Whether an event is one of letting go of values and storage. -/
def StorageEvent.isLettingGo : StorageEvent → Bool
  | deallocated .. | retired .. | destructionBegan _ | destructionFailed _ | handedBack _
  | miscounted .. => true
  | made _ | granted .. | placed .. | releaseBegan _ | collectedRun .. | chunkObtained ..
  | chunkReleased .. | bulkReleased .. => false

namespace Machine

/-- What settling may make of a machine. -/
structure Settled (m n : Machine) : Prop where
  cells : ∀ c, Option.Rel Cell.Ages (m.memory.cell? c) (n.memory.cell? c)
  next : n.memory.cells.next = m.memory.cells.next
  allocators : ∀ id, (n.memory.allocator? id).map Allocator.uncounted =
    (m.memory.allocator? id).map Allocator.uncounted
  allocatorsNext : n.memory.allocators.next = m.memory.allocators.next
  top : n.memory.heap.top = m.memory.heap.top
  deeds : ∃ added, n.deeds = added ++ m.deeds ∧ ∀ e ∈ added, e.isLettingGo
  audited : m.Audited → n.Audited

theorem Settled.refl (m : Machine) : m.Settled m where
  cells c := by
    cases m.memory.cell? c with
    | none => exact .none
    | some cell => exact .some (Cell.Ages.refl cell)
  next := rfl
  allocators _ := rfl
  allocatorsNext := rfl
  top := rfl
  deeds := ⟨[], rfl, nofun⟩
  audited h := h

theorem Settled.trans {m n o : Machine} (first : m.Settled n) (second : n.Settled o) :
    m.Settled o where
  cells c := by
    have before := first.cells c
    have after := second.cells c
    generalize m.memory.cell? c = x at before ⊢
    generalize n.memory.cell? c = y at before after
    generalize o.memory.cell? c = z at after ⊢
    cases before with
    | none => exact after
    | some aged =>
      cases after with
      | some aged' => exact .some (aged.trans aged')
  next := second.next.trans first.next
  allocators id := (second.allocators id).trans (first.allocators id)
  allocatorsNext := second.allocatorsNext.trans first.allocatorsNext
  top := second.top.trans first.top
  deeds := by
    obtain ⟨added, same, letting⟩ := first.deeds
    obtain ⟨more, same', letting'⟩ := second.deeds
    refine ⟨more ++ added, by rw [same', same, List.append_assoc], fun e mem => ?_⟩
    rcases List.mem_append.1 mem with mem | mem
    · exact letting' e mem
    · exact letting e mem
  audited h := second.audited (first.audited h)

instance : IsPreorder Machine Settled where
  refl := Settled.refl
  trans _ _ _ := Settled.trans

theorem Undisturbed.settled {m n : Machine} (h : m.Undisturbed n) : m.Settled n where
  cells c := by
    rw [h.1]
    exact (Settled.refl m).cells c
  next := by rw [h.1]
  allocators _ := by rw [h.1]
  allocatorsNext := by rw [h.1]
  top := by rw [h.1]
  deeds := ⟨[], h.2, nofun⟩
  audited audited id a there := by
    rw [h.1] at there
    rw [h.2]
    exact audited id a there

/-! ## Single steps -/

/-- A deed of letting go that no allocator counts. -/
theorem settled_note {m : Machine} {e : StorageEvent} (h : e.isLettingGo)
    (other : ∀ id, e.isEntered id = false) :
    m.Settled { m with process := m.process.after (.storage e) } where
  cells := (Settled.refl m).cells
  next := rfl
  allocators _ := rfl
  allocatorsNext := rfl
  top := rfl
  deeds := ⟨[e], rfl, by simpa using h⟩
  audited audited := audited.note other rfl rfl

theorem settled_setCell {m : Machine} {c : CellId} {old new : Cell}
    (found : m.memory.cell? c = some old) (aged : old.Ages new) :
    m.Settled { m with memory := m.memory.setCell c new } where
  cells d := by
    by_cases same : d = c
    · subst same
      rw [found]
      show Option.Rel Cell.Ages (some old) ((m.memory.setCell d new).cell? d)
      rw [Memory.cell?_setCell_self found]
      exact .some aged
    · show Option.Rel Cell.Ages (m.memory.cell? d) ((m.memory.setCell c new).cell? d)
      rw [Memory.cell?_setCell_of_ne _ _ same]
      exact (Settled.refl m).cells d
  next := Slab.next_set _ _ _
  allocators _ := rfl
  allocatorsNext := rfl
  top := rfl
  deeds := ⟨[], rfl, nofun⟩
  audited h := h

/-- An allocator changes in nothing but its counters. -/
theorem uncounted_changeAllocator (m : Memory) (id : AllocatorId) {f : Allocator → Allocator}
    (kept : ∀ a, (f a).uncounted = a.uncounted) (other : AllocatorId) :
    ((m.changeAllocator id f).allocator? other).map Allocator.uncounted =
      (m.allocator? other).map Allocator.uncounted := by
  unfold Memory.changeAllocator
  cases found : m.allocator? id with
  | none => rfl
  | some a =>
    show ((m.allocators.set id (f a)).get? other).map _ = (m.allocators.get? other).map _
    by_cases same : other = id
    · subst same
      have found : m.allocators.get? other = some a := found
      rw [Slab.get?_set_self found, found, Option.map_some, Option.map_some, kept]
    · rw [Slab.get?_set_of_ne _ (Ne.symm same)]

theorem next_changeAllocator (m : Memory) (id : AllocatorId) (f : Allocator → Allocator) :
    (m.changeAllocator id f).allocators.next = m.allocators.next := by
  unfold Memory.changeAllocator
  cases m.allocator? id with
  | none => rfl
  | some a => exact Slab.next_set _ _ _

/-- A deed of letting go that an allocator counts. -/
theorem settled_enter {m : Machine} {id : AllocatorId} {e : StorageEvent}
    {f : Allocator → Allocator} (letting : e.isLettingGo)
    (kept : ∀ a, (f a).uncounted = a.uncounted)
    (entered : ∀ a, (f a).ledger = e.entered id a.ledger)
    (other : ∀ id', id' ≠ id → e.isEntered id' = false) :
    m.Settled
      { process := m.process.after (.storage e), memory := m.memory.changeAllocator id f } where
  cells c := by
    have same : (m.memory.changeAllocator id f).cell? c = m.memory.cell? c := by
      unfold Memory.cell?
      rw [Memory.cells_changeAllocator]
    show Option.Rel Cell.Ages (m.memory.cell? c) ((m.memory.changeAllocator id f).cell? c)
    rw [same]
    exact (Settled.refl m).cells c
  next := congrArg Slab.next (m.memory.cells_changeAllocator id f)
  allocators := uncounted_changeAllocator m.memory id kept
  allocatorsNext := next_changeAllocator m.memory id f
  top := by
    show (m.memory.changeAllocator id f).heap.top = _
    unfold Memory.changeAllocator
    cases m.memory.allocator? id <;> rfl
  deeds := ⟨[e], rfl, by simpa using letting⟩
  audited audited := audited.enter entered other

/-! ## Operations -/

open Run

theorem noteStorage_settled {e : StorageEvent} (h : e.isLettingGo)
    (other : ∀ id, e.isEntered id = false) : (noteStorage e).Keeps Settled :=
  fun _ => settled_note h other

/-- Another allocator does not count what one counts. -/
private theorem isEntered_of_ne {id id' : AllocatorId} (ne : id' ≠ id) : (id == id') = false :=
  beq_eq_false_iff_ne.2 (Ne.symm ne)

/-- What an allocator gets back it counts. -/
theorem deallocate_settled (id : AllocatorId) (address : Address) (l : Layout) :
    (deallocate id address l).Keeps Settled := by
  intro m
  have entered : m.Settled
      { process := m.process.after (.storage (.deallocated id address l))
        memory := m.memory.changeAllocator id Allocator.deallocate } := by
    refine settled_enter rfl (fun a => by cases a <;> rfl) (fun a => ?_)
      fun id' ne => isEntered_of_ne ne
    rw [StorageEvent.entered_deallocated]
    cases a <;> rfl
  -- What comes back to the heap is not handed out again.
  refine ⟨entered.cells, entered.next, entered.allocators, entered.allocatorsNext, ?_,
    entered.deeds, entered.audited⟩
  refine Eq.trans ?_ entered.top
  show (m.memory.deallocate id address l).heap.top = (m.memory.changeAllocator id _).heap.top
  have same : (m.memory.changeAllocator id Allocator.deallocate).heap.top = m.memory.heap.top :=
    entered.top
  rw [same]
  unfold Memory.deallocate
  dsimp only
  split
  · rfl
  · rfl

theorem retire_settled (id : AllocatorId) (address : Address) (l : Layout) :
    (retire id address l).Keeps Settled := by
  intro m
  refine settled_enter (e := .retired id address l) rfl (fun a => by cases a <;> rfl)
    (fun a => ?_) fun id' ne => isEntered_of_ne ne
  rw [StorageEvent.entered_retired]
  cases a <;> rfl

/-- What comes of a count that failed leaves the machine undisturbed, and does not return. -/
theorem countFailed_undisturbed {α : Type} (kind : Kind) (state : BlockState) (f : CountFault) :
    (countFailed kind state f : Run Machine α).Keeps Undisturbed := by
  cases f with
  | overflow => exact fail_undisturbed _
  | doubleFree => exact fail_undisturbed _
  | wrongGroup needed => exact fun _ => ⟨rfl, rfl⟩

/-- The machine in which it was noted that a count failed. -/
def miscounted (m : Machine) (c : CellId) (fault : CountFault) : Machine :=
  { m with process := m.process.after (.storage (.miscounted c fault)) }

/-- A count that fails is noted, and then it unwinds or ends the process and nothing else. -/
theorem miscount_noted {α : Type} (c : CellId) (kind : Kind) (state : BlockState)
    (f : CountFault) (m : Machine) :
    (miscount c kind state f m : Outcome Machine α).Ensures (fun _ _ => False)
      (m.miscounted c f).Undisturbed := by
  have noted : noteStorage (.miscounted c f) m = .returned () (m.miscounted c f) := rfl
  unfold miscount
  rw [Run.bind_apply, noted]
  cases f with
  | overflow => exact fail_ensures _ _
  | doubleFree => exact fail_ensures _ _
  | wrongGroup needed => exact ⟨rfl, rfl⟩

/-- To count is to give a block another state, to note that a count failed, and what comes of
that. -/
theorem recount_keeps {R : Machine → Machine → Prop} [IsPreorder Machine R]
    (undisturbed : ∀ m n : Machine, m.Undisturbed n → R m n)
    (noted : ∀ (m : Machine) (c : CellId) (fault : CountFault), R m (m.miscounted c fault))
    {α : Type} [Inhabited α] {c : CellId}
    {operation : BlockState → BlockState × Except CountFault α}
    (counted : ∀ (m : Machine) (cell : Cell) (s : BlockState), m.memory.cell? c = some cell →
      cell.state = some s →
      R m { m with memory := m.memory.setCell c { cell with state := some (operation s).1 } }) :
    (recount c operation).Keeps R := by
  intro m
  unfold recount
  cases found : m.memory.cell? c with
  | none => exact refl_of R m
  | some cell =>
    dsimp only
    cases state : cell.state with
    | none => exact refl_of R m
    | some s =>
      dsimp only
      have given := counted m cell s found state
      cases answer : (operation s).2 with
      | ok a => exact given
      | error fault =>
        refine trans_of R given (trans_of R (noted _ c fault) ?_)
        exact undisturbed _ _ (countFailed_undisturbed (α := α) cell.kind s fault _)

theorem recount_settled {α : Type} [Inhabited α] (c : CellId)
    {operation : BlockState → BlockState × Except CountFault α}
    (kept : ∀ s, (operation s).1.owner = s.owner) : (recount c operation).Keeps Settled := by
  refine recount_keeps (fun _ _ => Undisturbed.settled)
    (fun _ _ _ => settled_note rfl fun _ => rfl) fun m cell s found state => ?_
  have aged : cell.Ages { cell with state := some (operation s).1 } :=
    ⟨rfl, rfl, rfl, rfl, rfl, by rw [state]; exact congrArg some (kept s), .inl rfl⟩
  exact settled_setCell found aged

theorem beginDestruction_settled (c : CellId) : (beginDestruction c).Keeps Settled := by
  intro m
  unfold beginDestruction
  cases found : m.memory.cell? c with
  | none => exact Settled.refl m
  | some cell =>
    have aged : cell.Ages { cell with value := cell.value.remains } :=
      ⟨rfl, rfl, rfl, rfl, rfl, rfl, .inr rfl⟩
    exact (settled_setCell found aged).trans (settled_note rfl fun _ => rfl)

/-- To let go of a handle is to count, to begin a destruction and to find out where storage
belongs. -/
theorem letGo_keeps {R : Machine → Machine → Prop} [IsPreorder Machine R]
    (counts : ∀ (α : Type) [Inhabited α] (c : CellId)
      (operation : BlockState → BlockState × Except CountFault α),
      (∀ s, (operation s).1.owner = s.owner) → (recount c operation).Keeps R)
    (begins : ∀ c, (beginDestruction c).Keeps R) (kind : Kind) (c : CellId) (o : Ownership) :
    (letGo kind c o).Keeps R := by
  have destroys (task : AllocatorId → Layout → CellId → Task) : (destroyWith task c).Keeps R :=
    Keeps.bind (begins c) fun _ => Keeps.bind (Keeps.gets _) fun _ => Keeps.pure _
  cases o with
  | unique home => exact Keeps.bind (begins c) fun _ => Keeps.pure _
  | weak =>
    refine Keeps.bind (counts _ c _ fun s => by cases s <;> rfl) fun last => ?_
    cases last with
    | false => exact Keeps.pure _
    | true => exact Keeps.gets _
  | block owner =>
    cases owner with
    | own => exact destroys _
    | discard => exact destroys _
    | collect => exact Keeps.pure _
    | strong =>
      refine Keeps.bind (counts _ c _ fun s => by cases s <;> rfl) fun last => ?_
      cases last with
      | false => exact Keeps.pure _
      | true => exact Keeps.bind (begins c) fun _ => Keeps.pure _
    | handle =>
      refine Keeps.bind (counts _ c _ BlockState.owner_decrementLocal) fun last => ?_
      cases last with
      | false => exact Keeps.pure _
      | true => exact destroys _

theorem announce_undisturbed (label : Label) : (announce label).Keeps Undisturbed := by
  refine Keeps.bind (note_undisturbed rfl) fun _ => ?_
  cases label.panicMessage? with
  | none => exact Keeps.pure ()
  | some message =>
    refine Keeps.bind (Keeps.gets _) fun unwinding => ?_
    cases unwinding with
    | true => exact Keeps.pure ()
    | false => exact panic_undisturbed _

/-- A task that gives no storage back is carried out by counting, by beginning a destruction or by
announcing a label. -/
theorem advance_keeps {R : Machine → Machine → Prop} [IsPreorder Machine R]
    (counts : ∀ (α : Type) [Inhabited α] (c : CellId)
      (operation : BlockState → BlockState × Except CountFault α),
      (∀ s, (operation s).1.owner = s.owner) → (recount c operation).Keeps R)
    (begins : ∀ c, (beginDestruction c).Keeps R) (announces : ∀ l, (announce l).Keeps R) (t : Task)
    (returns : ∀ a l c, t = .giveBack a l c ∨ t = .retire a l c → t.advance.Keeps R) :
    t.advance.Keeps R := by
  cases t with
  | drop h =>
    cases link : h.link with
    | none =>
      rw [Task.advance_drop_of_none link]
      exact Keeps.pure _
    | some l =>
      rw [Task.advance_drop_of_some link]
      exact letGo_keeps counts begins _ _ _
  | announce label => exact Keeps.bind (announces label) fun _ => Keeps.pure _
  | leaveGroup c =>
    refine Keeps.bind (counts _ c _ fun s => by cases s <;> rfl) fun last => ?_
    cases last with
    | false => exact Keeps.pure _
    | true => exact Keeps.gets _
  | giveBack a l c => exact returns a l c (.inl rfl)
  | retire a l c => exact returns a l c (.inr rfl)

theorem advance_settled (t : Task) : t.advance.Keeps Settled := by
  refine advance_keeps (fun _ _ c _ kept => recount_settled c kept) beginDestruction_settled
    (fun l => (announce_undisturbed l).mono fun _ _ => Undisturbed.settled) t ?_
  rintro a l c (rfl | rfl)
  · refine Keeps.bind (noteStorage_settled rfl fun _ => rfl) fun _ => ?_
    refine Keeps.bind (Keeps.gets _) fun start => ?_
    exact Keeps.bind (deallocate_settled a start l) fun _ => Keeps.pure _
  · refine Keeps.bind (noteStorage_settled rfl fun _ => rfl) fun _ => ?_
    refine Keeps.bind (Keeps.gets _) fun start => ?_
    exact Keeps.bind (retire_settled a start l) fun _ => Keeps.pure _

/-- What a panic adds to the history: the destructions that it left. -/
theorem deeds_noteFailures (tasks : List Task) (m : Machine) :
    (noteFailures tasks m).deeds =
      ((tasks.filterMap Task.follows?).map StorageEvent.destructionFailed).reverse ++ m.deeds := by
  unfold noteFailures deeds Process.deeds
  simp only [List.filterMap_append, List.filterMap_reverse, List.filterMap_map]
  congr 2
  induction tasks.filterMap Task.follows? with
  | nil => rfl
  | cons c rest ih => simpa [Event.storage?] using ih

theorem noteFailures_settled (tasks : List Task) (m : Machine) :
    m.Settled (noteFailures tasks m) := by
  let failures := ((tasks.filterMap Task.follows?).map StorageEvent.destructionFailed).reverse
  have noted : (noteFailures tasks m).deeds = failures ++ m.deeds := deeds_noteFailures tasks m
  have failed {e : StorageEvent} (member : e ∈ failures) : ∃ c, e = .destructionFailed c := by
    obtain ⟨c, -, rfl⟩ := List.mem_map.1 (List.mem_reverse.1 member)
    exact ⟨c, rfl⟩
  refine ⟨(Settled.refl m).cells, rfl, fun _ => rfl, rfl, rfl, ⟨failures, noted, ?_⟩, ?_⟩
  · intro e member
    obtain ⟨c, rfl⟩ := failed member
    rfl
  · intro audited
    refine audited.kept (fun id a there => ⟨a, there, rfl⟩) noted fun id _ _ e member => ?_
    obtain ⟨c, rfl⟩ := failed member
    rfl

end Machine

end Custody
