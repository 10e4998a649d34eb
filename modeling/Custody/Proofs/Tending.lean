import Custody.Proofs.Exclusive

/-!
# What follows a destruction

`Cell.Tended` is what is known of a value from the history and from what is still to be done:
nothing comes before the beginning of its destruction that should follow it, what follows is the
return of its storage in the way that its owner wants, and what is collected is destroyed by its
allocator. A program that does not transfer values, which is one whose licence is without
`Licence.transfer`, keeps this for all values that it puts into storage: `Situation.Tended.step`.

`Lawful.released_of_ran` says of a value that its allocator destroyed that this was in a release
which began after the value was put into storage.
-/

namespace Custody

/-! ## What is known of a cell -/

/-- What is known of a cell in which a value was put for an owner, from the history and from what
is still to be done. -/
structure Cell.Tended (deeds : List StorageEvent) (tasks : List Task) (c : CellId) (cell : Cell) :
    Prop where
  /-- The value was put there for an owner. -/
  placed : ∃ e ∈ deeds, e.places c = true
  /-- What is to follow a destruction follows one that has begun, and is the return of the
  storage. -/
  follows : cell.Sole → ∀ t ∈ tasks, t.follows? = some c → .destructionBegan c ∈ deeds ∧
    ∃ home, cell.home = some home ∧ t = cell.returning home c
  /-- A destruction that a panic left had begun. -/
  failed : cell.Sole → .destructionFailed c ∈ deeds → .destructionBegan c ∈ deeds
  /-- The storage goes back after the destruction has begun, and as the owner wants it. -/
  handed : cell.Sole → ∀ newer older, deeds = newer ++ .handedBack c :: older →
    .destructionBegan c ∈ older ∧
      ∃ home later, cell.home = some home ∧ newer = later ++ [cell.freed home]
  /-- What is collected is destroyed by a destructor that its allocator runs. -/
  collected : cell.state = some .collect → .destructionBegan c ∈ deeds →
    ∃ id base d, .collectedRun id base d ∈ deeds ∧ d.subject = c

section Growth

/-- An event that is not among the newer ones is among the older ones. -/
theorem exists_of_append_eq {α : Type} {added deeds newer older : List α} {e : α}
    (split : added ++ deeds = newer ++ e :: older) (other : e ∉ added) :
    ∃ later, newer = added ++ later ∧ deeds = later ++ e :: older := by
  rcases List.append_eq_append_iff.1 split with ⟨later, is, rest⟩ | ⟨later, is, rest⟩
  · exact ⟨later, is, rest⟩
  · cases later with
    | nil => exact ⟨[], by rw [is, List.append_nil, List.append_nil], rest.symm⟩
    | cons f later =>
      rw [List.cons_append, List.cons.injEq] at rest
      refine absurd ?_ other
      rw [is, rest.1]
      exact List.mem_append_right _ (List.mem_cons_self ..)

variable {deeds added : List StorageEvent} {tasks tasks' : List Task} {c : CellId}
  {cell later : Cell}

/-- What is known of a cell stays known when the history grows, if what is new is in order. -/
theorem Cell.Tended.grow (tended : cell.Tended deeds tasks c) (stays : cell.Stays later)
    (follows : cell.Sole → ∀ t ∈ tasks', t.follows? = some c → t ∈ tasks ∨
      .destructionBegan c ∈ added ∧ ∃ home, cell.home = some home ∧ t = cell.returning home c)
    (failed : cell.Sole → .destructionFailed c ∈ added → .destructionBegan c ∈ deeds)
    (handed : cell.Sole → .handedBack c ∈ added → .destructionBegan c ∈ deeds ∧
      ∃ home, cell.home = some home ∧ added = [cell.freed home, .handedBack c])
    (collected : cell.state = some .collect → .destructionBegan c ∈ added →
      ∃ id base d, .collectedRun id base d ∈ added ∧ d.subject = c) :
    later.Tended (added ++ deeds) tasks' c where
  placed := by
    obtain ⟨e, member, places⟩ := tended.placed
    exact ⟨e, List.mem_append_right _ member, places⟩
  follows sole t member is := by
    rw [stays.sole] at sole
    rw [stays.home, stays.returning]
    rcases follows sole t member is with old | ⟨began, returning⟩
    · obtain ⟨began, returning⟩ := tended.follows sole t old is
      exact ⟨List.mem_append_right _ began, returning⟩
    · exact ⟨List.mem_append_left _ began, returning⟩
  failed sole member := by
    rw [stays.sole] at sole
    refine List.mem_append_right _ ?_
    rcases List.mem_append.1 member with new | old
    · exact failed sole new
    · exact tended.failed sole old
  handed sole newer older split := by
    rw [stays.sole] at sole
    rw [stays.home, stays.freed]
    by_cases new : .handedBack c ∈ added
    · obtain ⟨began, home, there, is⟩ := handed sole new
      have other : StorageEvent.handedBack c ≠ cell.freed home := by
        unfold Cell.freed
        split <;> exact nofun
      rw [is] at split
      match newer, split with
      | [], split => exact absurd (List.cons.inj split).1.symm other
      | [e], split =>
        simp only [List.cons_append, List.nil_append, List.cons.injEq, true_and] at split
        obtain ⟨rfl, rfl⟩ := split
        exact ⟨began, home, [], there, rfl⟩
      | e :: f :: newer, split =>
        simp only [List.cons_append, List.nil_append, List.cons.injEq] at split
        obtain ⟨first, home', last, there', rest⟩ := tended.handed sole newer older split.2.2
        exact ⟨first, home', e :: f :: last, there', by rw [rest]; rfl⟩
    · obtain ⟨rest, rfl, earlier⟩ := exists_of_append_eq split new
      obtain ⟨first, home, last, there, rfl⟩ := tended.handed sole rest older earlier
      exact ⟨first, home, added ++ last, there, (List.append_assoc _ _ _).symm⟩
  collected state member := by
    rw [stays.state (.inr (.inr rfl))] at state
    rcases List.mem_append.1 member with new | old
    · obtain ⟨id, base, d, ran, subject⟩ := collected state new
      exact ⟨id, base, d, List.mem_append_left _ ran, subject⟩
    · obtain ⟨id, base, d, ran, subject⟩ := tended.collected state old
      exact ⟨id, base, d, List.mem_append_right _ ran, subject⟩

/-- A value that was just put into a new cell. -/
theorem Cell.Tended.fresh (idle : ∀ t ∈ tasks, t.follows? ≠ some c)
    (placed : ∃ e ∈ deeds, e.places c = true) (began : .destructionBegan c ∉ deeds)
    (failed : .destructionFailed c ∉ deeds) (handed : .handedBack c ∉ deeds) :
    cell.Tended deeds tasks c where
  placed := placed
  follows _ t member is := absurd is (idle t member)
  failed _ member := absurd member failed
  handed _ newer older split := by
    refine absurd ?_ handed
    rw [split]
    exact List.mem_append_right _ (List.mem_cons_self ..)
  collected _ member := absurd member began

end Growth

namespace Machine

/-- All cells stay, and there are no others. -/
def Stays (m n : Machine) : Prop :=
  ∀ c, Option.Rel Cell.Stays (m.memory.cell? c) (n.memory.cell? c)

variable {m n : Machine}

theorem Stays.of_cells (same : n.memory.cells = m.memory.cells) : m.Stays n := fun c => by
  have found : n.memory.cell? c = m.memory.cell? c := by
    unfold Memory.cell?
    rw [same]
  rw [found]
  cases m.memory.cell? c with
  | none => exact .none
  | some cell => exact .some (Cell.Stays.refl cell)

theorem Settled.stays (h : m.Settled n) : m.Stays n :=
  fun c => (h.cells c).mono fun _ _ aged => aged.stays

theorem rewritten_stays {c : CellId} {cell : Cell} (found : m.memory.cell? c = some cell)
    (v : Value) : m.Stays (m.rewritten c cell v) := fun d => by
  show Option.Rel _ (m.memory.cell? d) ((m.memory.setCell c { cell with value := v }).cell? d)
  by_cases same : d = c
  · subst same
    rw [found, Memory.cell?_setCell_self found]
    exact .some ⟨⟨rfl, rfl, rfl, rfl, rfl, Iff.rfl, Iff.rfl⟩, rfl⟩
  · rw [Memory.cell?_setCell_of_ne _ _ same]
    cases m.memory.cell? d with
    | none => exact .none
    | some cell => exact .some (Cell.Stays.refl cell)

/-- A cell that is there was there before. -/
theorem Stays.earlier (h : m.Stays n) {c : CellId} {later : Cell}
    (found : n.memory.cell? c = some later) :
    ∃ cell, m.memory.cell? c = some cell ∧ cell.Stays later :=
  (h c).exists_left found

/-- No more is known of any cell. -/
def SameDeeds (m n : Machine) : Prop := n.cellDeeds = m.cellDeeds

instance : IsPreorder Machine SameDeeds where
  refl _ := rfl
  trans _ _ _ first second := Eq.trans second first

/-- To count is nothing that is known of a cell. -/
theorem recount_sameDeeds {α : Type} [Inhabited α] (c : CellId)
    (operation : BlockState → BlockState × Except CountFault α) :
    (recount c operation).Keeps SameDeeds :=
  recount_keeps (fun _ _ same => same.sameCells.2) (fun _ _ _ => rfl) fun _ _ _ _ _ => rfl

end Machine

namespace Situation

open Machine

variable {may : Licence} {s t : Situation}

/-- What a step does that is no step of a destruction, when values are not transferred. -/
inductive Calm (s t : Situation) : Prop
  /-- Nothing becomes known of any cell. -/
  | still (stays : s.machine.Stays t.machine) (deeds : t.machine.cellDeeds = s.machine.cellDeeds)
  /-- A value is put into a new cell for an owner. -/
  | placed {home : AllocatorId} {cell : Cell}
      (cells : t.machine.memory.cells = s.machine.memory.cells.push cell)
      (deeds : t.machine.cellDeeds =
        .placed home s.machine.memory.cells.next :: s.machine.cellDeeds)
  /-- A registered destructor is run. -/
  | ran {id : AllocatorId} {base : Address} {d : Destructor} (stays : s.machine.Stays t.machine)
      (deeds : t.machine.deeds =
        .destructionBegan d.subject :: .collectedRun id base d :: s.machine.deeds)

/-- Nothing follows a destruction where only handles are let go of. -/
private theorem follows?_of_mem_drops {k : List Handle} {u : Task}
    (member : u ∈ [] ++ [] ++ k.map Task.drop) : u.follows? = none := by
  obtain ⟨h, -, rfl⟩ := List.mem_map.1 member
  rfl

private theorem follows?_of_mem_plan {v : Value} {k : List Handle} {u : Task}
    (member : u ∈ v.plan ++ [] ++ k.map Task.drop) : u.follows? = none := by
  rw [List.append_nil] at member
  rcases List.mem_append.1 member with inside | outside
  · rcases Value.mem_plan inside with ⟨label, rfl⟩ | ⟨h, -, rfl⟩ <;> rfl
  · exact follows?_of_mem_drops outside

/-- Of what touches no cell nothing becomes known. -/
private theorem Calm.of_sameCells {m n : Machine} {k k' : List Handle} (same : m.SameCells n) :
    Calm (rest m k) (rest n k') :=
  .still (.of_cells same.1) same.2

/-- A program that does not transfer values takes a step of a destruction, or one that leaves
nothing to follow a destruction. -/
theorem Step.calm (kept : ¬may.transfer) (step : Step may s t) :
    (Destruction.Step ⟨s.tasks, s.panics, s.machine⟩ ⟨t.tasks, t.panics, t.machine⟩ ∧
      t.loose = s.loose) ∨
      Calm s t ∧ ∀ u ∈ t.duties, u.follows? = none := by
  cases step with
  | settling step => exact .inl ⟨step, rfl⟩
  | reordered same =>
    exact .inr ⟨.of_sameCells (refl_of SameCells _), fun _ => follows?_of_mem_drops⟩
  | emptyGained empty =>
    exact .inr ⟨.of_sameCells (refl_of SameCells _), fun _ => follows?_of_mem_drops⟩
  | emptyLost empty =>
    exact .inr ⟨.of_sameCells (refl_of SameCells _), fun _ => follows?_of_mem_drops⟩
  | aside same => exact .inr ⟨.of_sameCells same.sameCells, fun _ => follows?_of_mem_drops⟩
  | counted way done =>
    have same := of_returned (way.keeps fun _ _ c operation _ => recount_sameDeeds c operation) done
    exact .inr ⟨.still (of_returned way.settled done).stays same, fun _ => follows?_of_mem_drops⟩
  | @uncounted m k act way failed =>
    have same := way.keeps (fun _ _ c operation _ => recount_sameDeeds c operation) m
    exact .inr ⟨.still (way.settled m).stays same, fun _ => follows?_of_mem_drops⟩
  | redirected clonable owns cell =>
    exact .inr ⟨.of_sameCells (refl_of SameCells _), fun _ => follows?_of_mem_drops⟩
  | @placed m n o k v home l offset state ownership d grant c housing asked put =>
    have same := of_returned (allocate_sameCells home l d) asked
    have next : n.memory.cells.next = m.memory.cells.next := congrArg Slab.next same.1
    cases put
    let cell : Cell := ⟨some home, grant.address, l, offset, v.kind, state, v⟩
    have deeds : StorageEvent.placed home n.memory.cells.next :: n.cellDeeds =
        .placed home m.memory.cells.next :: m.cellDeeds := by rw [next, same.2]
    exact .inr ⟨.placed (congrArg (Slab.push · cell) same.1) deeds, fun _ => follows?_of_mem_drops⟩
  | requested asked =>
    exact .inr ⟨.of_sameCells (of_returned (allocate_sameCells _ _ _) asked),
      fun _ => follows?_of_mem_drops⟩
  | refused fresh asked =>
    exact .inr ⟨.of_sameCells (of_returned (allocate_sameCells _ _ _) asked),
      fun _ => follows?_of_mem_drops⟩
  | registered asked allowed => exact absurd allowed kept
  | retagged way done allowed => exact absurd allowed kept
  | @rewritten m k k' c cell v found moved =>
    exact .inr ⟨.still (rewritten_stays found v) rfl, fun _ => follows?_of_mem_drops⟩
  | movedOut refers found returns allowed => exact absurd allowed kept
  | letGo h =>
    refine .inr ⟨.still (.of_cells rfl) rfl, fun u member => ?_⟩
    rcases List.mem_cons.1 member with rfl | member
    · rfl
    · exact follows?_of_mem_drops member
  | destroyed v => exact .inr ⟨.still (.of_cells rfl) rfl, fun _ => follows?_of_mem_plan⟩
  | left => exact .inr ⟨.still (.of_cells rfl) rfl, fun _ => follows?_of_mem_drops⟩
  | heapMade done =>
    exact .inr ⟨.of_sameCells (of_returned makeHeap_sameCells done), fun _ => follows?_of_mem_drops⟩
  | arenaMade done =>
    exact .inr ⟨.of_sameCells (of_returned (makeArena_sameCells _ _) done),
      fun _ => follows?_of_mem_drops⟩
  | listTaken there => exact .inr ⟨.of_sameCells ⟨rfl, rfl⟩, fun _ => follows?_of_mem_drops⟩
  | @destructorRun m n k id r others tasks running next =>
    obtain ⟨cell, found, -⟩ := running.isSubject
    have settled : (m.runNoted id r).Settled n :=
      of_returned (beginDestruction_settled r.destructor.subject) next
    have began : beginDestruction r.destructor.subject (m.runNoted id r) =
      .returned cell.value.plan _ := beginDestruction_of_found found
    cases began.symm.trans next
    exact .inr ⟨.ran settled.stays rfl, fun _ => follows?_of_mem_plan⟩
  | chunksReturned there taken done =>
    exact .inr ⟨.of_sameCells (of_returned (releaseChunks_sameCells _ _) done),
      fun _ => follows?_of_mem_drops⟩
  | writtenOff there began => exact .inr ⟨.of_sameCells ⟨rfl, rfl⟩, fun _ => follows?_of_mem_drops⟩
  | forgotten done =>
    exact .inr ⟨.of_sameCells (of_returned (forgetAllocator_sameCells _) done),
      fun _ => follows?_of_mem_drops⟩
  | deallocated allowed done =>
    exact .inr ⟨.of_sameCells (of_returned (deallocate_sameCells _ _ _) done),
      fun _ => follows?_of_mem_drops⟩
  | retired allowed done =>
    exact .inr ⟨.of_sameCells (of_returned (retire_sameCells _ _ _) done),
      fun _ => follows?_of_mem_drops⟩

/-- What is new after such a step is no end of a destruction, and a destruction that begins is one
by the allocator. -/
private theorem Calm.added {added : List StorageEvent} (calm : Calm s t)
    (deeds : t.machine.deeds = added ++ s.machine.deeds) (c : CellId) :
    .destructionFailed c ∉ added ∧ .handedBack c ∉ added ∧ (.destructionBegan c ∈ added →
      ∃ id base d, .collectedRun id base d ∈ added ∧ d.subject = c) := by
  have known (e : StorageEvent) (about : e.isAboutCell = true) (member : e ∈ added) :
      e ∈ added.filter StorageEvent.isAboutCell := List.mem_filter.2 ⟨member, about⟩
  have split : t.machine.cellDeeds =
      added.filter StorageEvent.isAboutCell ++ s.machine.cellDeeds := by
    unfold cellDeeds
    rw [deeds, List.filter_append]
  cases calm with
  | still stays same =>
    have none := List.append_cancel_right (split.symm.trans same : _ = [] ++ s.machine.cellDeeds)
    rw [none] at known
    exact ⟨fun member => (nomatch known _ rfl member), fun member => (nomatch known _ rfl member),
      fun member => (nomatch known _ rfl member)⟩
  | placed cells same =>
    have one := List.append_cancel_right (split.symm.trans same : _ = [_] ++ s.machine.cellDeeds)
    simp only [one, List.mem_singleton] at known
    exact ⟨fun member => (nomatch known _ rfl member), fun member => (nomatch known _ rfl member),
      fun member => (nomatch known _ rfl member)⟩
  | @ran id base d stays same =>
    obtain rfl := List.append_cancel_right (deeds.symm.trans same : _ = [_, _] ++ s.machine.deeds)
    refine ⟨by simp, by simp, fun member => ⟨id, base, d, by simp, ?_⟩⟩
    simpa [eq_comm] using member

/-- A cell was there before such a step, or a value was just put into it. -/
private theorem Calm.earlier {c : CellId} {later : Cell} (calm : Calm s t)
    (found : t.machine.memory.cell? c = some later) :
    (∃ cell, s.machine.memory.cell? c = some cell ∧ cell.Stays later) ∨
      s.machine.memory.cell? c = none ∧ ∃ home,
        t.machine.cellDeeds = .placed home c :: s.machine.cellDeeds := by
  cases calm with
  | still stays deeds => exact .inl (stays.earlier found)
  | ran stays deeds => exact .inl (stays.earlier found)
  | @placed home cell cells deeds =>
    have found : t.machine.memory.cells.get? c = some later := found
    rw [cells] at found
    by_cases next : c = s.machine.memory.cells.next
    · subst next
      exact .inr ⟨Slab.get?_eq_none_of_next_le (Nat.le_refl _), home, deeds⟩
    · rw [Slab.get?_push_of_ne _ _ next] at found
      exact .inl ⟨later, found, Cell.Stays.refl later⟩

/-! ## From step to step -/

/-- What is known of all values that were put into storage from some time on. -/
def Tended (first : CellId) (s : Situation) : Prop :=
  ∀ c cell, first ≤ c → s.machine.memory.cell? c = some cell →
    cell.Tended s.machine.deeds s.duties c

variable {first : CellId}

/-- Of a vacant cell nothing is known. -/
private theorem never_of_vacant (balanced : s.Balanced) {c : CellId}
    (vacant : s.machine.memory.cell? c = none) :
    .destructionBegan c ∉ s.machine.deeds ∧ .destructionFailed c ∉ s.machine.deeds ∧
      .handedBack c ∉ s.machine.deeds := by
  have fits := balanced.fits c
  rw [vacant] at fits
  exact ⟨List.count_eq_zero.1 (Tally.Untouched.began fits),
    List.count_eq_zero.1 (Tally.Untouched.failed fits),
    List.count_eq_zero.1 (Tally.Untouched.returned fits)⟩

private theorem Tended.calm (tended : s.Tended first) (balanced : s.Balanced) (calm : Calm s t)
    {added : List StorageEvent} (deeds : t.machine.deeds = added ++ s.machine.deeds)
    (idle : ∀ u ∈ t.duties, u.follows? = none) : t.Tended first := by
  intro c later since found
  obtain ⟨failed, handed, began⟩ := calm.added deeds c
  have idle : ∀ u ∈ t.duties, u.follows? ≠ some c := fun u member is =>
    nomatch (idle u member).symm.trans is
  rw [deeds]
  rcases calm.earlier found with ⟨cell, there, stays⟩ | ⟨vacant, home, same⟩
  · exact (tended c cell since there).grow stays (fun _ u member is => absurd is (idle u member))
      (fun _ member => absurd member failed) (fun _ member => absurd member handed)
      fun _ member => began member
  · have never := never_of_vacant balanced vacant
    have known (e : StorageEvent) (about : e.isAboutCell = true) :
        e ∈ added ++ s.machine.deeds ↔ e = .placed home c ∨ e ∈ s.machine.deeds := by
      have now : e ∈ t.machine.cellDeeds ↔
          e ∈ StorageEvent.placed home c :: s.machine.cellDeeds := by
        rw [same]
      unfold cellDeeds at now
      rw [List.mem_cons, List.mem_filter, List.mem_filter, deeds] at now
      simpa only [about, and_true] using now
    refine .fresh idle ⟨.placed home c, (known _ rfl).2 (.inl rfl), beq_self_eq_true c⟩ ?_ ?_ ?_
    · exact fun member => (((known _ rfl).1 member).resolve_left nofun) |> never.1
    · exact fun member => (((known _ rfl).1 member).resolve_left nofun) |> never.2.1
    · exact fun member => (((known _ rfl).1 member).resolve_left nofun) |> never.2.2

/-- A task that was carried out and what it led to. -/
private theorem mem_duties_of_task {k : List Handle} {t u : Task} {rest more : List Task}
    {panics : List Passage}
    (member : u ∈ more ++ rest ++ panics.flatMap (·.cleanup) ++ k.map Task.drop) :
    u ∈ more ∨ u ∈ (t :: rest) ++ panics.flatMap (·.cleanup) ++ k.map Task.drop := by
  simp only [List.append_assoc, List.mem_append, List.cons_append, List.mem_cons] at member ⊢
  tauto

private theorem Tended.task {m n : Machine} {k : List Handle} {u : Task} {rest more : List Task}
    {panics : List Passage} (tended : Tended first ⟨m, k, u :: rest, panics⟩)
    (settled : m.Settled n) (did : m.Advanced u more n) :
    Tended first ⟨n, k, more ++ rest, panics⟩ := by
  intro c later since found
  obtain ⟨cell, there, stays⟩ := settled.stays.earlier found
  have before := tended c cell since there
  have next : u ∈ Situation.duties ⟨m, k, u :: rest, panics⟩ := List.mem_cons_self ..
  cases did with
  | quiet deeds values shared =>
    rw [show n.deeds = [] ++ m.deeds from deeds]
    refine before.grow stays (fun sole v member is => ?_) nofun nofun nofun
    rcases mem_duties_of_task member with new | old
    · exact absurd sole (shared v new c cell is there)
    · exact .inl old
  | @began h l cell' last _ link found' uncollected deeds values follows returning =>
    rw [show n.deeds = [.destructionBegan l.cell] ++ m.deeds from deeds]
    refine before.grow stays (fun sole v member is => ?_) (by simp) (by simp) fun state member => ?_
    · rcases mem_duties_of_task member with new | old
      · refine .inr ?_
        rcases List.mem_append.1 new with inside | isLast
        · rcases Value.mem_plan inside with ⟨label, rfl⟩ | ⟨g, -, rfl⟩
          · cases is
          · cases is
        · rw [List.mem_singleton.1 isLast] at is ⊢
          obtain rfl : l.cell = c := Option.some.inj (follows.symm.trans is)
          obtain rfl : cell' = cell := Option.some.inj (found'.symm.trans there)
          exact ⟨List.mem_singleton_self _, returning sole⟩
      · exact .inl old
    · cases List.mem_singleton.1 member
      obtain rfl : cell' = cell := Option.some.inj (found'.symm.trans there)
      exact absurd state uncollected
  | @gaveBack a l d cell' _ found' deeds values =>
    rw [show n.deeds = [.deallocated a cell'.base l, .handedBack d] ++ m.deeds from deeds]
    refine before.grow stays (fun _ v member _ => ?_) (by simp) (fun sole member => ?_) (by simp)
    · exact .inl ((mem_duties_of_task member).resolve_left nofun)
    · obtain rfl : c = d := by simpa using member
      obtain rfl : cell' = cell := Option.some.inj (found'.symm.trans there)
      obtain ⟨began, home, from', is⟩ := before.follows sole _ next rfl
      refine ⟨began, home, from', ?_⟩
      unfold Cell.returning at is
      unfold Cell.freed
      split at is
      · cases is
      next kept =>
        cases is
        rw [if_neg kept]
  | @retired a l d cell' _ found' deeds values =>
    rw [show n.deeds = [.retired a cell'.base l, .handedBack d] ++ m.deeds from deeds]
    refine before.grow stays (fun _ v member _ => ?_) (by simp) (fun sole member => ?_) (by simp)
    · exact .inl ((mem_duties_of_task member).resolve_left nofun)
    · obtain rfl : c = d := by simpa using member
      obtain rfl : cell' = cell := Option.some.inj (found'.symm.trans there)
      obtain ⟨began, home, from', is⟩ := before.follows sole _ next rfl
      refine ⟨began, home, from', ?_⟩
      unfold Cell.returning at is
      unfold Cell.freed
      split at is
      next discards =>
        cases is
        rw [if_pos discards]
      · cases is

private theorem Tended.panic {m n : Machine} {k : List Handle} {u : Task} {rest : List Task}
    {panics : List Passage} {payload : Payload}
    (tended : Tended first ⟨m, k, u :: rest, panics⟩) (same : m.Undisturbed n) :
    Tended first ⟨noteFailures rest n, k, [], ⟨payload, Task.cleanup rest⟩ :: panics⟩ := by
  have settled : m.Settled (noteFailures rest n) :=
    same.settled.trans (noteFailures_settled rest n)
  intro c later since found
  obtain ⟨cell, there, stays⟩ := settled.stays.earlier found
  have before := tended c cell since there
  have deeds : (noteFailures rest n).deeds =
      ((rest.filterMap Task.follows?).map StorageEvent.destructionFailed).reverse ++ m.deeds := by
    rw [deeds_noteFailures, same.2]
  rw [deeds]
  refine before.grow stays (fun _ v member _ => .inl ?_) (fun sole member => ?_) (by simp) (by simp)
  · have member : v ∈ [] ++ (Task.cleanup rest ++ panics.flatMap (·.cleanup)) ++ k.map Task.drop :=
      member
    show v ∈ (u :: rest) ++ panics.flatMap (·.cleanup) ++ k.map Task.drop
    simp only [List.nil_append, List.mem_append, List.mem_cons] at member ⊢
    rcases member with (left | others) | loose
    · exact .inl (.inl (.inr (List.mem_filter.1 left).1))
    · exact .inl (.inr others)
    · exact .inr loose
  · obtain ⟨d, among, is⟩ := List.mem_map.1 (List.mem_reverse.1 member)
    cases is
    obtain ⟨v, inside, follows⟩ := List.mem_filterMap.1 among
    refine (before.follows sole v ?_ follows).1
    exact List.mem_append_left _ (List.mem_append_left _ (List.mem_cons_of_mem _ inside))

/-- A step of a destruction keeps what is known. -/
private theorem Tended.settling {m n : Machine} {k : List Handle} {tasks tasks' : List Task}
    {panics panics' : List Passage} (tended : Tended first ⟨m, k, tasks, panics⟩)
    (balanced : Balanced ⟨m, k, tasks, panics⟩) (directed : Directed ⟨m, k, tasks, panics⟩)
    (step : Destruction.Step ⟨tasks, panics, m⟩ ⟨tasks', panics', n⟩) :
    Tended first ⟨n, k, tasks', panics'⟩ := by
  have books := balanced.balanced.books
  have settled := step.settled
  cases step with
  | task went =>
    refine tended.task settled (advanced books (directed.duties _ ?_) went)
    exact List.mem_append_left _ (List.mem_append_left _ (List.mem_cons_self ..))
  | panic panicked => exact tended.panic (undisturbed_of_panicked books panicked)
  | @cleanup payload u rest others m =>
    exact tended

/-- A program that does not transfer values keeps what is known of the values that it puts into
storage. -/
theorem Tended.step (kept : ¬may.transfer) (tended : s.Tended first) (balanced : s.Balanced)
    (directed : s.Directed) (step : Step may s t) : t.Tended first := by
  obtain ⟨-, added, deeds, -⟩ := step.adds balanced
  rcases step.calm kept with ⟨settling, loose⟩ | ⟨calm, idle⟩
  · obtain ⟨m, k, tasks, panics⟩ := s
    obtain ⟨n, k', tasks', panics'⟩ := t
    obtain rfl : k' = k := loose
    exact tended.settling balanced directed settling
  · exact tended.calm balanced calm deeds idle

theorem Tended.leads (kept : ¬may.transfer) (leads : Leads may s t) (balanced : s.Balanced)
    (directed : s.Directed) (tended : s.Tended first) : t.Tended first := by
  induction leads with
  | refl => exact tended
  | tail leads step ih =>
    exact ih.step kept (balanced.leads leads) (directed.leads leads balanced) step

/-- At first there is no such value. -/
theorem tended_next (s : Situation) : s.Tended s.machine.memory.cells.next := by
  intro c cell since found
  rw [show s.machine.memory.cell? c = none from Slab.get?_eq_none_of_next_le since] at found
  cases found

end Situation

/-! ## Releases in the history -/

namespace Lawful

variable {id home : AllocatorId} {deeds newer newer' older older' : List StorageEvent}

/-- What is due was registered before the list was taken out. -/
theorem exists_of_mem_due {b : Booking} (member : b ∈ due id deeds) :
    ∃ newer older, deeds = newer ++ .releaseBegan id :: older ∧ b ∈ sinceTaken id older := by
  induction deeds with
  | nil => cases member
  | cons e older ih =>
    have later (h : b ∈ due id older) : ∃ newer rest,
        e :: older = newer ++ .releaseBegan id :: rest ∧ b ∈ sinceTaken id rest := by
      obtain ⟨newer, rest, split, since⟩ := ih h
      exact ⟨e :: newer, rest, by rw [split]; rfl, since⟩
    cases began : e.begins id with
    | true =>
      rw [due_cons_of_begins began] at member
      exact ⟨[], older, by rw [eq_releaseBegan began]; rfl, member⟩
    | false =>
      cases ran : e.ran? id with
      | none =>
        rw [due_cons began ran] at member
        exact later member
      | some r =>
        rw [due_cons_of_ran began ran] at member
        exact later (List.mem_of_mem_tail member)

/-- A destructor is registered for a subject of its own. -/
theorem subject_ne {e : StorageEvent} {c : CellId} (lawful : Lawful (e :: older))
    (subject : e.subject? = some c) : ∀ f ∈ older, f.subject? ≠ some c := by
  obtain ⟨permitted, -⟩ := lawful
  cases e with
  | granted a base l d =>
    cases d with
    | none => cases subject
    | some d =>
      cases subject
      exact permitted
  | _ => cases subject

/-- There is one place in a history where a destructor is registered for a subject. -/
theorem eq_of_subject {e e' : StorageEvent} {c : CellId} (lawful : Lawful (newer ++ e :: older))
    (same : newer ++ e :: older = newer' ++ e' :: older') (subject : e.subject? = some c)
    (subject' : e'.subject? = some c) : newer = newer' ∧ e = e' := by
  rcases List.append_eq_append_iff.1 same with ⟨between, is, rest⟩ | ⟨between, is, rest⟩
  · cases between with
    | nil => exact ⟨by rw [is, List.append_nil], (List.cons.inj rest).1⟩
    | cons f between =>
      obtain ⟨rfl, rfl⟩ := List.cons.inj rest
      refine absurd subject' (lawful.of_append.subject_ne subject e' ?_)
      exact List.mem_append_right _ (List.mem_cons_self ..)
  · cases between with
    | nil => exact ⟨by rw [is, List.append_nil], (List.cons.inj rest).1.symm⟩
    | cons f between =>
      obtain ⟨rfl, rfl⟩ := List.cons.inj rest
      rw [same] at lawful
      refine absurd subject (lawful.of_append.subject_ne subject' e ?_)
      exact List.mem_append_right _ (List.mem_cons_self ..)

/-- What was put into storage for an allocator to destroy is destroyed in a release that began
after that. -/
theorem released_of_ran (lawful : Lawful deeds) {base : Address} {d d' : Destructor} {loan : Loan}
    (ran : .collectedRun id base d ∈ deeds)
    (placed : Machine.PlacedAt deeds d.subject home loan (some d'))
    (same : d'.subject = d.subject) : ∃ newer older,
      deeds = newer ++ .releaseBegan home :: older ∧ .placed home d.subject ∈ older := by
  obtain ⟨newer, older, split⟩ := List.append_of_mem ran
  have atRun : Lawful (newer ++ .collectedRun id base d :: older) := split ▸ lawful
  obtain ⟨⟨b, rest, next, registration, -⟩, -⟩ :
      Permitted older (.collectedRun id base d) ∧ Lawful older := Lawful.of_append atRun
  obtain ⟨between, before, began, since⟩ :=
    exists_of_mem_due (next ▸ List.mem_cons_self .. : b ∈ due id older)
  obtain ⟨e, registered, booked⟩ := booked_of_mem_sinceTaken since
  obtain ⟨later, earlier, placing⟩ := List.append_of_mem registered
  have subject : e.subject? = some d.subject := by
    rw [subject?_of_booked booked]
    exact congrArg (fun r : Registration => some r.destructor.subject) registration
  obtain ⟨since', until', put⟩ := placed
  -- The registration that was due is the one right before the value was put there.
  have whole : deeds = (newer ++ .collectedRun id base d :: between ++ .releaseBegan id :: later) ++
      e :: earlier := by
    rw [split, began, placing]
    simp
  have other : deeds = (since' ++ [.placed home d.subject]) ++
      .granted home loan.address loan.layout (some d') :: until' := by
    rw [put, List.append_assoc]
    rfl
  obtain ⟨first, second⟩ := eq_of_subject (whole ▸ lawful) (whole.symm.trans other) subject
    (congrArg some same)
  obtain rfl : id = home := by
    have is := granted_of_booked booked
    rw [second] at is
    injection is with is
    exact is.symm
  refine ⟨newer ++ .collectedRun id base d :: between, before, ?_, ?_⟩
  · rw [split, began]
    simp
  · rw [placing]
    rcases List.eq_nil_or_concat later with rfl | ⟨last, e', rfl⟩
    · have ends := List.append_inj_right' first rfl
      cases ends
    · rw [List.concat_eq_append, ← List.cons_append, ← List.append_assoc] at first
      have ends := List.append_inj_right' first rfl
      rw [List.singleton_inj.1 ends, List.concat_eq_append]
      simp

end Lawful

end Custody
