import Custody.Proofs.Moments
import Custody.Proofs.Scope
import Custody.Proofs.Tending

/-!
# Values that are moved

A program creates values with owners of their own and moves the handles: it takes them out of their
variables, assigns, copies, resets, drops and forgets them. `Scope.run_exclusive` says what is so at
every moment of such a program, also while destructors run and after they have panicked. A value
has one owner, or its destruction has begun; it begins as the owner is let go of, and the storage
goes back as the owner wants it when the destructor returns. What is collected is neither destroyed
nor given back before its arena is released. No handle is lost but those that are let go of, and
what a variable is assigned it has, whatever becomes of the handle that was there.
-/

namespace Custody

/-! ## Accounts -/

/-- The qualifier of the owner that a value has if it is not shared. -/
def Cell.qualifier (cell : Cell) : Qualifier := (cell.state.map (·.qualifier)).getD .unique

namespace Moment

/-- What is so of a value that its owner destroys. -/
structure SoleAccount (t : Moment) (c : CellId) (cell : Cell) (home : AllocatorId) : Prop where
  /-- Only its owner refers to it. -/
  only : ∀ q, q ≠ cell.qualifier → t.references q c = 0
  /-- It has its owner, or its destruction has begun, and once. -/
  owned : t.references cell.qualifier c + t.begun c = 1
  /-- When its destruction has begun, its storage has gone back or is to go back, or a panic has
  left the destruction. -/
  returned : t.givenBack c + t.toGiveBack c + t.cutShort c = t.begun c
  /-- The destruction begins as the owner is let go of. Next comes what the destructor does, and
  then the return of the storage. -/
  released : ∀ h l rest, t.tasks = .drop h :: rest → h.link = some l → l.cell = c →
    ∃ n, (Task.drop h).advance t.client.machine =
        .returned (cell.value.plan ++ [cell.returning home c]) n ∧
      n.deeds = .destructionBegan c :: t.client.machine.deeds
  /-- What is to follow the destruction is to give the storage back, or to retire it if the owner
  discards. -/
  following : ∀ u ∈ t.pending, u.follows? = some c → u = cell.returning home c
  /-- Storage that went back did so after the destruction had begun, and was deallocated, or retired
  if the owner discards. -/
  handed : ∀ newer older, t.client.machine.deeds = newer ++ .handedBack c :: older →
    .destructionBegan c ∈ older ∧ ∃ later, newer = later ++ [cell.freed home]

/-- What is so of a value that its allocator collects. -/
structure CollectAccount (t : Moment) (c : CellId) (home : AllocatorId) : Prop where
  /-- Only its owner refers to it. -/
  only : ∀ q, q ≠ .collect → t.references q c = 0
  /-- There is no second owner. -/
  owned : t.references .collect c ≤ 1
  /-- As the owner is let go of, nothing happens. -/
  released : ∀ h l rest, t.tasks = .drop h :: rest → h.link = some l → l.cell = c →
    (Task.drop h).advance t.client.machine = .returned [] t.client.machine
  /-- The storage is not given back by itself. -/
  kept : t.givenBack c = 0 ∧ t.toGiveBack c = 0 ∧ t.cutShort c = 0
  /-- The value is destroyed only after a release of its arena that began when it was there. -/
  waiting : t.begun c ≠ 0 → ∃ newer older,
    t.client.machine.deeds = newer ++ .releaseBegan home :: older ∧ .placed home c ∈ older

/-- What is so of a value that is not shared. -/
def Accounts (t : Moment) (c : CellId) (cell : Cell) : Prop :=
  (cell.Sole → ∃ home, cell.home = some home ∧ t.SoleAccount c cell home) ∧
    (cell.state = some .collect → ∃ home, cell.home = some home ∧ t.CollectAccount c home)

variable {t : Moment} {c first : CellId} {cell : Cell}

theorem mem_duties_of_pending {u : Task} (member : u ∈ t.pending) : u ∈ t.situation.duties :=
  List.mem_append_left _ member

/-- The storage of a value goes back, or a panic leaves its destruction, only after this has
begun. -/
private theorem began_of_tended (tended : cell.Tended t.client.machine.deeds t.situation.duties c)
    (sole : cell.Sole) (ended : t.givenBack c + t.toGiveBack c + t.cutShort c ≠ 0) :
    t.begun c ≠ 0 := by
  refine (List.count_pos_iff.2 ?_).ne'
  by_cases given : t.givenBack c = 0
  · by_cases left : t.cutShort c = 0
    · have some : 0 < t.toGiveBack c := by omega
      obtain ⟨u, member, returns⟩ := List.countP_pos_iff.1 some
      refine (tended.follows sole u (mem_duties_of_pending member) ?_).1
      cases u with
      | giveBack a l d => exact congrArg _ (beq_iff_eq.1 returns)
      | retire a l d => exact congrArg _ (beq_iff_eq.1 returns)
      | _ => cases returns
    · exact tended.failed sole (List.count_pos_iff.1 (Nat.pos_of_ne_zero left))
  · obtain ⟨newer, older, split⟩ :=
      List.append_of_mem (List.count_pos_iff.1 (Nat.pos_of_ne_zero given))
    rw [split]
    exact List.mem_append_right _ (List.mem_cons_of_mem _ (tended.handed sole newer older split).1)

/-- What the block of a sole owner says, and what is known of the value. -/
private theorem sole_counts (balanced : t.Balanced)
    (found : t.client.machine.memory.cell? c = some cell) (sole : cell.Sole)
    (tended : cell.Tended t.client.machine.deeds t.situation.duties c) :
    (∀ q, q ≠ cell.qualifier → t.references q c = 0) ∧
      t.references cell.qualifier c + t.begun c = 1 ∧
        t.givenBack c + t.toGiveBack c + t.cutShort c = t.begun c := by
  have law := (balanced.fits c).law found
  have began := began_of_tended tended sole
  have refs := fun q => refs_tally t q c
  have returning := returning_tally t c
  have begun : (t.tally c).began = t.begun c := rfl
  have failed : (t.tally c).failed = t.cutShort c := rfl
  have returned : (t.tally c).returned = t.givenBack c := rfl
  have plain {q : Qualifier} (is : cell.qualifier = q) (law : (t.tally c).SoleLaw q) :
      (∀ q, q ≠ cell.qualifier → t.references q c = 0) ∧
        t.references cell.qualifier c + t.begun c = 1 ∧
          t.givenBack c + t.toGiveBack c + t.cutShort c = t.begun c := by
    subst is
    refine ⟨fun q other => (refs q).symm.trans (law.only q (by simpa using other)), ?_⟩
    have once := law.once
    have most := law.began
    rw [refs, returning, returned, failed] at once
    rw [refs, begun] at most
    omega
  rcases sole with state | state | state
  · have is : cell.qualifier = .unique := by
      rw [Cell.qualifier, state]
      rfl
    rw [state] at law
    have law : (t.tally c).BareLaw := law
    obtain ⟨e, member, places⟩ := tended.placed
    have placed : 0 < (t.tally c).placed := List.countP_pos_iff.2 ⟨e, member, places⟩
    have one := law.sole
    refine plain is ⟨law.only, law.leaving, ?_, ?_⟩
    · have once := law.once
      omega
    · rcases law.began with none | most
      · omega
      · exact most
  · rw [state] at law
    exact plain (by rw [Cell.qualifier, state]; rfl) law
  · rw [state] at law
    exact plain (by rw [Cell.qualifier, state]; rfl) law

private theorem soleAccount (balanced : t.Balanced) (directed : t.situation.Directed)
    (found : t.client.machine.memory.cell? c = some cell) (sole : cell.Sole) {home : AllocatorId}
    (homed : cell.home = some home)
    (tended : cell.Tended t.client.machine.deeds t.situation.duties c) :
    t.SoleAccount c cell home := by
  obtain ⟨only, owned, returned⟩ := sole_counts balanced found sole tended
  refine ⟨only, owned, returned, ?_, fun u member follows => ?_, fun newer older split => ?_⟩
  · rintro h l rest next link rfl
    obtain ⟨client, tasks, panics⟩ := t
    subst next
    have books := balanced.balanced.books
    have head := directed.duties (.drop h)
      (List.mem_append_left _ (List.mem_append_left _ (List.mem_cons_self ..)))
    obtain ⟨home', there, went⟩ := Machine.letGo_of_sole link books head found sole
    obtain rfl : home' = home := Option.some.inj (there.symm.trans homed)
    exact ⟨_, went, rfl⟩
  · obtain ⟨-, home', there, is⟩ := tended.follows sole u (mem_duties_of_pending member) follows
    rw [is, Option.some.inj (there.symm.trans homed)]
  · obtain ⟨began, home', later, there, is⟩ := tended.handed sole newer older split
    refine ⟨began, later, ?_⟩
    rw [is, Option.some.inj (there.symm.trans homed)]

private theorem collectAccount (balanced : t.Balanced)
    (found : t.client.machine.memory.cell? c = some cell) (collected : cell.state = some .collect)
    {home : AllocatorId} {loan : Loan}
    (placed : Machine.PlacedAt t.client.machine.deeds c home loan (cell.destructor c))
    (tended : cell.Tended t.client.machine.deeds t.situation.duties c) :
    t.CollectAccount c home := by
  have law := (balanced.fits c).law found
  rw [collected] at law
  have law : (t.tally c).CollectLaw := law
  refine ⟨fun q other => ?_, ?_, ?_, ⟨law.returned, ?_, law.failed⟩, fun begun => ?_⟩
  · exact (refs_tally t q c).symm.trans (law.only q (by simpa using other))
  · rw [← refs_tally]
    exact law.sole
  · rintro h l rest next link rfl
    obtain ⟨client, tasks, panics⟩ := t
    subst next
    exact Machine.letGo_of_collected link balanced.balanced.books found collected
  · rw [← returning_tally]
    exact law.returning
  · obtain ⟨id, base, d, ran, rfl⟩ :=
      tended.collected collected (List.count_pos_iff.1 (Nat.pos_of_ne_zero begun))
    rw [Cell.destructor, if_pos collected] at placed
    exact balanced.sound.lawful.released_of_ran ran placed rfl

/-- What is so of a value that was put into storage after a time from which on no value was
transferred. -/
theorem accounts_of_tended (balanced : t.Balanced) (directed : t.situation.Directed)
    (recorded : t.situation.Recorded) (tended : t.situation.Tended first) (since : first ≤ c)
    (found : t.client.machine.memory.cell? c = some cell) : t.Accounts c cell := by
  have tended := tended c cell since found
  obtain ⟨home, homed, -, placed⟩ : ∃ id, cell.home = some id ∧ cell.Shaped ∧
      Machine.PlacedAt t.client.machine.deeds c id cell.loan (cell.destructor c) := by
    refine (recorded c cell found).resolve_left fun never => ?_
    obtain ⟨e, member, places⟩ := tended.placed
    exact absurd places (List.countP_eq_zero.1 never.2 e member)
  exact ⟨fun sole => ⟨home, homed, soleAccount balanced directed found sole homed tended⟩,
    fun collected => ⟨home, homed, collectAccount balanced found collected placed tended⟩⟩

end Moment

/-! ## No handle is lost -/

namespace Machine

variable {m n : Machine} {tasks more : List Task}

/-- Handles that leave a value are to be let go of, and no others. -/
private def Conserves (act : Run Machine (List Task)) (m : Machine) : Prop :=
  (act m).Ensures
    (fun more n => ∀ q c, Task.refs q c more + n.memory.refs q c = m.memory.refs q c) fun _ => True

private theorem conserves_beginDestruction (c : CellId) (m : Machine) :
    Conserves (beginDestruction c) m := by
  unfold Conserves
  cases found : m.memory.cell? c with
  | none =>
    unfold beginDestruction
    rw [found]
    exact fun q d => Nat.zero_add _
  | some cell =>
    rw [beginDestruction_of_found found]
    intro q d
    have same := congrFun (congrArg Tally.refs (tally_vacated found [] d)) q
    have same : Task.refs q d (cell.value.plan ++ []) + (m.vacated c cell).memory.refs q d =
      Task.refs q d [] + m.memory.refs q d := same
    rw [List.append_nil, Task.refs_nil, Nat.zero_add] at same
    exact same

/-- Finding out where storage belongs lets go of no handle. -/
private theorem conserves_storageTask {task : AllocatorId → Layout → CellId → Task}
    (way : Returning task) (c : CellId) (m : Machine) : Conserves (storageTask task c) m := by
  intro q d
  refine (congrArg (· + m.memory.refs q d) ?_).trans (Nat.zero_add _)
  dsimp only
  cases m.memory.cell? c with
  | none => rfl
  | some cell =>
    dsimp only
    cases cell.home with
    | none => rfl
    | some home => rcases way with rfl | rfl <;> rfl

private theorem Conserves.bind {act : Run Machine (List Task)}
    {next : List Task → Run Machine (List Task)} {m : Machine} (first : Conserves act m)
    (second : ∀ taken n, (next taken n).Ensures
      (fun more o => ∀ q c, Task.refs q c more + o.memory.refs q c =
        Task.refs q c taken + n.memory.refs q c) fun _ => True) : Conserves (act >>= next) m := by
  refine Run.bind_ensures first fun taken n kept => ?_
  exact (second taken n).mono (fun more o led q c => (led q c).trans (kept q c)) fun _ h => h

private theorem conserves_destroyWith {task : AllocatorId → Layout → CellId → Task}
    (way : Returning task) (c : CellId) (m : Machine) : Conserves (destroyWith task c) m := by
  refine (conserves_beginDestruction c m).bind fun taken n => ?_
  refine Run.bind_ensures (conserves_storageTask way c n) fun more o kept q d => ?_
  rw [Task.refs_append, Nat.add_assoc, kept]

/-- Counting neither lets go of a handle nor makes one. -/
private theorem conserves_recount {c : CellId}
    {operation : BlockState → BlockState × Except CountFault Bool}
    {next : Bool → Run Machine (List Task)} (m : Machine)
    (conserved : ∀ last n, Conserves (next last) n) :
    Conserves (recount c operation >>= next) m := by
  have same := Outcome.Ensures.of_state (Q := m.SameRefs) (recount_sameRefs c operation m)
  refine Run.bind_ensures (same.mono (fun _ _ h => h) fun _ _ => trivial) fun last n same => ?_
  exact (conserved last n).mono (fun more o kept q d => (kept q d).trans (same q d)) fun _ h => h

private theorem conserves_nothing (m : Machine) : Conserves (pure []) m := fun _ _ => Nat.zero_add _

private theorem conserves_letGo (kind : Kind) (c : CellId) (o : Ownership) (m : Machine) :
    Conserves (letGo kind c o) m := by
  have destroyed (last : Task) (none : last.handles = []) (n : Machine) :
      Conserves (do return (← beginDestruction c) ++ [last]) n := by
    refine (conserves_beginDestruction c n).bind fun taken o q d => ?_
    rw [Task.refs_append, Task.refs_cons_of_handles_eq_nil q d none, Task.refs_nil, Nat.add_zero]
  cases o with
  | unique home => exact destroyed _ rfl m
  | weak =>
    refine conserves_recount m fun last n => ?_
    cases last with
    | false => exact conserves_nothing n
    | true => exact conserves_storageTask (.inl rfl) c n
  | block owner =>
    cases owner with
    | own => exact conserves_destroyWith (.inl rfl) c m
    | discard => exact conserves_destroyWith (.inr rfl) c m
    | collect => exact conserves_nothing m
    | strong =>
      refine conserves_recount m fun last n => ?_
      cases last with
      | false => exact conserves_nothing n
      | true => exact destroyed _ rfl n
    | handle =>
      refine conserves_recount m fun last n => ?_
      cases last with
      | false => exact conserves_nothing n
      | true => exact conserves_destroyWith (.inl rfl) c n

/-- A task that is carried out lets go of no handle but the one it is about. -/
theorem refs_advance {t : Task} (advanced : t.advance m = .returned more n) (q : Qualifier)
    (c : CellId) : Task.refs q c more + n.memory.refs q c = m.memory.refs q c := by
  have conserved : Conserves t.advance m := by
    cases t with
    | drop h =>
      cases link : h.link with
      | none =>
        rw [Task.advance_drop_of_none link]
        exact conserves_nothing m
      | some l =>
        rw [Task.advance_drop_of_some link]
        exact conserves_letGo h.kind l.cell h.ownership m
    | announce label =>
      have same := Outcome.Ensures.of_state (Q := m.Undisturbed) (announce_undisturbed label m)
      refine Run.bind_ensures (same.mono (fun _ _ h => h) fun _ _ => trivial) fun _ n same q c => ?_
      rw [same.1]
      exact Nat.zero_add _
    | leaveGroup d =>
      refine conserves_recount m fun last n => ?_
      cases last with
      | false => exact conserves_nothing n
      | true => exact conserves_storageTask (.inl rfl) d n
    | giveBack a l d =>
      intro q c
      have same := Memory.cells_deallocate m.memory a ((m.memory.cell? d).elim 0 (·.base)) l
      refine (Nat.zero_add _).trans ?_
      unfold Memory.refs
      exact congrArg _ same
    | retire a l d =>
      intro q c
      have same := Memory.cells_changeAllocator m.memory a Allocator.retire
      refine (Nat.zero_add _).trans ?_
      unfold Memory.refs
      exact congrArg _ same
  rw [Conserves, advanced] at conserved
  exact conserved q c

end Machine

/-- A step of a destruction lets go of no handle but the one that its task is about. -/
theorem Moment.references_of_step {t : Moment} (balanced : t.Balanced) {e : Destruction}
    (step : Destruction.Step ⟨t.tasks, t.panics, t.client.machine⟩ e) (q : Qualifier) (c : CellId) :
    t.references q c =
      Moment.references ⟨{ t.client with machine := e.machine }, e.tasks, e.panics⟩ q c +
        Task.refs q c (t.tasks.take 1) := by
  obtain ⟨client, tasks, panics⟩ := t
  have books := balanced.balanced.books
  unfold references pending
  cases step with
  | @task u rest more _ _ n advanced =>
    have kept := Machine.refs_advance advanced q c
    simp only [Task.refs_append, Task.refs_cons, List.take_succ_cons, List.take_zero,
      Task.refs_nil] at kept ⊢
    omega
  | @panic u rest _ payload _ n panicked =>
    have same := Machine.undisturbed_of_panicked books panicked
    have kept : n.memory.refs q c = client.machine.memory.refs q c := same.sameRefs q c
    simp only [Machine.noteFailures, List.flatMap_cons, Task.refs_append, Task.refs_cons,
      Task.refs_cleanup, List.take_succ_cons, List.take_zero, Task.refs_nil, kept]
    omega
  | @cleanup payload u rest others _ =>
    simp only [List.flatMap_cons, Task.refs_append, Task.refs_cons, List.take_nil, Task.refs_nil]
    omega

/-! ## What statements do with handles -/

/-- The control block that a new owner gets. -/
def Owner.block? : Owner → Option BlockState
  | unique => none
  | block owner => some (.fresh owner)

namespace Machine

variable {m n : Machine} {h : Handle} {home : AllocatorId} {v : Value}

/-- A new handle is not empty. It refers to the next cell, where its value was put. -/
structure Houses (m n : Machine) (owner : Owner) (home : AllocatorId) (v : Value) (h : Handle) :
    Prop where
  handle : h = .whole (owner.ownership home) v.kind m.memory.cells.next
  cell : ∃ cell, n.memory.cell? m.memory.cells.next = some cell ∧ cell.value = v ∧
    cell.home = some home ∧ cell.state = owner.block?

/-- What is put where it was asked for is housed. -/
private theorem houses_settleIn {owner : Owner} {l : Layout} {offset : Nat} {d : Option Destructor}
    {grant : Grant} {o : Machine} {c : CellId}
    (asked : allocate home l d m = .returned (.ok grant) o)
    (put : settleIn home grant l offset owner.block? v o = .returned c n) :
    m.Houses n owner home v (.whole (owner.ownership home) v.kind c) := by
  have same := (Situation.of_returned (allocate_sameCells home l d) asked).1
  have next : o.memory.cells.next = m.memory.cells.next := congrArg Slab.next same
  cases put
  constructor
  · rw [next]
  · have found := Memory.cell?_addCell_self o.memory
      ⟨some home, grant.address, l, offset, v.kind, owner.block?, v⟩
    rw [next] at found
    exact ⟨_, found, rfl, rfl, rfl⟩

private theorem houses_placeUnique (done : placeUnique home v m = .returned (.ok h) n) :
    m.Houses n .unique home v h := by
  obtain ⟨answer, o, asked, rest⟩ := Run.returned_of_bind done
  cases answer with
  | error e => cases rest
  | ok grant =>
    obtain ⟨c, q, put, rest⟩ := Run.returned_of_bind rest
    cases rest
    exact houses_settleIn asked put

/-- A value was put behind a control block into storage that was asked for with the layout of
both. -/
theorem returned_tryCreateBlock {owner : BlockOwner}
    (done : tryCreateBlock owner home v m = .returned (.ok h) n) :
    ∃ l grant o c, v.kind.layout.block? = some l ∧
      allocate home l (blockDestructor owner v.kind.layout.valueOffset m.memory.cells.next) m =
        .returned (.ok grant) o ∧
      settleIn home grant l v.kind.layout.valueOffset (some (.fresh owner)) v o = .returned c n ∧
      h = .whole (.block owner) v.kind c := by
  unfold tryCreateBlock at done
  cases found : v.kind.layout.block? with
  | none =>
    rw [found] at done
    obtain ⟨u, o, -, rest⟩ := Run.returned_of_bind done
    cases rest
  | some l =>
    rw [found] at done
    obtain ⟨subject, o, next, rest⟩ := Run.returned_of_bind done
    cases next
    obtain ⟨answer, q, asked, rest⟩ := Run.returned_of_bind rest
    cases answer with
    | error e =>
      obtain ⟨u, r, -, rest⟩ := Run.returned_of_bind rest
      cases rest
    | ok grant =>
      obtain ⟨c, r, put, rest⟩ := Run.returned_of_bind rest
      cases rest
      exact ⟨l, grant, q, c, rfl, asked, put, rfl⟩

private theorem houses_tryCreateBlock {owner : BlockOwner}
    (done : tryCreateBlock owner home v m = .returned (.ok h) n) :
    m.Houses n (.block owner) home v h := by
  obtain ⟨l, grant, o, c, -, asked, put, rfl⟩ := returned_tryCreateBlock done
  exact houses_settleIn asked put

/-- A value that could be owned is. -/
theorem houses_tryCreate {owner : Owner} (done : tryCreate owner home v m = .returned (.ok h) n) :
    m.Houses n owner home v h := by
  cases owner with
  | block o => exact houses_tryCreateBlock done
  | unique =>
    obtain ⟨answer, o, placed, rest⟩ := Run.returned_of_bind done
    cases answer with
    | ok g =>
      cases rest
      exact houses_placeUnique placed
    | error e =>
      obtain ⟨u, q, -, rest⟩ := Run.returned_of_bind rest
      cases rest

private theorem failAllocation_ne_returned {α : Type} {e : AllocError} {a : α} :
    failAllocation home e m ≠ .returned a n := by
  intro done
  have failed := fail_ensures (α := α) (e.toFault (m.memory.allocatorName home)) m
  rw [show fail (e.toFault (m.memory.allocatorName home)) m = .returned a n from done] at failed
  exact failed

theorem houses_create {owner : Owner} (done : create owner home v m = .returned h n) :
    m.Houses n owner home v h := by
  cases owner with
  | block o =>
    obtain ⟨answer, q, made, rest⟩ := Run.returned_of_bind done
    cases answer with
    | ok g =>
      cases rest
      exact houses_tryCreateBlock made
    | error e => exact absurd rest failAllocation_ne_returned
  | unique =>
    obtain ⟨answer, q, placed, rest⟩ := Run.returned_of_bind done
    cases answer with
    | ok g =>
      cases rest
      exact houses_placeUnique placed
    | error e =>
      have rest : Run.onUnwind (failAllocation home e) (dropValue v) q = .returned h n := rest
      unfold Run.onUnwind at rest
      cases failed : (failAllocation home e q : Outcome Machine Handle) with
      | returned a o => exact absurd failed failAllocation_ne_returned
      | unwinding p o =>
        rw [failed] at rest
        unfold Run.passing at rest
        dsimp only at rest
        cases passed : dropValue v o with
        | returned u r =>
          rw [passed] at rest
          cases rest
        | unwinding p r =>
          rw [passed] at rest
          cases rest
        | aborted cause r =>
          rw [passed] at rest
          cases rest
      | aborted cause o =>
        rw [failed] at rest
        cases rest

end Machine

/-- The handles that a statement lets go of which only moves handles. -/
def Statement.spent (s : Scope) : Statement → List Handle
  | reset i | drop i => s.locals[i]?.toList
  | assign i j =>
    match s.locals[i]?, s.locals[j]? with
    | some a, some b => if i != j && Session.isAlike a b then [a] else []
    | _, _ => []
  | _ => []

/-- Whether a statement only moves handles and lets go of them. -/
def Statement.moves (s : Scope) : Statement → Bool
  | take _ | reset _ | drop _ | forget _ | stow _ => true
  | assign _ j => s.locals[j]?.all fun b => !Session.isClonable b
  | _ => false

namespace Scope

open Machine Situation Session

/-- The handles outside of cells that are not empty. -/
def owners (handles : List Handle) : List Handle := handles.filter fun h => !h.isEmpty

/-- What statements do with the handles of a scope. -/
structure Moves (s : Scope) : Prop where
  /-- A value that is created is in a new cell, and has the handle in a new variable. -/
  created : ∀ owner home v fallible left d, Client.takeAll v.handles s.held = some left →
    perform (.create owner home v fallible) s = .returned .done d →
    ∃ h, d.locals = h :: s.locals ∧ s.machine.Houses d.machine owner home v h
  /-- A copy of a value is in a new cell as well, in the same storage and with an owner of the same
  kind. Where there is no value, the copy is an empty handle. -/
  copied : ∀ i h d, s.locals[i]? = some h → perform (.deepCopy i) s = .returned .done d →
    Client.isCopyable h s.toClient = true → ∃ g, d.locals = g :: s.locals ∧
      (h.value? s.machine.memory = none → g = h.emptied) ∧
      ∀ owner v home, h.owner? = some owner → h.value? s.machine.memory = some v →
        h.home? s.machine.memory = some home →
        ∃ w n, copyValue v s.machine = .returned w n ∧ n.Houses d.machine owner home w g
  /-- What is taken leaves its variable empty. -/
  taken : ∀ i h, s.locals[i]? = some h → ∃ d, perform (.take i) s = .returned .done d ∧
    d.toClient = s.toClient ∧ d.locals[0]? = some h ∧ d.locals[i + 1]? = some h.emptied
  /-- What is assigned leaves its variable empty as well. The other variable has the handle then,
  with the same value, however letting go of the old handle ends. -/
  assigned : ∀ i j a b, s.locals[i]? = some a → s.locals[j]? = some b → i ≠ j →
    isAlike a b = true → isClonable b = false →
    let d := (perform (.assign i j) s).state
    d.locals[i]? = some b ∧ d.locals[j]? = some b.emptied ∧
      ∀ l, b.link = some l → d.machine.value? l.cell = s.machine.value? l.cell
  /-- No handle is lost or made up but those that are let go of. -/
  conserved : ∀ st : Statement, st.moves s = true →
    (owners (perform st s).state.outside ++ owners (st.spent s)).Perm (owners s.outside)

variable {s : Scope} {h : Handle} {i j : Nat}

theorem state_letGo (h : Handle) (s : Scope) :
    (letGo h s).state = { s with machine := (dropHandle h s.machine).state } := by
  unfold letGo
  rw [Run.bind_apply]
  unfold onMachine Run.within
  dsimp only
  cases dropHandle h s.machine <;> rfl

theorem returns_letGo (h : Handle) (s : Scope) :
    (letGo h s).returns = (dropHandle h s.machine).returns := by
  unfold letGo
  rw [Run.bind_apply]
  unfold onMachine Run.within
  dsimp only
  cases dropHandle h s.machine <;> rfl

theorem withVariable_of_some {act : Handle → Run Scope Answer} (there : s.locals[i]? = some h) :
    withVariable i act s = act h s := by
  unfold withVariable
  rw [there]

theorem withVariable_of_none {act : Handle → Run Scope Answer} (none : s.locals[i]? = none) :
    withVariable i act s = .returned .done s := by
  unfold withVariable
  rw [none]

private theorem spending_of_some {handles left : List Handle} {act : Run Scope Answer}
    (taken : Client.takeAll handles s.held = some left) :
    spending handles act s = act { s with held := left } := by
  unfold spending
  rw [taken]

private theorem created (owner : Owner) (home : AllocatorId) (v : Value) (fallible : Bool)
    {left : List Handle} {d : Scope} (taken : Client.takeAll v.handles s.held = some left)
    (done : perform (.create owner home v fallible) s = .returned .done d) :
    ∃ h, d.locals = h :: s.locals ∧ s.machine.Houses d.machine owner home v h := by
  have done : create owner home v fallible { s with held := left } = .returned .done d :=
    (spending_of_some taken).symm.trans done
  cases fallible with
  | false =>
    obtain ⟨h, e, made, rest⟩ := Run.returned_of_bind done
    cases rest
    obtain ⟨n, ended, rfl⟩ := returned_of_onMachine made
    exact ⟨h, rfl, houses_create ended⟩
  | true =>
    obtain ⟨answer, e, made, rest⟩ := Run.returned_of_bind done
    obtain ⟨n, ended, rfl⟩ := returned_of_onMachine made
    cases answer with
    | error e => cases rest
    | ok g =>
      cases rest
      exact ⟨g, rfl, houses_tryCreate ended⟩

private theorem copied {d : Scope} (there : s.locals[i]? = some h)
    (done : perform (.deepCopy i) s = .returned .done d)
    (copyable : Client.isCopyable h s.toClient = true) : ∃ g, d.locals = g :: s.locals ∧
      (h.value? s.machine.memory = none → g = h.emptied) ∧
      ∀ owner v home, h.owner? = some owner → h.value? s.machine.memory = some v →
        h.home? s.machine.memory = some home →
        ∃ w n, copyValue v s.machine = .returned w n ∧ n.Houses d.machine owner home w g := by
  have done : provided (Client.isCopyable h s.toClient) (declaring (deepCopy h)) s =
      .returned .done d := (withVariable_of_some there).symm.trans done
  rw [provided, if_pos copyable] at done
  obtain ⟨g, e, made, rest⟩ := Run.returned_of_bind done
  cases rest
  obtain ⟨n, ended, rfl⟩ := returned_of_onMachine made
  refine ⟨g, rfl, fun none => ?_, fun owner v home isOwner isValue isHome => ?_⟩
  · rw [deepCopy_of_none (.inr (.inl none))] at ended
    cases ended
    rfl
  · rw [deepCopy_of_some isOwner isValue isHome] at ended
    obtain ⟨w, q, copied, created⟩ := Run.returned_of_bind ended
    exact ⟨w, q, copied, houses_create created⟩

private theorem taken (there : s.locals[i]? = some h) :
    ∃ d, perform (.take i) s = .returned .done d ∧ d.toClient = s.toClient ∧
      d.locals[0]? = some h ∧ d.locals[i + 1]? = some h.emptied := by
  refine ⟨_, (withVariable_of_some there).trans rfl, rfl, rfl, ?_⟩
  show (s.locals.set i h.emptied)[i]? = _
  obtain ⟨bound, -⟩ := List.getElem?_eq_some_iff.1 there
  exact List.getElem?_set_self bound

/-- An assignment of a handle that is not shared moves it, and lets go of the old one then. -/
theorem perform_assign {a b : Handle} (first : s.locals[i]? = some a)
    (second : s.locals[j]? = some b) (apart : i ≠ j) (alike : isAlike a b = true)
    (exclusive : isClonable b = false) :
    perform (.assign i j) s =
      letGo a { s with locals := (s.locals.set j b.emptied).set i b } := by
  have met : (i != j && isAlike a b) = true := by simp [apart, alike]
  have first : perform (.assign i j) s = withVariable j (fun b => _) s :=
    withVariable_of_some first
  rw [first, withVariable_of_some second, provided, if_pos met, assign,
    if_neg (by simp [exclusive])]
  rfl

private theorem assigned (balanced : s.Balanced) (directed : s.situation.Directed) {a b : Handle}
    (first : s.locals[i]? = some a) (second : s.locals[j]? = some b) (apart : i ≠ j)
    (alike : isAlike a b = true) (exclusive : isClonable b = false) :
    (perform (.assign i j) s).state.locals[i]? = some b ∧
      (perform (.assign i j) s).state.locals[j]? = some b.emptied ∧
        ∀ l, b.link = some l →
          (perform (.assign i j) s).state.machine.value? l.cell = s.machine.value? l.cell := by
  obtain ⟨bound, -⟩ := List.getElem?_eq_some_iff.1 first
  obtain ⟨bound', -⟩ := List.getElem?_eq_some_iff.1 second
  rw [perform_assign first second apart alike exclusive, state_letGo]
  refine ⟨?_, ?_, fun l link => ?_⟩
  · exact List.getElem?_set_self (by rwa [List.length_set])
  · show ((s.locals.set j b.emptied).set i b)[j]? = _
    rw [List.getElem?_set_ne apart]
    exact List.getElem?_set_self bound'
  · have leads : Situation.Leads ⟨False, False⟩ s.situation _ :=
      (moved_leads first second apart).tail (.letGo a)
    refine drain_value? ?_ link exclusive _ _ _ (balanced.leads leads)
      (directed.leads leads balanced)
    have still : ((s.locals.set j b.emptied).set i b)[i]? = some b :=
      List.getElem?_set_self (by rwa [List.length_set])
    exact List.mem_append_left _ (List.mem_of_getElem? still)

/-- Handles that were only moved, but for empty ones. -/
private theorem conserved_of_perm {st : Statement} (empties : List Handle)
    (empty : ∀ g ∈ empties, g.isEmpty = true)
    (moved : ((perform st s).state.outside ++ st.spent s).Perm (empties ++ s.outside)) :
    (owners (perform st s).state.outside ++ owners (st.spent s)).Perm (owners s.outside) := by
  have none : owners empties = [] :=
    List.filter_eq_nil_iff.2 fun g member => by simp [empty g member]
  have moved : (owners ((perform st s).state.outside ++ st.spent s)).Perm
      (owners (empties ++ s.outside)) := moved.filter _
  unfold owners at none moved ⊢
  rwa [List.filter_append, List.filter_append, none, List.nil_append] at moved

/-- Nothing was let go of. -/
private theorem conserved_of_unspent {st : Statement} (nothing : st.spent s = [])
    (empties : List Handle) (empty : ∀ g ∈ empties, g.isEmpty = true) {after : List Handle}
    (ends : (perform st s).state.outside = after) (moved : after.Perm (empties ++ s.outside)) :
    (owners (perform st s).state.outside ++ owners (st.spent s)).Perm (owners s.outside) := by
  apply conserved_of_perm empties empty
  rwa [nothing, List.append_nil, ends]

private theorem conserved_of_idle {st : Statement} (same : perform st s = .returned .done s)
    (nothing : st.spent s = []) :
    (owners (perform st s).state.outside ++ owners (st.spent s)).Perm (owners s.outside) :=
  conserved_of_unspent nothing [] (by simp) (congrArg (outside ·.state) same) (List.Perm.refl _)

private theorem conserved_assign (i j : Nat) (moves : Statement.moves s (.assign i j) = true) :
    (owners (perform (.assign i j) s).state.outside ++
      owners (Statement.spent s (.assign i j))).Perm (owners s.outside) := by
  cases first : s.locals[i]? with
  | none =>
    exact conserved_of_idle (withVariable_of_none first) (by simp [Statement.spent, first])
  | some a =>
    have left : perform (.assign i j) s = withVariable j (fun b => _) s :=
      withVariable_of_some first
    cases second : s.locals[j]? with
    | none =>
      exact conserved_of_idle (left.trans (withVariable_of_none second))
        (by simp [Statement.spent, first, second])
    | some b =>
      by_cases met : (i != j && isAlike a b) = true
      · have exclusive : isClonable b = false := by simpa [Statement.moves, second] using moves
        obtain ⟨apart, alike⟩ := Bool.and_eq_true_iff.1 met
        have apart : i ≠ j := bne_iff_ne.1 apart
        have gone : Statement.spent s (.assign i j) = [a] := by
          simp only [Statement.spent, first, second, met, if_true]
        apply conserved_of_perm [b.emptied] (by simp [Handle.isEmpty_emptied])
        rw [gone, perform_assign first second apart alike exclusive, state_letGo]
        exact List.perm_append_comm.trans
          ((displaced_perm first second apart _).symm.append_right _)
      · refine conserved_of_idle ((left.trans (withVariable_of_some second)).trans ?_) ?_
        · rw [provided, if_neg met]
          rfl
        · simp [Statement.spent, first, second, met]

/-- Statements that move handles lose none. -/
private theorem conserved (st : Statement) (moves : st.moves s = true) :
    (owners (perform st s).state.outside ++ owners (st.spent s)).Perm (owners s.outside) := by
  cases st with
  | take i =>
    cases there : s.locals[i]? with
    | none => exact conserved_of_idle (withVariable_of_none there) rfl
    | some h =>
      have ends : (perform (.take i) s).state.outside = _ :=
        congrArg (outside ·.state) (withVariable_of_some there)
      apply conserved_of_unspent rfl [h.emptied] (by simp [Handle.isEmpty_emptied]) ends
      exact (set_perm there _).append_right _
  | reset i =>
    cases there : s.locals[i]? with
    | none =>
      exact conserved_of_idle (withVariable_of_none there) (by simp [Statement.spent, there])
    | some h =>
      have ends : (perform (.reset i) s).state.outside = _ :=
        congrArg outside ((congrArg Outcome.state (withVariable_of_some there)).trans
          (state_letGo h { s with locals := s.locals.set i h.emptied }))
      apply conserved_of_perm [h.emptied] (by simp [Handle.isEmpty_emptied])
      rw [ends, Statement.spent, there]
      exact List.perm_append_comm.trans ((set_perm there _).append_right _)
  | drop i =>
    cases there : s.locals[i]? with
    | none =>
      exact conserved_of_idle (withVariable_of_none there) (by simp [Statement.spent, there])
    | some h =>
      have ends : (perform (.drop i) s).state.outside = _ :=
        congrArg outside ((congrArg Outcome.state (withVariable_of_some there)).trans
          (state_letGo h { s with locals := s.locals.eraseIdx i }))
      apply conserved_of_perm [] (by simp)
      rw [ends, Statement.spent, there]
      exact List.perm_append_comm.trans ((eraseIdx_perm there).append_right _)
  | forget i =>
    cases there : s.locals[i]? with
    | none => exact conserved_of_idle (withVariable_of_none there) rfl
    | some h =>
      have ends : (perform (.forget i) s).state.outside = _ :=
        congrArg (outside ·.state) (withVariable_of_some there)
      exact conserved_of_unspent rfl [] (by simp) ends (moved_perm there s.held s.forgotten).symm
  | stow i =>
    cases there : s.locals[i]? with
    | none => exact conserved_of_idle (withVariable_of_none there) rfl
    | some h =>
      cases clonable : isClonable h with
      | true =>
        refine conserved_of_idle ((withVariable_of_some there).trans ?_) rfl
        simp only [clonable]
        rfl
      | false =>
        have ends : (perform (.stow i) s).state.outside = _ :=
          congrArg (outside ·.state) (withVariable_of_some there)
        apply conserved_of_unspent rfl [] (by simp) ends
        simp only [clonable]
        exact (moved_perm there [] (s.held ++ s.forgotten)).symm
  | assign i j => exact conserved_assign i j moves
  | _ => cases moves

/-- A scope that is balanced, and whose handles lead where their kinds say, moves handles so. -/
private theorem moves (balanced : s.Balanced) (directed : s.situation.Directed) : s.Moves where
  created owner home v fallible _ _ := created owner home v fallible
  copied _ _ _ := copied
  taken _ _ := taken
  assigned _ _ _ _ := assigned balanced directed
  conserved := conserved

/-- A program that a client begins, without variables at first. -/
def opened (c : Client) : Scope := { toClient := c }

/-- Whatever statements a program carries out that do not give a value to owners of another kind:
at every moment of it the values that it put into storage have their owners, or were destroyed as
these went. No handle is lost on the way, and what the program moves arrives. -/
theorem run_exclusive {p : Process} {ops : List Operation} {c : Client}
    {sts : List Statement} {answers : List (Except Payload Answer)} {s : Scope}
    (before : Client.run ops (Client.start p) = .returned () c)
    (kept : ∀ st ∈ sts, st.transfers = false) (ran : run sts (opened c) = .returned answers s) :
    (∀ t, s.asClient.Underway t →
      (∀ v cell, c.machine.memory.cells.next ≤ v → t.client.machine.memory.cell? v = some cell →
        t.Accounts v cell) ∧
      ∀ e, Destruction.Step ⟨t.tasks, t.panics, t.client.machine⟩ e → ∀ q v,
        t.references q v =
          Moment.references ⟨{ t.client with machine := e.machine }, e.tasks, e.panics⟩ q v +
            Task.refs q v (t.tasks.take 1)) ∧
      s.Moves := by
  have start := Client.start_balanced p
  have first : Client.Leads True (Client.start p).situation (Client.run ops (Client.start p)) :=
    Client.run_leads ops (fun _ _ _ => trivial) start
  rw [before] at first
  have vacant := Client.start_vacant p
  have balanced : (opened c).Balanced := start.leads first
  have directed : (opened c).situation.Directed := (directed_of_vacant vacant).leads first start
  have recorded : (opened c).situation.Recorded := (recorded_of_vacant vacant).leads first start
  have second : Leads ⟨False, False⟩ (opened c).situation (run sts (opened c)) :=
    run_leads sts (fun st member transfers => by simp [kept st member] at transfers) balanced
  rw [ran] at second
  refine ⟨fun t underway => ?_, moves (balanced.leads second) (directed.leads second balanced)⟩
  have between : s.asClient.Balanced := by
    rw [Client.Balanced, situation_asClient]
    exact balanced.leads second
  have third : Situation.Leads ⟨False, False⟩ s.situation t.situation :=
    s.situation_asClient ▸ underway.leads between
  have leads := second.trans third
  have tended := (tended_next (opened c).situation).leads id leads balanced directed
  refine ⟨fun v cell since found => ?_, fun e step q v => ?_⟩
  · exact Moment.accounts_of_tended (balanced.leads leads) (directed.leads leads balanced)
      (recorded.leads leads balanced) tended since found
  · exact Moment.references_of_step (balanced.leads leads) step q v

/-- A value whose destructor panics makes way for another. -/
theorem run_exclusive_clashing : ∃ sts answers s old new,
    run sts (opened (Client.start {})) = .returned answers s ∧
      s.locals[1]? = some old ∧ s.locals[0]? = some new ∧
      (perform (.assign 1 0) s).returns = false ∧
      (perform (.assign 1 0) s).state.locals[1]? = some new ∧
      (perform (.assign 1 0) s).state.machine.value? 1 = some (.tracked "new") ∧
      ∃ cell, s.machine.memory.cell? 0 = some cell ∧ cell.Sole ∧
        Moment.Accounts { client := s.asClient } 0 cell := by
  let old : Handle := .whole (.unique systemAllocator) .tracked 0
  let new : Handle := .whole (.unique systemAllocator) .tracked 1
  let sts : List Statement :=
    [.create .unique systemAllocator (.tracked "!old") false,
      .create .unique systemAllocator (.tracked "new") true]
  obtain ⟨answers, done⟩ := Outcome.exists_returned (o := run sts (opened (Client.start {})))
    (by decide +kernel)
  generalize ended : (run sts (opened (Client.start {}))).state = s at done
  have first : s.locals = [new, old] := by
    rw [← ended]
    decide +kernel
  have before : Client.run [] (Client.start {}) = .returned () (Client.start {}) := rfl
  obtain ⟨always, moves⟩ := run_exclusive before (by decide) done
  have assigned := moves.assigned 1 0 old new (by rw [first]; rfl) (by rw [first]; rfl)
    (by decide) rfl rfl
  have value : s.machine.value? 1 = some (.tracked "new") := by
    rw [← ended]
    decide +kernel
  have plain : (s.machine.memory.cell? 0).map (·.state) = some none := by
    rw [← ended]
    decide +kernel
  obtain ⟨cell, found, state⟩ := Option.map_eq_some_iff.1 plain
  have panicked : (drained 20 [.drop old] [] s.machine).map (·.returns) = some false := by
    rw [← ended]
    decide +kernel
  obtain ⟨o, settled, panicked⟩ := Option.map_eq_some_iff.1 panicked
  have failed : (perform (.assign 1 0) s).returns = false := by
    rw [perform_assign (a := old) (b := new) (by rw [first]; rfl) (by rw [first]; rfl) (by decide)
      rfl rfl, returns_letGo, dropHandle, settle, drain_of_drained settled, panicked]
  refine ⟨sts, answers, s, old, new, done, by rw [first]; rfl, by rw [first]; rfl, failed,
    assigned.1, (assigned.2.2 _ rfl).trans value, cell, found, .inl state,
    (always _ .rest).1 0 cell (Nat.zero_le _) found⟩

end Scope

end Custody
