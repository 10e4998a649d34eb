import Custody.Proofs.Releasing
import Custody.Proofs.Stored
import Mathlib.Logic.Relation

/-!
# Situations and the steps between them

A `Situation` is where a program stands that uses handles: its machine, the handles outside of
cells that nobody is letting go of, and what is just being settled. `Situation.Step` says in what
steps it goes on. A step is the least that operations are made of: one more handle is counted, a
value is put into storage or rewritten, a block changes hands, a task is carried out, an allocator
does one thing. Whatever an operation does, it goes from situation to situation in such steps, so
that what every step preserves holds of all that a program ever does, also of the states that only
destructors see and of the state in which a process ends at once.

`Situation.Balanced.step` is the first such thing: the books balance and the machine is sound.
-/

namespace Custody

/-- Where a program stands. -/
structure Situation where
  /-- What it runs on. -/
  machine : Machine
  /-- The handles outside of cells that nobody is letting go of. -/
  loose : List Handle
  /-- What is just being settled, in order. -/
  tasks : List Task := []
  /-- The panics on their way, the last one first. -/
  panics : List Passage := []

/-- What a program may do besides what it does with handles. -/
structure Licence where
  /-- Give back storage that no handle stands for. -/
  raw : Prop
  /-- Give values to owners of another kind, move them out of their storage, and put them into
  storage that no handle owns. -/
  transfer : Prop := True

/-- To say only whether a program may give back storage is to let it transfer values. -/
instance : Coe Prop Licence := ⟨fun raw => { raw := raw }⟩

/-- Where a program stands when nothing is being settled. -/
abbrev Situation.rest (machine : Machine) (loose : List Handle) : Situation :=
  { machine := machine, loose := loose }

/-- How a value is housed in storage: the layout that is asked for, where in the storage the value
lies, the state of its block, how its first handle owns it, and the destructor that is registered
for the cell to be. -/
inductive Housing (v : Value) (home : AllocatorId) (subject : CellId) :
    Layout → Nat → Option BlockState → Ownership → Option Destructor → Prop
  /-- Without a block. -/
  | bare : Housing v home subject v.kind.layout 0 none (.unique home) none
  /-- Behind a block for a kind of owner. -/
  | block (owner : BlockOwner) {l : Layout} (found : v.kind.layout.block? = some l) :
      Housing v home subject l v.kind.layout.valueOffset (some (.fresh owner)) (.block owner)
        (Machine.blockDestructor owner v.kind.layout.valueOffset subject)

namespace Machine

open Session

/-- The ways of counting one more handle, given the handles outside of cells. -/
inductive Counting (m : Machine) (loose : List Handle) : Run Machine (List Handle) → Prop
  /-- Another handle like a shared one. -/
  | again {h : Handle} (clonable : isClonable h = true) (seen : m.Seen (loose.map .drop) h) :
      Counting m loose (do return [← clone h])
  /-- An observer of the value of a strong handle. -/
  | observer {h : Handle} (owns : h.ownership = .block .strong)
      (seen : m.Seen (loose.map .drop) h) : Counting m loose (do return [← downgrade h])
  /-- An owner for an observer, if the value is still there. -/
  | owner {h : Handle} (observes : h.ownership = .weak) (seen : m.Seen (loose.map .drop) h) :
      Counting m loose (do return (← upgrade h).toList)

/-- Whether the block of a handle may be given to another kind of owner. -/
inductive Retagging (m : Machine) (h : Handle) : BlockOwner → Prop
  | share {owner : BlockOwner} (owns : h.ownership = .block .own)
      (shared : owner = .strong ∨ owner = .handle) : Retagging m h owner
  | unshare (shared : h.ownership = .block .strong ∨ h.ownership = .block .handle)
      (alone : m.Alone h) : Retagging m h .own

/-- What the sole owner of a value gives its storage back with: to which allocator, and with which
layout. -/
inductive Returns (h : Handle) (cell : Cell) : AllocatorId → Layout → Prop
  | bare {home : AllocatorId} (owns : h.ownership = .unique home) :
      Returns h cell home h.kind.layout
  | block {home : AllocatorId} (owns : h.ownership = .block .own) (there : cell.home = some home) :
      Returns h cell home cell.layout

/-- The machine with a value in a new cell that its allocator is to destroy. -/
def tagged (m : Machine) (home : AllocatorId) (l : Layout) (offset : Nat) (grant : Grant)
    (v : Value) : Machine :=
  { m with memory := m.memory.addCell (StorageStep.taggedCell home l offset grant v) }

/-- The machine with another value in a cell. -/
def rewritten (m : Machine) (c : CellId) (cell : Cell) (v : Value) : Machine :=
  { m with memory := m.memory.setCell c { cell with value := v } }

end Machine

namespace Situation

open Machine Session

/-- All that is outside of cells, each handle as the task of letting go of it. -/
def duties (s : Situation) : List Task :=
  s.tasks ++ s.panics.flatMap (·.cleanup) ++ s.loose.map .drop

/-- What a program does next. -/
inductive Step (may : Licence) : Situation → Situation → Prop
  /-- Handles have no order. -/
  | reordered {m k k'} (same : k.Perm k') : Step may (rest m k) (rest m k')
  | emptyGained {m k} {h : Handle} (empty : h.isEmpty = true) :
      Step may (rest m k) (rest m (h :: k))
  | emptyLost {m k} {h : Handle} (empty : h.isEmpty = true) : Step may (rest m (h :: k)) (rest m k)
  /-- The process does something that concerns neither memory nor storage. -/
  | aside {m n : Machine} {k} (same : m.Undisturbed n) : Step may (rest m k) (rest n k)
  /-- One more handle is counted. -/
  | counted {m n k more act} (way : Counting m k act) (done : act m = .returned more n) :
      Step may (rest m k) (rest n (more ++ k))
  /-- One more handle cannot be counted. -/
  | uncounted {m k act} (way : Counting m k act) (failed : (act m).returns = false) :
      Step may (rest m k) (rest (act m).state k)
  /-- A shared handle points elsewhere, and keeps its value. -/
  | redirected {m k} {h g : Handle} (clonable : isClonable h = true)
      (owns : g.ownership = h.ownership) (cell : g.link.map (·.cell) = h.link.map (·.cell)) :
      Step may (rest m (h :: k)) (rest m (g :: k))
  /-- A value is put into storage that was asked for. -/
  | placed {m n o k v home l offset state ownership d grant c}
      (housing : Housing v home m.memory.cells.next l offset state ownership d)
      (asked : allocate home l d m = .returned (.ok grant) n)
      (put : settleIn home grant l offset state v n = .returned c o) :
      Step may (rest m (v.handles ++ k)) (rest o (.whole ownership v.kind c :: k))
  /-- Storage is asked for by itself. -/
  | requested {m n k home l grant} (asked : allocate home l none m = .returned (.ok grant) n) :
      Step may (rest m k) (rest n k)
  /-- There is no storage. -/
  | refused {m n k home l d e} (fresh : ∀ d', d = some d' → d'.subject = m.memory.cells.next)
      (asked : allocate home l d m = .returned (.error e) n) : Step may (rest m k) (rest n k)
  /-- A value is put where its allocator is to destroy it, and no handle owns it. -/
  | registered {m n : Machine} {k v home l offset grant}
      (asked : allocate home l (some ⟨offset, m.memory.cells.next⟩) m = .returned (.ok grant) n)
      (allowed : may.transfer) :
      Step may (rest m (v.handles ++ k)) (rest (n.tagged home l offset grant v) k)
  /-- A block changes hands. -/
  | retagged {m n k h g owner} (way : Retagging m h owner)
      (done : retagged h owner m = .returned g n) (allowed : may.transfer) :
      Step may (rest m (h :: k)) (rest n (g :: k))
  /-- A value is exchanged for another one, with the handles that are inside of them. -/
  | rewritten {m : Machine} {k k' c cell v} (found : m.memory.cell? c = some cell)
      (moved : (cell.value.handles ++ k).Perm (v.handles ++ k')) :
      Step may (rest m k) (rest (m.rewritten c cell v) k')
  /-- A sole owner's value is moved out, and its storage is to go back. -/
  | movedOut {m : Machine} {k h} {link : Link} {cell home l} (refers : h.link = some link)
      (found : m.memory.cell? link.cell = some cell) (returns : Returns h cell home l)
      (allowed : may.transfer) :
      Step may (rest m (h :: k))
        ⟨m.vacated link.cell cell, cell.value.handles ++ k, [.giveBack home l link.cell], []⟩
  /-- A handle is about to be let go of. -/
  | letGo {m k} (h : Handle) : Step may (rest m (h :: k)) ⟨m, k, [.drop h], []⟩
  /-- A value in no cell is about to be destroyed. -/
  | destroyed {m k} (v : Value) : Step may (rest m (v.handles ++ k)) ⟨m, k, v.plan, []⟩
  /-- One more step of a destruction is taken. -/
  | settling {m n k tasks tasks' panics panics'}
      (step : Destruction.Step ⟨tasks, panics, m⟩ ⟨tasks', panics', n⟩) :
      Step may ⟨m, k, tasks, panics⟩ ⟨n, k, tasks', panics'⟩
  /-- A panic leaves when nothing is left to be destroyed before. -/
  | left {m k payload} : Step may ⟨m, k, [], [⟨payload, []⟩]⟩ (rest m k)
  | heapMade {m n k id} (done : makeHeap m = .returned id n) : Step may (rest m k) (rest n k)
  | arenaMade {m n k name config id} (done : makeArena name config m = .returned id n) :
      Step may (rest m k) (rest n k)
  /-- The release of an arena begins. -/
  | listTaken {m : Machine} {k id a} (there : m.memory.arena? id = some a) :
      Step may (rest m k) (rest (m.listTaken id a) k)
  /-- The next destructor that was registered is about to be run. -/
  | destructorRun {m n k id r others tasks} (running : Running id (r :: others) m)
      (next : beginDestruction r.destructor.subject (m.runNoted id r) = .returned tasks n) :
      Step may (rest m k) ⟨n, k, tasks, []⟩
  /-- An arena gives its chunks back. -/
  | chunksReturned {m n : Machine} {k id a} (there : m.memory.arena? id = some a)
      (taken : sinceTaken id m.deeds = []) (done : releaseChunks id a m = .returned () n) :
      Step may (rest m k) (rest n k)
  /-- A release is counted. -/
  | writtenOff {m : Machine} {k id a leaked} (there : m.memory.arena? id = some a)
      (began : ∃ mid before, m.deeds = mid ++ .releaseBegan id :: before ∧
        (∀ e ∈ mid, e.isOfRelease) ∧ leaked = (ledgerOf id before).live) :
      Step may (rest m k) (rest (m.writtenOff id a leaked) k)
  /-- An allocator is gone. -/
  | forgotten {m n k id} (done : forgetAllocator id m = .returned () n) :
      Step may (rest m k) (rest n k)
  /-- Storage is given back that no handle stands for. -/
  | deallocated {m n k id address l} (allowed : may.raw)
      (done : deallocate id address l m = .returned () n) : Step may (rest m k) (rest n k)
  | retired {m n k id address l} (allowed : may.raw)
      (done : retire id address l m = .returned () n) : Step may (rest m k) (rest n k)

/-- What a program gets to in any number of steps. -/
abbrev Leads (may : Licence) : Situation → Situation → Prop := Relation.ReflTransGen (Step may)

/-- The books balance with all that is outside of cells, and the machine is sound. -/
structure Balanced (s : Situation) : Prop where
  sound : s.machine.Sound
  balanced : Destruction.Balanced (s.loose.map .drop) ⟨s.tasks, s.panics, s.machine⟩

/-- Where nothing is being settled, the books balance with the handles. -/
theorem balanced_of_books {m : Machine} {k : List Handle} (books : m.Books (k.map .drop))
    (sound : m.Sound) : Balanced (rest m k) :=
  ⟨sound, books, fun _ _ _ _ => rfl⟩

/-- What is known of a cell fits all that is outside of cells. -/
theorem Balanced.fits {s : Situation} (balanced : s.Balanced) (c : CellId) :
    (s.machine.tally s.duties c).Fits (s.machine.memory.cell? c) :=
  balanced.balanced.books c

theorem Balanced.books {m : Machine} {k : List Handle} (balanced : Balanced (rest m k)) :
    m.Books (k.map .drop) :=
  balanced.balanced.books

end Situation

/-- There are as many handles to a cell as its block can count. -/
def Tally.Crowded (t : Tally) : Prop :=
  maxRefCount.toNat ≤ t.refs .strong + t.refs .weak + t.refs .handle

theorem Tally.StrongLaw.crowded {t : Tally} {s w : Word} (law : t.StrongLaw s w)
    (full : maxRefCount < s ∨ maxRefCount < w) : t.Crowded := by
  have owners := law.owners
  have observers := law.observers
  have share := law.share
  simp only [UInt64.lt_iff_toNat_lt] at full
  unfold Crowded
  omega

theorem Tally.LocalLaw.crowded {t : Tally} {count : Word} (law : t.LocalLaw count)
    (full : maxRefCount ≤ count) : t.Crowded := by
  have owners := law.owners
  rw [UInt64.le_iff_toNat_le] at full
  unfold Crowded
  omega

namespace Machine

open Session

variable {m n : Machine} {loose : List Handle} {act : Run Machine (List Handle)}

/-- To count one more handle keeps the books. -/
theorem Counting.books (way : Counting m loose act) (books : m.Books (loose.map .drop)) :
    (act m).Ensures (fun more n => n.Books ((more ++ loose).map .drop))
      fun n => n.Books (loose.map .drop) := by
  cases way with
  | @again h clonable seen =>
    refine Run.bind_ensures (clone_books clonable books seen) ?_
    rintro _ n ⟨rfl, made⟩
    exact made
  | @observer h owns seen =>
    refine Run.bind_ensures (downgrade_books owns books seen) ?_
    rintro _ n ⟨rfl, made⟩
    exact made
  | @owner h observes seen =>
    refine Run.bind_ensures (upgrade_books observes books seen) fun g n made => ?_
    show n.Books ((g.toList ++ loose).map .drop)
    rw [List.map_append]
    exact made

/-- One more handle is counted by counting. -/
theorem Counting.keeps {R : Machine → Machine → Prop} [IsPreorder Machine R]
    (counts : ∀ (α : Type) [Inhabited α] (c : CellId)
      (operation : BlockState → BlockState × Except CountFault α),
      (∀ s, (operation s).1.owner = s.owner) → (recount c operation).Keeps R)
    (way : Counting m loose act) : act.Keeps R := by
  cases way with
  | again clonable seen =>
    exact Run.Keeps.bind (clone_keeps counts _) fun _ => Run.Keeps.pure _
  | observer owns seen =>
    exact Run.Keeps.bind (clone_keeps counts _) fun _ => Run.Keeps.pure _
  | owner observes seen =>
    exact Run.Keeps.bind (upgrade_keeps counts _) fun _ => Run.Keeps.pure _

/-- To count one more handle changes nothing but a count. -/
theorem Counting.settled (way : Counting m loose act) : act.Keeps Settled :=
  way.keeps fun _ _ c _ kept => recount_settled c kept

/-! ### Counts that overflow -/

private theorem clone_state (h : Handle) (m : Machine) :
    (clone h m).state = (acquire h m).state :=
  Run.state_bind_pure (acquire h) (fun _ => h) m

private theorem clone_returns (h : Handle) (m : Machine) :
    (clone h m).returns = (acquire h m).returns :=
  Run.returns_bind_pure (acquire h) (fun _ => h) m

/-- A count that overflows is left as it is, and there are as many handles as it can count. -/
private theorem recount_overflows {α : Type} [Inhabited α] {tasks : List Task} {c : CellId}
    {cell : Cell} {s : BlockState} {operation : BlockState → BlockState × Except CountFault α}
    (found : m.memory.cell? c = some cell) (state : cell.state = some s)
    (failed : (recount c operation m).returns = false)
    (full : ∀ s' fault, operation s = (s', .error fault) →
      s' = s ∧ fault = .overflow ∧ (m.tally tasks c).Crowded) :
    (m.miscounted c .overflow).Undisturbed (recount c operation m).state ∧
      (m.tally tasks c).Crowded := by
  obtain ⟨cell', s₀, s', fault, found', state', counted, noted⟩ := recount_failed failed
  rw [found] at found'
  cases found'
  rw [state] at state'
  cases state'
  obtain ⟨rfl, rfl, crowded⟩ := full s' fault counted
  rw [withState_of_state found state] at noted
  exact ⟨noted, crowded⟩

/-- An observer cannot be counted if there are as many observers as can be counted. -/
private theorem acquire_observer_failed {tasks : List Task} {h : Handle} {l : Link} {cell : Cell}
    {s w : Word} (link : h.link = some l) (observes : h.ownership = .weak)
    (found : m.memory.cell? l.cell = some cell) (state : cell.state = some (.strong s w))
    (law : (m.tally tasks l.cell).StrongLaw s w) (failed : (acquire h m).returns = false) :
    ∃ c, (m.miscounted c .overflow).Undisturbed (acquire h m).state ∧
      (m.tally tasks c).Crowded := by
  have counts : acquire h = recount l.cell BlockState.incrementWeak := by
    unfold acquire
    rw [link, observes]
  rw [counts] at failed ⊢
  refine ⟨l.cell, recount_overflows found state failed fun s' fault counted => ?_⟩
  obtain ⟨same, overflow, full⟩ := BlockState.incrementWeak_error counted
  exact ⟨same, overflow, law.crowded (.inr full)⟩

/-- A handle like a shared one cannot be counted if there are as many as can be counted. -/
private theorem acquire_failed {tasks : List Task} {h : Handle} (clonable : isClonable h = true)
    (books : m.Books tasks) (seen : m.Seen tasks h) (failed : (acquire h m).returns = false) :
    ∃ c, (m.miscounted c .overflow).Undisturbed (acquire h m).state ∧
      (m.tally tasks c).Crowded := by
  cases link : h.link with
  | none =>
    unfold acquire at failed
    rw [link] at failed
    cases failed
  | some l =>
    obtain ⟨cell, found, governed, homed, law⟩ := books.found_of_seen seen link
    unfold isClonable at clonable
    cases owns : h.ownership with
    | unique home =>
      rw [owns] at clonable
      cases clonable
    | weak =>
      rw [show h.qualifier = .weak from congrArg Ownership.qualifier owns] at governed
      obtain ⟨s, w, state⟩ : ∃ s w, cell.state = some (.strong s w) := governed
      rw [state] at law
      exact acquire_observer_failed link owns found state law failed
    | block owner =>
      rw [show h.qualifier = owner.qualifier from congrArg Ownership.qualifier owns] at governed
      unfold acquire at failed ⊢
      rw [link, owns] at failed ⊢
      cases owner with
      | strong =>
        obtain ⟨s, w, state⟩ : ∃ s w, cell.state = some (.strong s w) := governed
        rw [state] at law
        refine ⟨l.cell, recount_overflows found state failed fun s' fault counted => ?_⟩
        obtain ⟨same, overflow, full⟩ := BlockState.incrementStrong_error counted
        exact ⟨same, overflow, Tally.StrongLaw.crowded law (.inl full)⟩
      | handle =>
        obtain ⟨count, state⟩ : ∃ count, cell.state = some (.handle count) := governed
        rw [state] at law
        refine ⟨l.cell, recount_overflows found state failed fun s' fault counted => ?_⟩
        obtain ⟨same, overflow, full⟩ := BlockState.incrementLocal_error counted
        exact ⟨same, overflow, Tally.LocalLaw.crowded law full⟩
      | _ => cases failed

/-- An owner for an observer cannot be counted if there are as many owners as can be counted. -/
private theorem upgrade_failed {tasks : List Task} {h : Handle} (observes : h.ownership = .weak)
    (books : m.Books tasks) (seen : m.Seen tasks h) (failed : (upgrade h m).returns = false) :
    ∃ c, (m.miscounted c .overflow).Undisturbed (upgrade h m).state ∧
      (m.tally tasks c).Crowded := by
  unfold upgrade at failed ⊢
  cases link : h.link with
  | none =>
    rw [link] at failed
    cases failed
  | some l =>
    rw [link] at failed
    obtain ⟨cell, found, governed, homed, law⟩ := books.found_of_seen seen link
    rw [show h.qualifier = .weak from congrArg Ownership.qualifier observes] at governed
    obtain ⟨s, w, state⟩ : ∃ s w, cell.state = some (.strong s w) := governed
    rw [state] at law
    dsimp only at failed ⊢
    have asked : (recount l.cell BlockState.tryUpgrade m).returns = false ∧
        (recount l.cell BlockState.tryUpgrade m).state = ((recount l.cell BlockState.tryUpgrade >>=
          fun owned => if owned then return some (h.held (.block .strong)) else return none :
          Run Machine (Option Handle)) m).state := by
      rw [Run.bind_apply] at failed ⊢
      cases ended : recount l.cell BlockState.tryUpgrade m with
      | returned owned n =>
        rw [ended] at failed
        cases owned with
        | true => cases failed
        | false => cases failed
      | unwinding p n => exact ⟨rfl, rfl⟩
      | aborted cause n => exact ⟨rfl, rfl⟩
    rw [← asked.2]
    refine ⟨l.cell, recount_overflows found state asked.1 fun s' fault counted => ?_⟩
    obtain ⟨same, overflow, full⟩ := BlockState.tryUpgrade_error counted
    exact ⟨same, overflow, Tally.StrongLaw.crowded law (.inl full)⟩

/-- Where one more handle cannot be counted, it is noted that a count overflows, there are as many
handles as can be counted, and nothing else comes of it. -/
theorem Counting.failed (way : Counting m loose act) (books : m.Books (loose.map .drop))
    (failed : (act m).returns = false) :
    ∃ c, (m.miscounted c .overflow).Undisturbed (act m).state ∧
      (m.tally (loose.map .drop) c).Crowded := by
  cases way with
  | @again h clonable seen =>
    have left : ((do return [← clone h] : Run Machine (List Handle)) m).state =
        (acquire h m).state := by
      rw [Run.state_bind_pure, clone_state]
    rw [Run.returns_bind_pure, clone_returns] at failed
    rw [left]
    exact acquire_failed clonable books seen failed
  | @observer h owns seen =>
    have left : ((do return [← downgrade h] : Run Machine (List Handle)) m).state =
        (acquire (h.held .weak) m).state := by
      rw [Run.state_bind_pure]
      exact clone_state _ m
    rw [Run.returns_bind_pure, show downgrade h = clone (h.held .weak) from rfl,
      clone_returns] at failed
    rw [left]
    cases link : h.link with
    | none =>
      have nothing : acquire (h.held .weak) m = .returned () m := by
        have empty : (h.held .weak).link = none := link
        unfold acquire
        rw [empty]
        rfl
      rw [nothing] at failed
      cases failed
    | some l =>
      obtain ⟨cell, found, governed, homed, law⟩ := books.found_of_seen seen link
      rw [show h.qualifier = .strong from congrArg Ownership.qualifier owns] at governed
      obtain ⟨s, w, state⟩ : ∃ s w, cell.state = some (.strong s w) := governed
      rw [state] at law
      exact acquire_observer_failed (h := h.held .weak) link rfl found state law failed
  | @owner h observes seen =>
    rw [Run.state_bind_pure]
    rw [Run.returns_bind_pure] at failed
    exact upgrade_failed observes books seen failed

/-! ### Values in cells -/

/-- A new cell without a block, which was not put there for an owner, takes its handles along. -/
theorem addCell_books {tasks : List Task} {cell : Cell} (bare : cell.state = none)
    (books : m.Books (cell.value.handles.map .drop ++ tasks)) :
    ({ m with memory := m.memory.addCell cell } : Machine).Books tasks := by
  intro d
  have moved : ({ m with memory := m.memory.addCell cell } : Machine).tally tasks d =
      m.tally (cell.value.handles.map .drop ++ tasks) d := tally_addCell m tasks _ d
  have fits := books d
  rw [moved]
  by_cases new : d = m.memory.cells.next
  · subst new
    have vacant : m.memory.cell? m.memory.cells.next = none :=
      Slab.get?_eq_none_of_next_le (Nat.le_refl _)
    rw [vacant] at fits
    dsimp only
    rw [Memory.cell?_addCell_self]
    have untouched : Tally.Untouched _ := fits
    dsimp only [Tally.Fits]
    rw [bare]
    refine ⟨nofun, untouched.onlyBy _, untouched.leaving, ?_, ?_, .inl untouched.placed⟩
    · rw [untouched.refs, untouched.returned, untouched.returning, untouched.failed,
        untouched.placed]
    · rw [untouched.placed]
      exact Nat.zero_le 1
  · dsimp only
    rw [Memory.cell?_addCell_of_ne m.memory cell new]
    exact fits

/-- A value that is put into a cell without an owner takes its handles along. -/
theorem tagged_books {tasks : List Task} (v : Value) (home : AllocatorId) (l : Layout)
    (offset : Nat) (grant : Grant) (books : m.Books (v.handles.map .drop ++ tasks)) :
    (m.tagged home l offset grant v).Books tasks :=
  addCell_books rfl books

/-- Nothing was put yet where the next cell will be. -/
theorem Books.placed_next {tasks : List Task} (books : m.Books tasks) :
    m.deeds.countP (·.places m.memory.cells.next) = 0 := by
  have fits := books m.memory.cells.next
  have vacant : m.memory.cell? m.memory.cells.next = none :=
    Slab.get?_eq_none_of_next_le (Nat.le_refl _)
  rw [vacant] at fits
  exact Tally.Untouched.placed fits

/-- The subject that is expected comes into being, without a block and for no owner. -/
theorem tagged_sound {subject : CellId} (sound : SoundBut (some subject) m)
    (next : m.memory.cells.next = subject) (never : m.deeds.countP (·.places subject) = 0)
    (v : Value) (home : AllocatorId) (l : Layout) (offset : Nat) (grant : Grant) :
    (m.tagged home l offset grant v).Sound := by
  refine { sound with subjects := fun e member d is => .inl ?_ }
  rcases sound.subjects e member d is with there | expected
  · exact isSubject_addCell _ there
  · cases expected
    refine ⟨StorageStep.taggedCell home l offset grant v, ?_, .inl ⟨rfl, never⟩⟩
    rw [← next]
    exact Memory.cell?_addCell_self m.memory _

/-- The storage of a value that is moved out is still to go back. -/
theorem Returns.books {tasks : List Task} {h : Handle} {link : Link} {cell : Cell}
    {home : AllocatorId} {l : Layout} (returns : Returns h cell home l)
    (refers : h.link = some link) (found : m.memory.cell? link.cell = some cell)
    (books : m.Books (.drop h :: tasks)) :
    (m.vacated link.cell cell).Books
      (.giveBack home l link.cell :: (cell.value.handles.map .drop ++ tasks)) := by
  obtain ⟨there, found', governed, homed, law⟩ := books.found refers
  rw [found] at found'
  cases found'
  have moved : (m.tally tasks link.cell).toReturn.Law cell.state := by
    cases returns with
    | bare owns =>
      rw [show h.qualifier = .unique from congrArg Ownership.qualifier owns] at governed law
      have state : cell.state = none := governed
      rw [state] at law ⊢
      exact Tally.BareLaw.moveOut law
    | block owns =>
      rw [show h.qualifier = .own from congrArg Ownership.qualifier owns] at governed law
      have state : cell.state = some .own := governed
      rw [state] at law ⊢
      exact Tally.SoleLaw.moveOut law
  have owed : (m.vacated link.cell cell).Books
      (.giveBack home l link.cell :: (cell.value.plan ++ tasks)) := by
    refine (((books.but.of_drop refers).vacated found).return (.inl rfl) home l).books ?_
    rw [tally_return_self _ _ (.inl rfl), tally_vacated found, cell?_vacated_self found]
    exact ⟨homed, moved⟩
  have first := owed.perm (List.perm_middle.symm : List.Perm _ (cell.value.plan ++ _ :: tasks))
  exact (Books.of_plan.1 first).perm List.perm_middle

/-! ### Blocks for other owners -/

/-- What an owner that may change hands refers to has a block, and not one that its allocator is
to destroy. -/
theorem found_of_retaggable {tasks : List Task} {h : Handle} {l : Link} (books : m.Books tasks)
    (seen : m.Seen tasks h) (link : h.link = some l)
    (owned : h.ownership = .block .own ∨ h.ownership = .block .strong ∨
      h.ownership = .block .handle) :
    ∃ cell, m.memory.cell? l.cell = some cell ∧ cell.state ≠ none ∧ cell.state ≠ some .collect := by
  obtain ⟨cell, found, governed, -⟩ := books.found_of_seen seen link
  refine ⟨cell, found, ?_⟩
  rcases owned with owns | owns | owns
  · rw [show h.qualifier = .own from congrArg Ownership.qualifier owns] at governed
    have state : cell.state = some .own := governed
    simp [state]
  · rw [show h.qualifier = .strong from congrArg Ownership.qualifier owns] at governed
    obtain ⟨s, w, state⟩ : ∃ s w, cell.state = some (.strong s w) := governed
    simp [state]
  · rw [show h.qualifier = .handle from congrArg Ownership.qualifier owns] at governed
    obtain ⟨n, state⟩ : ∃ n, cell.state = some (.handle n) := governed
    simp [state]

/-- To give a block to another kind of owner is to give it a fresh state. -/
theorem state_retagged {h : Handle} {l : Link} {cell : Cell} (owner : BlockOwner)
    (link : h.link = some l) (found : m.memory.cell? l.cell = some cell) :
    (retagged h owner m).state = m.withState l.cell cell (.fresh owner) := by
  unfold retagged
  rw [link]
  show (retag l.cell owner m).state = _
  unfold Machine.retag onMemory Run.modify
  simp only [found]
  rfl

/-- No destructor was registered for what an owner has that is there to be let go of. -/
theorem retagged_ordinary {tasks : List Task} {h : Handle} (owner : BlockOwner)
    (books : m.Books tasks) (seen : m.Seen tasks h)
    (owned : h.ownership = .block .own ∨ h.ownership = .block .strong ∨
      h.ownership = .block .handle) : m.Ordinary (retagged h owner m).state := by
  cases link : h.link with
  | none =>
    unfold retagged
    rw [link]
    exact Ordinary.refl m
  | some l =>
    obtain ⟨cell, found, blocked, uncollected⟩ := found_of_retaggable books seen link owned
    rw [state_retagged owner link found]
    refine { Ordinary.refl m with subjects := fun c subject => ?_ }
    obtain ⟨other, there, unowned⟩ := subject
    have apart : c ≠ l.cell := by
      rintro rfl
      rw [found] at there
      cases there
      rcases unowned with ⟨none, -⟩ | collect
      · exact blocked none
      · exact uncollected collect
    refine ⟨other, ?_, unowned⟩
    rw [cell?_withState_of_ne _ _ _ apart]
    exact there

end Machine

section Housing

open Machine

variable {m n : Machine} {v : Value} {home : AllocatorId} {subject : CellId} {l : Layout}
  {offset : Nat} {state : Option BlockState} {ownership : Ownership} {d : Option Destructor}

/-- A value that is housed has a first owner who is on the books. -/
theorem Housing.books (housing : Housing v home subject l offset state ownership d) (t : Tally)
    (untouched : t.Untouched) : (t.placing.adding ownership.qualifier).Law state := by
  cases housing with
  | bare => exact untouched.bare
  | block owner found => exact untouched.fresh owner

/-- The only destructor that is registered for a cell to be is for the cell that comes next. -/
theorem Housing.fresh (housing : Housing v home subject l offset state ownership d) :
    d = none ∨ d = some ⟨offset, subject⟩ ∧ state = some .collect := by
  cases housing with
  | bare => exact .inl rfl
  | block owner found =>
    unfold blockDestructor
    by_cases collect : owner = .collect
    · rw [if_pos collect, collect]
      exact .inr ⟨rfl, rfl⟩
    · rw [if_neg collect]
      exact .inl rfl

/-- A value that is housed where it was asked for leaves the machine sound. -/
theorem Housing.sound {grant : Grant}
    (housing : Housing v home m.memory.cells.next l offset state ownership d) (sound : m.Sound)
    (asked : allocate home l d m = .returned (.ok grant) n) :
    (settleIn home grant l offset state v n).state.Sound := by
  have answered := allocate_sound sound home l d
  have same := allocate_sameCells home l d m
  rw [asked] at answered same
  have next : n.memory.cells.next = m.memory.cells.next := congrArg Slab.next same.1
  rcases housing.fresh with rfl | ⟨rfl, rfl⟩
  · have sound : n.Sound := answered nofun
    exact sound.ordinary (settleIn_ordinary home grant l offset state v n)
  · have sound : SoundBut (some m.memory.cells.next) n := answered (by rintro _ ⟨⟩; rfl)
    exact SoundBut.settleIn sound next home grant l offset v

end Housing

namespace Situation

open Machine

variable {may : Licence} {s t : Situation}

/-- What touches no cell and leaves the machine sound keeps the balance. -/
private theorem Balanced.aside {m n : Machine} {k : List Handle} (balanced : (rest m k).Balanced)
    (same : m.SameCells n) (stays : m.StaysSound n) : (rest n k).Balanced :=
  balanced_of_books (balanced.books.sameCells same) (stays balanced.sound)

/-- What an operation that returned left. -/
theorem of_returned {α : Type} {act : Run Machine α} {m n : Machine} {a : α}
    {R : Machine → Machine → Prop} (kept : act.Keeps R) (done : act m = .returned a n) : R m n := by
  have left := kept m
  rw [done] at left
  exact left

/-- Every step keeps the books balanced and the machine sound. -/
theorem Balanced.step (balanced : s.Balanced) (step : Step may s t) : t.Balanced := by
  cases step with
  | reordered same => exact balanced_of_books (balanced.books.perm (same.map _)) balanced.sound
  | emptyGained empty =>
    exact balanced_of_books ((Books.of_drop_isEmpty empty).2 balanced.books) balanced.sound
  | emptyLost empty =>
    exact balanced_of_books ((Books.of_drop_isEmpty empty).1 balanced.books) balanced.sound
  | aside same => exact balanced.aside same.sameCells same.ordinary.staysSound
  | @counted m n k more act way done =>
    have made := way.books balanced.books
    rw [done] at made
    exact balanced_of_books made
      (balanced.sound.ordinary (of_returned way.settled done).ordinary)
  | @uncounted m k act way failed =>
    obtain ⟨c, noted, -⟩ := way.failed balanced.books failed
    refine balanced_of_books ((balanced.books.miscounted c .overflow).undisturbed noted) ?_
    exact balanced.sound.ordinary (way.settled m).ordinary
  | redirected clonable owns cell =>
    refine balanced_of_books (Books.drop_congr balanced.books ?_ cell) balanced.sound
    exact congrArg Ownership.qualifier owns
  | @placed m n o k v home l offset state ownership d grant c housing asked put =>
    have sound := housing.sound balanced.sound asked
    have books := balanced.books.sameCells (of_returned (allocate_sameCells home l d) asked)
    rw [List.map_append] at books
    have settled := settleIn_books home grant l offset state ownership books housing.books
    rw [put] at sound settled
    exact balanced_of_books settled sound
  | @requested m n k home l grant asked =>
    have answered := allocate_sound balanced.sound home l none nofun
    rw [asked] at answered
    exact balanced.aside (of_returned (allocate_sameCells home l none) asked) fun _ => answered
  | @refused m n k home l d e fresh asked =>
    have answered := allocate_sound balanced.sound home l d fresh
    rw [asked] at answered
    exact balanced.aside (of_returned (allocate_sameCells home l d) asked) fun _ => answered
  | @registered m n k v home l offset grant asked =>
    have answered := allocate_sound balanced.sound home l (some ⟨offset, m.memory.cells.next⟩)
      (by rintro _ ⟨⟩; rfl)
    have same := of_returned (allocate_sameCells home l _) asked
    rw [asked] at answered
    have books := balanced.books.sameCells same
    rw [List.map_append] at books
    have next : n.memory.cells.next = m.memory.cells.next := congrArg Slab.next same.1
    have never := books.placed_next
    rw [next] at never
    exact balanced_of_books (tagged_books v home l offset grant books)
      (tagged_sound answered next never v home l offset grant)
  | @retagged m n k h g owner way done =>
    have seen : m.Seen ((h :: k).map .drop) h := seen_of_mem (List.mem_cons_self ..)
    cases way with
    | share owns shared =>
      obtain ⟨n', made, books⟩ := share_books owns shared balanced.books
      have sound := balanced.sound.ordinary
        (retagged_ordinary owner balanced.books seen (.inl owns))
      rw [made] at done sound
      cases done
      exact balanced_of_books books sound
    | unshare shared alone =>
      obtain ⟨n', made, books⟩ := unshare_books shared alone balanced.books
      have sound := balanced.sound.ordinary
        (retagged_ordinary .own balanced.books seen (.inr shared))
      rw [made] at done sound
      cases done
      exact balanced_of_books books sound
  | @rewritten m k k' c cell v found moved =>
    have changed : (m.rewritten c cell v).Books (k'.map .drop) := by
      refine setValue_books found v balanced.books (fun q d => ?_) (fun d => ?_) fun d => ?_
      · have same := refs_perm q d moved
        rw [refs_append, refs_append] at same
        rw [Task.refs_map_drop, Task.refs_map_drop]
        omega
      · rw [Task.leaving_map_drop, Task.leaving_map_drop]
      · rw [Task.returning_map_drop, Task.returning_map_drop]
    refine balanced_of_books changed (balanced.sound.ordinary ?_)
    exact setValue_ordinary found v
  | @movedOut m k h link cell home l refers found returns =>
    have books := returns.books refers found balanced.books
    refine ⟨balanced.sound.ordinary (setValue_ordinary found _), ?_, fun _ _ _ _ => rfl⟩
    show (m.vacated link.cell cell).Books
      ([.giveBack home l link.cell] ++ [] ++ (cell.value.handles ++ k).map .drop)
    rw [List.map_append]
    exact books
  | letGo h => exact ⟨balanced.sound, balanced.books, fun _ _ _ _ => rfl⟩
  | @destroyed m k v =>
    have books := balanced.books
    rw [List.map_append] at books
    refine ⟨balanced.sound, ?_, orderly_plan m v⟩
    show m.Books (v.plan ++ [] ++ k.map .drop)
    rw [List.append_nil]
    exact Books.of_plan.2 books
  | settling step =>
    exact ⟨balanced.sound.ordinary step.settled.ordinary, balanced.balanced.step step⟩
  | left => exact ⟨balanced.sound, balanced.balanced.books, fun _ _ _ _ => rfl⟩
  | heapMade done =>
    exact balanced.aside (of_returned makeHeap_sameCells done)
      (of_returned makeHeap_ordinary done).staysSound
  | arenaMade done =>
    exact balanced.aside (of_returned (makeArena_sameCells _ _) done)
      (of_returned (makeArena_staysSound _ _) done)
  | listTaken there =>
    exact balanced.aside ⟨rfl, rfl⟩ fun sound => (listTaken_running sound there).sound
  | @destructorRun m n k id r others tasks running next =>
    obtain ⟨v, o, began, books⟩ := beginDestructor_books running balanced.books
    have sound := (runNoted_sound running).ordinary
      (of_returned (beginDestruction_settled r.destructor.subject) next).ordinary
    rw [next] at began
    cases began
    refine ⟨sound, ?_, orderly_plan n v⟩
    show n.Books (v.plan ++ [] ++ k.map .drop)
    rw [List.append_nil]
    exact books
  | @chunksReturned m n k id a there taken done =>
    refine balanced.aside (of_returned (releaseChunks_sameCells id a) done) fun sound => ?_
    obtain ⟨n', released, sound⟩ := releaseChunks_sound sound there taken
    rw [done] at released
    cases released
    exact sound
  | writtenOff there began =>
    exact balanced.aside ⟨rfl, rfl⟩ fun sound => writtenOff_sound sound there began
  | forgotten done =>
    exact balanced.aside (of_returned (forgetAllocator_sameCells _) done)
      (of_returned (forgetAllocator_ordinary _) done).staysSound
  | deallocated allowed done =>
    exact balanced.aside (of_returned (deallocate_sameCells _ _ _) done)
      (of_returned (deallocate_settled _ _ _) done).ordinary.staysSound
  | retired allowed done =>
    exact balanced.aside (of_returned (retire_sameCells _ _ _) done)
      (of_returned (retire_settled _ _ _) done).ordinary.staysSound

/-- Whatever a balanced program gets to is balanced. -/
theorem Balanced.leads (balanced : s.Balanced) (leads : Leads may s t) : t.Balanced := by
  induction leads with
  | refl => exact balanced
  | tail _ step ih => exact ih.step step

end Situation

end Custody
