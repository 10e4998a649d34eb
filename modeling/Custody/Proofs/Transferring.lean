import Custody.Proofs.Creating
import Custody.Proofs.Tags
import Mathlib.Logic.Function.Iterate

/-!
# Values that move to other storage

A unique owner has no control block, every other owner has one, so a value that goes from one to the
other moves. It is moved out first, and its storage goes back at once (`Machine.Withdrawn`). Then an
owner is created where the value was, as for any other value: with storage it is made, and the value
is the same (`Machine.Transferred`), and without storage the value is destroyed and a fault raised,
as `Machine.Refused` says.

The counters of the allocator go up by one deallocation and one allocation. So what is live stays
the same, unless the new owner collects or a counter wraps round.

From one conversion to many: a value that goes back and forth between a unique owner and an owner of
its own block is the same after any number of conversions, as long as there is storage
(`Machine.WentAbout`), by induction on how often it goes.
-/

namespace Custody

/-- The conversions that move the value of a sole owner to other storage. -/
inductive Moves : Ownership → Owner → Prop
  | own (home : AllocatorId) : Moves (.unique home) (.block .own)
  | discard (home : AllocatorId) : Moves (.unique home) (.block .discard)
  | collect (home : AllocatorId) : Moves (.unique home) (.block .collect)
  | unique : Moves (.block .own) .unique

/-- The other of the two qualifiers between which a value can go back and forth. -/
def Qualifier.opposite : Qualifier → Qualifier
  | unique => own
  | _ => unique

/-- The owner of the other qualifier. -/
def Handle.opposite (h : Handle) : Owner :=
  match h.ownership with
  | .unique _ => .block .own
  | _ => .unique

theorem Moves.opposite {h : Handle} {owner : Owner} (moves : Moves h.ownership owner) :
    Moves h.ownership h.opposite := by
  unfold Handle.opposite
  generalize h.ownership = o at moves
  cases moves with
  | unique => exact .unique
  | own home | discard home | collect home => exact .own home

/-- Counters none of which is at the end of its range. -/
def Ledger.CountsOn (l : Ledger) : Prop :=
  l.allocations.toNat < Word.greatest ∧ l.deallocations.toNat < Word.greatest ∧
    l.collected.toNat < Word.greatest

/-- What is given back and asked for again is as live as before, unless it is to be collected. -/
theorem Ledger.toNat_live_again {l : Ledger} (counts : l.CountsOn) (size : Nat) (collected : Bool) :
    (l.deallocate.allocate size collected).live.toNat =
      l.live.toNat - if collected then 1 else 0 := by
  obtain ⟨allocations, deallocations, collections⟩ := counts
  have next (w : Word) (bound : w.toNat < Word.greatest) : (w + 1).toNat = w.toNat + 1 := by
    rw [UInt64.toNat_add]
    exact Nat.mod_eq_of_lt (Nat.succ_lt_succ bound)
  rw [toNat_live, toNat_live]
  show (l.allocations + 1).toNat - ((l.deallocations + 1).toNat + l.retirements.toNat +
    (if collected then l.collected + 1 else l.collected).toNat + l.abandoned.toNat) = _
  rw [next _ allocations, next _ deallocations]
  cases collected with
  | true =>
    rw [if_pos rfl, if_pos rfl, next _ collections]
    omega
  | false =>
    rw [if_neg Bool.false_ne_true, if_neg Bool.false_ne_true]
    omega

theorem Allocator.name_deallocate (a : Allocator) : a.deallocate.name = a.name := by
  cases a <;> rfl

theorem Allocator.ledger_deallocate (a : Allocator) :
    a.deallocate.ledger = a.ledger.deallocate := by
  cases a <;> rfl

namespace Machine

variable {m n w : Machine} {h : Handle} {owner : Owner} {home : AllocatorId} {a : Allocator}
  {v : Value} {c : CellId} {cell : Cell} {l : Layout}

/-! ## Moving out -/

/-- A handle refers to a cell with a value, in storage of an allocator. -/
structure Holds (m : Machine) (h : Handle) (home : AllocatorId) (v : Value) : Prop where
  refers : ∃ link cell, h.link = some link ∧ m.memory.cell? link.cell = some cell ∧ cell.value = v
  home : h.home? m.memory = some home

/-- The machine in which the value in a cell was moved out and its storage given back. -/
def movedOut (m : Machine) (c : CellId) (cell : Cell) (home : AllocatorId) (l : Layout) :
    Machine where
  process := m.process.having
    [.storage (.deallocated home cell.base l), .storage (.handedBack c)] m.process.thread.panics
  memory := (m.vacated c cell).memory.deallocate home cell.base l

theorem cell?_movedOut (m : Machine) (c : CellId) (cell : Cell) (home : AllocatorId) (l : Layout)
    (d : CellId) :
    (m.movedOut c cell home l).memory.cell? d = (m.vacated c cell).memory.cell? d := by
  show ((m.vacated c cell).memory.deallocate home cell.base l).cells.get? d = _
  rw [Memory.cells_deallocate]
  rfl

theorem settle_giveBack (found : m.memory.cell? c = some cell) (home : AllocatorId) (l : Layout) :
    settle [.giveBack home l c] (m.vacated c cell) = .returned () (m.movedOut c cell home l) := by
  have start : ((m.vacated c cell).memory.cell? c).elim 0 (·.base) = cell.base := by
    rw [cell?_vacated_self found]
    rfl
  have advanced : (Task.giveBack home l c).advance (m.vacated c cell) =
      .returned [] (m.movedOut c cell home l) := by
    unfold movedOut
    rw [← start]
    rfl
  rw [settle, drain_cons_returned advanced]
  exact drain_nil_nil _

/-- A sole owner whose value can be moved knows how its storage goes back. -/
theorem Holds.returns (holds : m.Holds h home v) (moves : Moves h.ownership owner) :
    ∃ link cell l, h.link = some link ∧ m.memory.cell? link.cell = some cell ∧ cell.value = v ∧
      Returns h cell home l := by
  obtain ⟨⟨link, cell, refers, found, value⟩, at_home⟩ := holds
  refine ⟨link, cell, ?_⟩
  unfold Handle.home? at at_home
  generalize owns : h.ownership = o at moves at_home
  cases moves with
  | unique =>
    rw [refers] at at_home
    have at_home : (m.memory.cell? link.cell).bind (·.home) = some home := at_home
    rw [found] at at_home
    exact ⟨_, refers, found, value, .block owns at_home⟩
  | own _ | discard _ | collect _ =>
    cases at_home
    exact ⟨_, refers, found, value, .bare owns⟩

/-- What is left when a value was moved out. -/
structure Withdrawn (m : Machine) (h : Handle) (home : AllocatorId) (a : Allocator) (v : Value)
    (w : Machine) : Prop where
  /-- The value lies in its cell no more. -/
  left : ∃ link cell, h.link = some link ∧ w.memory.cell? link.cell = some cell ∧
    cell.value = v.remains
  cells : ∀ c, (∀ link, h.link = some link → c ≠ link.cell) → w.memory.cell? c = m.memory.cell? c
  /-- The allocator counts that its storage was given back. -/
  allocator : w.memory.allocator? home = some a.deallocate
  allocators : ∀ id, id ≠ home → w.memory.allocator? id = m.memory.allocator? id
  process : ∃ c base l, w.process = m.process.having
    [.storage (.deallocated home base l), .storage (.handedBack c)] m.process.thread.panics

/-- A value that can be moved is moved out, and no destructor runs. -/
theorem Holds.moveOut (holds : m.Holds h home v) (moves : Moves h.ownership owner)
    (there : m.memory.allocator? home = some a) :
    ∃ w, moveOut h m = .returned (some v) w ∧ m.Withdrawn h home a v w := by
  obtain ⟨link, cell, l, refers, found, rfl, returns⟩ := holds.returns moves
  refine ⟨_, moveOut_of_returns refers found returns (settle_giveBack found home l),
    ⟨link, _, refers, (cell?_movedOut ..).trans (cell?_vacated_self found), rfl⟩,
    fun c other => ?_, ?_, fun id ne => ?_, ⟨link.cell, cell.base, l, rfl⟩⟩
  · rw [cell?_movedOut]
    exact Memory.cell?_setCell_of_ne m.memory _ (other link refers)
  · show ((m.vacated link.cell cell).memory.changeAllocator home _).allocator? home = _
    rw [Memory.allocator?_changeAllocator_self]
    show (m.memory.allocator? home).map _ = _
    rw [there]
    rfl
  · show ((m.vacated link.cell cell).memory.changeAllocator home _).allocator? id = _
    rw [Memory.allocator?_changeAllocator_of_ne _ _ ne]
    rfl

/-- A value that was moved out left its cell, and its storage went back. -/
theorem Holds.withdrawn (holds : m.Holds h home v) (moves : Moves h.ownership owner)
    (there : m.memory.allocator? home = some a)
    (moved : Machine.moveOut h m = .returned (some v) w) : m.Withdrawn h home a v w := by
  obtain ⟨w', moved', gone⟩ := holds.moveOut moves there
  cases moved.symm.trans moved'
  exact gone

/-! ## Moving -/

/-- The conversion that moves the value of a handle to an owner. -/
def transfer (owner : Owner) (h : Handle) : Run Machine Handle :=
  match owner with
  | .unique => intoUnique h
  | .block o => fromUnique o h

theorem convert_of_moves (moves : Moves h.ownership owner) :
    convert h owner = some (transfer owner h) := by
  unfold convert
  generalize h.ownership = o at moves
  cases moves <;> rfl

/-- A handle that refers to nothing becomes one that refers to nothing, and that is all. -/
theorem transfer_of_isEmpty (moves : Moves h.ownership owner) (empty : h.isEmpty = true)
    (m : Machine) : ∃ o, transfer owner h m = .returned (.empty o h.kind) m ∧
      o.qualifier = owner.qualifier := by
  have refers : h.link = none := Option.isNone_iff_eq_none.1 empty
  have nothing : Machine.moveOut h m = .returned none m := by
    unfold Machine.moveOut
    rw [refers]
    rfl
  generalize owns : h.ownership = o at moves
  cases moves with
  | unique =>
    refine ⟨.unique systemAllocator, ?_, rfl⟩
    show intoUnique h m = _
    have homeless : h.home? m.memory = none := by
      unfold Handle.home?
      rw [owns, refers]
      rfl
    unfold intoUnique
    rw [Run.bind_apply]
    dsimp only [Run.get, Outcome.andThen]
    rw [homeless]
    rfl
  | own _ | discard _ | collect _ =>
    refine ⟨.block _, ?_, rfl⟩
    show (Machine.moveOut h m).andThen _ = _
    rw [nothing]
    rfl

/-- To move a value is to move it out and to create an owner of it, where it was. -/
theorem transfer_of_moveOut (moves : Moves h.ownership owner) (holds : m.Holds h home v)
    (moved : Machine.moveOut h m = .returned (some v) w) :
    transfer owner h m = create owner home v w := by
  have at_home := holds.home
  generalize owns : h.ownership = o at moves
  cases moves with
  | unique =>
    show intoUnique h m = _
    unfold intoUnique
    rw [Run.bind_apply]
    dsimp only [Run.get, Outcome.andThen]
    rw [at_home]
    show (Machine.moveOut h m).andThen _ = _
    rw [moved]
    rfl
  | own _ | discard _ | collect _ =>
    show (Machine.moveOut h m).andThen (fun v? => _) = _
    rw [moved, at_home]
    rfl

/-- What there is when a value has moved to other storage. -/
structure Transferred (m : Machine) (h : Handle) (owner : Owner) (home : AllocatorId)
    (a : Allocator) (v : Value) (g : Handle) (u : Machine) : Prop where
  owns : g.ownership = owner.ownership home
  holds : u.Holds g home v
  /-- The value is no longer where it was, and no other value has changed. -/
  left : ∃ link cell, h.link = some link ∧ u.memory.cell? link.cell = some cell ∧
    cell.value = v.remains
  others : ∀ c cell, (∀ link, h.link = some link → c ≠ link.cell) → m.memory.cell? c = some cell →
    u.memory.cell? c = some cell
  /-- The value is where none was. -/
  fresh : ∀ link, g.link = some link → m.memory.cell? link.cell = none
  /-- The allocator counts that storage was given back and that storage was asked for. What it shows
  as live is the same, or one less if the value is to be collected. -/
  allocator : ∃ l b, owner.layout? v.kind = some l ∧ u.memory.allocator? home = some b ∧
    b.ledger = a.ledger.deallocate.allocate l.size owner.isCollecting ∧
      (a.ledger.CountsOn →
        b.ledger.live.toNat = a.ledger.live.toNat - if owner.isCollecting then 1 else 0)
  allocators : ∀ id, id ≠ home → u.memory.allocator? id = m.memory.allocator? id
  quiet : m.DestroysNothing u

/-- The owner that was made of a value holds it. -/
theorem Made.holds {g : Handle} {u : Machine} (made : m.Made owner home a v g u) :
    u.Holds g home v := by
  obtain ⟨cell, found, value, homes, -⟩ := made.cell
  refine ⟨⟨_, cell, by rw [made.handle]; rfl, found, value⟩, ?_⟩
  rw [made.handle]
  cases owner with
  | unique => rfl
  | block o =>
    show (u.memory.cell? m.memory.cells.next).bind (·.home) = _
    rw [found]
    exact homes

theorem Withdrawn.transferred {g : Handle} {u : Machine} (gone : m.Withdrawn h home a v w)
    (made : w.Made owner home a.deallocate v g u) : m.Transferred h owner home a v g u := by
  have old {c : CellId} {cell : Cell} (found : w.memory.cell? c = some cell) :
      u.memory.cell? c = some cell :=
    (made.cells c (Nat.ne_of_lt (Slab.lt_next_of_get? found))).trans found
  obtain ⟨link, cell, refers, found, remains⟩ := gone.left
  obtain ⟨l, b, layout, there, counted⟩ := made.allocator
  obtain ⟨c, base, returned, process⟩ := gone.process
  have handed : m.DestroysNothing w :=
    ⟨_, process, List.forall_mem_cons.2 ⟨rfl, List.forall_mem_singleton.2 rfl⟩⟩
  rw [Allocator.ledger_deallocate] at counted
  refine ⟨?_, made.holds, ⟨link, cell, refers, old found, remains⟩,
    fun c cell other found => old ((gone.cells c other).trans found), ?_,
    ⟨l, b, layout, there, counted, fun counts => ?_⟩,
    fun id ne => (made.allocators id ne).trans (gone.allocators id ne), handed.trans made.quiet⟩
  · rw [made.handle]
    rfl
  · rw [made.handle]
    rintro _ ⟨⟩
    have vacant : w.memory.cell? w.memory.cells.next = none :=
      Slab.get?_eq_none_of_next_le (Nat.le_refl _)
    refine (gone.cells _ fun link' refers' same => ?_).symm.trans vacant
    cases refers.symm.trans refers'
    have same : w.memory.cells.next = link.cell := same
    rw [same, found] at vacant
    cases vacant
  · rw [counted]
    exact Ledger.toNat_live_again counts _ _

/-- A value that is moved has another owner, or there is no storage for it, and then it is destroyed
as any value that no owner is made of. -/
theorem transfer_ends (moves : Moves h.ownership owner) (holds : m.Holds h home v)
    (there : m.memory.allocator? home = some a) :
    ∃ w, Machine.moveOut h m = .returned (some v) w ∧ m.Withdrawn h home a v w ∧
      ((∃ g u, transfer owner h m = .returned g u ∧ m.Transferred h owner home a v g u) ∨
        ∃ e, tryCreate owner home v w =
            ((dropValue v w).andThen fun _ n => .returned (.error e) n) ∧
          transfer owner h m = refuse owner home v e w) := by
  obtain ⟨w, moved, gone⟩ := holds.moveOut moves there
  refine ⟨w, moved, gone, ?_⟩
  rw [transfer_of_moveOut moves holds moved]
  rcases tryCreate_ends gone.allocator owner v with ⟨g, u, -, created, made⟩ | ⟨e, tried, created⟩
  · exact .inl ⟨g, u, created, gone.transferred made⟩
  · exact .inr ⟨e, tried, created⟩

/-! ## Back and forth -/

/-- Have the value of a sole owner go back and forth, so many times. -/
def backAndForth : Nat → Handle → Run Machine Handle
  | 0, h => return h
  | k + 1, h => do backAndForth k (← transfer h.opposite h)

/-- What there is when a value went back and forth. -/
structure WentAbout (m : Machine) (k : Nat) (h : Handle) (home : AllocatorId) (a : Allocator)
    (v : Value) (g : Handle) (u : Machine) : Prop where
  qualifier : g.qualifier = Qualifier.opposite^[k] h.qualifier
  moves : Moves g.ownership g.opposite
  holds : u.Holds g home v
  others : ∀ c cell, (∀ link, h.link = some link → c ≠ link.cell) → m.memory.cell? c = some cell →
    u.memory.cell? c = some cell
  allocator : ∃ b bytes, u.memory.allocator? home = some b ∧ b.ledger =
    { a.ledger with
      allocations := a.ledger.allocations + UInt64.ofNat k
      deallocations := a.ledger.deallocations + UInt64.ofNat k
      bytes := bytes }
  quiet : m.DestroysNothing u

theorem WentAbout.refl (moves : Moves h.ownership owner) (holds : m.Holds h home v)
    (there : m.memory.allocator? home = some a) : m.WentAbout 0 h home a v h m := by
  refine ⟨rfl, moves.opposite, holds, fun c cell _ found => found,
    ⟨a, a.ledger.bytes, there, ?_⟩, .refl m⟩
  simp

/-- A handle that was had of moving a value goes on to the other side. -/
theorem Transferred.moves {g : Handle} {u : Machine} (moves : Moves h.ownership owner)
    (moved : m.Transferred h h.opposite home a v g u) :
    g.qualifier = h.qualifier.opposite ∧ Moves g.ownership g.opposite := by
  have owns := moved.owns
  unfold Handle.opposite Handle.qualifier at *
  rw [owns]
  generalize h.ownership = o at moves
  cases moves with
  | unique => exact ⟨rfl, .own home⟩
  | own _ | discard _ | collect _ => exact ⟨rfl, .unique⟩

/-- Once, and then so many times. -/
theorem Transferred.wentAbout {k : Nat} {g f : Handle} {u t : Machine} {b : Allocator}
    (moves : Moves h.ownership owner) (moved : m.Transferred h h.opposite home a v g u)
    (there : u.memory.allocator? home = some b) (went : u.WentAbout k g home b v f t) :
    m.WentAbout (k + 1) h home a v f t := by
  obtain ⟨qualifier, -⟩ := moved.moves moves
  obtain ⟨l, b', -, there', counted, -⟩ := moved.allocator
  cases there.symm.trans there'
  obtain ⟨b', bytes, last, counted'⟩ := went.allocator
  have never : h.opposite.isCollecting = false := by
    unfold Handle.opposite
    cases h.ownership <;> rfl
  have sum (w : Word) : w + 1 + UInt64.ofNat k = w + UInt64.ofNat (k + 1) := by
    rw [UInt64.add_assoc, UInt64.ofNat_add, UInt64.add_comm (UInt64.ofNat k)]
    rfl
  refine ⟨?_, went.moves, went.holds, fun c cell other found => ?_, ⟨b', bytes, last, ?_⟩,
    moved.quiet.trans went.quiet⟩
  · rw [went.qualifier, qualifier, Function.iterate_succ_apply]
  · refine went.others c cell (fun link refers same => ?_) (moved.others c cell other found)
    have vacant := moved.fresh link refers
    rw [← same, found] at vacant
    cases vacant
  · rw [counted', counted, never]
    simp only [Ledger.allocate, Ledger.deallocate, sum]
    rfl

/-- However often a value goes back and forth, it is preserved, as long as there is storage. -/
theorem backAndForth_ends (moves : Moves h.ownership owner) (holds : m.Holds h home v)
    (there : m.memory.allocator? home = some a) (k : Nat) :
    (∃ g u, backAndForth k h m = .returned g u ∧ m.WentAbout k h home a v g u) ∨
      ∃ j < k, ∃ g u e w, backAndForth j h m = .returned g u ∧ m.WentAbout j h home a v g u ∧
        Machine.moveOut g u = .returned (some v) w ∧
        tryCreate g.opposite home v w =
          ((dropValue v w).andThen fun _ n => .returned (.error e) n) ∧
        backAndForth k h m = (refuse g.opposite home v e w) := by
  induction k generalizing h owner m a with
  | zero => exact .inl ⟨h, m, rfl, .refl moves holds there⟩
  | succ k ih =>
    obtain ⟨w, left, -, ⟨g, u, returned, moved⟩ | ⟨e, tried, refused⟩⟩ :=
      transfer_ends moves.opposite holds there
    · obtain ⟨-, b, -, there', -⟩ := moved.allocator
      have first (k : Nat) : backAndForth (k + 1) h m = backAndForth k g u := by
        show (transfer h.opposite h m).andThen _ = _
        rw [returned]
        rfl
      rcases ih (moved.moves moves).2 moved.holds there' with
        ⟨f, t, done, went⟩ | ⟨j, less, f, t, e, w, done, went, left, tried, refused⟩
      · exact .inl ⟨f, t, (first k).trans done, moved.wentAbout moves there' went⟩
      · exact .inr ⟨j + 1, Nat.succ_lt_succ less, f, t, e, w, (first j).trans done,
          moved.wentAbout moves there' went, left, tried, (first k).trans refused⟩
    · refine .inr ⟨0, Nat.succ_pos k, h, m, e, w, rfl, .refl moves holds there, left, tried, ?_⟩
      show (transfer h.opposite h m).andThen _ = _
      rw [refused]
      exact Outcome.andThen_of_not_returns (refuse_not_returns ..) _

end Machine

namespace Moment

open Machine

variable {t : Moment} {h : Handle} {owner : Owner}

/-- At every moment that the books balance, a sole owner that is not empty holds a value. -/
theorem Has.holds (has : t.Has h) (balanced : t.Balanced)
    (moves : Moves h.ownership owner) (full : h.isEmpty = false) :
    ∃ home v, t.client.machine.Holds h home v := by
  have books : t.client.machine.Books (t.pending ++ t.client.duties) := balanced.balanced.books
  obtain ⟨link, refers⟩ := Option.isSome_iff_exists.1 (show h.link.isSome = true by
    rw [← Option.not_isNone, show h.link.isNone = false from full]
    rfl)
  obtain ⟨cell, found, governed, homed, -⟩ := books.found_of_seen has.seen refers
  have holds {home : AllocatorId} (at_home : h.home? t.client.machine.memory = some home) :
      t.client.machine.Holds h home cell.value := ⟨⟨link, cell, refers, found, rfl⟩, at_home⟩
  unfold Handle.home? at holds
  unfold Handle.qualifier at governed
  generalize h.ownership = o at moves holds governed
  cases moves with
  | own home | discard home | collect home => exact ⟨home, _, holds rfl⟩
  | unique =>
    have state : cell.state = some .own := governed
    obtain ⟨home, homes⟩ := Option.isSome_iff_exists.1 (homed (by rw [state]; rfl))
    refine ⟨home, _, holds ?_⟩
    rw [refers]
    show (t.client.machine.memory.cell? link.cell).bind (·.home) = some home
    rw [found]
    exact homes

end Moment

namespace Machine

variable {m n w : Machine} {h : Handle} {owner : Owner} {home : AllocatorId} {a : Allocator}
  {v : Value} {c : CellId} {cell : Cell}

/-! ## What conversions do -/

/-- What becomes of a value that is moved to an owner, where moving it out leads from one machine to
a second and the value's destruction from there to a third. -/
structure Transfers (m : Machine) (h : Handle) (owner : Owner) (home : AllocatorId) (a : Allocator)
    (v : Value) (w n : Machine) : Prop where
  moved : Machine.moveOut h m = .returned (some v) w
  withdrawn : m.Withdrawn h home a v w
  destroyed : dropValue v w = .returned () n
  /-- The value has its owner, or it was destroyed once and a fault was raised. -/
  ends : (∃ g u, transfer owner h m = .returned g u ∧ m.Transferred h owner home a v g u) ∨
    ∃ e, Refused owner home a.deallocate v e w n ∧
      Insists owner (e.toFault a.name) w n (transfer owner h m)

/-- Conversions that move a value to other storage neither lose nor duplicate it. -/
theorem convert_transfers (moves : Moves h.ownership owner) :
    convert h owner = some (transfer owner h) ∧
      (h.isEmpty = true → ∀ m, ∃ o, transfer owner h m = .returned (.empty o h.kind) m ∧
        o.qualifier = owner.qualifier) ∧
      (∀ p t, Client.Reached (Client.start p) t → t.Has h → h.isEmpty = false →
        ∃ home v, t.client.machine.Holds h home v) ∧
      ∀ m home a v, m.Holds h home v → m.memory.allocator? home = some a →
        (m.process.isUnwinding = false →
          m.process.activeConfig.diagnostics.abortOnFatal = false →
          (∀ w, Machine.moveOut h m = .returned (some v) w → ∃ n, dropValue v w = .returned () n) →
            ∃ w n, m.Transfers h owner home a v w n) ∧
        ∀ k, (∃ g u, backAndForth k h m = .returned g u ∧ m.WentAbout k h home a v g u) ∨
          ∃ j < k, ∃ g u e w, backAndForth j h m = .returned g u ∧
            m.WentAbout j h home a v g u ∧ Machine.moveOut g u = .returned (some v) w ∧
            tryCreate g.opposite home v w =
              ((dropValue v w).andThen fun _ n => .returned (.error e) n) ∧
            backAndForth k h m = refuse g.opposite home v e w := by
  refine ⟨convert_of_moves moves, fun empty => transfer_of_isEmpty moves empty,
    fun p t reached has full => has.holds (reached.balanced (Client.start_balanced p)) moves full,
    fun m home a v holds there =>
      ⟨fun calm unwinds spared => ?_, backAndForth_ends moves holds there⟩⟩
  obtain ⟨w, moved, gone, ends⟩ := transfer_ends moves holds there
  obtain ⟨n, destroyed⟩ := spared w moved
  refine ⟨w, n, moved, gone, destroyed, ends.imp_right ?_⟩
  rintro ⟨e, tried, refused⟩
  have created := transfer_of_moveOut moves holds moved
  obtain ⟨c, base, l, process⟩ := gone.process
  have refused : Refused owner home a.deallocate v e w n := by
    refine refused_of_error gone.allocator ?_ ?_ destroyed tried (created.symm.trans refused)
    · rw [process]
      exact calm
    · rw [process]
      exact unwinds
  refine ⟨e, refused, ?_⟩
  rw [created, ← a.name_deallocate]
  exact refused.insists

/-- An arena is full, and a value in it, which needs more room behind a control block, owns another
one there. The other goes with the value. -/
theorem exists_overcrowded : ∃ ops c h v a w n,
    Client.run ops (Client.start {}) = .returned () c ∧ h ∈ c.held ∧
      h.ownership = .unique 1 ∧ c.machine.Holds h 1 v ∧ c.machine.memory.allocator? 1 = some a ∧
      c.machine.process.isUnwinding = false ∧
      c.machine.process.activeConfig.diagnostics.abortOnFatal = false ∧
      Machine.moveOut h c.machine = .returned (some v) w ∧ dropValue v w = .returned () n ∧
      tryCreate (.block .own) 1 v w = .returned (.error (.outOfMemory 160 8)) n ∧
      n.memory.allocator? 1 = some (a.deallocate.repaid 1 0) ∧ a.ledger.deallocations = 0 := by
  let owned : Handle := .whole (.block .strong) .node 1
  let h : Handle := .whole (.unique 1) .node 0
  let v : Value := .node "outer" owned Value.noBack
  let ops : List Operation :=
    [.makeArena (some "full") { chunkSize := 256, maxSize := 256 },
      .create .unique 1 (.node "" Value.noNext Value.noBack) false,
      .create (.block .strong) 1 (.node "inner" Value.noNext Value.noBack) false, .exchange 0 v]
  have done := Outcome.eq_returned (o := Client.run ops (Client.start {})) (by decide +kernel)
  generalize ended : (Client.run ops (Client.start {})).state = c at done
  have checked : h ∈ c.held ∧ c.machine.process.isUnwinding = false ∧
      c.machine.process.activeConfig.diagnostics.abortOnFatal = false ∧
        ((c.machine.memory.allocator? 1).bind fun a => (c.machine.memory.cell? 0).bind fun cell =>
          let w := c.machine.movedOut 0 cell 1 h.kind.layout
          (drained 20 v.plan [] w).map fun o => decide (cell.value = v ∧
            a.deallocate.allocate w.memory.heap.grant? (.small 160 3) none =
              (.error (.outOfMemory 160 8), a.deallocate) ∧ o.returns = true ∧
            o.state.memory.allocator? 1 = some (a.deallocate.repaid 1 0) ∧
              a.ledger.deallocations = 0)) = some true := by
    rw [← ended]
    decide +kernel
  obtain ⟨held, calm, unwinds, checked⟩ := checked
  obtain ⟨a, there, checked⟩ := Option.bind_eq_some_iff.1 checked
  obtain ⟨cell, found, checked⟩ := Option.bind_eq_some_iff.1 checked
  obtain ⟨o, settled, checked⟩ := Option.map_eq_some_iff.1 checked
  obtain ⟨value, asked, returns, repaid, none⟩ := of_decide_eq_true checked
  have moved := moveOut_of_returns (h := h) rfl found (.bare rfl)
    (settle_giveBack found 1 h.kind.layout)
  rw [value] at moved
  have holds : c.machine.Holds h 1 v := ⟨⟨_, cell, rfl, found, value⟩, rfl⟩
  have gone := holds.withdrawn (.own 1) there moved
  have layout : v.kind.layout.block? = some (.small 160 3) := by decide +kernel
  obtain ⟨destroyed, tried⟩ :=
    tryCreate_of_drained .own gone.allocator layout asked settled returns
  exact ⟨ops, c, h, v, a, _, o.state, done, held, rfl, holds, there, calm, unwinds, moved,
    destroyed, tried, repaid, none⟩

/-- A value that storage is found for behind a control block has moved. -/
theorem transfer_of_granted (o : BlockOwner) {l : Layout} {grant : Grant}
    (moves : Moves h.ownership (.block o)) (holds : m.Holds h home v)
    (there : m.memory.allocator? home = some a)
    (moved : Machine.moveOut h m = .returned (some v) w)
    (layout : v.kind.layout.block? = some l)
    (asked : (a.deallocate.allocate w.memory.heap.grant? l
      (blockDestructor o v.kind.layout.valueOffset w.memory.cells.next)).1 = .ok grant) :
    ∃ g u, transfer (.block o) h m = .returned g u ∧ m.Transferred h (.block o) home a v g u := by
  have gone := holds.withdrawn moves there moved
  obtain ⟨u, served, granted⟩ := allocate_of_granted gone.allocator (Prod.ext asked rfl)
  obtain ⟨g, u, tried, made⟩ := tryCreateBlock_of_granted o layout served granted
  exact ⟨g, u, (transfer_of_moveOut moves holds moved).trans (create_of_made tried),
    gone.transferred made⟩

/-- A conversion fails in a full arena, and another one finds storage on the heap. -/
theorem exists_convert_transfers :
    (∃ ops c h v a w n, Client.run ops (Client.start {}) = .returned () c ∧ h ∈ c.held ∧
      c.machine.Transfers h (.block .own) 1 a v w n ∧
        Refused (.block .own) 1 a.deallocate v (.outOfMemory 160 8) w n) ∧
      ∃ ops c h a g u, Client.run ops (Client.start {}) = .returned () c ∧ h ∈ c.held ∧
        transfer (.block .own) h c.machine = .returned g u ∧
          c.machine.Transferred h (.block .own) systemAllocator a (.num 1) g u := by
  constructor
  · obtain ⟨ops, c, h, v, a, w, n, done, held, owns, holds, there, calm, unwinds, moved, destroyed,
      tried, -, -⟩ := exists_overcrowded
    have moves : Moves h.ownership (.block .own) := owns ▸ .own 1
    obtain ⟨-, -, -, transfers⟩ := convert_transfers moves
    obtain ⟨w', n', transfers⟩ := (transfers _ _ _ _ holds there).1 calm unwinds fun w' moved' => by
      cases moved.symm.trans moved'
      exact ⟨n, destroyed⟩
    cases moved.symm.trans transfers.moved
    cases destroyed.symm.trans transfers.destroyed
    refine ⟨ops, c, h, v, a, w, n, done, held, transfers, ?_⟩
    rcases transfers.ends with ⟨g, u, returned, -⟩ | ⟨e, refused, -⟩
    · have never := create_not_returns transfers.withdrawn.allocator tried
      rw [← transfer_of_moveOut moves holds moved, returned] at never
      cases never
    · cases refused.tried.symm.trans tried
      exact refused
  · let h : Handle := .whole (.unique systemAllocator) .num 0
    let ops : List Operation := [.create .unique systemAllocator (.num 1) false]
    have done := Outcome.eq_returned (o := Client.run ops (Client.start {})) (by decide +kernel)
    generalize ended : (Client.run ops (Client.start {})).state = c at done
    have checked : h ∈ c.held ∧ ((c.machine.memory.allocator? systemAllocator).bind fun a =>
        (c.machine.memory.cell? 0).map fun cell =>
          let w := c.machine.movedOut 0 cell systemAllocator h.kind.layout
          decide (cell.value = .num 1 ∧
            (a.deallocate.allocate w.memory.heap.grant? (.small 96 3) none).1 =
              .ok ⟨65544, .heap⟩)) = some true := by
      rw [← ended]
      decide +kernel
    obtain ⟨held, checked⟩ := checked
    obtain ⟨a, there, checked⟩ := Option.bind_eq_some_iff.1 checked
    obtain ⟨cell, found, checked⟩ := Option.map_eq_some_iff.1 checked
    obtain ⟨value, asked⟩ := of_decide_eq_true checked
    have moved := moveOut_of_returns (h := h) rfl found (.bare rfl)
      (settle_giveBack found systemAllocator h.kind.layout)
    rw [value] at moved
    have layout : Kind.num.layout.block? = some (.small 96 3) := by decide +kernel
    obtain ⟨g, u, returned, transferred⟩ := transfer_of_granted .own (.own systemAllocator)
      ⟨⟨_, cell, rfl, found, value⟩, rfl⟩ there moved layout asked
    exact ⟨ops, c, h, a, g, u, done, held, returned, transferred⟩

/-- A conversion fails in a full arena, and the arena counts more than one deallocation. -/
theorem exists_overcrowded_repays : ∃ ops c h v a b w n conversion,
    Client.run ops (Client.start {}) = .returned () c ∧ h ∈ c.held ∧
      convert h (.block .own) = some conversion ∧
      c.machine.memory.allocator? 1 = some a ∧ c.machine.process.isUnwinding = false ∧
      c.machine.process.activeConfig.diagnostics.abortOnFatal = false ∧
      Machine.moveOut h c.machine = .returned (some v) w ∧ dropValue v w = .returned () n ∧
      (conversion c.machine).returns = false ∧
      (conversion c.machine).state.memory.allocator? 1 = some b ∧
      b.ledger ≠ a.ledger.deallocate := by
  obtain ⟨ops, c, h, v, a, w, n, done, held, owns, holds, there, calm, unwinds, moved, destroyed,
    tried, repaid, none⟩ := exists_overcrowded
  have moves : Moves h.ownership (.block .own) := owns ▸ .own 1
  have gone := holds.withdrawn moves there moved
  have never := create_not_returns gone.allocator tried
  have refused : tryCreateBlock .own 1 v w =
      (dropValue v w).andThen fun _ n => .returned (.error (.outOfMemory 160 8)) n := by
    rw [destroyed]
    exact tried
  have created : create (.block .own) 1 v w = failAllocation 1 (.outOfMemory 160 8) n := by
    rw [create_of_refused refused]
    show (dropValue v w).andThen _ = _
    rw [destroyed]
    rfl
  refine ⟨ops, c, h, v, a, a.deallocate.repaid 1 0, w, n, _, done, held, convert_of_moves moves,
    there, calm, unwinds, moved, destroyed, ?_, ?_, fun same => ?_⟩
  · rw [transfer_of_moveOut moves holds moved]
    exact never
  · rw [transfer_of_moveOut moves holds moved, created, failAllocation_eq repaid, fail_eq,
      Outcome.state_mapState]
    exact repaid
  · rw [Allocator.ledger_repaid, Allocator.ledger_deallocate] at same
    have same := congrArg Ledger.deallocations same
    unfold Ledger.repaid Ledger.deallocate at same
    rw [none] at same
    cases same

/-- A number in storage of the first allocator. -/
def numberCell : Cell := ⟨some systemAllocator, 65536, Kind.layout .num, 0, .num, none, .num 1⟩

/-- A machine with an allocator and with a number. -/
def numbered (p : Process) (a : Allocator) : Machine where
  process := p
  memory := ((Client.start p).machine.memory.setAllocator systemAllocator a).addCell numberCell

/-- The unique owner of the number. -/
def numberOwner : Handle := .whole (.unique systemAllocator) .num 0

/-- The machine when the number was moved out. -/
def unnumbered (p : Process) (a : Allocator) : Machine :=
  (numbered p a).movedOut 0 numberCell systemAllocator (Kind.layout .num)

theorem numbered_holds (p : Process) (a : Allocator) :
    (numbered p a).Holds numberOwner systemAllocator (.num 1) :=
  ⟨⟨_, numberCell, rfl, rfl, rfl⟩, rfl⟩

theorem moveOut_numbered (p : Process) (a : Allocator) :
    Machine.moveOut numberOwner (numbered p a) = .returned (some (.num 1)) (unnumbered p a) := by
  have found : (numbered p a).memory.cell? 0 = some numberCell := rfl
  exact moveOut_of_returns (h := numberOwner) rfl found (.bare rfl) (settle_giveBack found _ _)

/-- The number goes behind a control block if there is storage for it. -/
theorem transfer_numbered {p : Process} {o : BlockOwner} {grant : Grant}
    (moves : Moves numberOwner.ownership (.block o))
    (asked : (a.deallocate.allocate (unnumbered p a).memory.heap.grant? (.small 96 3)
      (blockDestructor o (Kind.layout .num).valueOffset (unnumbered p a).memory.cells.next)).1 =
        .ok grant) :
    ∃ l b g u, transfer (.block o) numberOwner (numbered p a) = .returned g u ∧
      u.memory.allocator? systemAllocator = some b ∧
        b.ledger = a.ledger.deallocate.allocate l (Owner.block o).isCollecting := by
  have layout : (Value.num 1).kind.layout.block? = some (.small 96 3) := by decide +kernel
  obtain ⟨g, u, returned, transferred⟩ :=
    transfer_of_granted o moves (numbered_holds p a) rfl (moveOut_numbered p a) layout asked
  obtain ⟨l, b, -, there, counted, -⟩ := transferred.allocator
  exact ⟨l.size, b, g, u, returned, there, counted⟩

/-- The number is lost on the heap when it is to be collected. -/
theorem transfer_numbered_collect (p : Process) (ledger : Ledger) :
    transfer (.block .collect) numberOwner (numbered p (.heap ledger)) =
      (Process.fail (.collectUnsupported "system") (unnumbered p (.heap ledger)).process).mapState
        fun q => ⟨q, (unnumbered p (.heap ledger)).memory⟩ := by
  have moves : Moves numberOwner.ownership (.block .collect) := .collect systemAllocator
  rw [transfer_of_moveOut moves (numbered_holds p _) (moveOut_numbered p _)]
  exact create_num_collect rfl

/-- A conversion that fails may have more storage given back than that of the value. The counters
wrap round, and nothing is less live than what is not live at all. And a sink may come between a
fault and its unwinding: it may panic, and it may write on and on. -/
theorem exists_convert_repays :
    (∃ ops c h v a b w n conversion, Client.run ops (Client.start {}) = .returned () c ∧
      h ∈ c.held ∧ convert h (.block .own) = some conversion ∧
        c.machine.memory.allocator? 1 = some a ∧ c.machine.process.isUnwinding = false ∧
        c.machine.process.activeConfig.diagnostics.abortOnFatal = false ∧
        Machine.moveOut h c.machine = .returned (some v) w ∧ dropValue v w = .returned () n ∧
        (conversion c.machine).returns = false ∧
        (conversion c.machine).state.memory.allocator? 1 = some b ∧
        b.ledger ≠ a.ledger.deallocate) ∧
      (∃ m h a b g u conversion, m.Holds h systemAllocator (.num 1) ∧
        m.memory.allocator? systemAllocator = some a ∧ convert h (.block .own) = some conversion ∧
        conversion m = .returned g u ∧ u.memory.allocator? systemAllocator = some b ∧
        b.ledger.live ≠ a.ledger.live) ∧
      (∃ m h a b g u conversion, m.Holds h systemAllocator (.num 1) ∧
        m.memory.allocator? systemAllocator = some a ∧
        convert h (.block .collect) = some conversion ∧ conversion m = .returned g u ∧
        u.memory.allocator? systemAllocator = some b ∧
        b.ledger.live.toNat + 1 ≠ a.ledger.live.toNat) ∧
      (∃ m h n conversion, m.Holds h systemAllocator (.num 1) ∧
        m.process.isUnwinding = false ∧
        m.process.activeConfig.diagnostics.abortOnFatal = false ∧
        convert h (.block .collect) = some conversion ∧
        conversion m = .unwinding (.text "sink") n) ∧
      ∃ m h n conversion, m.Holds h systemAllocator (.num 1) ∧
        m.process.isUnwinding = false ∧
        m.process.activeConfig.diagnostics.abortOnFatal = false ∧
        convert h (.block .collect) = some conversion ∧
        conversion m = .aborted .stackExhausted n := by
  refine ⟨exists_overcrowded_repays, ?_, ?_, ?_, ?_⟩
  · let a : Allocator := .heap { allocations := UInt64.ofNat Word.greatest }
    have moves : Moves numberOwner.ownership (.block .own) := .own systemAllocator
    have asked : (a.deallocate.allocate (unnumbered {} a).memory.heap.grant? (.small 96 3) none).1 =
        .ok ⟨65536, .heap⟩ := by decide +kernel
    obtain ⟨l, b, g, u, returned, there, counted⟩ := transfer_numbered moves asked
    refine ⟨_, _, a, b, g, u, _, numbered_holds {} a, rfl, convert_of_moves moves, returned, there,
      ?_⟩
    rw [counted]
    show (a.ledger.deallocate.allocate 0 false).live ≠ a.ledger.live
    decide +kernel
  · let a : Allocator := .arena { id := 1, name := "empty", config := {} }
    have moves : Moves numberOwner.ownership (.block .collect) := .collect systemAllocator
    have asked : (a.deallocate.allocate (unnumbered {} a).memory.heap.grant? (.small 96 3)
        (some ⟨88, 1⟩)).1 = .ok ⟨65536, .freshChunk⟩ := by decide +kernel
    obtain ⟨l, b, g, u, returned, there, counted⟩ := transfer_numbered moves asked
    refine ⟨_, _, a, b, g, u, _, numbered_holds {} a, rfl, convert_of_moves moves, returned, there,
      ?_⟩
    rw [counted]
    show (a.ledger.deallocate.allocate 0 true).live.toNat + 1 ≠ a.ledger.live.toNat
    decide +kernel
  · let p : Process := { sink := some ⟨"", fun _ => [.panic (.text "sink")]⟩ }
    have panicked := Outcome.eq_unwinding (p := .text "sink")
      (o := (Process.fail (.collectUnsupported "system") (unnumbered p (.heap {})).process :
        Outcome Process Handle)) (by decide +kernel)
    have lost := transfer_numbered_collect p {}
    rw [panicked] at lost
    exact ⟨_, _, _, _, numbered_holds p _, rfl, rfl,
      convert_of_moves (.collect systemAllocator), lost⟩
  · let p : Process := { sink := some ⟨"", fun _ => [.emit .error none "" []]⟩ }
    have aborted := Outcome.eq_aborted (c := .stackExhausted)
      (o := (Process.fail (.collectUnsupported "system") (unnumbered p (.heap {})).process :
        Outcome Process Handle)) (by decide +kernel)
    have lost := transfer_numbered_collect p {}
    rw [aborted] at lost
    exact ⟨_, _, _, _, numbered_holds p _, rfl, rfl,
      convert_of_moves (.collect systemAllocator), lost⟩

end Machine

end Custody
