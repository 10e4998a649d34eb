import Custody.Proofs.Releasing

/-!
# Arenas with a past

An arena serves requests and releases without a look at its number, and almost without a look at
its counters. `Arena.withPast` gives an arena another number and lets its counters go on from those
of a past, and `Machine.withPast` does so to the arena of a machine. An operation `Run.Commutes`
with that if it ends as it does without a past, and leaves the same machine but for the past. All
that is done in a release does so, however it ends: destructors are code that reads cells, counts
in blocks and gives storage back (`Machine.drain_commutes`), and what is told of a release are the
name of the arena and what was released.

Only the number of live allocations is read from the counters. It is the same if in the past
all was accounted for and the counters do not overflow (`Ledger.live_plus`), and then releases
commute as well: `Machine.releaseArena_withPast`.
-/

namespace Custody

/-! ## Counters -/

namespace Ledger

/-- Counters that go on from those of a past. -/
def plus (past l : Ledger) : Ledger where
  allocations := past.allocations + l.allocations
  deallocations := past.deallocations + l.deallocations
  retirements := past.retirements + l.retirements
  collected := past.collected + l.collected
  abandoned := past.abandoned + l.abandoned
  bytes := past.bytes + l.bytes
  bulkReleases := past.bulkReleases + l.bulkReleases

/-- Counters that count no further than to some number, and write off no more than they count. -/
structure Within (l : Ledger) (most : Nat) : Prop where
  allocations : l.allocations.toNat ≤ most
  deallocations : l.deallocations.toNat ≤ most
  retirements : l.retirements.toNat ≤ most
  collected : l.collected.toNat ≤ most
  abandoned : l.abandoned.toNat ≤ l.allocations.toNat

theorem Within.new (most : Nat) : ({} : Ledger).Within most :=
  ⟨Nat.zero_le _, Nat.zero_le _, Nat.zero_le _, Nat.zero_le _, Nat.le_refl _⟩

variable (past l : Ledger)

theorem plus_allocate (size : Nat) (collected : Bool) :
    past.plus (l.allocate size collected) = (past.plus l).allocate size collected := by
  unfold plus allocate
  cases collected <;> simp [UInt64.add_assoc]

theorem plus_deallocate : past.plus l.deallocate = (past.plus l).deallocate := by
  unfold plus deallocate
  simp [UInt64.add_assoc]

theorem plus_retire : past.plus l.retire = (past.plus l).retire := by
  unfold plus retire
  simp [UInt64.add_assoc]

theorem plus_writeOff (leaked : Word) :
    past.plus (l.writeOff leaked) = (past.plus l).writeOff leaked := by
  unfold plus writeOff
  simp [UInt64.add_assoc]

/-- A past in which all was accounted for does not show in what is live. -/
theorem live_plus {past l : Ledger} {most : Nat} (settled : past.Balances 0)
    (within : l.Within most) (room : past.allocations.toNat + most < Word.modulus) :
    (past.plus l).live = l.live := by
  obtain ⟨allocations, deallocations, retirements, collected, abandoned⟩ := within
  unfold Balances at settled
  have sum {x y : Word} (h : x.toNat + y.toNat < Word.modulus) :
      (x + y).toNat = x.toNat + y.toNat := by
    rw [UInt64.toNat_add]
    exact Nat.mod_eq_of_lt h
  refine UInt64.toNat_inj.1 ?_
  rw [toNat_live, toNat_live]
  unfold plus
  dsimp only
  rw [sum (by omega), sum (by omega), sum (by omega), sum (by omega), sum (by omega)]
  omega

end Ledger

/-! ## Arenas and allocators -/

namespace Arena

variable (number : Nat) (past : Ledger) (a : Arena)

/-- An arena as it would be if it had this number, and had been used before. -/
def withPast : Arena := { a with id := number, ledger := past.plus a.ledger }

theorem placeInChunk_withPast (chunk : Chunk) (l : Layout) :
    (a.withPast number past).placeInChunk chunk l =
      ((a.placeInChunk chunk l).1, (a.placeInChunk chunk l).2.withPast number past) := by
  have same : (a.withPast number past).isOversized l = a.isOversized l := rfl
  unfold placeInChunk
  dsimp only
  rw [same]
  cases a.isOversized l with
  | true => rfl
  | false =>
    cases (cursorInto chunk).bump l with
    | none => rfl
    | some served => rfl

theorem reserveChunk_withPast (heap : Layout → Option Address) (l : Layout) :
    (a.withPast number past).reserveChunk heap l =
      ((a.reserveChunk heap l).1, (a.reserveChunk heap l).2.withPast number past) := by
  have same : (a.withPast number past).chunkLayout? l = a.chunkLayout? l := rfl
  unfold reserveChunk
  rw [same]
  cases a.chunkLayout? l with
  | none => rfl
  | some layout =>
    have full : (a.withPast number past).exceedsCapacity layout = a.exceedsCapacity layout := rfl
    dsimp only
    rw [full]
    cases a.exceedsCapacity layout with
    | true => rfl
    | false =>
      cases heap layout with
      | none => rfl
      | some base => exact placeInChunk_withPast number past a ⟨base, layout⟩ l

theorem reserve_withPast (heap : Layout → Option Address) (l : Layout) :
    (a.withPast number past).reserve heap l =
      ((a.reserve heap l).1, (a.reserve heap l).2.withPast number past) := by
  have same : (a.withPast number past).cursor.bind (·.bump l) = a.cursor.bind (·.bump l) := rfl
  unfold reserve
  rw [same]
  cases a.cursor.bind (·.bump l) with
  | none => exact reserveChunk_withPast number past a heap l
  | some served => rfl

/-- A request is answered as it would be without the past. -/
theorem allocate_withPast (heap : Layout → Option Address) (l : Layout)
    (destructor : Option Destructor) :
    (a.withPast number past).allocate heap l destructor =
      ((a.allocate heap l destructor).1,
        (a.allocate heap l destructor).2.withPast number past) := by
  have booked (b : Arena) (grant : Grant) :
      (b.withPast number past).book l destructor grant =
        (b.book l destructor grant).withPast number past := by
    unfold book withPast
    dsimp only
    rw [Ledger.plus_allocate]
  unfold allocate
  by_cases nothing : l.size = 0
  · rw [if_pos nothing, if_pos nothing]
    dsimp only
    rw [booked]
  · rw [if_neg nothing, if_neg nothing, reserve_withPast]
    rcases a.reserve heap l with ⟨e | grant, after⟩
    · rfl
    · dsimp only
      rw [booked]

end Arena

namespace Allocator

variable (number : Nat) (past : Ledger)

/-- An allocator as it would be if, in case that it is an arena, it had a past. -/
def withPast : Allocator → Allocator
  | heap l => heap l
  | arena a => arena (a.withPast number past)

variable (a : Allocator)

theorem arena?_withPast :
    (a.withPast number past).arena? = a.arena?.map (Arena.withPast number past) := by
  cases a <;> rfl

theorem allocate_withPast (memory : Layout → Option Address) (l : Layout)
    (destructor : Option Destructor) :
    (a.withPast number past).allocate memory l destructor =
      ((a.allocate memory l destructor).1,
        (a.allocate memory l destructor).2.withPast number past) := by
  cases a with
  | heap ledger => rfl
  | arena a =>
    have same := Arena.allocate_withPast number past a memory l destructor
    exact congrArg (fun answer => (answer.1, arena answer.2)) same

theorem heapRequest?_withPast (l : Layout) (grant : Grant) :
    heapRequest? l grant (a.withPast number past) = heapRequest? l grant a := by
  cases a <;> rfl

theorem deallocate_withPast :
    (a.withPast number past).deallocate = a.deallocate.withPast number past := by
  cases a with
  | heap l => rfl
  | arena a =>
    show arena { a with id := number, ledger := (past.plus a.ledger).deallocate } = _
    rw [← Ledger.plus_deallocate]
    rfl

theorem retire_withPast : (a.withPast number past).retire = a.retire.withPast number past := by
  cases a with
  | heap l => rfl
  | arena a =>
    show arena { a with id := number, ledger := (past.plus a.ledger).retire } = _
    rw [← Ledger.plus_retire]
    rfl

end Allocator

/-! ## Memory -/

namespace Slab

variable {α : Type} (s : Slab α) {i j : Nat} (f : α → α)

/-- The slab after what one place holds was changed. -/
def adjust (i : Nat) : Slab α := ⟨s.places.modify i (Option.map f)⟩

theorem get?_adjust_self : (s.adjust f i).get? i = (s.get? i).map f := by
  unfold get? adjust
  rw [List.getElem?_modify_eq]
  cases s.places[i]? with
  | none => rfl
  | some place => rfl

theorem get?_adjust_of_ne (h : i ≠ j) : (s.adjust f i).get? j = s.get? j := by
  simp [get?, adjust, h]

theorem eq_of_get?_set_self {a b : α} (h : (s.set i a).get? i = some b) : b = a := by
  unfold get? set at h
  rw [List.getElem?_set_self'] at h
  cases there : s.places[i]? with
  | none =>
    rw [there] at h
    cases h
  | some place =>
    rw [there] at h
    exact (Option.some.inj h).symm

/-- What a place held that is filled anew makes no difference. -/
theorem set_adjust_self (a : α) : (s.adjust f i).set i a = s.set i a := by
  unfold set adjust
  congr 1
  refine List.ext_getElem? fun j => ?_
  by_cases same : i = j <;> simp [List.getElem?_set, same]

theorem adjust_set_self (a : α) : (s.set i a).adjust f i = s.set i (f a) := by
  unfold set adjust
  congr 1
  refine List.ext_getElem? fun j => ?_
  by_cases same : i = j <;> simp [List.getElem?_set, same]

theorem set_adjust_of_ne (h : i ≠ j) (a : α) : (s.adjust f i).set j a = (s.set j a).adjust f i := by
  unfold set adjust
  congr 1
  refine List.ext_getElem? fun k => ?_
  by_cases same : j = k
  · subst same
    simp [List.getElem?_set, h]
  · simp [List.getElem?_modify, same]

theorem erase_adjust_self : (s.adjust f i).erase i = (s.erase i).adjust f i := by
  unfold erase adjust
  congr 1
  refine List.ext_getElem? fun j => ?_
  by_cases same : i = j <;> simp [List.getElem?_set, same]

end Slab

namespace Memory

variable (id : AllocatorId) (number : Nat) (past : Ledger) (m : Memory)

/-- Memory as it would be if an arena had a past. -/
def withPast : Memory :=
  { m with allocators := m.allocators.adjust (Allocator.withPast number past) id }

theorem allocator?_withPast :
    (m.withPast id number past).allocator? id =
      (m.allocator? id).map (Allocator.withPast number past) :=
  m.allocators.get?_adjust_self _

theorem arena?_withPast :
    (m.withPast id number past).arena? id = (m.arena? id).map (Arena.withPast number past) := by
  unfold arena?
  rw [allocator?_withPast]
  cases m.allocator? id with
  | none => rfl
  | some a => exact a.arena?_withPast number past

theorem isSome_arena?_withPast (other : AllocatorId) :
    ((m.withPast id number past).arena? other).isSome = (m.arena? other).isSome := by
  by_cases same : id = other
  · subst same
    rw [arena?_withPast, Option.isSome_map]
  · unfold arena? allocator? withPast
    rw [Slab.get?_adjust_of_ne _ _ same]

theorem setAllocator_withPast (a : Allocator) :
    (m.withPast id number past).setAllocator id (a.withPast number past) =
      (m.setAllocator id a).withPast id number past := by
  unfold setAllocator withPast
  rw [Slab.set_adjust_self, Slab.adjust_set_self]

theorem changeAllocator_withPast (other : AllocatorId) {f : Allocator → Allocator}
    (commutes : ∀ a, f (a.withPast number past) = (f a).withPast number past) :
    (m.withPast id number past).changeAllocator other f =
      (m.changeAllocator other f).withPast id number past := by
  unfold changeAllocator
  by_cases same : id = other
  · subst same
    rw [allocator?_withPast]
    cases m.allocator? id with
    | none => rfl
    | some a =>
      dsimp only [Option.map]
      rw [commutes, setAllocator_withPast]
  · have found : (m.withPast id number past).allocator? other = m.allocator? other :=
      Slab.get?_adjust_of_ne _ _ same
    rw [found]
    cases m.allocator? other with
    | none => rfl
    | some a =>
      dsimp only
      unfold setAllocator withPast
      rw [Slab.set_adjust_of_ne _ _ same]

theorem deallocate_withPast (other : AllocatorId) (address : Address) (l : Layout) :
    (m.withPast id number past).deallocate other address l =
      (m.deallocate other address l).withPast id number past := by
  unfold deallocate
  rw [changeAllocator_withPast id number past m other (Allocator.deallocate_withPast number past),
    isSome_arena?_withPast]
  rfl

theorem allocate_withPast (a : Allocator) (l : Layout) (destructor : Option Destructor) :
    (m.withPast id number past).allocate id (a.withPast number past) l destructor =
      ((m.allocate id a l destructor).1,
        (m.allocate id a l destructor).2.withPast id number past) := by
  have same : (m.withPast id number past).heap = m.heap := rfl
  unfold allocate
  rw [same, Allocator.allocate_withPast]
  rcases a.allocate m.heap.grant? l destructor with ⟨e | grant, after⟩
  · dsimp only
    rw [setAllocator_withPast]
  · dsimp only
    rw [setAllocator_withPast, Allocator.heapRequest?_withPast]
    rfl

end Memory

/-! ## Operations that commute -/

namespace Run

variable {σ α β : Type} (f : σ → σ)

/-- An operation that commutes with a change of the state: it ends as it does without the change,
in the state in which it ends without, changed. -/
def Commutes (act : Run σ α) : Prop := ∀ s, act (f s) = (act s).mapState f

variable {f} {act act' : Run σ α} {next next' : α → Run σ β} {s : σ}

/-- Two operations in a row, where the second one is begun. -/
theorem bind_mapState (first : act' (f s) = (act s).mapState f)
    (second : ∀ a t, act s = .returned a t → next' a (f t) = (next a t).mapState f) :
    (act' >>= next') (f s) = ((act >>= next) s).mapState f := by
  rw [bind_apply, bind_apply, first]
  cases ended : act s with
  | returned a t => exact second a t ended
  | unwinding payload t => rfl
  | aborted cause t => rfl

theorem Commutes.bind (first : act.Commutes f) (second : ∀ a, (next a).Commutes f) :
    (act >>= next).Commutes f :=
  fun s => bind_mapState (first s) fun a t _ => second a t

theorem Commutes.pure (a : α) : (pure a : Run σ α).Commutes f := fun _ => rfl

theorem Commutes.gets {read : σ → α} (same : ∀ s, read (f s) = read s) :
    (gets read).Commutes f := by
  intro s
  unfold Run.gets
  rw [same]
  rfl

theorem Commutes.forAll {step : β → Run σ Unit} {l : List β}
    (h : ∀ b, (step b).Commutes f) : (Run.forAll step l).Commutes f := by
  induction l with
  | nil => exact .pure ()
  | cons b rest ih => exact .bind (h b) fun _ => ih

/-- What is done at the end commutes where the operation ends. -/
theorem atEnd_mapState {last : Run σ Unit} (first : act (f s) = (act s).mapState f)
    (second : last (f (act s).state) = (last (act s).state).mapState f) :
    atEnd act last (f s) = (atEnd act last s).mapState f := by
  unfold atEnd
  rw [first]
  cases ended : act s with
  | returned a t =>
    rw [ended] at second
    have second : last (f t) = (last t).mapState f := second
    dsimp only [Outcome.mapState]
    rw [second]
    cases last t <;> rfl
  | unwinding payload t =>
    rw [ended] at second
    have second : last (f t) = (last t).mapState f := second
    dsimp only [Outcome.mapState]
    unfold passing
    rw [second]
    cases last t <;> rfl
  | aborted cause t => rfl

end Run

namespace Machine

open Run

variable (id : AllocatorId) (number : Nat) (past : Ledger)

/-- A machine as it would be if an arena had a past. -/
def withPast (m : Machine) : Machine := { m with memory := m.memory.withPast id number past }

variable {α : Type}

theorem onProcess_commutes (act : Run Process α) :
    (onProcess act).Commutes (withPast id number past) := by
  intro m
  unfold onProcess within
  show (act m.process).mapState _ = _
  cases act m.process <;> rfl

theorem note_commutes (e : Event) : (note e).Commutes (withPast id number past) :=
  onProcess_commutes id number past _

theorem noteStorage_commutes (e : StorageEvent) :
    (noteStorage e).Commutes (withPast id number past) := note_commutes id number past _

theorem panic_commutes (payload : Payload) :
    (panic payload : Run Machine α).Commutes (withPast id number past) :=
  onProcess_commutes id number past _

theorem fail_commutes (fault : Fault) :
    (fail fault : Run Machine α).Commutes (withPast id number past) :=
  onProcess_commutes id number past _

theorem onMemory_commutes {f : Memory → Memory}
    (same : ∀ m, f (m.withPast id number past) = (f m).withPast id number past) :
    (onMemory f).Commutes (withPast id number past) := by
  intro m
  show Outcome.returned () ({ m with memory := f (m.memory.withPast id number past) } : Machine) = _
  rw [same]
  rfl

/-! ## Destructors -/

theorem recount_commutes [Inhabited α] (c : CellId)
    (operation : BlockState → BlockState × Except CountFault α) :
    (recount c operation).Commutes (withPast id number past) := by
  have failed (kind : Kind) (s : BlockState) (f : CountFault) :
      (miscount c kind s f : Run Machine α).Commutes (withPast id number past) := by
    refine .bind (noteStorage_commutes id number past _) fun _ => ?_
    cases f with
    | wrongGroup needed => exact panic_commutes id number past _
    | _ => exact fail_commutes id number past _
  intro m
  have same : (m.withPast id number past).memory.cell? c = m.memory.cell? c := rfl
  unfold recount
  rw [same]
  cases m.memory.cell? c with
  | none => rfl
  | some cell =>
    dsimp only
    cases cell.state with
    | none => rfl
    | some s =>
      dsimp only
      cases (operation s).2 with
      | ok a => rfl
      | error f =>
        exact failed cell.kind s f
          { m with memory := m.memory.setCell c { cell with state := some (operation s).1 } }

theorem beginDestruction_commutes (c : CellId) :
    (beginDestruction c).Commutes (withPast id number past) := by
  intro m
  have same : (m.withPast id number past).memory.cell? c = m.memory.cell? c := rfl
  unfold beginDestruction
  rw [same]
  cases m.memory.cell? c <;> rfl

theorem letGo_commutes (kind : Kind) (c : CellId) (o : Ownership) :
    (letGo kind c o).Commutes (withPast id number past) := by
  have begins := beginDestruction_commutes id number past
  have counts (operation : BlockState → BlockState × Except CountFault Bool) :=
    recount_commutes id number past c operation
  have stored (task : AllocatorId → Layout → CellId → Task) :
      (storageTask task c).Commutes (withPast id number past) := .gets fun _ => rfl
  have destroys (task : AllocatorId → Layout → CellId → Task) :
      (destroyWith task c).Commutes (withPast id number past) :=
    .bind (begins c) fun _ => .bind (stored task) fun _ => .pure _
  cases o with
  | unique home => exact .bind (begins c) fun _ => .pure _
  | weak =>
    refine .bind (counts _) fun last => ?_
    cases last with
    | false => exact .pure _
    | true => exact stored _
  | block owner =>
    cases owner with
    | own => exact destroys _
    | discard => exact destroys _
    | collect => exact .pure _
    | strong =>
      refine .bind (counts _) fun last => ?_
      cases last with
      | false => exact .pure _
      | true => exact .bind (begins c) fun _ => .pure _
    | handle =>
      refine .bind (counts _) fun last => ?_
      cases last with
      | false => exact .pure _
      | true => exact destroys _

theorem deallocate_commutes (other : AllocatorId) (address : Address) (l : Layout) :
    (deallocate other address l).Commutes (withPast id number past) := by
  unfold deallocate
  apply Commutes.bind (noteStorage_commutes id number past _)
  intro _
  apply onMemory_commutes
  intro m
  exact m.deallocate_withPast id number past other address l

theorem retire_commutes (other : AllocatorId) (address : Address) (l : Layout) :
    (retire other address l).Commutes (withPast id number past) := by
  unfold retire
  apply Commutes.bind (noteStorage_commutes id number past _)
  intro _
  apply onMemory_commutes
  intro m
  exact m.changeAllocator_withPast id number past other (Allocator.retire_withPast number past)

theorem announce_commutes (label : Label) :
    (announce label).Commutes (withPast id number past) := by
  unfold announce
  apply Commutes.bind (note_commutes id number past _)
  intro _
  cases label.panicMessage? with
  | none => exact .pure _
  | some message =>
    refine .bind (.gets fun _ => rfl) fun unwinding => ?_
    cases unwinding with
    | true => exact .pure _
    | false => exact panic_commutes id number past _

theorem advance_commutes (t : Task) : t.advance.Commutes (withPast id number past) := by
  have noted := noteStorage_commutes id number past
  have based (c : CellId) : (base c).Commutes (withPast id number past) := .gets fun _ => rfl
  cases t with
  | drop h =>
    cases link : h.link with
    | none =>
      rw [Task.advance_drop_of_none link]
      exact .pure _
    | some l =>
      rw [Task.advance_drop_of_some link]
      exact letGo_commutes id number past _ _ _
  | announce label => exact .bind (announce_commutes id number past label) fun _ => .pure _
  | leaveGroup c =>
    refine .bind (recount_commutes id number past c _) fun last => ?_
    cases last with
    | false => exact .pure _
    | true => exact .gets fun _ => rfl
  | giveBack a l c =>
    refine .bind (noted _) fun _ => .bind (based c) fun address => ?_
    exact .bind (deallocate_commutes id number past a address l) fun _ => .pure _
  | retire a l c =>
    refine .bind (noted _) fun _ => .bind (based c) fun address => ?_
    exact .bind (retire_commutes id number past a address l) fun _ => .pure _

theorem drain_commutes (tasks : List Task) (panics : List Passage) :
    Run.Commutes (withPast id number past) (drain tasks panics) := by
  intro m
  induction tasks, panics, m using drain.induct with
  | case1 m t rest panics more o advanced ih =>
    have aged := advance_commutes id number past t m
    rw [advanced] at aged
    rw [drain_cons_returned advanced, drain_cons_returned aged]
    exact ih
  | case2 m t rest panics payload o panicked ih =>
    have aged := advance_commutes id number past t m
    rw [panicked] at aged
    rw [drain_cons_unwinding panicked, drain_cons_unwinding aged]
    exact ih
  | case3 m t rest panics cause o aborted =>
    have aged := advance_commutes id number past t m
    rw [aborted] at aged
    rw [drain_cons_aborted aborted, drain_cons_aborted aged]
    rfl
  | case4 m payload t rest others ih =>
    rw [drain_nil_cleanup, drain_nil_cleanup]
    exact ih
  | case5 m =>
    rw [drain_nil_nil, drain_nil_nil]
    rfl
  | case6 m payload =>
    rw [drain_nil_singleton, drain_nil_singleton]
    rfl
  | case7 m payload head tail =>
    rw [drain_nil_cons_cons, drain_nil_cons_cons]
    rfl

theorem runDestructor_commutes (r : Registration) :
    (runDestructor id r).Commutes (withPast id number past) := by
  unfold runDestructor
  apply Commutes.bind (noteStorage_commutes id number past _)
  intro _
  apply Commutes.bind (beginDestruction_commutes id number past _)
  intro tasks
  exact drain_commutes id number past tasks []

/-! ## Releases -/

theorem releaseChunks_withPast (a : Arena) (m : Machine) :
    releaseChunks id (a.withPast number past) (m.withPast id number past) =
      (releaseChunks id a m).mapState (withPast id number past) := by
  have noted : (forAll (noteChunk id) a.chunks.reverse).Commutes (withPast id number past) :=
    .forAll fun _ => noteStorage_commutes id number past _
  refine bind_mapState (noted m) fun _ n _ => ?_
  let heap := a.chunks.foldl (fun heap (c : Chunk) => heap.afterReturn c.base) n.memory.heap
  have set := n.memory.setAllocator_withPast id number past (.arena a.emptied)
  exact congrArg (fun memory : Memory => Outcome.returned ()
    ({ process := n.process, memory := { memory with heap := heap } } : Machine)) set

theorem reportLeak_commutes (name : String) (policy : LeakPolicy) (leaked : Word) :
    (reportLeak name policy leaked).Commutes (withPast id number past) := by
  unfold reportLeak
  by_cases some : 0 < leaked
  · rw [if_pos some]
    cases leakSeverity? policy with
    | none => exact .pure ()
    | some severity => exact onProcess_commutes id number past _
  · rw [if_neg some]
    exact .pure ()

theorem concludeRelease_commutes (a : Arena) (r : ReleaseReport) :
    (concludeRelease id a r).Commutes (withPast id number past) := by
  have logged : (logRelease id a r).Commutes (withPast id number past) := by
    unfold logRelease
    apply Commutes.bind (noteStorage_commutes id number past _)
    intro _
    refine .bind (onMemory_commutes id number past fun m => ?_) fun _ =>
      onProcess_commutes id number past _
    refine m.changeAllocator_withPast id number past id fun allocator => ?_
    cases allocator with
    | heap l => rfl
    | arena b =>
      show Allocator.arena { b with id := number, ledger := (past.plus b.ledger).writeOff _ } = _
      rw [← Ledger.plus_writeOff]
      rfl
  unfold concludeRelease
  cases r.isEmpty with
  | true => exact .pure r
  | false =>
    apply Commutes.bind (.bind logged fun _ => reportLeak_commutes id number past _ _ _)
    intro _
    exact .pure r

theorem forgetAllocator_commutes : (forgetAllocator id).Commutes (withPast id number past) := by
  apply onMemory_commutes
  intro m
  unfold Memory.withPast
  rw [Slab.erase_adjust_self]

variable {m : Machine}

/-- A release is as it would be without the past, if as much is live. -/
theorem releaseArena_withPast
    (same : ∀ a, m.memory.arena? id = some a → (a.withPast number past).live = a.live) :
    releaseArena id (m.withPast id number past) =
      (releaseArena id m).mapState (withPast id number past) := by
  have found := m.memory.arena?_withPast id number past
  cases there : m.memory.arena? id with
  | none =>
    rw [there] at found
    rw [releaseArena_of_none there, releaseArena_of_none found]
    rfl
  | some a =>
    rw [there] at found
    have taken : (m.withPast id number past).listTaken id (a.withPast number past) =
        (m.listTaken id a).withPast id number past := by
      have set := m.memory.setAllocator_withPast id number past (.arena { a with collected := [] })
      unfold listTaken
      exact congrArg (Machine.mk _) set
    have looped : (forAll (runDestructor id) a.collected).Commutes (withPast id number past) :=
      .forAll (runDestructor_commutes id number past)
    have finished (u : Unit) (n : Machine)
        (returned : forAll (runDestructor id) a.collected (m.listTaken id a) = .returned u n) :
        finishRelease id (a.withPast number past) (n.withPast id number past) =
          (finishRelease id a n).mapState (withPast id number past) := by
      obtain ⟨b, arena, -⟩ := runDestructors_arena there
      rw [returned] at arena
      have arena : n.memory.arena? id = some b := arena
      have arena' : (n.withPast id number past).memory.arena? id =
          some (b.withPast number past) := by
        rw [← Option.map_some, ← arena]
        exact n.memory.arena?_withPast id number past
      have report : reportOf (a.withPast number past) (b.withPast number past) = reportOf a b := by
        unfold reportOf
        rw [same a there]
        rfl
      rw [finishRelease_of_some arena, finishRelease_of_some arena', report]
      exact bind_mapState (releaseChunks_withPast id number past b n) fun _ o _ =>
        concludeRelease_commutes id number past b (reportOf a b) o
    rw [releaseArena_of_some there, releaseArena_of_some found, taken]
    show (forAll (runDestructor id) a.collected >>= fun _ => finishRelease id _) _ =
      ((forAll (runDestructor id) a.collected >>= fun _ => finishRelease id a) _).mapState _
    exact bind_mapState (looped (m.listTaken id a)) finished

/-- An arena is torn down as it would be without the past, if as much is live at each of the two
releases. -/
theorem tearDown_withPast
    (first : ∀ a, m.memory.arena? id = some a → (a.withPast number past).live = a.live)
    (second : ∀ a, (releaseArena id m).state.memory.arena? id = some a →
      (a.withPast number past).live = a.live) :
    tearDown id (m.withPast id number past) =
      (tearDown id m).mapState (withPast id number past) := by
  refine atEnd_mapState (releaseArena_withPast id number past first) ?_
  refine atEnd_mapState ?_ (forgetAllocator_commutes id number past _)
  exact bind_mapState (releaseArena_withPast id number past second) fun _ _ _ => rfl

/-! ## Requests -/

/-- A request is answered as it would be without the past. -/
theorem allocate_commutes (l : Layout) (d : Option Destructor) :
    (allocate id l d).Commutes (withPast id number past) := by
  have noted (a : Allocator) (grant : Grant) :
      (noteGrant id a l d grant).Commutes (withPast id number past) := by
    unfold noteGrant
    cases chunkObtained? a l grant with
    | none => exact noteStorage_commutes id number past _
    | some chunk =>
      apply Commutes.bind (noteStorage_commutes id number past _)
      intro _
      exact noteStorage_commutes id number past _
  intro m
  have found := m.memory.allocator?_withPast id number past
  cases there : m.memory.allocator? id with
  | none =>
    rw [there] at found
    rw [allocate_of_none there, allocate_of_none found]
    rfl
  | some a =>
    rw [there] at found
    have asked := m.memory.allocate_withPast id number past a l d
    have same (grant : Grant) : noteGrant id (a.withPast number past) l d grant =
        noteGrant id a l d grant := by
      unfold noteGrant chunkObtained?
      rw [Allocator.heapRequest?_withPast]
    have whole : (m.withPast id number past).memory.allocate id (a.withPast number past) l d = _ :=
      asked
    rw [allocate_of_some there, allocate_of_some found, whole]
    rcases m.memory.allocate id a l d with ⟨e | grant, after⟩
    · rfl
    · dsimp only
      rw [same]
      exact bind_mapState (noted a grant { m with memory := after }) fun _ _ _ => rfl

end Machine

end Custody
