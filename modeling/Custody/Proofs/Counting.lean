import Custody.Proofs.Continuity
import Custody.Proofs.Leaks
import Custody.Proofs.Pasts

/-!
# How far counters go

Of each thing that an arena counts there is a deed, so a counter goes no further than the history
goes on: `Machine.Grows` says so of the machine before and the machine that is left, whatever was
done before and wherever the counters began. The number that releases write off is no more than
what was allocated, since a release writes off what was live, and its destructors neither allocate
nor write off: they only give back (`Machine.Repays`).
-/

namespace Custody

namespace Machine

open Run

variable {m n o : Machine} {id : AllocatorId}

/-- The counters of an arena; they are those of a new one if it is not there. -/
def counters (m : Machine) (id : AllocatorId) : Ledger :=
  (m.memory.arena? id).elim {} (·.ledger)

theorem counters_of_some {a : Arena} (there : m.memory.arena? id = some a) :
    m.counters id = a.ledger := by
  unfold counters
  rw [there]
  rfl

/-- Things were given back to an arena, and nothing else was counted. -/
structure Repays (id : AllocatorId) (m n : Machine) : Prop where
  deeds : m.deeds.length ≤ n.deeds.length
  allocations : (n.counters id).allocations = (m.counters id).allocations
  collected : (n.counters id).collected = (m.counters id).collected
  abandoned : (n.counters id).abandoned = (m.counters id).abandoned
  deallocations : (n.counters id).deallocations.toNat + m.deeds.length ≤
    (m.counters id).deallocations.toNat + n.deeds.length
  retirements : (n.counters id).retirements.toNat + m.deeds.length ≤
    (m.counters id).retirements.toNat + n.deeds.length

/-- An arena counted no more than was done, and did not write off more than it counts, as long as
words can count it. -/
structure Grows (id : AllocatorId) (m n : Machine) : Prop where
  deeds : m.deeds.length ≤ n.deeds.length
  allocations : (n.counters id).allocations.toNat + m.deeds.length ≤
    (m.counters id).allocations.toNat + n.deeds.length
  deallocations : (n.counters id).deallocations.toNat + m.deeds.length ≤
    (m.counters id).deallocations.toNat + n.deeds.length
  retirements : (n.counters id).retirements.toNat + m.deeds.length ≤
    (m.counters id).retirements.toNat + n.deeds.length
  collected : (n.counters id).collected.toNat + m.deeds.length ≤
    (m.counters id).collected.toNat + n.deeds.length
  abandoned : (m.counters id).allocations.toNat + n.deeds.length < Word.modulus + m.deeds.length →
    (m.counters id).abandoned.toNat ≤ (m.counters id).allocations.toNat →
      (n.counters id).abandoned.toNat ≤ (n.counters id).allocations.toNat

instance (id : AllocatorId) : IsPreorder Machine (Repays id) where
  refl _ := ⟨Nat.le_refl _, rfl, rfl, rfl, Nat.le_refl _, Nat.le_refl _⟩
  trans _ _ _ first second :=
    ⟨Nat.le_trans first.deeds second.deeds, second.allocations.trans first.allocations,
      second.collected.trans first.collected, second.abandoned.trans first.abandoned,
      by have := first.deallocations; have := second.deallocations; omega,
      by have := first.retirements; have := second.retirements; omega⟩

instance (id : AllocatorId) : IsPreorder Machine (Grows id) where
  refl _ :=
    ⟨Nat.le_refl _, Nat.le_refl _, Nat.le_refl _, Nat.le_refl _, Nat.le_refl _, fun _ h => h⟩
  trans _ _ _ first second := by
    obtain ⟨deeds, allocations, deallocations, retirements, collected, abandoned⟩ := first
    obtain ⟨deeds', allocations', deallocations', retirements', collected', abandoned'⟩ := second
    refine ⟨by omega, by omega, by omega, by omega, by omega, fun room h => ?_⟩
    exact abandoned' (by omega) (abandoned (by omega) h)

/-- What is counted up to some number is counted up to one that is as much larger as the history is
longer. -/
theorem Grows.within {most : Nat} (grows : Grows id m n) (within : (m.counters id).Within most)
    (room : most + (n.deeds.length - m.deeds.length) < Word.modulus) :
    (n.counters id).Within (most + (n.deeds.length - m.deeds.length)) := by
  obtain ⟨deeds, allocations, deallocations, retirements, collected, abandoned⟩ := grows
  obtain ⟨allocations', deallocations', retirements', collected', abandoned'⟩ := within
  exact ⟨by omega, by omega, by omega, by omega, abandoned (by omega) abandoned'⟩

theorem Repays.grows (repays : Repays id m n) : Grows id m n := by
  obtain ⟨deeds, allocations, collected, abandoned, deallocations, retirements⟩ := repays
  refine ⟨deeds, ?_, deallocations, retirements, ?_, fun _ h => ?_⟩
  · rw [allocations]
    omega
  · rw [collected]
    omega
  · rw [allocations, abandoned]
    exact h

/-! ## Giving back -/

theorem repays_of_same (same : n.counters id = m.counters id)
    (deeds : m.deeds.length ≤ n.deeds.length) : Repays id m n := by
  refine ⟨deeds, ?_, ?_, ?_, ?_, ?_⟩ <;> rw [same]
  · omega
  · omega

theorem Undisturbed.repays (h : m.Undisturbed n) : Repays id m n := by
  obtain ⟨memory, deeds⟩ := h
  refine repays_of_same ?_ (Nat.le_of_eq (congrArg List.length deeds.symm))
  unfold counters
  rw [memory]

theorem noteStorage_repays (e : StorageEvent) : (noteStorage e).Keeps (Repays id) :=
  fun _ => repays_of_same rfl (Nat.le_succ _)

/-- An allocator that is changed changes, or another one does. -/
theorem arena?_changeAllocator (m : Memory) (id other : AllocatorId) {f : Allocator → Allocator}
    {g : Arena → Arena} (arenas : ∀ a, (f a).arena? = a.arena?.map g) :
    (m.changeAllocator other f).arena? id = m.arena? id ∨
      (m.changeAllocator other f).arena? id = (m.arena? id).map g := by
  unfold Memory.changeAllocator
  cases found : m.allocator? other with
  | none => exact .inl rfl
  | some a =>
    by_cases same : other = id
    · subst same
      right
      have found : m.allocators.get? other = some a := found
      show ((m.allocators.set other (f a)).get? other).bind _ =
        ((m.allocators.get? other).bind _).map g
      rw [Slab.get?_set_self found, found]
      exact arenas a
    · left
      show ((m.allocators.set other (f a)).get? id).bind _ = _
      rw [Slab.get?_set_of_ne _ same]
      rfl

/-- One deed more, with which the counters of an arena change, or do not. -/
theorem repays_of_count {e : StorageEvent} {memory : Memory} {g : Ledger → Ledger}
    (counts : memory.arena? id = m.memory.arena? id ∨
      memory.arena? id = (m.memory.arena? id).map fun a => { a with ledger := g a.ledger })
    (given : g = Ledger.deallocate ∨ g = Ledger.retire) :
    Repays id m { process := m.process.after (.storage e), memory := memory } := by
  have succ (w : Word) (k : Nat) : (w + 1).toNat + k ≤ w.toNat + (k + 1) := by
    have := Word.toNat_succ_le w
    omega
  rcases counts with same | counted
  · refine repays_of_same ?_ (Nat.le_succ _)
    unfold counters
    rw [same]
  · cases there : m.memory.arena? id with
    | none =>
      rw [there] at counted
      refine repays_of_same ?_ (Nat.le_succ _)
      unfold counters
      rw [counted, there]
      rfl
    | some a =>
      rw [there] at counted
      have before : m.counters id = a.ledger := counters_of_some there
      have after : counters { process := m.process.after (.storage e), memory := memory } id =
          g a.ledger := counters_of_some (a := { a with ledger := g a.ledger }) counted
      rcases given with rfl | rfl
      · constructor <;> try rw [before, after]
        case deeds => exact Nat.le_succ _
        case deallocations => exact succ _ _
        case retirements => exact Nat.add_le_add_left (Nat.le_succ _) _
        all_goals rfl
      · constructor <;> try rw [before, after]
        case deeds => exact Nat.le_succ _
        case deallocations => exact Nat.add_le_add_left (Nat.le_succ _) _
        case retirements => exact succ _ _
        all_goals rfl

theorem deallocate_repays (other : AllocatorId) (address : Address) (l : Layout) :
    (deallocate other address l).Keeps (Repays id) := by
  intro m
  refine repays_of_count (g := Ledger.deallocate) ?_ (.inl rfl)
  exact arena?_changeAllocator m.memory id other (g := Arena.deallocate) fun a => by cases a <;> rfl

theorem retire_repays (other : AllocatorId) (address : Address) (l : Layout) :
    (retire other address l).Keeps (Repays id) := by
  intro m
  refine repays_of_count (g := Ledger.retire) ?_ (.inr rfl)
  exact arena?_changeAllocator m.memory id other (g := Arena.retire) fun a => by cases a <;> rfl

/-- Cells have no part in what is counted. -/
theorem repays_setCell (m : Machine) (c : CellId) (cell : Cell) :
    Repays id m { m with memory := m.memory.setCell c cell } :=
  repays_of_same rfl (Nat.le_refl _)

theorem beginDestruction_repays (c : CellId) : (beginDestruction c).Keeps (Repays id) := by
  intro m
  unfold beginDestruction
  cases m.memory.cell? c with
  | none => exact refl_of (Repays id) m
  | some cell => exact repays_of_same rfl (Nat.le_succ _)

theorem advance_repays (t : Task) : t.advance.Keeps (Repays id) := by
  refine advance_keeps (fun _ _ c _ _ => ?_) beginDestruction_repays
    (fun l => (announce_undisturbed l).mono fun _ _ => Undisturbed.repays) t ?_
  · refine recount_keeps (fun _ _ => Undisturbed.repays) (fun m _ _ => ?_) fun m cell _ _ _ => ?_
    · exact repays_of_same rfl (Nat.le_succ _)
    · exact repays_setCell m _ _
  · rintro a l c (rfl | rfl)
    · refine Keeps.bind (noteStorage_repays _) fun _ => Keeps.bind (Keeps.gets _) fun start => ?_
      exact Keeps.bind (deallocate_repays a start l) fun _ => Keeps.pure _
    · refine Keeps.bind (noteStorage_repays _) fun _ => Keeps.bind (Keeps.gets _) fun start => ?_
      exact Keeps.bind (retire_repays a start l) fun _ => Keeps.pure _

theorem drain_repays (tasks : List Task) (panics : List Passage) :
    Run.Keeps (Repays id) (drain tasks panics) := by
  refine drain_keeps advance_repays (fun rest n => ?_) tasks panics
  refine repays_of_same rfl ?_
  rw [deeds_noteFailures, List.length_append]
  exact Nat.le_add_left _ _

theorem runDestructor_repays (r : Registration) : (runDestructor id r).Keeps (Repays id) :=
  Keeps.bind (noteStorage_repays _) fun _ =>
    Keeps.bind (beginDestruction_repays _) fun tasks => drain_repays tasks []

/-! ## Releases -/

/-- What is written off is what was live before something was given back. -/
theorem Repays.writeOff (repays : Repays id m n) (later : n.deeds.length ≤ o.deeds.length)
    (counted : o.counters id = (n.counters id).writeOff (m.counters id).live) :
    Grows id m o := by
  obtain ⟨more, allocations, collected, abandoned, back, retired⟩ := repays
  have live := (m.counters id).toNat_live
  have written : ((n.counters id).abandoned + (m.counters id).live).toNat ≤
      (m.counters id).abandoned.toNat + (m.counters id).live.toNat := by
    rw [UInt64.toNat_add, abandoned]
    exact Nat.mod_le _ _
  refine ⟨Nat.le_trans more later, ?_, ?_, ?_, ?_, fun _ proper => ?_⟩ <;> rw [counted]
  · show (n.counters id).allocations.toNat + _ ≤ _
    rw [allocations]
    omega
  · show (n.counters id).deallocations.toNat + _ ≤ _
    omega
  · show (n.counters id).retirements.toNat + _ ≤ _
    omega
  · show (n.counters id).collected.toNat + _ ≤ _
    rw [collected]
    omega
  · show ((n.counters id).abandoned + (m.counters id).live).toNat ≤
      (n.counters id).allocations.toNat
    rw [allocations]
    omega

/-- What was live when a release began is written off at its end, or nothing is. -/
theorem Repays.closeRelease {a b : Arena} (repays : Repays id m n)
    (before : m.memory.arena? id = some a) (there : n.memory.arena? id = some b) :
    Grows id m (closeRelease id a b n).state := by
  have left := counters_of_some (arena?_closeRelease there a)
  have deeds : n.deeds.length ≤ (Machine.closeRelease id a b n).state.deeds.length := by
    rw [deeds_closeRelease there a, List.length_append]
    exact Nat.le_add_left _ _
  cases empty : (reportOf a b).isEmpty with
  | true =>
    rw [empty] at left
    have same := left.trans (counters_of_some there).symm
    exact trans_of (Grows id) repays.grows (repays_of_same same deeds).grows
  | false =>
    rw [empty] at left
    refine repays.writeOff deeds ?_
    rw [left, counters_of_some there, counters_of_some before]
    rfl

/-- A release writes off what was live when it began. -/
theorem releaseArena_grows (id : AllocatorId) : (releaseArena id).Keeps (Grows id) := by
  intro m
  cases there : m.memory.arena? id with
  | none =>
    rw [releaseArena_of_none there]
    exact refl_of (Grows id) m
  | some a =>
    have taken : Repays id m (m.listTaken id a) := by
      refine repays_of_same ?_ (Nat.le_succ _)
      rw [counters_of_some there]
      exact counters_of_some (a := { a with collected := [] }) (arena?_listTaken there)
    have looped : (forAll (runDestructor id) a.collected).Keeps (Repays id) :=
      Keeps.forAll fun r _ => runDestructor_repays r
    have repaid := trans_of (Repays id) taken (looped (m.listTaken id a))
    obtain ⟨b, arena, -⟩ := runDestructors_arena there
    rw [releaseArena_of_some there]
    cases ended : forAll (runDestructor id) a.collected (m.listTaken id a) with
    | unwinding payload n =>
      rw [ended] at repaid
      exact repaid.grows
    | aborted cause n =>
      rw [ended] at repaid
      exact repaid.grows
    | returned u n =>
      rw [ended] at arena repaid
      have arena : n.memory.arena? id = some b := arena
      show Grows id m (finishRelease id a n).state
      rw [finishRelease_eq arena]
      exact Repays.closeRelease repaid there arena

/-- An arena that is gone counts nothing. -/
theorem forgetAllocator_grows (id : AllocatorId) : (forgetAllocator id).Keeps (Grows id) := by
  intro m
  obtain ⟨n, done, gone, deeds⟩ : ∃ n, forgetAllocator id m = .returned () n ∧
      n.counters id = {} ∧ n.deeds = m.deeds := by
    refine ⟨_, rfl, ?_, rfl⟩
    unfold counters Memory.arena? Memory.allocator?
    dsimp only
    rw [Slab.get?_erase_self]
    rfl
  rw [done]
  show Grows id m n
  constructor <;> try rw [gone]
  case deeds => exact Nat.le_of_eq (congrArg List.length deeds.symm)
  case abandoned => exact fun _ _ => Nat.le_refl _
  all_goals
    rw [deeds]
    exact Nat.add_le_add_right (Nat.zero_le _) _

theorem dropArena_grows (id : AllocatorId) : (dropArena id).Keeps (Grows id) :=
  Keeps.atEnd (Keeps.bind (releaseArena_grows id) fun _ => Keeps.pure ()) (forgetAllocator_grows id)

theorem tearDown_grows (id : AllocatorId) : (tearDown id).Keeps (Grows id) :=
  Keeps.atEnd (releaseArena_grows id) (dropArena_grows id)

/-! ## Requests -/

/-- A request that is satisfied is counted, and no other. -/
theorem counters_allocate {l : Layout} {d : Option Destructor}
    {answer : Except AllocError Grant} (asked : allocate id l d m = .returned answer n) :
    n.counters id = m.counters id ∨ (∃ grant, answer = .ok grant) ∧
      n.counters id = (m.counters id).allocate l.size d.isSome := by
  cases found : m.memory.allocator? id with
  | none =>
    rw [allocate_of_none found] at asked
    cases asked
    exact .inl rfl
  | some allocator =>
    have there := Memory.arena?_of_allocator? found
    rw [allocate_of_some found] at asked
    unfold Memory.allocate at asked
    generalize served : allocator.allocate m.memory.heap.grant? l d = reply at asked
    obtain ⟨rfl, after⟩ : answer = reply.1 ∧ n.memory.arena? id = reply.2.arena? := by
      obtain ⟨e | grant, kept⟩ := reply
      · cases asked
        exact ⟨rfl, Memory.arena?_setAllocator found kept⟩
      · dsimp only at asked
        unfold noteGrant at asked
        cases obtained : chunkObtained? allocator l grant with
        | none =>
          rw [obtained] at asked
          cases asked
          exact ⟨rfl, Memory.arena?_setAllocator found kept⟩
        | some chunk =>
          rw [obtained] at asked
          cases asked
          exact ⟨rfl, Memory.arena?_setAllocator found kept⟩
    unfold counters
    rw [after, there]
    cases allocator with
    | heap ledger =>
      rw [← served]
      exact .inl rfl
    | arena a =>
      have supplies := Arena.supplies_grant? m.memory.heap
      generalize asked' : a.allocate m.memory.heap.grant? l d = reply'
      have same : reply = (reply'.1, .arena reply'.2) := by
        rw [← served, ← asked']
        rfl
      rw [same]
      obtain ⟨e | grant, kept⟩ := reply'
      · rw [Arena.allocate_error supplies asked']
        exact .inl rfl
      · obtain ⟨placed, rfl, placement⟩ := Arena.allocate_ok supplies asked'
        obtain ⟨chunk?, grown⟩ := placement.grown
        refine .inr ⟨⟨grant, rfl⟩, ?_⟩
        show placed.ledger.allocate l.size d.isSome = _
        rw [grown.ledger]
        rfl

theorem allocate_grows (id : AllocatorId) (l : Layout) (d : Option Destructor) :
    (allocate id l d).Keeps (Grows id) := by
  intro m
  obtain ⟨answer, n, asked⟩ := allocate_returns id l d m
  have added := (allocate_deeds asked).2
  rw [asked]
  show Grows id m n
  rcases counters_allocate asked with same | ⟨⟨grant, rfl⟩, counted⟩
  · refine (repays_of_same same ?_).grows
    cases answer with
    | error e => exact Nat.le_of_eq (congrArg List.length added.symm)
    | ok grant =>
      obtain ⟨-, chunks, deeds, -⟩ := added
      rw [deeds, List.length_cons, List.length_append]
      omega
  · obtain ⟨-, chunks, deeds, -⟩ := added
    have longer : n.deeds.length = chunks.length + m.deeds.length + 1 := by
      rw [deeds, List.length_cons, List.length_append]
    have more := Word.toNat_succ_le (m.counters id).allocations
    have more' := Word.toNat_succ_le (m.counters id).collected
    refine ⟨by omega, ?_, ?_, ?_, ?_, fun room proper => ?_⟩ <;> rw [counted]
    · show ((m.counters id).allocations + 1).toNat + _ ≤ _
      omega
    · show (m.counters id).deallocations.toNat + _ ≤ _
      omega
    · show (m.counters id).retirements.toNat + _ ≤ _
      omega
    · show (if d.isSome then (m.counters id).collected + 1 else (m.counters id).collected).toNat +
        _ ≤ _
      split <;> omega
    · show (m.counters id).abandoned.toNat ≤ ((m.counters id).allocations + 1).toNat
      have one : (1 : Word).toNat = 1 := rfl
      unfold Word.modulus at room
      rw [UInt64.toNat_add, one]
      omega

end Machine

end Custody
