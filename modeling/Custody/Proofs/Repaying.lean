import Custody.Proofs.Entrusted
import Custody.Proofs.Steps

/-!
# What destructions give back

Destroying values gives storage back, one allocation after another, and that is all that it does to
an allocator: two of its counters are raised, by one for each deed of giving back or of retiring.
`Machine.Repaid` says so of one allocator, of the machine before and the machine that is left, and
`Machine.drain_repaid` of settling, however it ends and whatever the counters were.
-/

namespace Custody

/-- Counters after so many allocations more were given back, and so many retired. -/
def Ledger.repaid (l : Ledger) (deallocated retired : Nat) : Ledger :=
  { l with
    deallocations := l.deallocations + UInt64.ofNat deallocated
    retirements := l.retirements + UInt64.ofNat retired }

namespace Allocator

/-- An allocator that so many allocations more were given back to, and so many retired. -/
def repaid (deallocated retired : Nat) : Allocator → Allocator
  | heap l => heap (l.repaid deallocated retired)
  | arena a => arena { a with ledger := a.ledger.repaid deallocated retired }

variable (a : Allocator)

theorem repaid_zero : a.repaid 0 0 = a := by
  cases a <;> simp [repaid, Ledger.repaid]

theorem repaid_repaid (d r d' r' : Nat) :
    (a.repaid d r).repaid d' r' = a.repaid (d' + d) (r' + r) := by
  have sum (w : Word) (n k : Nat) :
      w + UInt64.ofNat n + UInt64.ofNat k = w + UInt64.ofNat (k + n) := by
    rw [UInt64.add_assoc, ← UInt64.ofNat_add, Nat.add_comm]
  cases a <;> simp [repaid, Ledger.repaid, sum]

theorem deallocate_eq_repaid : a.deallocate = a.repaid 1 0 := by
  cases a <;> simp [repaid, Ledger.repaid, deallocate, Arena.deallocate, Ledger.deallocate]

theorem retire_eq_repaid : a.retire = a.repaid 0 1 := by
  cases a <;> simp [repaid, Ledger.repaid, retire, Arena.retire, Ledger.retire]

theorem name_repaid (d r : Nat) : (a.repaid d r).name = a.name := by
  cases a <;> rfl

theorem ledger_repaid (d r : Nat) : (a.repaid d r).ledger = a.ledger.repaid d r := by
  cases a <;> rfl

end Allocator

namespace Memory

variable (m : Memory) {id other : AllocatorId} (f : Allocator → Allocator)

theorem allocator?_changeAllocator_self :
    (m.changeAllocator id f).allocator? id = (m.allocator? id).map f := by
  unfold changeAllocator
  cases there : m.allocator? id with
  | none => exact there
  | some a => exact Slab.get?_set_self there

theorem allocator?_changeAllocator_of_ne (ne : other ≠ id) :
    (m.changeAllocator id f).allocator? other = m.allocator? other := by
  unfold changeAllocator
  cases m.allocator? id with
  | none => rfl
  | some a => exact Slab.get?_set_of_ne _ ne.symm

end Memory

namespace Machine

open Run

variable {m n : Machine} {id : AllocatorId}

/-- An allocator counts what was given back to it since, and is as it was otherwise. -/
def Repaid (id : AllocatorId) (m n : Machine) : Prop :=
  ∃ added, n.deeds = added ++ m.deeds ∧
    n.memory.allocator? id = (m.memory.allocator? id).map
      (·.repaid (added.countP (·.frees id)) (added.countP (·.retires id)))

/-- Nothing was given back. -/
theorem repaid_of_same (added : List StorageEvent) (deeds : n.deeds = added ++ m.deeds)
    (none : ∀ e ∈ added, e.frees id = false ∧ e.retires id = false)
    (same : n.memory.allocator? id = m.memory.allocator? id) : Repaid id m n := by
  refine ⟨added, deeds, ?_⟩
  have frees : added.countP (·.frees id) = 0 :=
    List.countP_eq_zero.2 fun e member freed => by
      rw [(none e member).1] at freed
      cases freed
  have retires : added.countP (·.retires id) = 0 :=
    List.countP_eq_zero.2 fun e member retired => by
      rw [(none e member).2] at retired
      cases retired
  rw [frees, retires, same, funext Allocator.repaid_zero]
  exact Option.map_id'.symm

instance (id : AllocatorId) : IsPreorder Machine (Repaid id) where
  refl m := repaid_of_same [] rfl (List.forall_mem_nil _) rfl
  trans m n o := by
    rintro ⟨added, deeds, same⟩ ⟨more, deeds', same'⟩
    refine ⟨more ++ added, by rw [deeds', deeds, List.append_assoc], ?_⟩
    rw [same', same, Option.map_map, List.countP_append, List.countP_append]
    congr 1
    funext a
    exact a.repaid_repaid _ _ _ _

theorem Undisturbed.repaid (h : m.Undisturbed n) : Repaid id m n :=
  repaid_of_same [] h.2 (List.forall_mem_nil _) (by rw [h.1])

/-- One deed, of which one allocator is told. -/
theorem repaid_of_count (other : AllocatorId) {e : StorageEvent} {memory : Memory} (d r : Nat)
    (taken : memory.allocators = (m.memory.changeAllocator other (·.repaid d r)).allocators)
    (frees : ∀ id, [e].countP (·.frees id) = if other = id then d else 0)
    (retires : ∀ id, [e].countP (·.retires id) = if other = id then r else 0) :
    Repaid id m { process := m.process.after (.storage e), memory := memory } := by
  refine ⟨[e], rfl, ?_⟩
  rw [frees, retires]
  show memory.allocators.get? id = _
  rw [taken]
  show (m.memory.changeAllocator other _).allocator? id = _
  by_cases same : id = other
  · subst same
    rw [if_pos rfl, if_pos rfl]
    exact Memory.allocator?_changeAllocator_self ..
  · rw [if_neg (Ne.symm same), if_neg (Ne.symm same), funext Allocator.repaid_zero,
      Memory.allocator?_changeAllocator_of_ne _ _ same]
    exact Option.map_id'.symm

theorem noteStorage_repaid {e : StorageEvent}
    (none : ∀ id, e.frees id = false ∧ e.retires id = false) :
    (noteStorage e).Keeps (Repaid id) :=
  fun _ => repaid_of_same [e] rfl (fun _ member => List.mem_singleton.1 member ▸ none id) rfl

theorem deallocate_repaid (other : AllocatorId) (address : Address) (l : Layout) :
    (deallocate other address l).Keeps (Repaid id) := by
  intro m
  refine repaid_of_count other 1 0 ?_ (fun id => ?_) fun id => ?_
  · rw [← funext Allocator.deallocate_eq_repaid]
    rfl
  · simp [StorageEvent.frees, List.countP_cons]
  · simp [StorageEvent.retires]

theorem retire_repaid (other : AllocatorId) (address : Address) (l : Layout) :
    (retire other address l).Keeps (Repaid id) := by
  intro m
  refine repaid_of_count other 0 1 ?_ (fun id => ?_) fun id => ?_
  · rw [← funext Allocator.retire_eq_repaid]
  · simp [StorageEvent.frees]
  · simp [StorageEvent.retires, List.countP_cons]

theorem beginDestruction_repaid (c : CellId) : (beginDestruction c).Keeps (Repaid id) := by
  intro m
  unfold beginDestruction
  cases m.memory.cell? c with
  | none => exact refl_of (Repaid id) m
  | some cell =>
    refine repaid_of_same [.destructionBegan c] rfl (fun e member => ?_) rfl
    rw [List.mem_singleton.1 member]
    exact ⟨rfl, rfl⟩

theorem advance_repaid (t : Task) : t.advance.Keeps (Repaid id) := by
  refine advance_keeps (fun _ _ c _ _ => ?_) beginDestruction_repaid
    (fun l => (announce_undisturbed l).mono fun _ _ => Undisturbed.repaid) t ?_
  · refine recount_keeps (fun _ _ => Undisturbed.repaid) (fun m c f => ?_) fun m cell _ _ _ => ?_
    · exact noteStorage_repaid (e := .miscounted c f) (fun _ => ⟨rfl, rfl⟩) m
    · exact repaid_of_same [] rfl (List.forall_mem_nil _) rfl
  · rintro a l c (rfl | rfl)
    · refine Keeps.bind (noteStorage_repaid fun _ => ⟨rfl, rfl⟩) fun _ => ?_
      refine Keeps.bind (Keeps.gets _) fun start => ?_
      exact Keeps.bind (deallocate_repaid a start l) fun _ => Keeps.pure _
    · refine Keeps.bind (noteStorage_repaid fun _ => ⟨rfl, rfl⟩) fun _ => ?_
      refine Keeps.bind (Keeps.gets _) fun start => ?_
      exact Keeps.bind (retire_repaid a start l) fun _ => Keeps.pure _

/-- Settling gives back to allocators, and does nothing else to them. -/
theorem drain_repaid (tasks : List Task) (panics : List Passage) :
    Run.Keeps (Repaid id) (drain tasks panics) := by
  refine drain_keeps advance_repaid (fun rest n => ?_) tasks panics
  refine repaid_of_same _ (deeds_noteFailures rest n) (fun e member => ?_) rfl
  obtain ⟨c, -, rfl⟩ := List.mem_map.1 (List.mem_reverse.1 member)
  exact ⟨rfl, rfl⟩

end Machine

end Custody
