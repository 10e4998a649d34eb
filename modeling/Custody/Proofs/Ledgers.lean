import Custody.Proofs.Silence
import Custody.Storage.Arena

/-!
# Counters and what they count

What an allocator hands out without a destructor is a loan: it is owned by itself, and is to be
given back. `outstanding id` lists the loans of a history that were neither given back nor written
off by a release, and `ledgerOf id` replays the history on counters that start at zero with the
allocator. `Machine.Audited` says of a machine that the counters of every allocator are those of
its history.

`Ledger.Balances` relates the two: every allocation that was counted is accounted for, as given
back, collected, written off, or outstanding.
-/

namespace Custody

/-- Storage that was handed out to be given back. -/
structure Loan where
  /-- Where it begins. -/
  address : Address
  /-- The layout that was asked for. -/
  layout : Layout
  deriving DecidableEq

/-- Every allocation is accounted for, where so many of them are outstanding. -/
def Ledger.Balances (l : Ledger) (outstanding : Nat) : Prop :=
  l.allocations.toNat = l.deallocations.toNat + l.retirements.toNat + l.collected.toNat +
    l.abandoned.toNat + outstanding

instance (l : Ledger) (outstanding : Nat) : Decidable (l.Balances outstanding) :=
  inferInstanceAs (Decidable (_ = _))

namespace StorageEvent

variable (id : AllocatorId)

/-- The counters of an allocator after an event. -/
def entered : StorageEvent → Ledger → Ledger
  | made a, l => if a = id then {} else l
  | granted a _ layout d, l => if a = id then l.allocate layout.size d.isSome else l
  | deallocated a _ _, l => if a = id then l.deallocate else l
  | retired a _ _, l => if a = id then l.retire else l
  | bulkReleased a leaked, l => if a = id then l.writeOff leaked else l
  | _, l => l

/-- Whether an event is entered in the counters of an allocator. -/
def isEntered : StorageEvent → Bool
  | made a | granted a _ _ _ | deallocated a _ _ | retired a _ _ | bulkReleased a _ => a == id
  | _ => false

/-- The loan that an event makes, if it makes one for an allocator. -/
def lent? : StorageEvent → Option Loan
  | granted a base l none => if a = id then some ⟨base, l⟩ else none
  | _ => none

/-- The loan that an event gives back, if it does to an allocator. -/
def repaid? : StorageEvent → Option Loan
  | deallocated a base l | retired a base l => if a = id then some ⟨base, l⟩ else none
  | _ => none

/-- Whether nothing is outstanding with an allocator after an event: it was made, or it wrote all
off. -/
def settles : StorageEvent → Bool
  | made a | bulkReleased a _ => a == id
  | _ => false

/-- Whether an event is one of those that a release is made of until it is counted. -/
def isOfRelease : StorageEvent → Bool
  | deallocated .. | retired .. | destructionBegan _ | destructionFailed _ | handedBack _
  | miscounted .. | collectedRun .. | chunkReleased .. => true
  | _ => false

end StorageEvent

section Histories

variable (id : AllocatorId)

/-- The counters of an allocator as a history has them. -/
def ledgerOf (deeds : List StorageEvent) : Ledger := deeds.foldr (·.entered id) {}

/-- The loans that were neither given back nor written off, newest first. -/
def outstanding : List StorageEvent → List Loan
  | [] => []
  | e :: older =>
    if e.settles id then []
    else
      match e.repaid? id with
      | some loan => (outstanding older).erase loan
      | none => (e.lent? id).toList ++ outstanding older

end Histories

/-! ## Events of an allocator itself -/

namespace StorageEvent

variable (id : AllocatorId) (address : Address) (layout : Layout) (l : Ledger)

@[simp] theorem entered_made : (made id).entered id l = {} := if_pos rfl

@[simp] theorem entered_granted (d : Option Destructor) :
    (granted id address layout d).entered id l = l.allocate layout.size d.isSome := if_pos rfl

@[simp] theorem entered_deallocated :
    (deallocated id address layout).entered id l = l.deallocate := if_pos rfl

@[simp] theorem entered_retired : (retired id address layout).entered id l = l.retire := if_pos rfl

@[simp] theorem entered_bulkReleased (leaked : Word) :
    (bulkReleased id leaked).entered id l = l.writeOff leaked := if_pos rfl

@[simp] theorem lent?_granted :
    (granted id address layout none).lent? id = some ⟨address, layout⟩ := if_pos rfl

@[simp] theorem repaid?_deallocated :
    (deallocated id address layout).repaid? id = some ⟨address, layout⟩ := if_pos rfl

@[simp] theorem repaid?_retired :
    (retired id address layout).repaid? id = some ⟨address, layout⟩ := if_pos rfl

end StorageEvent

/-! ## Events that are not entered -/

namespace StorageEvent

variable {id : AllocatorId} {e : StorageEvent} (h : e.isEntered id = false)

include h

theorem entered_of_isEntered (l : Ledger) : e.entered id l = l := by
  cases e with
  | made a => exact if_neg (beq_eq_false_iff_ne.1 h)
  | granted a base layout d => exact if_neg (beq_eq_false_iff_ne.1 h)
  | deallocated a base layout => exact if_neg (beq_eq_false_iff_ne.1 h)
  | retired a base layout => exact if_neg (beq_eq_false_iff_ne.1 h)
  | bulkReleased a leaked => exact if_neg (beq_eq_false_iff_ne.1 h)
  | _ => rfl

theorem lent?_of_isEntered : e.lent? id = none := by
  cases e with
  | granted a base layout d =>
    cases d with
    | none => exact if_neg (beq_eq_false_iff_ne.1 h)
    | some d => rfl
  | _ => rfl

theorem repaid?_of_isEntered : e.repaid? id = none := by
  cases e with
  | deallocated a base layout => exact if_neg (beq_eq_false_iff_ne.1 h)
  | retired a base layout => exact if_neg (beq_eq_false_iff_ne.1 h)
  | _ => rfl

theorem settles_of_isEntered : e.settles id = false := by
  cases e with
  | made a => exact h
  | bulkReleased a leaked => exact h
  | _ => rfl

end StorageEvent

section Cons

variable {id : AllocatorId} {e : StorageEvent} {older : List StorageEvent}

theorem outstanding_cons_of_settles (h : e.settles id = true) :
    outstanding id (e :: older) = [] := by
  rw [outstanding, if_pos h]

theorem outstanding_cons_of_repaid {loan : Loan} (settles : e.settles id = false)
    (repaid : e.repaid? id = some loan) :
    outstanding id (e :: older) = (outstanding id older).erase loan := by
  rw [outstanding, if_neg (by simp [settles]), repaid]

theorem outstanding_cons (settles : e.settles id = false) (repaid : e.repaid? id = none) :
    outstanding id (e :: older) = (e.lent? id).toList ++ outstanding id older := by
  rw [outstanding, if_neg (by simp [settles]), repaid]

end Cons

section Unentered

open StorageEvent

variable (id : AllocatorId) {added : List StorageEvent} (older : List StorageEvent)
  (others : ∀ e ∈ added, e.isEntered id = false)

include others

theorem ledgerOf_append : ledgerOf id (added ++ older) = ledgerOf id older := by
  induction added with
  | nil => rfl
  | cons e rest ih =>
    have first := others e (List.mem_cons_self ..)
    show e.entered id (ledgerOf id (rest ++ older)) = _
    rw [entered_of_isEntered first]
    exact ih fun f member => others f (List.mem_cons_of_mem _ member)

end Unentered

/-! ## Machines whose counters are right -/

namespace Machine

/-- The counters of every allocator are those of its history. -/
def Audited (m : Machine) : Prop :=
  ∀ id a, m.memory.allocator? id = some a → a.ledger = ledgerOf id m.deeds

variable {m n : Machine}

theorem Audited.arena (audited : m.Audited) {id : AllocatorId} {a : Arena}
    (there : m.memory.arena? id = some a) : a.ledger = ledgerOf id m.deeds := by
  obtain ⟨allocator, found, is⟩ := Option.bind_eq_some_iff.1 there
  cases allocator with
  | heap l => cases is
  | arena b =>
    cases is
    exact audited id _ found

/-- What happens to no allocator and is not entered changes nothing. -/
theorem Audited.kept {added : List StorageEvent} (audited : m.Audited)
    (allocators : ∀ id a, n.memory.allocator? id = some a →
      ∃ b, m.memory.allocator? id = some b ∧ b.ledger = a.ledger)
    (deeds : n.deeds = added ++ m.deeds)
    (others : ∀ id a, m.memory.allocator? id = some a → ∀ e ∈ added, e.isEntered id = false) :
    n.Audited := by
  intro id a there
  obtain ⟨b, before, same⟩ := allocators id a there
  rw [deeds, ledgerOf_append id _ (others id b before), ← same]
  exact audited id b before

/-- Nothing happens to allocators. -/
theorem Audited.note (audited : m.Audited) {e : StorageEvent}
    (other : ∀ id, e.isEntered id = false) (allocators : n.memory.allocators = m.memory.allocators)
    (deeds : n.deeds = e :: m.deeds) : n.Audited := by
  have deeds : n.deeds = [e] ++ m.deeds := deeds
  refine audited.kept (fun id a there => ⟨a, ?_, rfl⟩) deeds ?_
  · unfold Memory.allocator?
    rw [← allocators]
    exact there
  · intro id _ _ f member
    rw [List.mem_singleton.1 member]
    exact other id

/-- One allocator and its history moved on together. -/
theorem Audited.moveOn (audited : m.Audited) {id : AllocatorId} {a b : Allocator}
    {added : List StorageEvent} (found : m.memory.allocator? id = some a)
    (allocators : n.memory.allocators = m.memory.allocators.set id b)
    (deeds : n.deeds = added ++ m.deeds)
    (others : ∀ other, other ≠ id → ∀ e ∈ added, e.isEntered other = false)
    (ledger : b.ledger = ledgerOf id n.deeds) : n.Audited := by
  intro other c now
  have now : n.memory.allocators.get? other = some c := now
  rw [allocators] at now
  by_cases same : other = id
  · subst same
    rw [Slab.get?_set_self found] at now
    cases now
    exact ledger
  · rw [Slab.get?_set_of_ne _ (Ne.symm same)] at now
    rw [deeds, ledgerOf_append other _ (others other same)]
    exact audited other c now

/-- What is entered in the counters of an allocator is done to them. -/
theorem Audited.enter (audited : m.Audited) {id : AllocatorId} {e : StorageEvent}
    {f : Allocator → Allocator} (entered : ∀ a, (f a).ledger = e.entered id a.ledger)
    (other : ∀ id', id' ≠ id → e.isEntered id' = false) :
    Audited
      { process := m.process.after (.storage e), memory := m.memory.changeAllocator id f } := by
  unfold Memory.changeAllocator
  cases found : m.memory.allocator? id with
  | none =>
    refine audited.kept (fun id' a there => ⟨a, there, rfl⟩) (rfl : _ = [e] ++ m.deeds) ?_
    intro id' a there e' member
    rw [List.mem_singleton.1 member]
    refine other id' fun same => ?_
    rw [same, found] at there
    cases there
  | some a =>
    refine audited.moveOn found rfl (rfl : _ = [e] ++ m.deeds) ?_ ?_
    · intro id' ne e' member
      rw [List.mem_singleton.1 member]
      exact other id' ne
    · rw [entered, audited id a found]
      rfl

end Machine

end Custody
