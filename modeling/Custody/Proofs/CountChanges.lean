import Custody.Proofs.Sharing

/-!
# What a failed count leaves, and how far counts go

Seven operations change the counts of a control block, and each can fail: to take on a reference
would carry a count beyond its limit, or there is no reference to give up. `CountChange` names them.
`CountChange.perform` is what they do in a machine, where a failure is reported before it unwinds,
and `CountChange.act` is what they do to the block. `CountChange.Does` lists all that this can be,
and everything else is derived from it.

Two questions are asked of all seven at once.

* *What does a failure leave?* The counts as they were, so that whatever is asked of the block later
  is answered as before, with one exception: a strong group takes a reference that is given up from
  the count before it looks at the count, so that a count of zero wraps around and stays so
  (`CountChange.perform_fault_iff`).
* *How far does a count go?* On one thread up to `maxRefCount`: there the count that would be
  reached is compared with it. A strong group compares the count that it had, and so goes one
  further (`CountChange.counts_bounded_iff`).
-/

namespace Custody

/-- A change to the counts of a control block. -/
inductive CountChange
  | incrementStrong
  | decrementStrong
  | incrementWeak
  | decrementWeak
  | tryUpgrade
  | incrementLocal
  | decrementLocal
  deriving DecidableEq

/-- The answer of a counting operation, as one that may be none. -/
def answering {α : Type} (told : α → Option Bool) (counted : BlockState × Except CountFault α) :
    BlockState × Except CountFault (Option Bool) :=
  (counted.1, counted.2.map told)

namespace CountChange

variable {change : CountChange} {s : BlockState} {count : Word}

/-- What a change makes of a block, and its answer. To take on a reference answers nothing. -/
def act : CountChange → BlockState → BlockState × Except CountFault (Option Bool)
  | incrementStrong, s => answering (fun _ => none) s.incrementStrong
  | decrementStrong, s => answering some s.decrementStrong
  | incrementWeak, s => answering (fun _ => none) s.incrementWeak
  | decrementWeak, s => answering some s.decrementWeak
  | tryUpgrade, s => answering some s.tryUpgrade
  | incrementLocal, s => answering (fun _ => none) s.incrementLocal
  | decrementLocal, s => answering some s.decrementLocal

/-- Change the counts of the control block of a cell. -/
def perform (c : CellId) : CountChange → Run Machine (Option Bool)
  | incrementStrong => do Machine.recount c BlockState.incrementStrong; return none
  | decrementStrong => return some (← Machine.recount c BlockState.decrementStrong)
  | incrementWeak => do Machine.recount c BlockState.incrementWeak; return none
  | decrementWeak => return some (← Machine.recount c BlockState.decrementWeak)
  | tryUpgrade => return some (← Machine.recount c BlockState.tryUpgrade)
  | incrementLocal => do Machine.recount c BlockState.incrementLocal; return none
  | decrementLocal => return some (← Machine.recount c BlockState.decrementLocal)

/-! ## All that a change can do -/

/-- The count that a change is to raise. An upgrade raises no count of zero. -/
def raised? : CountChange → BlockState → Option Word
  | incrementStrong, .strong s _ => some s
  | incrementWeak, .strong _ w => some w
  | tryUpgrade, .strong s _ => if s = 0 then none else some s
  | incrementLocal, .handle c => some c
  | _, _ => none

/-- The count that a change is to lower. -/
def lowered? : CountChange → BlockState → Option Word
  | decrementStrong, .strong s _ => some s
  | decrementWeak, .strong _ w => some w
  | decrementLocal, .handle c => some c
  | _, _ => none

/-- The block with the count replaced that a change is about. -/
def recounted : CountChange → BlockState → Word → BlockState
  | incrementStrong, .strong _ w, count | decrementStrong, .strong _ w, count
  | tryUpgrade, .strong _ w, count => .strong count w
  | incrementWeak, .strong s _, count | decrementWeak, .strong s _, count => .strong s count
  | incrementLocal, .handle _, count | decrementLocal, .handle _, count => .handle count
  | _, s, _ => s

/-- The greatest count that a change reaches when it raises one. -/
def limit : CountChange → Nat
  | incrementLocal => maxRefCount.toNat
  | _ => maxRefCount.toNat + 1

/-- A change gives up a reference of a strong group that has none. -/
def Underflows (change : CountChange) (s : BlockState) : Prop :=
  change.lowered? s = some 0 ∧ change ≠ decrementLocal

instance (change : CountChange) (s : BlockState) : Decidable (change.Underflows s) :=
  inferInstanceAs (Decidable (_ ∧ _))

/-- All that a change can make of a block, and answer. -/
inductive Does (change : CountChange) (s : BlockState) :
    BlockState → Except CountFault (Option Bool) → Prop
  /-- The block belongs to another kind of group. -/
  | strange (needed : BlockOwner) (raises : change.raised? s = none)
      (lowers : change.lowered? s = none) : Does change s s (.error (.wrongGroup needed))
  /-- There is no value any more that an observer could be upgraded to. -/
  | gone (raises : change.raised? s = none) (lowers : change.lowered? s = none) :
      Does change s s (.ok (some false))
  | raised {count : Word} (answer : Option Bool) (raises : change.raised? s = some count)
      (room : count.toNat + 1 ≤ change.limit) :
      Does change s (change.recounted s (count + 1)) (.ok answer)
  | full {count : Word} (raises : change.raised? s = some count)
      (beyond : change.limit < count.toNat + 1) : Does change s s (.error .overflow)
  | lowered {count : Word} (lowers : change.lowered? s = some count) (some : count ≠ 0) :
      Does change s (change.recounted s (count - 1)) (.ok (count == 1))
  /-- A count on one thread is looked at before it is lowered. -/
  | kept (lowers : change.lowered? s = some 0) (one : change = decrementLocal) :
      Does change s s (.error .doubleFree)
  /-- A count of a strong group is lowered before it is looked at. -/
  | wrapped (underflows : change.Underflows s) :
      Does change s (change.recounted s (0 - 1)) (.error .doubleFree)

theorem raised_eq_some_iff {more : Word} :
    BlockState.raised count = some more ↔
      count.toNat + 1 ≤ maxRefCount.toNat + 1 ∧ count + 1 = more := by
  unfold BlockState.raised
  by_cases room : count ≤ maxRefCount
  · rw [if_pos room, Option.some.injEq]
    exact (and_iff_right (Nat.succ_le_succ (UInt64.le_iff_toNat_le.1 room))).symm
  · rw [if_neg room]
    exact iff_of_false nofun fun h => room (UInt64.le_iff_toNat_le.2 (Nat.le_of_succ_le_succ h.1))

theorem raised_eq_none_iff :
    BlockState.raised count = none ↔ maxRefCount.toNat + 1 < count.toNat + 1 := by
  rw [Option.eq_none_iff_forall_ne_some]
  simp only [ne_eq, raised_eq_some_iff, not_and]
  exact ⟨fun h => Nat.lt_of_not_le fun room => h _ room rfl,
    fun beyond _ room => absurd room (Nat.not_le.2 beyond)⟩

/-- A count of a strong group is raised unless it is above the limit already. -/
private theorem Does.of_raised (answer : Option Bool) (raises : change.raised? s = some count)
    (limit : change.limit = maxRefCount.toNat + 1)
    (more : ∀ n, BlockState.raised count = some n →
      change.act s = (change.recounted s n, .ok answer))
    (none : BlockState.raised count = none → change.act s = (s, .error .overflow)) :
    change.Does s (change.act s).1 (change.act s).2 := by
  cases attempt : BlockState.raised count with
  | some n =>
    obtain ⟨room, rfl⟩ := raised_eq_some_iff.1 attempt
    rw [more _ attempt]
    exact .raised answer raises (limit ▸ room)
  | none =>
    rw [none attempt]
    exact .full raises (limit ▸ raised_eq_none_iff.1 attempt)

/-- A count of a strong group is lowered in any case. -/
private theorem Does.of_lowered (lowers : change.lowered? s = some count)
    (shared : change ≠ decrementLocal)
    (done : change.act s =
      (change.recounted s (count - 1), (BlockState.loweredAnswer count).map some)) :
    change.Does s (change.act s).1 (change.act s).2 := by
  rw [done]
  by_cases zero : count = 0
  · subst zero
    exact .wrapped ⟨lowers, shared⟩
  · have answered : BlockState.loweredAnswer count = .ok (count == 1) := by
      unfold BlockState.loweredAnswer
      by_cases one : count = 1
      · rw [if_pos one, one]
        rfl
      · rw [if_neg one, if_neg zero, beq_false_of_ne one]
    rw [answered]
    exact .lowered lowers zero

/-- A change does one of the things that are listed. -/
theorem does_act (change : CountChange) (s : BlockState) :
    change.Does s (change.act s).1 (change.act s).2 := by
  cases change with
  | incrementStrong =>
    cases s with
    | strong s w =>
      refine .of_raised none rfl rfl (fun n more => ?_) fun full => ?_
      · simp only [act, answering, BlockState.incrementStrong, more]
        rfl
      · simp only [act, answering, BlockState.incrementStrong, full]
        rfl
    | _ => exact .strange .strong rfl rfl
  | incrementWeak =>
    cases s with
    | strong s w =>
      refine .of_raised none rfl rfl (fun n more => ?_) fun full => ?_
      · simp only [act, answering, BlockState.incrementWeak, more]
        rfl
      · simp only [act, answering, BlockState.incrementWeak, full]
        rfl
    | _ => exact .strange .strong rfl rfl
  | tryUpgrade =>
    cases s with
    | strong s w =>
      by_cases gone : s = 0
      · have refused : act .tryUpgrade (.strong s w) = (.strong s w, .ok (some false)) := by
          simp only [act, answering, BlockState.tryUpgrade, if_pos gone]
          rfl
        rw [refused]
        exact .gone (if_pos gone) rfl
      · refine .of_raised (some true) (if_neg gone) rfl (fun n more => ?_) fun full => ?_
        · simp only [act, answering, BlockState.tryUpgrade, if_neg gone, more]
          rfl
        · simp only [act, answering, BlockState.tryUpgrade, if_neg gone, full]
          rfl
    | _ => exact .strange .strong rfl rfl
  | incrementLocal =>
    cases s with
    | handle count =>
      have room_iff : count < maxRefCount ↔ count.toNat + 1 ≤ limit .incrementLocal :=
        UInt64.lt_iff_toNat_lt
      by_cases room : count < maxRefCount
      · have done : act .incrementLocal (.handle count) = (.handle (count + 1), .ok none) := by
          simp only [act, answering, BlockState.incrementLocal, if_pos room]
          rfl
        rw [done]
        exact .raised none rfl (room_iff.1 room)
      · have done : act .incrementLocal (.handle count) = (.handle count, .error .overflow) := by
          simp only [act, answering, BlockState.incrementLocal, if_neg room]
          rfl
        rw [done]
        exact .full rfl (Nat.lt_of_not_le fun h => room (room_iff.2 h))
    | _ => exact .strange .handle rfl rfl
  | decrementStrong =>
    cases s with
    | strong s w => exact .of_lowered rfl (by decide) rfl
    | _ => exact .strange .strong rfl rfl
  | decrementWeak =>
    cases s with
    | strong s w => exact .of_lowered rfl (by decide) rfl
    | _ => exact .strange .strong rfl rfl
  | decrementLocal =>
    cases s with
    | handle count =>
      by_cases zero : count = 0
      · subst zero
        exact .kept rfl rfl
      · have done : act .decrementLocal (.handle count) =
            (.handle (count - 1), .ok (count == 1)) := by
          simp only [act, answering, BlockState.decrementLocal, if_neg zero]
          rfl
        rw [done]
        exact .lowered rfl zero
    | _ => exact .strange .handle rfl rfl

/-! ## What a failure leaves -/

/-- A change that raises a count does not lower one. -/
theorem lowered?_of_raised? (raises : change.raised? s = some count) :
    change.lowered? s = none := by
  cases change <;> first | rfl | cases raises

theorem not_underflows (lowers : change.lowered? s = none) : ¬ change.Underflows s := by
  intro underflows
  cases lowers.symm.trans underflows.1

/-- A change that fails leaves the block as it was, unless there was no reference to give up. -/
theorem Does.of_error {after : BlockState} {fault : CountFault}
    (done : change.Does s after (.error fault)) :
    (¬ change.Underflows s ∧ after = s) ∨
      (change.Underflows s ∧ fault = .doubleFree ∧ after = change.recounted s (0 - 1)) := by
  cases done with
  | strange needed raises lowers =>
    exact .inl ⟨not_underflows lowers, rfl⟩
  | full raises beyond => exact .inl ⟨not_underflows (lowered?_of_raised? raises), rfl⟩
  | kept lowers one => exact .inl ⟨fun h => h.2 one, rfl⟩
  | wrapped underflows => exact .inr ⟨underflows, rfl, rfl⟩

/-- There are two ways to give up a reference of a strong group that has none. -/
theorem Underflows.cases (h : change.Underflows s) :
    (∃ w, change = decrementStrong ∧ s = .strong 0 w) ∨
      ∃ t, change = decrementWeak ∧ s = .strong t 0 := by
  obtain ⟨lowers, shared⟩ := h
  cases change with
  | decrementStrong =>
    cases s with
    | strong s w =>
      cases lowers
      exact .inl ⟨w, rfl, rfl⟩
    | _ => cases lowers
  | decrementWeak =>
    cases s with
    | strong s w =>
      cases lowers
      exact .inr ⟨s, rfl, rfl⟩
    | _ => cases lowers
  | decrementLocal => exact absurd rfl shared
  | _ => cases lowers

/-- The same change is let through once the count wrapped around. -/
theorem Underflows.again (h : change.Underflows s) :
    (change.act (change.recounted s (0 - 1))).2 = .ok (some false) := by
  obtain ⟨w, rfl, rfl⟩ | ⟨t, rfl, rfl⟩ := h.cases
  · rfl
  · rfl

/-- The block before each of some changes, one after another, where failures are caught. -/
def steps : List CountChange → BlockState → List (BlockState × CountChange)
  | [], _ => []
  | change :: later, s => (s, change) :: steps later (change.act s).1

/-- What is seen of a block: how many owners and observers there are before each change, and what
it answers. -/
def told (changes : List CountChange) (s : BlockState) :
    List (Word × Word × Except CountFault (Option Bool)) :=
  (steps changes s).map fun step => (step.1.owners, step.1.observers, (step.2.act step.1).2)

section Machine

variable {m : Machine} {c : CellId} {cell : Cell} {fault : CountFault}

private theorem counted_failed {α : Type} [Inhabited α] {answer : α → Option Bool}
    {operation : BlockState → BlockState × Except CountFault α}
    (found : m.memory.cell? c = some cell) (state : cell.state = some s)
    (failed : (answering answer (operation s)).2 = .error fault) :
    ((do return answer (← Machine.recount c operation) : Run Machine (Option Bool)) m).returns =
        false ∧
      ((do return answer (← Machine.recount c operation) : Run Machine _) m).state.memory =
        (m.withState c cell (operation s).1).memory := by
  rcases counted : operation s with ⟨after, result⟩
  rw [counted] at failed
  cases result with
  | ok a => cases failed
  | error fault =>
    rw [Run.returns_bind_pure, Run.state_bind_pure, Machine.recount_error found state counted]
    exact ⟨(Machine.miscount_noted c cell.kind s fault _).not_returns,
      (Machine.countFailed_undisturbed cell.kind s fault
        ((m.withState c cell after).miscounted c fault)).1⟩

/-- A change that fails does not return, and leaves in memory what it made of the block. -/
theorem perform_failed (found : m.memory.cell? c = some cell) (state : cell.state = some s)
    (failed : (change.act s).2 = .error fault) :
    (change.perform c m).returns = false ∧
      (change.perform c m).state.memory = (m.withState c cell (change.act s).1).memory := by
  cases change with
  | _ => exact counted_failed found state failed

/-- **A failure to count leaves the counts as they were, unless it is to give up a reference of a
strong group that has none.** Where they are as they were, whatever is done later sees and answers
the same as it would have before. Otherwise it is a double free that failed, the count has wrapped
around, and the same double free is let through the next time. -/
theorem perform_fault_iff (found : m.memory.cell? c = some cell) (state : cell.state = some s)
    (failed : (change.act s).2 = .error fault) :
    (change.perform c m).returns = false ∧
      (change.perform c m).state.memory = (m.withState c cell (change.act s).1).memory ∧
      ((change.act s).1 = s ↔ ¬ change.Underflows s) ∧
      ((∀ later, told later (change.act s).1 = told later s) ↔ ¬ change.Underflows s) ∧
      (change.Underflows s → fault = .doubleFree ∧
        (change.act s).1 = change.recounted s (0 - 1) ∧
        (change.act (change.act s).1).2 = .ok (some false)) := by
  obtain ⟨never, left⟩ := perform_failed found state failed
  have done := change.does_act s
  rw [failed] at done
  refine ⟨never, left, ?_⟩
  obtain ⟨safe, same⟩ | ⟨underflows, free, wrapped⟩ := done.of_error
  · refine ⟨iff_of_true same safe, iff_of_true (fun later => ?_) safe, fun h => absurd h safe⟩
    rw [same]
  · rw [wrapped]
    -- The same change again fails before the wrap and goes through after it.
    have different : told [change] (change.recounted s (0 - 1)) ≠ told [change] s := by
      intro alike
      have answers := congrArg (List.map fun seen => seen.2.2) alike
      simp only [told, steps, List.map_cons, List.map_nil, List.cons.injEq] at answers
      rw [underflows.again, failed] at answers
      cases answers.1
    refine ⟨iff_of_false (fun same => ?_) (not_not_intro underflows),
      iff_of_false (fun alike => different (alike _)) (not_not_intro underflows),
      fun _ => ⟨free, rfl, underflows.again⟩⟩
    rw [same] at different
    exact different rfl

end Machine

/-- A cell whose value is gone, with an observer that keeps the block. -/
def ownerlessCell : Cell :=
  { (default : Cell) with home := some systemAllocator, state := some (.strong 0 1) }

/-- A machine with nothing else in it. -/
def ownerless : Machine := { memory := { cells := ⟨[some ownerlessCell]⟩ } }

theorem perform_fault_iff_ownerless :
    ownerless.memory.cell? 0 = some ownerlessCell ∧
      ownerlessCell.state = some (.strong 0 1) ∧
      (decrementStrong.act (.strong 0 1)).2 = .error .doubleFree ∧
      (decrementStrong.perform 0 ownerless).returns = false ∧
      (decrementStrong.act (.strong 0 1)).1 = .strong 18446744073709551615 1 ∧
      ¬ ∀ later, told later (decrementStrong.act (.strong 0 1)).1 = told later (.strong 0 1) := by
  obtain ⟨never, -, -, alike, -⟩ :=
    perform_fault_iff (m := ownerless) (c := 0) rfl rfl
      (show (decrementStrong.act (.strong 0 1)).2 = .error .doubleFree from rfl)
  exact ⟨rfl, rfl, rfl, never, rfl, fun same => alike.1 same (by decide)⟩

/-- A failure changes the counts of a group that has no owner any more. -/
theorem not_fault_keeps_counts :
    ¬ ∀ (change : CountChange) (s : BlockState) (fault : CountFault),
      (change.act s).2 = .error fault → (change.act s).1 = s := by
  intro keeps
  have kept := keeps decrementStrong (.strong 0 1) .doubleFree rfl
  exact absurd kept (by decide)

/-! ## How far a count goes -/

variable {after : BlockState} {answer : Except CountFault (Option Bool)}

/-- A change that is to raise a count succeeds if the count that it would reach is within its
limit, and otherwise the count overflows and stays what it is. -/
theorem Does.raises_iff (done : change.Does s after answer)
    (raises : change.raised? s = some count) :
    ((∃ told, answer = .ok told) ↔ count.toNat + 1 ≤ change.limit) ∧
      (change.limit < count.toNat + 1 → after = s ∧ answer = .error .overflow) := by
  have lowers := lowered?_of_raised? raises
  cases done with
  | strange needed raises' => cases raises.symm.trans raises'
  | gone raises' => cases raises.symm.trans raises'
  | raised answer raises' room =>
    cases raises.symm.trans raises'
    exact ⟨iff_of_true ⟨answer, rfl⟩ room, fun beyond => absurd room (Nat.not_le.2 beyond)⟩
  | full raises' beyond =>
    cases raises.symm.trans raises'
    exact ⟨iff_of_false nofun (Nat.not_le.2 beyond), fun _ => ⟨rfl, rfl⟩⟩
  | lowered lowers' => cases lowers.symm.trans lowers'
  | kept lowers' => cases lowers.symm.trans lowers'
  | wrapped underflows => exact absurd underflows (not_underflows lowers)

end CountChange

namespace BlockState

/-- The counts of a control block. -/
def counts : BlockState → List Word
  | strong s w => [s, w]
  | handle count => [count]
  | _ => []

/-- No count is greater than a bound. -/
def Within (bound : Nat) (s : BlockState) : Prop := ∀ count ∈ s.counts, count.toNat ≤ bound

instance (bound : Nat) (s : BlockState) : Decidable (s.Within bound) :=
  List.decidableBAll (fun count : Word => count.toNat ≤ bound) s.counts

end BlockState

namespace CountChange

variable {change : CountChange} {s after : BlockState} {count : Word} {bound : Nat}
  {answer : Except CountFault (Option Bool)}

/-- A change carries a count beyond `maxRefCount`: it gives up a reference that is not there, or
it takes on one more in a strong group that counts so many already. -/
def Overshoots (change : CountChange) (s : BlockState) : Prop :=
  change.Underflows s ∨ (change.raised? s = some maxRefCount ∧ change ≠ incrementLocal)

instance (change : CountChange) (s : BlockState) : Decidable (change.Overshoots s) :=
  inferInstanceAs (Decidable (_ ∨ _))

theorem limit_of_ne (shared : change ≠ incrementLocal) :
    change.limit = maxRefCount.toNat + 1 := by
  cases change <;> first | rfl | exact absurd rfl shared

theorem limit_le : change.limit ≤ maxRefCount.toNat + 1 := by
  cases change <;> first | exact Nat.le_refl _ | exact Nat.le_succ _

theorem toNat_succ (small : count.toNat ≤ maxRefCount.toNat) :
    (count + 1).toNat = count.toNat + 1 := by
  have limit : maxRefCount.toNat = 9223372036854775807 := rfl
  rw [UInt64.toNat_add]
  exact Nat.mod_eq_of_lt (show count.toNat + 1 < 2 ^ 64 by omega)

theorem toNat_pred_le (some : count ≠ 0) : (count - 1).toNat ≤ count.toNat := by
  rw [← Word.toNat_pred some]
  exact Nat.le_succ _

/-- The count that a change is about is one of the counts of the block. -/
theorem mem_counts (about : change.raised? s = some count ∨ change.lowered? s = some count) :
    count ∈ s.counts := by
  cases change <;> cases s <;>
    simp_all [raised?, lowered?, BlockState.counts]

theorem owner_recounted (s : BlockState) (other : Word) :
    (change.recounted s other).owner = s.owner := by
  cases change <;> cases s <;> rfl

/-- The other count, if there is one, stays as it is. -/
theorem within_recounted (about : change.raised? s = some count ∨ change.lowered? s = some count)
    (within : s.Within bound) (other : Word) :
    (change.recounted s other).Within bound ↔ other.toNat ≤ bound := by
  cases change <;> cases s <;>
    simp_all [raised?, lowered?, recounted, BlockState.Within, BlockState.counts]

/-- From counts within `maxRefCount`, a change leads beyond it just if it overshoots. -/
theorem Does.within_iff (done : change.Does s after answer)
    (within : s.Within maxRefCount.toNat) :
    after.Within maxRefCount.toNat ↔ ¬ change.Overshoots s := by
  cases done with
  | strange needed raises lowers | gone raises lowers =>
    refine iff_of_true within ?_
    rintro (underflows | ⟨full, -⟩)
    · exact not_underflows lowers underflows
    · cases raises.symm.trans full
  | @raised count answer raises room =>
    -- The count that is reached is one more, which is too many just if it was `maxRefCount`.
    rw [within_recounted (.inl raises) within]
    have small : count.toNat ≤ maxRefCount.toNat := within count (mem_counts (.inl raises))
    have next : (count + 1).toNat = count.toNat + 1 := toNat_succ small
    constructor
    · rintro reached (underflows | ⟨full, -⟩)
      · exact not_underflows (lowered?_of_raised? raises) underflows
      · cases raises.symm.trans full
        omega
    · intro stays
      by_contra beyond
      have full : count = maxRefCount := UInt64.toNat_inj.1 (by omega)
      subst full
      refine stays (.inr ⟨raises, ?_⟩)
      rintro rfl
      exact absurd room (Nat.not_succ_le_self _)
  | @full count raises beyond =>
    refine iff_of_true within ?_
    have small : count.toNat ≤ maxRefCount.toNat := within count (mem_counts (.inl raises))
    rintro (underflows | ⟨-, shared⟩)
    · exact not_underflows (lowered?_of_raised? raises) underflows
    · rw [limit_of_ne shared] at beyond
      omega
  | @lowered count lowers some =>
    rw [within_recounted (.inr lowers) within]
    have small : count.toNat ≤ maxRefCount.toNat := within count (mem_counts (.inr lowers))
    refine iff_of_true (Nat.le_trans (toNat_pred_le some) small) ?_
    rintro (⟨none, -⟩ | ⟨full, -⟩)
    · cases lowers.symm.trans none
      exact some rfl
    · cases lowers.symm.trans (lowered?_of_raised? full)
  | kept lowers one =>
    refine iff_of_true within ?_
    rintro (⟨-, shared⟩ | ⟨full, -⟩)
    · exact shared one
    · cases lowers.symm.trans (lowered?_of_raised? full)
  | wrapped underflows =>
    rw [within_recounted (.inr underflows.1) within]
    exact iff_of_false (by decide) (not_not_intro (.inl underflows))

/-- As long as no reference is given up that is not there, a count is at most one beyond
`maxRefCount`. -/
theorem Does.within_succ (done : change.Does s after answer) (sound : ¬ change.Underflows s)
    (within : s.Within (maxRefCount.toNat + 1)) : after.Within (maxRefCount.toNat + 1) := by
  cases done with
  | raised answer raises room =>
    rw [within_recounted (.inl raises) within]
    exact Nat.le_trans (Word.toNat_succ_le _) (Nat.le_trans room limit_le)
  | @lowered count lowers some =>
    rw [within_recounted (.inr lowers) within]
    exact Nat.le_trans (toNat_pred_le some) (within count (mem_counts (.inr lowers)))
  | wrapped underflows => exact absurd underflows sound
  | _ => exact within

/-- Only strong groups overshoot. -/
theorem Overshoots.owner (h : change.Overshoots s) : s.owner = .strong := by
  obtain underflows | ⟨raises, shared⟩ := h
  · obtain ⟨w, -, rfl⟩ | ⟨t, -, rfl⟩ := underflows.cases
    · rfl
    · rfl
  · cases change with
    | incrementLocal => exact absurd rfl shared
    | _ => cases s <;> first | rfl | cases raises

theorem Does.owner (done : change.Does s after answer) : after.owner = s.owner := by
  cases done with
  | raised | lowered | wrapped => exact owner_recounted s _
  | _ => rfl

/-- From counts within `maxRefCount`, all counts stay within it just if no change overshoots. -/
theorem steps_within_iff (changes : List CountChange) (within : s.Within maxRefCount.toNat) :
    (∀ step ∈ steps changes s, (step.2.act step.1).1.Within maxRefCount.toNat) ↔
      ∀ step ∈ steps changes s, ¬ step.2.Overshoots step.1 := by
  -- What a step leaves is within the limit again, or it is the first that overshoots.
  induction changes generalizing s with
  | nil => simp [steps]
  | cons change later ih =>
    simp only [steps, List.forall_mem_cons]
    have step := (change.does_act s).within_iff within
    rw [step]
    exact and_congr_right fun stays => ih (step.2 stays)

theorem steps_within_succ (changes : List CountChange)
    (within : s.Within (maxRefCount.toNat + 1))
    (sound : ∀ step ∈ steps changes s, ¬ step.2.Underflows step.1) :
    ∀ step ∈ steps changes s, (step.2.act step.1).1.Within (maxRefCount.toNat + 1) := by
  induction changes generalizing s with
  | nil => simp [steps]
  | cons change later ih =>
    simp only [steps, List.forall_mem_cons] at sound ⊢
    have next := (change.does_act s).within_succ sound.1 within
    exact ⟨next, ih next sound.2⟩

theorem owner_of_mem_steps {changes : List CountChange} {step : BlockState × CountChange}
    (taken : step ∈ steps changes s) : step.1.owner = s.owner := by
  induction changes generalizing s with
  | nil => cases taken
  | cons change later ih =>
    simp only [steps, List.mem_cons] at taken
    obtain rfl | taken := taken
    · rfl
    · exact (ih taken).trans (change.does_act s).owner

/-- **How far counts go.** What raises a count compares, on one thread, the count that would be
reached with `maxRefCount`, and in a strong group the count before. So from counts within
`maxRefCount` a strong group leaves it by taking on a reference when it counts so many already, or
by giving one up that is not there, and in no other way; the former leads one beyond, and no
further. On one thread all counts stay within it whatever is done. -/
theorem counts_bounded_iff (changes : List CountChange) (within : s.Within maxRefCount.toNat) :
    (∀ (change : CountChange) (t : BlockState) (count : Word), change.raised? t = some count →
      ((∃ answer, (change.act t).2 = .ok answer) ↔ count.toNat + 1 ≤ change.limit) ∧
        (change.limit < count.toNat + 1 →
          (change.act t).1 = t ∧ (change.act t).2 = .error .overflow)) ∧
      ((∀ step ∈ steps changes s, (step.2.act step.1).1.Within maxRefCount.toNat) ↔
        ∀ step ∈ steps changes s, ¬ step.2.Overshoots step.1) ∧
      ((∀ step ∈ steps changes s, ¬ step.2.Underflows step.1) →
        ∀ step ∈ steps changes s, (step.2.act step.1).1.Within (maxRefCount.toNat + 1)) ∧
      (s.owner ≠ .strong →
        ∀ step ∈ steps changes s, (step.2.act step.1).1.Within maxRefCount.toNat) := by
  refine ⟨fun change t _ raises => (change.does_act t).raises_iff raises,
    steps_within_iff changes within, ?_, ?_⟩
  · exact steps_within_succ changes fun count counted => Nat.le_succ_of_le (within count counted)
  · intro weak
    rw [steps_within_iff changes within]
    intro step taken overshoots
    exact weak ((owner_of_mem_steps taken).symm.trans overshoots.owner)

/-- One more owner in a group that counts as many as it may. -/
theorem counts_bounded_iff_crowded :
    (BlockState.strong maxRefCount 1).Within maxRefCount.toNat ∧
      ((∀ step ∈ steps [incrementStrong] (.strong maxRefCount 1),
          (step.2.act step.1).1.Within maxRefCount.toNat) ↔
        ∀ step ∈ steps [incrementStrong] (.strong maxRefCount 1), ¬ step.2.Overshoots step.1) ∧
      incrementStrong.act (.strong maxRefCount 1) =
        (.strong 9223372036854775808 1, .ok none) :=
  ⟨by decide, (counts_bounded_iff [incrementStrong] (by decide)).2.1, rfl⟩

/-- A strong group takes on one reference more than `maxRefCount`. -/
theorem not_counts_bounded :
    ¬ ∀ (change : CountChange) (s : BlockState) (count : Word), change.raised? s = some count →
      ((∃ answer, (change.act s).2 = .ok answer) ↔ count.toNat + 1 ≤ maxRefCount.toNat) := by
  intro bounded
  have reached := (bounded incrementStrong (.strong maxRefCount 1) maxRefCount rfl).1 ⟨none, rfl⟩
  exact absurd reached (Nat.not_succ_le_self _)

end CountChange

end Custody
