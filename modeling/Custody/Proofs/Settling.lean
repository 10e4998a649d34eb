import Custody.Proofs.LettingGo
import Mathlib.Data.List.Count

/-!
# Settling keeps the books

From one task to all of them: every step of a destruction keeps the books balanced, with its
duties and whatever else there is outside of cells. `Destruction.Balanced.step` holds of every
state that a destructor sees, and so of what settling as a whole comes to, whether it returns or a
panic leaves it.
-/

namespace Custody

namespace Machine

open Tally

variable {m n : Machine} {tasks others : List Task}

/-! ## What a panic does to the books -/

private theorem count_failures (cells : List CellId) (e : StorageEvent)
    (other : ∀ c, e ≠ .destructionFailed c) :
    ((cells.map StorageEvent.destructionFailed).reverse).count e = 0 := by
  refine List.count_eq_zero.2 fun member => ?_
  obtain ⟨c, -, same⟩ := List.mem_map.1 (List.mem_reverse.1 member)
  exact other c same.symm

private theorem count_failures_self (cells : List CellId) (c : CellId) :
    ((cells.map StorageEvent.destructionFailed).reverse).count (.destructionFailed c) =
      cells.count c := by
  rw [List.count_reverse]
  refine List.count_map_of_injective cells _ (fun a b same => ?_) c
  injection same

private theorem countP_failures (cells : List CellId) (c : CellId) :
    ((cells.map StorageEvent.destructionFailed).reverse).countP (·.places c) = 0 := by
  refine List.countP_eq_zero.2 fun e member => ?_
  obtain ⟨d, -, rfl⟩ := List.mem_map.1 (List.mem_reverse.1 member)
  exact Bool.false_ne_true

/-- What was to follow a destruction counts as failed from the panic on. -/
theorem tally_noteFailures (tasks others : List Task) (m : Machine) (c : CellId) :
    (noteFailures tasks m).tally (Task.cleanup tasks ++ others) c =
      (m.tally (Task.cleanup tasks ++ others) c).failing
        (Task.leaving c tasks + Task.returning c tasks) := by
  unfold tally failing
  rw [deeds_noteFailures]
  simp only [List.count_append, List.countP_append]
  rw [count_failures _ (.destructionBegan c) (by simp), count_failures _ (.handedBack c) (by simp),
    count_failures_self, countP_failures, Task.count_follows, Nat.zero_add, Nat.zero_add,
    Nat.zero_add, Nat.add_comm (Task.leaving c tasks + Task.returning c tasks)]
  rfl

/-- What a panic takes away was owed. -/
theorem tally_cleanup (tasks others : List Task) (m : Machine) (c : CellId) :
    m.tally (tasks ++ others) c =
      (m.tally (Task.cleanup tasks ++ others) c).owing (Task.leaving c tasks)
        (Task.returning c tasks) := by
  ext q
  · show Task.refs q c (tasks ++ others) + _ = Task.refs q c (Task.cleanup tasks ++ others) + _
    rw [Task.refs_append, Task.refs_append, Task.refs_cleanup]
  · show Task.leaving c (tasks ++ others) =
      Task.leaving c (Task.cleanup tasks ++ others) + Task.leaving c tasks
    rw [Task.leaving_append, Task.leaving_append, Task.leaving_cleanup]
    omega
  · show Task.returning c (tasks ++ others) =
      Task.returning c (Task.cleanup tasks ++ others) + Task.returning c tasks
    rw [Task.returning_append, Task.returning_append, Task.returning_cleanup]
    omega
  all_goals rfl

/-- A panic leaves the books balanced, if no storage of a strong group was still to go back. -/
theorem noteFailures_books (books : m.Books (tasks ++ others))
    (atOnce : ∀ c s w, m.memory.block? c = some (.strong s w) → Task.returning c tasks = 0) :
    (noteFailures tasks m).Books (Task.cleanup tasks ++ others) := by
  intro c
  have fits := books c
  rw [tally_cleanup] at fits
  rw [tally_noteFailures]
  show Fits _ (m.memory.cell? c)
  cases found : m.memory.cell? c with
  | none =>
    rw [found] at fits
    have leaving : _ + Task.leaving c tasks = 0 := fits.leaving
    have returning : _ + Task.returning c tasks = 0 := fits.returning
    have failed := fits.failed
    refine ⟨fits.refs, ?_, ?_, fits.began, ?_, fits.returned, fits.placed⟩
    · exact Nat.eq_zero_of_add_eq_zero_right leaving
    · exact Nat.eq_zero_of_add_eq_zero_right returning
    · show Tally.failed _ + (Task.leaving c tasks + Task.returning c tasks) = 0
      rw [Nat.eq_zero_of_add_eq_zero_left leaving, Nat.eq_zero_of_add_eq_zero_left returning]
      exact failed
  | some cell =>
    rw [found] at fits
    refine ⟨fits.1, fits.2.failing fun s w state => atOnce c s w ?_⟩
    unfold Memory.block?
    rw [found]
    exact state

/-! ## Steps -/

/-- Settling leaves every block to its kind of owner. -/
theorem Settled.owner_block? (h : m.Settled n) (c : CellId) :
    (n.memory.block? c).map BlockState.owner = (m.memory.block? c).map BlockState.owner := by
  unfold Memory.block?
  have aged := h.cells c
  generalize m.memory.cell? c = before at aged ⊢
  generalize n.memory.cell? c = after at aged ⊢
  cases aged with
  | none => rfl
  | some aged => exact aged.owner

/-- What a kind of owner says of a block. -/
theorem strong_of_owner {state : Option BlockState}
    (owner : state.map BlockState.owner = some .strong) :
    ∃ s w, state = some (.strong s w) := by
  obtain ⟨s, rfl, kind⟩ := Option.map_eq_some_iff.1 owner
  cases s with
  | strong s w => exact ⟨s, w, rfl⟩
  | _ => cases kind

/-- Settling does not turn a block into one of a strong group. -/
theorem Settled.block?_strong (h : m.Settled n) {c : CellId} {s w : Word}
    (strong : n.memory.block? c = some (.strong s w)) :
    ∃ s' w', m.memory.block? c = some (.strong s' w') := by
  refine strong_of_owner ((h.owner_block? c).symm.trans ?_)
  rw [strong]
  rfl

/-- Settling leaves the block of a strong group one. -/
theorem Settled.strong_block? (h : m.Settled n) {c : CellId} {s w : Word}
    (strong : m.memory.block? c = some (.strong s w)) :
    ∃ s' w', n.memory.block? c = some (.strong s' w') := by
  refine strong_of_owner ((h.owner_block? c).trans ?_)
  rw [strong]
  rfl

end Machine

namespace Destruction

open Machine

/-- The books of a machine balance while a destruction is in progress, with its duties and what
else there is outside of cells. -/
structure Balanced (others : List Task) (d : Destruction) : Prop where
  books : d.machine.Books (d.duties ++ others)
  orderly : d.machine.Orderly d.tasks

/-- Every step of a destruction keeps the books balanced. -/
theorem Balanced.step {others : List Task} {d e : Destruction} (h : d.Step e)
    (balanced : d.Balanced others) : e.Balanced others := by
  obtain ⟨books, orderly⟩ := balanced
  cases h with
  | @task t rest more panics m n advanced =>
    have books : m.Books (t :: ((rest ++ panics.flatMap (·.cleanup)) ++ others)) := books
    have done := advance_books t books
    have settled := advance_settled t m
    rw [advanced] at done settled
    obtain ⟨balanced, ordered⟩ := done
    refine ⟨?_, fun c s w strong => ?_⟩
    · have same : more ++ rest ++ panics.flatMap (·.cleanup) ++ others =
          more ++ (rest ++ panics.flatMap (·.cleanup) ++ others) := by
        simp only [List.append_assoc]
      show n.Books (more ++ rest ++ panics.flatMap (·.cleanup) ++ others)
      rw [same]
      exact balanced
    · have strong' := ordered c s w strong
      obtain ⟨s', w', before⟩ := settled.block?_strong strong
      have rest_none : Task.returning c rest = 0 := orderly c s' w' before
      cases more with
      | nil =>
        exact Nat.le_zero.1 (rest_none ▸ Task.returning_tail_le c rest)
      | cons first more =>
        show Task.returning c (more ++ rest) = 0
        rw [Task.returning_append, rest_none]
        exact strong'
  | @panic t rest panics payload m n panicked =>
    have books : m.Books (t :: ((rest ++ panics.flatMap (·.cleanup)) ++ others)) := books
    have done := advance_books t books
    have settled := advance_settled t m
    rw [panicked] at done settled
    refine ⟨?_, fun _ _ _ _ => rfl⟩
    have done : n.Books (rest ++ (panics.flatMap (·.cleanup) ++ others)) := by
      rw [← List.append_assoc]
      exact done
    have balanced := noteFailures_books done fun c s w strong => by
      obtain ⟨s', w', before⟩ := settled.block?_strong strong
      exact orderly c s' w' before
    show Books _ (Task.cleanup rest ++ panics.flatMap (·.cleanup) ++ others)
    rw [List.append_assoc]
    exact balanced
  | cleanup => exact ⟨books, fun _ _ _ _ => rfl⟩

end Destruction

namespace Machine

variable {m : Machine} {others : List Task}

/-- To destroy a value is not to give storage back. -/
theorem orderly_plan (m : Machine) (v : Value) : m.Orderly v.plan := fun c _ _ _ => by
  refine Nat.le_zero.1 (Nat.le_trans (Task.returning_tail_le c v.plan) (Nat.le_of_eq ?_))
  have none := Task.returning_plan_append c v []
  rw [List.append_nil] at none
  exact none

end Machine

end Custody
