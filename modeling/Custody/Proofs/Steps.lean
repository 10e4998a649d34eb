import Custody.Proofs.Frame

/-!
# Destructions step by step

A `Destruction` is where settling stands: the tasks to be carried out, the panics on their way,
and the machine. `Destruction.Step` relates it to what comes next. `Machine.drain` goes from
step to step, and the states in between, which only destructors see, are the ones that steps lead
to: `Machine.drain_settled` is about what every step leaves alone.
-/

namespace Custody

/-- Where settling stands. -/
structure Destruction where
  /-- The tasks to be carried out, in order. -/
  tasks : List Task
  /-- The panics on their way, the last one first. -/
  panics : List Passage
  /-- The machine so far. -/
  machine : Machine

namespace Destruction

open Machine

/-- One step of settling. -/
inductive Step : Destruction → Destruction → Prop
  /-- A task is carried out, and what it leads to comes before the rest. -/
  | task {t : Task} {rest more : List Task} {panics : List Passage} {m n : Machine}
      (advanced : t.advance m = .returned more n) :
      Step ⟨t :: rest, panics, m⟩ ⟨more ++ rest, panics, n⟩
  /-- A task panics, and what was only to follow it is not done. -/
  | panic {t : Task} {rest : List Task} {panics : List Passage} {payload : Payload}
      {m n : Machine} (panicked : t.advance m = .unwinding payload n) :
      Step ⟨t :: rest, panics, m⟩
        ⟨[], ⟨payload, Task.cleanup rest⟩ :: panics, Machine.noteFailures rest n⟩
  /-- The last panic has one more destruction carried out before it leaves. -/
  | cleanup {payload : Payload} {t : Task} {rest : List Task} {others : List Passage}
      {m : Machine} :
      Step ⟨[], ⟨payload, t :: rest⟩ :: others, m⟩ ⟨[t], ⟨payload, rest⟩ :: others, m⟩

/-- All that is still to be done, in whatever order. -/
def duties (d : Destruction) : List Task := d.tasks ++ d.panics.flatMap (·.cleanup)

/-- A step leaves alone what single tasks leave alone. -/
theorem Step.settled {d e : Destruction} (h : d.Step e) : d.machine.Settled e.machine := by
  cases h with
  | @task t rest more panics m n advanced =>
    have settled := advance_settled t m
    rw [advanced] at settled
    exact settled
  | @panic t rest panics payload m n panicked =>
    have settled := advance_settled t m
    rw [panicked] at settled
    exact settled.trans (noteFailures_settled rest n)
  | cleanup => exact Settled.refl _

end Destruction

namespace Machine

open Destruction

/-- Settling keeps what single tasks keep, and what is noted of a panic, however it ends. -/
theorem drain_keeps {R : Machine → Machine → Prop} [IsPreorder Machine R]
    (advances : ∀ t : Task, t.advance.Keeps R)
    (failures : ∀ (rest : List Task) (m : Machine), R m (noteFailures rest m))
    (tasks : List Task) (panics : List Passage) : Run.Keeps R (drain tasks panics) := by
  intro m
  induction tasks, panics, m using drain.induct with
  | case1 m t rest panics more n advanced ih =>
    have first := advances t m
    rw [advanced] at first
    rw [drain_cons_returned advanced]
    exact trans_of R first ih
  | case2 m t rest panics payload n panicked ih =>
    have first := advances t m
    rw [panicked] at first
    rw [drain_cons_unwinding panicked]
    exact trans_of R (trans_of R first (failures rest n)) ih
  | case3 m t rest panics cause n aborted =>
    have first := advances t m
    rw [aborted] at first
    rw [drain_cons_aborted aborted]
    exact first
  | case4 m payload t rest others ih =>
    rw [drain_nil_cleanup]
    exact ih
  | case5 m =>
    rw [drain_nil_nil]
    exact refl_of R m
  | case6 m payload =>
    rw [drain_nil_singleton]
    exact refl_of R m
  | case7 m payload head tail =>
    rw [drain_nil_cons_cons]
    exact refl_of R m

/-- Settling leaves alone what single tasks leave alone, however it ends. -/
theorem drain_settled (tasks : List Task) (panics : List Passage) (m : Machine) :
    m.Settled (drain tasks panics m).state :=
  drain_keeps advance_settled noteFailures_settled tasks panics m

/-- Settling does not return while a panic is on its way. -/
theorem drain_ne_returned {panics : List Passage} (panicking : panics ≠ []) (tasks : List Task)
    (m n : Machine) : drain tasks panics m ≠ .returned () n := by
  induction tasks, panics, m using drain.induct with
  | case1 m t rest panics more o advanced ih =>
    rw [drain_cons_returned advanced]
    exact ih panicking
  | case2 m t rest panics payload o panicked ih =>
    rw [drain_cons_unwinding panicked]
    exact ih (List.cons_ne_nil _ _)
  | case3 m t rest panics cause o aborted =>
    rw [drain_cons_aborted aborted]
    exact nofun
  | case4 m payload t rest others ih =>
    rw [drain_nil_cleanup]
    exact ih (List.cons_ne_nil _ _)
  | case5 m => exact absurd rfl panicking
  | case6 m payload =>
    rw [drain_nil_singleton]
    exact nofun
  | case7 m payload head tail =>
    rw [drain_nil_cons_cons]
    exact nofun

/-- How settling ends, if it takes no more steps than given. -/
def drained : Nat → List Task → List Passage → Machine → Option (Outcome Machine Unit)
  | 0, _, _, _ => none
  | steps + 1, t :: rest, panics, m =>
    match t.advance m with
    | .returned more n => drained steps (more ++ rest) panics n
    | .unwinding payload n =>
      drained steps [] (⟨payload, Task.cleanup rest⟩ :: panics) (noteFailures rest n)
    | .aborted cause n => some (.aborted cause n)
  | steps + 1, [], ⟨payload, t :: rest⟩ :: others, m =>
    drained steps [t] (⟨payload, rest⟩ :: others) m
  | _ + 1, [], [], m => some (.returned () m)
  | _ + 1, [], [⟨payload, []⟩], m => some (.unwinding payload m)
  | _ + 1, [], ⟨_, []⟩ :: _ :: _, m => some (.aborted .secondPanic m)

/-- What settling comes to in some number of steps it comes to. -/
theorem drain_of_drained {steps : Nat} {tasks : List Task} {panics : List Passage} {m : Machine}
    {o : Outcome Machine Unit} (h : drained steps tasks panics m = some o) :
    drain tasks panics m = o := by
  induction steps generalizing tasks panics m with
  | zero => cases h
  | succ steps ih =>
    match tasks, panics with
    | t :: rest, panics =>
      unfold drained at h
      cases advanced : t.advance m with
      | returned more n =>
        rw [advanced] at h
        rw [drain_cons_returned advanced]
        exact ih h
      | unwinding payload n =>
        rw [advanced] at h
        rw [drain_cons_unwinding advanced]
        exact ih h
      | aborted cause n =>
        rw [advanced] at h
        rw [drain_cons_aborted advanced]
        exact Option.some.inj h
    | [], ⟨payload, t :: rest⟩ :: others =>
      rw [drain_nil_cleanup]
      exact ih h
    | [], [] =>
      rw [drain_nil_nil]
      exact Option.some.inj h
    | [], [⟨payload, []⟩] =>
      rw [drain_nil_singleton]
      exact Option.some.inj h
    | [], ⟨payload, []⟩ :: p :: others =>
      rw [drain_nil_cons_cons]
      exact Option.some.inj h

theorem settle_settled (tasks : List Task) : (settle tasks).Keeps Settled := drain_settled tasks []

theorem dropHandle_settled (h : Handle) : (dropHandle h).Keeps Settled := settle_settled _

end Machine

end Custody
