import Custody.Value.Basic

/-!
# What destroying a value takes

Destroying a value is a sequence of tasks: its destructor announces its label, and then the
handles and records inside it are destroyed one by one. Letting go of a handle may destroy
another value, give storage back, or retire it. `Value.plan` is the sequence for a value, and
`Value.remains` is what it leaves behind in storage: the same bytes, but for the handles, which
are empty once they were let go of.

Tasks are of two sorts. What was begun must be gone through even when a destructor panics:
these tasks are cleanup. What was only to follow the destruction, the return of storage and of
the reference that the owners of a strong group share, does not happen after a panic.

`Task.weight` is a measure under which every task outweighs the tasks it leads to, so that
carrying out tasks comes to an end.
-/

namespace Custody

/-- One step of a destruction. -/
inductive Task
  /-- Let go of a handle. -/
  | drop (handle : Handle)
  /-- Run the part of a destructor that announces its label. -/
  | announce (label : Label)
  /-- Give up the reference that the owners of a strong group share. -/
  | leaveGroup (cell : CellId)
  /-- Give the storage of a cell back to an allocator. -/
  | giveBack (allocator : AllocatorId) (layout : Layout) (cell : CellId)
  /-- Retire the storage of a cell. -/
  | retire (allocator : AllocatorId) (layout : Layout) (cell : CellId)
  deriving DecidableEq, Inhabited

namespace Task

/-- Whether a task is done even after a destructor has panicked. -/
def isCleanup : Task → Bool
  | drop _ | announce _ => true
  | leaveGroup _ | giveBack .. | retire .. => false

/-- The cell whose destruction a task is to follow, if it is not done after a panic. -/
def follows? : Task → Option CellId
  | leaveGroup c | giveBack _ _ c | retire _ _ c => some c
  | drop _ | announce _ => none

/-- More than the tasks that a task leads to weigh together, what it takes from the handles in
cells not counted. -/
def weight : Task → Nat
  | drop h => if h.isEmpty then 1 else 8
  | leaveGroup _ => 2
  | announce _ | giveBack .. | retire .. => 1

theorem weight_pos (t : Task) : 0 < t.weight := by
  cases t
  case drop h => cases e : h.isEmpty <;> simp [weight, e]
  all_goals simp [weight]

/-- The weight of a list of tasks. -/
def total (tasks : List Task) : Nat := tasks.foldr (fun t n => t.weight + n) 0

@[simp] theorem total_nil : total [] = 0 := rfl

@[simp] theorem total_cons (t : Task) (tasks : List Task) :
    total (t :: tasks) = t.weight + total tasks := rfl

@[simp] theorem total_append (first second : List Task) :
    total (first ++ second) = total first + total second := by
  induction first with
  | nil => simp
  | cons t rest ih =>
    rw [List.cons_append, total_cons, total_cons, ih, Nat.add_assoc]

/-- What is left to do after a destructor has panicked. -/
def cleanup (tasks : List Task) : List Task := tasks.filter isCleanup

theorem total_cleanup_le (tasks : List Task) : total (cleanup tasks) ≤ total tasks := by
  unfold cleanup
  induction tasks with
  | nil => exact Nat.le_refl _
  | cons t rest ih =>
    rw [List.filter_cons]
    split <;> simp only [total_cons] <;> omega

end Task

namespace Value

/-- The tasks that destroying a value takes, in order. A record announces itself before its
fields are destroyed in the order of their declaration. -/
def plan : Value → List Task
  | tracked label => [.announce (.text label)]
  | unit => [.announce (.text "()")]
  | pair left right _ _ =>
    [.announce (.text "pair"), .announce (.text "()"), .announce (.text left),
      .announce (.text right), .announce (.text "()")]
  | node label next back => [.announce (.text label), .drop next, .drop back]
  | bundle label held => .announce (.text label) :: held.map .drop
  | tag value => [.announce (.number value)]
  | mark label => [.announce (.text label)]
  | num _ | text _ | big _ | wide _ | bytes _ | record _ => []

/-- What destroying a value leaves behind: its handles are empty, and all else stays. -/
def remains : Value → Value
  | node label next back => node label next.emptied back.emptied
  | bundle label _ => bundle label []
  | other => other

/-- The weight of the tasks that destroying a value takes. -/
def weight (v : Value) : Nat := Task.total v.plan

@[simp] theorem kind_remains (v : Value) : v.remains.kind = v.kind := by cases v <;> rfl

/-- What is left of a value weighs no more than announcing it and its parts. -/
theorem weight_remains_le (v : Value) : v.remains.weight ≤ 5 := by
  cases v <;> simp [remains, weight, plan, Task.weight]

theorem weight_remains_le_weight (v : Value) : v.remains.weight ≤ v.weight := by
  cases v with
  | node label next back =>
    have first := Task.weight_pos (.drop next)
    have second := Task.weight_pos (.drop back)
    simp only [remains, weight, plan, Task.total_cons, Task.total_nil]
    simp only [Task.weight, Handle.isEmpty_emptied, if_true] at *
    omega
  | bundle label held =>
    simp only [remains, weight, plan, List.map_nil, Task.total_cons, Task.total_nil]
    omega
  | _ => exact Nat.le_refl _

/-- Whatever destroying a value takes is done even after a panic. -/
theorem isCleanup_of_mem_plan {v : Value} {t : Task} (h : t ∈ v.plan) : t.isCleanup = true := by
  have all : v.plan.all Task.isCleanup = true := by
    cases v with
    | bundle label held => simp [plan, Task.isCleanup]
    | _ => rfl
  exact List.all_eq_true.1 all t h

end Value

end Custody
