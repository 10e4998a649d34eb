import Custody.Release.Task

/-!
# Settling what is to be done

`Machine.drain` carries out a list of tasks, what each of them leads to before the rest. When a
destructor panics, the tasks that were only to follow the destruction are dropped from the list
and the remaining destructions are gone through, one after another; then the panic goes on its
way. One of those destructions may panic in turn. Then what it began is gone through in the same
manner, and as that panic cannot go on its way while the first one does, the process ends. That
all this comes to an end is because every task outweighs what it leads to.

`Machine.settle` is the operation on a machine: `Machine.dropHandle` lets go of a handle and
`Machine.dropValue` destroys a value that is in no cell.
-/

namespace Custody

/-- A panic on its way out of a destruction. -/
structure Passage where
  /-- What the panic carries. -/
  payload : Payload
  /-- What is to be destroyed before it leaves. -/
  cleanup : List Task

/-- The weight of what is to be destroyed before panics leave. -/
def Passage.total (panics : List Passage) : Nat :=
  panics.foldr (fun p n => Task.total p.cleanup + n) 0

@[simp] theorem Passage.total_nil : Passage.total [] = 0 := rfl

@[simp] theorem Passage.total_cons (p : Passage) (panics : List Passage) :
    Passage.total (p :: panics) = Task.total p.cleanup + Passage.total panics := rfl

namespace Machine

/-- Note that a panic left the destructions which the given tasks were to follow, the innermost
first. -/
def noteFailures (tasks : List Task) (m : Machine) : Machine :=
  let failures := (tasks.filterMap Task.follows?).map fun c =>
    Event.storage (.destructionFailed c)
  { m with process := { m.process with trace := failures.reverse ++ m.process.trace } }

/-- Carry out tasks while panics are on their way, the last of them first in the list. When the
tasks are done, the last panic has one more destruction carried out before it leaves, if there
is one left; it can leave only if no other is on its way. -/
def drain (tasks : List Task) (panics : List Passage) (m : Machine) : Outcome Machine Unit :=
  match tasks, panics with
  | t :: rest, panics =>
    match _advanced : t.advance m with
    | .returned more n => drain (more ++ rest) panics n
    | .unwinding payload n =>
      drain [] (⟨payload, Task.cleanup rest⟩ :: panics) (noteFailures rest n)
    | .aborted cause n => .aborted cause n
  | [], ⟨payload, t :: rest⟩ :: others => drain [t] (⟨payload, rest⟩ :: others) m
  | [], [] => .returned () m
  | [], [⟨payload, []⟩] => .unwinding payload m
  | [], ⟨_, []⟩ :: _ :: _ => .aborted .secondPanic m
termination_by
  (m.memory.weight + Task.total tasks + Passage.total panics, Passage.total panics)
decreasing_by
  · have := t.advance_ensures m
    rw [_advanced] at this
    simp only [Outcome.Ensures] at this
    apply Prod.Lex.left
    simp only [Task.total_append, Task.total_cons]
    omega
  · have := t.advance_ensures m
    rw [_advanced] at this
    simp only [Outcome.Ensures] at this
    have := Task.total_cleanup_le rest
    have := t.weight_pos
    apply Prod.Lex.left
    simp only [noteFailures, Task.total_cons, Task.total_nil, Passage.total_cons]
    omega
  · have := t.weight_pos
    apply Prod.Lex.right' <;>
      simp only [Task.total_cons, Task.total_nil, Passage.total_cons] <;> omega

/-- Carry out tasks. -/
def settle (tasks : List Task) : Run Machine Unit := drain tasks []

/-- Let go of a handle. -/
def dropHandle (h : Handle) : Run Machine Unit := settle [.drop h]

/-- Destroy a value that lies in no cell. -/
def dropValue (v : Value) : Run Machine Unit := settle v.plan

@[simp] theorem drain_nil_nil (m : Machine) : drain [] [] m = .returned () m := by
  rw [drain]

/-- A panic that has nothing left to destroy leaves. -/
@[simp] theorem drain_nil_singleton (payload : Payload) (m : Machine) :
    drain [] [⟨payload, []⟩] m = .unwinding payload m := by
  rw [drain]

/-- A panic that would leave while another is on its way ends the process. -/
@[simp] theorem drain_nil_cons_cons (payload : Payload) (p : Passage) (others : List Passage)
    (m : Machine) :
    drain [] (⟨payload, []⟩ :: p :: others) m = .aborted .secondPanic m := by
  rw [drain]

/-- Before a panic leaves, what is to be destroyed is destroyed in order. -/
theorem drain_nil_cleanup (payload : Payload) (t : Task) (rest : List Task)
    (others : List Passage) (m : Machine) :
    drain [] (⟨payload, t :: rest⟩ :: others) m = drain [t] (⟨payload, rest⟩ :: others) m := by
  conv => lhs; rw [drain]

/-- A task that advances is followed by what it leads to. -/
theorem drain_cons_returned {t : Task} {m n : Machine} {more : List Task}
    (h : t.advance m = .returned more n) (rest : List Task) (panics : List Passage) :
    drain (t :: rest) panics m = drain (more ++ rest) panics n := by
  rw [drain]
  split
  next e =>
    rw [h] at e
    cases e
    rfl
  next e =>
    rw [h] at e
    cases e
  next e =>
    rw [h] at e
    cases e

/-- After a panic only the cleanup among the remaining tasks is done. -/
theorem drain_cons_unwinding {t : Task} {m n : Machine} {payload : Payload}
    (h : t.advance m = .unwinding payload n) (rest : List Task) (panics : List Passage) :
    drain (t :: rest) panics m =
      drain [] (⟨payload, Task.cleanup rest⟩ :: panics) (noteFailures rest n) := by
  rw [drain]
  split
  next e =>
    rw [h] at e
    cases e
  next e =>
    rw [h] at e
    cases e
    rfl
  next e =>
    rw [h] at e
    cases e

theorem drain_cons_aborted {t : Task} {m n : Machine} {cause : Abort}
    (h : t.advance m = .aborted cause n) (rest : List Task) (panics : List Passage) :
    drain (t :: rest) panics m = .aborted cause n := by
  rw [drain]
  split
  next e =>
    rw [h] at e
    cases e
  next e =>
    rw [h] at e
    cases e
  next e =>
    rw [h] at e
    cases e
    rfl

/-- Letting go of an empty handle does nothing. -/
theorem dropHandle_of_isEmpty {h : Handle} (empty : h.isEmpty) (m : Machine) :
    dropHandle h m = .returned () m := by
  have advance : (Task.drop h).advance m = .returned [] m := by
    cases h with
    | mk o kind link =>
      cases link with
      | none => rfl
      | some l => cases empty
  rw [dropHandle, settle, drain_cons_returned advance, List.nil_append, drain_nil_nil]

end Machine

end Custody
