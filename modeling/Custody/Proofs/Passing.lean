import Custody.Proofs.Indifference

/-!
# Destructions that no panic troubles

A destructor that returns where nothing unwinds returns as well while a panic passes, since all that
it asks is whether it may panic. So a destruction that returns would return in every process whose
thread unwinds if this one's does: it would leave the same memory, and the same would happen.
`Run.Passes` says this of an operation, and `Machine.drain_passes` of settling, whatever the books
say: what returns met no count that failed.
-/

namespace Custody

namespace Run

open Machine

variable {α β : Type} {act : Run Machine α} {next : α → Run Machine β} {m : Machine}

/-- An operation that returns does so in every process whose thread unwinds if this one's does,
leaves the same memory there, and the same happens. -/
def Passes (act : Run Machine α) (m : Machine) : Prop :=
  ∀ a n, act m = .returned a n →
    ∃ added, n.process = m.process.having added m.process.thread.panics ∧
      ∀ q : Process, (m.process.isUnwinding = true → q.isUnwinding = true) →
        act ⟨q, m.memory⟩ = .returned a ⟨q.having added q.thread.panics, n.memory⟩

namespace Passes

theorem pure (a : α) : Passes (Pure.pure a) m := by
  rintro _ _ ⟨⟩
  exact ⟨[], rfl, fun _ _ => rfl⟩

theorem ofMemory (f : Memory → α) : Passes (Machine.ofMemory f) m := by
  rintro _ _ ⟨⟩
  exact ⟨[], rfl, fun _ _ => rfl⟩

theorem onMemory (f : Memory → Memory) : Passes (Machine.onMemory f) m := by
  rintro _ _ ⟨⟩
  exact ⟨[], rfl, fun _ _ => rfl⟩

theorem note (e : Event) : Passes (Machine.note e) m := by
  rintro _ _ ⟨⟩
  exact ⟨[e], rfl, fun _ _ => rfl⟩

/-- One operation after another. -/
theorem bind (first : Passes act m) (second : ∀ a n, Passes (next a) n) :
    Passes (act >>= next) m := by
  intro b n done
  rw [Run.bind_apply] at done
  cases ended : act m with
  | returned a u =>
    rw [ended] at done
    obtain ⟨added, process, elsewhere⟩ := first a u ended
    obtain ⟨more, process', elsewhere'⟩ := second a u b n done
    refine ⟨more ++ added, ?_, fun q unwinds => ?_⟩
    · rw [process', process, Process.having_having]
      rfl
    · rw [Run.bind_apply, elsewhere q unwinds]
      show next a ⟨q.having added q.thread.panics, u.memory⟩ = _
      rw [elsewhere' (q.having added q.thread.panics) (by rw [process]; exact unwinds),
        Process.having_having]
      rfl
  | unwinding payload u =>
    rw [ended] at done
    cases done
  | aborted cause u =>
    rw [ended] at done
    cases done

end Passes

end Run

namespace Machine

open Run

variable {m : Machine}

/-- A count that returns did not fail. -/
theorem recount_passes {α : Type} [Inhabited α] (c : CellId)
    (operation : BlockState → BlockState × Except CountFault α) :
    Passes (recount c operation) m := by
  intro a n done
  unfold recount at done ⊢
  dsimp only at done ⊢
  cases found : m.memory.cell? c with
  | none =>
    rw [found] at done
    cases done
    exact ⟨[], rfl, fun _ _ => rfl⟩
  | some cell =>
    rw [found] at done
    dsimp only at done ⊢
    cases state : cell.state with
    | none =>
      rw [state] at done
      cases done
      exact ⟨[], rfl, fun _ _ => rfl⟩
    | some s =>
      rw [state] at done
      dsimp only at done ⊢
      cases answered : (operation s).2 with
      | ok answer =>
        rw [answered] at done
        cases done
        exact ⟨[], rfl, fun _ _ => rfl⟩
      | error fault =>
        rw [answered] at done
        have failed := (miscount_noted (α := α) c cell.kind s fault
          { m with memory := m.memory.setCell c { cell with state := some (operation s).1 } })
          |>.not_returns
        dsimp only at done
        rw [done] at failed
        cases failed

theorem beginDestruction_passes (c : CellId) : Passes (beginDestruction c) m := by
  intro a n done
  unfold beginDestruction at done ⊢
  dsimp only at done ⊢
  cases found : m.memory.cell? c with
  | none =>
    rw [found] at done
    cases done
    exact ⟨[], rfl, fun _ _ => rfl⟩
  | some cell =>
    rw [found] at done
    cases done
    exact ⟨[_], rfl, fun _ _ => rfl⟩

theorem storageTask_passes (task : AllocatorId → Layout → CellId → Task) (c : CellId) :
    Passes (storageTask task c) m :=
  .ofMemory _

theorem destroyWith_passes (task : AllocatorId → Layout → CellId → Task) (c : CellId) :
    Passes (destroyWith task c) m :=
  .bind (beginDestruction_passes c) fun _ _ => .bind (storageTask_passes task c) fun _ _ => .pure _

theorem letGo_passes (kind : Kind) (c : CellId) (o : Ownership) : Passes (letGo kind c o) m := by
  cases o with
  | unique home => exact .bind (beginDestruction_passes c) fun _ _ => .pure _
  | weak =>
    refine .bind (recount_passes c _) fun last _ => ?_
    cases last with
    | true => exact storageTask_passes _ c
    | false => exact .pure _
  | block owner =>
    cases owner with
    | own => exact destroyWith_passes _ c
    | discard => exact destroyWith_passes _ c
    | collect => exact .pure _
    | strong =>
      refine .bind (recount_passes c _) fun last _ => ?_
      cases last with
      | true => exact .bind (beginDestruction_passes c) fun _ _ => .pure _
      | false => exact .pure _
    | handle =>
      refine .bind (recount_passes c _) fun last _ => ?_
      cases last with
      | true => exact destroyWith_passes _ c
      | false => exact .pure _

/-- A label whose announcement returns does not panic, or the thread unwinds. -/
theorem announce_passes (label : Label) : Passes (announce label) m := by
  refine .bind (.note _) fun _ u => ?_
  cases label.panicMessage? with
  | none => exact .pure _
  | some message =>
    intro a n done
    have done : (if u.process.isUnwinding then Pure.pure () else panic (.text message) :
        Run Machine Unit) u = .returned a n := done
    by_cases unwinding : u.process.isUnwinding = true
    · rw [if_pos unwinding] at done
      cases done
      refine ⟨[], rfl, fun q unwinds => ?_⟩
      show (if q.isUnwinding then Pure.pure () else panic (.text message) : Run Machine Unit)
        ⟨q, u.memory⟩ = _
      rw [if_pos (unwinds unwinding)]
      rfl
    · rw [if_neg unwinding] at done
      cases done

theorem advance_passes (t : Task) : Passes t.advance m := by
  cases t with
  | drop h =>
    cases link : h.link with
    | none =>
      rw [Task.advance_drop_of_none link]
      exact .pure _
    | some l =>
      rw [Task.advance_drop_of_some link]
      exact letGo_passes h.kind l.cell h.ownership
  | announce label => exact .bind (announce_passes label) fun _ _ => .pure _
  | leaveGroup c =>
    refine .bind (recount_passes c _) fun last _ => ?_
    cases last with
    | true => exact storageTask_passes _ c
    | false => exact .pure _
  | giveBack a l c =>
    refine .bind (.note _) fun _ _ => .bind (.ofMemory _) fun _ _ => ?_
    exact .bind (.bind (.note _) fun _ _ => .onMemory _) fun _ _ => .pure _
  | retire a l c =>
    refine .bind (.note _) fun _ _ => .bind (.ofMemory _) fun _ _ => ?_
    exact .bind (.bind (.note _) fun _ _ => .onMemory _) fun _ _ => .pure _

/-- Settling that returns carries out one task after another, and no panic passes in between. -/
theorem drain_passes (tasks : List Task) (m : Machine) : Passes (drain tasks []) m := by
  generalize quiet : ([] : List Passage) = panics
  induction tasks, panics, m using drain.induct with
  | case1 m t rest panics more u advanced ih =>
    subst quiet
    intro _ n done
    rw [drain_cons_returned advanced] at done
    obtain ⟨added, process, elsewhere⟩ := advance_passes t _ _ advanced
    obtain ⟨later, process', elsewhere'⟩ := ih rfl () n done
    refine ⟨later ++ added, ?_, fun q unwinds => ?_⟩
    · rw [process', process, Process.having_having]
      rfl
    · rw [drain_cons_returned (elsewhere q unwinds),
        elsewhere' (q.having added q.thread.panics) (by rw [process]; exact unwinds),
        Process.having_having]
      rfl
  | case2 m t rest panics payload u panicked ih =>
    intro _ n done
    rw [drain_cons_unwinding panicked] at done
    exact absurd done (drain_ne_returned (List.cons_ne_nil _ _) _ _ _)
  | case3 m t rest panics cause u aborted =>
    intro _ n done
    rw [drain_cons_aborted aborted] at done
    cases done
  | case5 m =>
    intro _ n done
    rw [drain_nil_nil] at done
    cases done
    exact ⟨[], rfl, fun q _ => drain_nil_nil _⟩
  | case4 m payload t rest others ih => cases quiet
  | case6 m payload => cases quiet
  | case7 m payload head tail => cases quiet

/-- What destroys a value that is in no cell. -/
theorem dropValue_passes (v : Value) (m : Machine) : Passes (dropValue v) m := drain_passes v.plan m

end Machine

end Custody
