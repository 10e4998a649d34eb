import Custody.Proofs.Likeness
import Custody.Proofs.Settling
import Custody.Proofs.Steps

/-!
# What destructions ask of a process

A destruction takes place in memory. Of the process it asks only how many panics unwind the thread,
since a destructor does not panic in a thread that unwinds already; and it leaves there what
happened, and its panics. So it does not matter what else a process is like: `Run.Indifferent` says
of an operation that it ends in the same way in any other process with as many panics, leaves the
same memory there, and adds the same events. Where the books balance no count fails, and then
destructions are indifferent, however they end: `Machine.drain_indifferent`.
-/

namespace Custody

namespace Process

/-- A process in which more happened, newest first, and whose thread so many panics unwind. -/
def having (p : Process) (added : List Event) (panics : Nat) : Process :=
  { p with trace := added ++ p.trace, thread := { p.thread with panics := panics } }

variable (p : Process)

theorem having_nil : p.having [] p.thread.panics = p := rfl

theorem having_having (added more : List Event) (before after : Nat) :
    (p.having added before).having more after = p.having (more ++ added) after := by
  unfold having
  rw [List.append_assoc]

end Process

namespace Machine

/-- Machines with the same memory, whose processes have gone on from two given ones in the same
way. -/
inductive Alongside (p q : Process) : Machine → Machine → Prop
  | intro (added : List Event) (panics : Nat) (memory : Memory) :
      Alongside p q ⟨p.having added panics, memory⟩ ⟨q.having added panics, memory⟩

variable {p q : Process} {m n : Machine}

/-- What goes on alongside goes on alongside from before. -/
theorem Alongside.trans {added : List Event} {panics : Nat}
    (h : Alongside (p.having added panics) (q.having added panics) m n) : Alongside p q m n := by
  obtain ⟨more, later, memory⟩ := h
  rw [p.having_having, q.having_having]
  exact .intro _ _ _

/-- What a panic keeps from being done is noted alongside. -/
theorem Alongside.noteFailures (h : Alongside p q m n) (tasks : List Task) :
    Alongside p q (noteFailures tasks m) (noteFailures tasks n) := by
  obtain ⟨added, panics, memory⟩ := h
  let failures := ((tasks.filterMap Task.follows?).map fun c =>
    Event.storage (.destructionFailed c)).reverse
  have same (r : Process) : Machine.noteFailures tasks ⟨r.having added panics, memory⟩ =
      ⟨r.having (failures ++ added) panics, memory⟩ := by
    unfold Machine.noteFailures Process.having
    rw [List.append_assoc]
  rw [same, same]
  exact .intro _ _ _

end Machine

namespace Run

open Machine

/-- An operation ends in the same way in every process whose thread as many panics unwind, leaves
the same memory there, and changes the process in the same way: by what happens, and by panics. -/
def Indifferent {α : Type} (act : Run Machine α) (m : Machine) : Prop :=
  ∀ q : Process, q.thread.panics = m.process.thread.panics →
    (act m).Paired Eq (Alongside m.process q) (act ⟨q, m.memory⟩)

variable {α β : Type} {act : Run Machine α} {next : α → Run Machine β} {m : Machine}

/-- Nothing is changed in a process. -/
theorem alongside_self {q : Process} (same : q.thread.panics = m.process.thread.panics)
    (memory : Memory) : Alongside m.process q ⟨m.process, memory⟩ ⟨q, memory⟩ := by
  have h := Alongside.intro (p := m.process) (q := q) [] q.thread.panics memory
  rwa [q.having_nil, same, m.process.having_nil] at h

/-- The same is noted in both processes. -/
theorem alongside_after {q : Process} (same : q.thread.panics = m.process.thread.panics)
    (e : Event) (memory : Memory) :
    Alongside m.process q ⟨m.process.after e, memory⟩ ⟨q.after e, memory⟩ := by
  have h := Alongside.intro (p := m.process) (q := q) [e] q.thread.panics memory
  rwa [show q.having [e] q.thread.panics = q.after e from rfl, same,
    show m.process.having [e] m.process.thread.panics = m.process.after e from rfl] at h

namespace Indifferent

theorem pure (a : α) : Indifferent (Pure.pure a) m :=
  fun _ same => .returned rfl (alongside_self same m.memory)

theorem ofMemory (f : Memory → α) : Indifferent (Machine.ofMemory f) m :=
  fun _ same => .returned rfl (alongside_self same m.memory)

theorem onMemory (f : Memory → Memory) : Indifferent (Machine.onMemory f) m :=
  fun _ same => .returned rfl (alongside_self same (f m.memory))

theorem isUnwinding : Indifferent Machine.isUnwinding m := by
  intro q same
  refine .returned ?_ (alongside_self same m.memory)
  show (m.process.thread.panics != 0) = (q.thread.panics != 0)
  rw [same]

theorem note (e : Event) : Indifferent (Machine.note e) m :=
  fun _ same => .returned rfl (alongside_after same e m.memory)

theorem panic (payload : Payload) : Indifferent (Machine.panic payload : Run Machine α) m := by
  intro q same
  have started := Alongside.intro (p := m.process) (q := q) [] (q.thread.panics + 1) m.memory
  refine .unwinding ?_
  rwa [show q.having [] (q.thread.panics + 1) = q.panicStarted from rfl, same,
    show m.process.having [] (m.process.thread.panics + 1) = m.process.panicStarted from rfl]
    at started

/-- One operation after another. -/
theorem bind (first : Indifferent act m)
    (second : ∀ a n, act m = .returned a n → Indifferent (next a) n) :
    Indifferent (act >>= next) m := by
  intro q same
  refine Run.bind_paired (first q same) ?_
  rintro a _ u v done - rfl states
  obtain ⟨added, panics, memory⟩ := states
  exact (second a _ done (q.having added panics) rfl).monoState fun _ _ => Alongside.trans

end Indifferent

end Run

namespace Machine

open Run

variable {m : Machine} {tasks : List Task}

/-- To count is indifferent, if the count does not fail. -/
theorem recount_indifferent {α : Type} [Inhabited α] {c : CellId}
    {operation : BlockState → BlockState × Except CountFault α}
    (returns : (recount c operation m).returns = true) : Indifferent (recount c operation) m := by
  intro q same
  unfold recount at returns ⊢
  dsimp only at returns ⊢
  cases found : m.memory.cell? c with
  | none => exact .returned rfl (alongside_self same m.memory)
  | some cell =>
    rw [found] at returns
    dsimp only at returns ⊢
    cases state : cell.state with
    | none => exact .returned rfl (alongside_self same m.memory)
    | some s =>
      rw [state] at returns
      dsimp only at returns ⊢
      cases answered : (operation s).2 with
      | ok answer => exact .returned rfl (alongside_self same _)
      | error fault =>
        rw [answered] at returns
        dsimp only at returns
        rw [(miscount_noted c cell.kind s fault _).not_returns] at returns
        cases returns

theorem beginDestruction_indifferent (c : CellId) : Indifferent (beginDestruction c) m := by
  intro q same
  unfold beginDestruction
  dsimp only
  cases m.memory.cell? c with
  | none => exact .returned rfl (alongside_self same m.memory)
  | some cell => exact .returned rfl (alongside_after same _ _)

theorem storageTask_indifferent (task : AllocatorId → Layout → CellId → Task) (c : CellId) :
    Indifferent (storageTask task c) m :=
  .ofMemory _

theorem destroyWith_indifferent (task : AllocatorId → Layout → CellId → Task) (c : CellId) :
    Indifferent (destroyWith task c) m :=
  .bind (beginDestruction_indifferent c) fun _ _ _ =>
    .bind (storageTask_indifferent task c) fun _ _ _ => .pure _

/-- To let go of a handle is indifferent, if no count fails. -/
theorem letGo_indifferent {kind : Kind} {c : CellId} {o : Ownership}
    (returns : (letGo kind c o m).returns = true) : Indifferent (letGo kind c o) m := by
  cases o with
  | unique home => exact .bind (beginDestruction_indifferent c) fun _ _ _ => .pure _
  | weak =>
    refine .bind (recount_indifferent (Outcome.returns_of_andThen returns)) fun last n _ => ?_
    cases last with
    | true => exact storageTask_indifferent _ c
    | false => exact .pure _
  | block owner =>
    cases owner with
    | own => exact destroyWith_indifferent _ c
    | discard => exact destroyWith_indifferent _ c
    | collect => exact .pure _
    | strong =>
      refine .bind (recount_indifferent (Outcome.returns_of_andThen returns)) fun last n _ => ?_
      cases last with
      | true => exact .bind (beginDestruction_indifferent c) fun _ _ _ => .pure _
      | false => exact .pure _
    | handle =>
      refine .bind (recount_indifferent (Outcome.returns_of_andThen returns)) fun last n _ => ?_
      cases last with
      | true => exact destroyWith_indifferent _ c
      | false => exact .pure _

theorem announce_indifferent (label : Label) : Indifferent (announce label) m := by
  refine .bind (.note _) fun _ n _ => ?_
  cases label.panicMessage? with
  | none => exact .pure _
  | some message =>
    refine .bind .isUnwinding fun unwinding o _ => ?_
    cases unwinding with
    | true => exact .pure _
    | false => exact .panic _

/-- A task is indifferent where the books balance. -/
theorem advance_indifferent {t : Task} (books : m.Books (t :: tasks)) :
    Indifferent t.advance m := by
  cases t with
  | drop h =>
    cases link : h.link with
    | none =>
      rw [Task.advance_drop_of_none link]
      exact .pure _
    | some l =>
      obtain ⟨more, n, went, -⟩ := letGo_books link books
      rw [Task.advance_drop_of_some link]
      refine letGo_indifferent ?_
      rw [went]
      rfl
  | announce label => exact .bind (announce_indifferent label) fun _ _ _ => .pure _
  | leaveGroup c =>
    obtain ⟨more, n, advanced, -⟩ := leaveGroup_books books
    have returns : ((Task.leaveGroup c).advance m).returns = true := by
      rw [advanced]
      rfl
    refine .bind (recount_indifferent (Outcome.returns_of_andThen returns)) fun last n _ => ?_
    cases last with
    | true => exact storageTask_indifferent _ c
    | false => exact .pure _
  | giveBack a l c =>
    refine .bind (.note _) fun _ _ _ => .bind (.ofMemory _) fun _ _ _ => ?_
    exact .bind (.bind (.note _) fun _ _ _ => .onMemory _) fun _ _ _ => .pure _
  | retire a l c =>
    refine .bind (.note _) fun _ _ _ => .bind (.ofMemory _) fun _ _ _ => ?_
    exact .bind (.bind (.note _) fun _ _ _ => .onMemory _) fun _ _ _ => .pure _

/-- Settling is indifferent where the books balance, however it ends. -/
theorem drain_indifferent {others : List Task} {panics : List Passage}
    (balanced : Destruction.Balanced others ⟨tasks, panics, m⟩) :
    Indifferent (drain tasks panics) m := by
  intro q same
  induction tasks, panics, m using drain.induct generalizing q with
  | case1 m t rest panics more n advanced ih =>
    have first := advance_indifferent (t := t) balanced.books q same
    rw [advanced] at first
    generalize ended : t.advance ⟨q, m.memory⟩ = o at first
    cases first with
    | returned answers states =>
      cases answers
      rw [drain_cons_returned advanced, drain_cons_returned ended]
      have later := balanced.step (.task advanced)
      cases states with
      | intro added k memory =>
        exact (ih later (q.having added k) rfl).monoState fun _ _ => Alongside.trans
  | case2 m t rest panics payload n panicked ih =>
    have first := advance_indifferent (t := t) balanced.books q same
    rw [panicked] at first
    generalize ended : t.advance ⟨q, m.memory⟩ = o at first
    cases first with
    | unwinding states =>
      rw [drain_cons_unwinding panicked, drain_cons_unwinding ended]
      have later := balanced.step (.panic panicked)
      have noted := states.noteFailures rest
      generalize noteFailures rest _ = u at noted ih later
      generalize noteFailures rest _ = v at noted
      cases noted with
      | intro added k memory =>
        exact (ih later (q.having added k) rfl).monoState fun _ _ => Alongside.trans
  | case3 m t rest panics cause n aborted =>
    have first := advance_indifferent (t := t) balanced.books q same
    rw [aborted] at first
    generalize ended : t.advance ⟨q, m.memory⟩ = o at first
    cases first with
    | aborted states =>
      rw [drain_cons_aborted aborted, drain_cons_aborted ended]
      exact .aborted states
  | case4 m payload t rest others' ih =>
    rw [drain_nil_cleanup, drain_nil_cleanup]
    exact ih (balanced.step .cleanup) q same
  | case5 m =>
    rw [drain_nil_nil, drain_nil_nil]
    exact .returned rfl (alongside_self same m.memory)
  | case6 m payload =>
    rw [drain_nil_singleton, drain_nil_singleton]
    exact .unwinding (alongside_self same m.memory)
  | case7 m payload head tail =>
    rw [drain_nil_cons_cons, drain_nil_cons_cons]
    exact .aborted (alongside_self same m.memory)

end Machine

end Custody
