import Custody.Proofs.Collected
import Custody.Proofs.Delivery

/-!
# What becomes of the thread

Whether a fatal report unwinds depends on whether the thread does so already. Sinks and hooks may
panic as they like, but a panic that somebody catches is over then, and one that nobody catches
ends the operation: so an operation that returns leaves the thread as it was, and one that unwinds
leaves it with one panic more. `Process.KeepsThread` says this of an operation, and
`Process.perform_keepsThread` of all that programs do, whatever they do and however the process is
configured.

For a release this means that it is told of leaks by a thread that unwinds exactly if it did so
when the release began (`Machine.sameThread_of_destroyed`, `Machine.sameThread_of_logged`).
-/

namespace Custody

/-- The thread with one panic more. -/
def Thread.panicked (t : Thread) : Thread := { t with panics := t.panics + 1 }

namespace Run

variable {σ α β : Type} {thread : σ → Thread} {act : Run σ α}

/-- An operation that returns leaves the thread of a state as it was, and one that unwinds leaves
it with one panic more. -/
def KeepsThread (thread : σ → Thread) (act : Run σ α) : Prop :=
  ∀ s, (act s).Ensures (fun _ t => thread t = thread s) fun t => thread t = (thread s).panicked

theorem KeepsThread.bind {next : α → Run σ β} (first : act.KeepsThread thread)
    (second : ∀ a, (next a).KeepsThread thread) : (act >>= next).KeepsThread thread := by
  intro s
  refine bind_ensures (first s) fun a t same => ?_
  refine (second a t).mono (fun _ _ still => still.trans same) fun _ panicked => ?_
  rw [panicked, same]

/-- What is done with the state that is found. -/
theorem KeepsThread.get {next : σ → Run σ β} (h : ∀ s, (next s).KeepsThread thread) :
    (Run.get >>= next).KeepsThread thread :=
  .bind (fun _ => rfl) h

theorem KeepsThread.forAll {step : β → Run σ Unit} {l : List β}
    (h : ∀ b ∈ l, (step b).KeepsThread thread) : (Run.forAll step l).KeepsThread thread := by
  induction l with
  | nil => exact fun _ => rfl
  | cons b rest ih =>
    apply KeepsThread.bind (h b (List.mem_cons_self ..))
    intro _
    exact ih fun c among => h c (List.mem_cons_of_mem b among)

end Run

/-! ## Programs -/

namespace Process

/-- An operation of the process keeps the thread. -/
abbrev KeepsThread {α : Type} (act : Run Process α) : Prop := act.KeepsThread Process.thread

/-- A panic that is caught is over. -/
theorem catching_keepsThread {α : Type} {act : Run Process α} (h : KeepsThread act) :
    KeepsThread (catching act) := by
  intro p
  have kept := h p
  unfold catching Run.catchingWith
  cases ended : act p with
  | returned a q =>
    rw [ended] at kept
    exact kept
  | unwinding payload q =>
    rw [ended] at kept
    exact panicCaught_thread kept
  | aborted cause q => trivial

section With

variable {performer : Performer}

theorem emitWith_keepsThread (h : ∀ actions, KeepsThread (performer actions)) (e : Log.Entry) :
    KeepsThread (emitWith performer e) := by
  refine .get fun p => ?_
  by_cases admitted : p.log.admits e.level = true
  · rw [if_pos admitted]
    cases p.sink with
    | none => exact fun _ => rfl
    | some sink => exact h _
  · rw [if_neg admitted]
    exact fun _ => rfl

theorem writeWith_keepsThread (h : ∀ actions, KeepsThread (performer actions)) (level : Log.Level)
    (target : Option String) (message : String) (fields : List (String × Log.FieldValue)) :
    KeepsThread (writeWith performer level target message fields) :=
  .get fun _ => emitWith_keepsThread h _

theorem deliverWith_keepsThread (h : ∀ actions, KeepsThread (performer actions))
    (d : Diagnostic) : KeepsThread (deliverWith performer d) := by
  have told (hook : Hook) : KeepsThread (tellWith performer d hook) :=
    .bind (catching_keepsThread (h _)) fun _ _ => rfl
  refine .bind (fun _ => rfl) fun _ => ?_
  refine .bind (writeWith_keepsThread h _ _ _ _) fun _ => ?_
  exact .get fun p => .forAll fun hook _ => told hook

theorem raise_keepsThread {α : Type} (d : Diagnostic) :
    KeepsThread (raise d : Run Process α) := by
  refine .get fun p => ?_
  by_cases aborts : p.activeConfig.diagnostics.abortOnFatal = true
  · rw [if_pos aborts]
    exact fun _ => trivial
  · rw [if_neg aborts]
    exact fun _ => rfl

theorem reportWith_keepsThread (h : ∀ actions, KeepsThread (performer actions)) (fault : Fault)
    (severity : Severity) : KeepsThread (reportWith performer fault severity) := by
  refine .bind (fun _ => rfl) fun d => ?_
  refine .bind (deliverWith_keepsThread h d) fun _ => ?_
  refine .get fun p => ?_
  by_cases fatal : (severity = .fatal && !p.isUnwinding) = true
  · rw [if_pos fatal]
    exact raise_keepsThread d
  · rw [if_neg fatal]
    exact fun _ => rfl

theorem failWith_keepsThread {α : Type} (h : ∀ actions, KeepsThread (performer actions))
    (fault : Fault) : KeepsThread (failWith performer fault : Run Process α) := by
  refine .bind (fun _ => rfl) fun d => ?_
  refine .bind (deliverWith_keepsThread h d) fun _ => ?_
  refine .get fun p => ?_
  by_cases unwinding : p.isUnwinding = true
  · rw [if_pos unwinding]
    exact fun _ => trivial
  · rw [if_neg unwinding]
    exact raise_keepsThread d

theorem performOne_keepsThread (h : ∀ actions, KeepsThread (performer actions)) (a : Action) :
    KeepsThread (performOne performer a) := by
  cases a with
  | emit level target message fields => exact writeWith_keepsThread h level target message fields
  | unregister name =>
    refine .bind (.get fun p => ?_) fun _ _ => rfl
    cases p.hookNamed? name with
    | none => exact fun _ => rfl
    | some id => exact fun _ => rfl
  | report fault severity => exact reportWith_keepsThread h fault severity
  | fail fault => exact failWith_keepsThread h fault
  | _ => exact fun _ => rfl

end With

/-- Whatever programs do, a panic of theirs is caught or ends what they do. -/
theorem perform_keepsThread (depth : Nat) (actions : List Action) :
    KeepsThread (perform depth actions) := by
  induction depth generalizing actions with
  | zero =>
    cases actions with
    | nil => exact fun _ => rfl
    | cons a rest => exact fun _ => trivial
  | succ depth ih =>
    rw [perform_succ]
    exact .forAll fun a _ => performOne_keepsThread ih a

end Process

/-! ## Machines -/

namespace Machine

open Run

/-- The thread is as it was. -/
def SameThread (m n : Machine) : Prop := n.process.thread = m.process.thread

variable {m n : Machine} {α : Type}

/-- An operation of the machine keeps the thread. -/
abbrev KeepsThread {α : Type} (act : Run Machine α) : Prop :=
  act.KeepsThread fun m => m.process.thread

theorem onProcess_keepsThread {act : Run Process α} (h : act.KeepsThread Process.thread) :
    KeepsThread (onProcess act) :=
  fun m => Outcome.ensures_mapState (h m.process)

theorem write_keepsThread (level : Log.Level) (target message : String)
    (fields : List (String × Log.FieldValue)) : KeepsThread (write level target message fields) :=
  onProcess_keepsThread (Process.writeWith_keepsThread (Process.perform_keepsThread _) _ _ _ _)

theorem fail_keepsThread (fault : Fault) : KeepsThread (fail fault : Run Machine α) :=
  onProcess_keepsThread (Process.failWith_keepsThread (Process.perform_keepsThread _) fault)

/-! ## Destructors -/

theorem recount_keepsThread [Inhabited α] (c : CellId)
    (operation : BlockState → BlockState × Except CountFault α) :
    KeepsThread (recount c operation) := by
  have failed (kind : Kind) (s : BlockState) (f : CountFault) :
      KeepsThread (miscount c kind s f : Run Machine α) := by
    refine .bind (fun _ => rfl) fun _ => ?_
    cases f with
    | wrongGroup needed => exact fun _ => rfl
    | _ => exact fail_keepsThread _
  intro m
  unfold recount
  cases m.memory.cell? c with
  | none => rfl
  | some cell =>
    dsimp only
    cases cell.state with
    | none => rfl
    | some s =>
      dsimp only
      cases (operation s).2 with
      | ok a => rfl
      | error f => exact failed cell.kind s f _

theorem beginDestruction_keepsThread (c : CellId) : KeepsThread (beginDestruction c) := by
  intro m
  unfold beginDestruction
  cases m.memory.cell? c <;> rfl

theorem letGo_keepsThread (kind : Kind) (c : CellId) (o : Ownership) :
    KeepsThread (letGo kind c o) := by
  have begins := beginDestruction_keepsThread
  have counts (operation : BlockState → BlockState × Except CountFault Bool) :=
    recount_keepsThread c operation
  have destroys (task : AllocatorId → Layout → CellId → Task) :
      KeepsThread (destroyWith task c) := .bind (begins c) fun _ _ => rfl
  cases o with
  | unique home => exact .bind (begins c) fun _ _ => rfl
  | weak =>
    refine .bind (counts _) fun last => ?_
    cases last <;> exact fun _ => rfl
  | block owner =>
    cases owner with
    | own => exact destroys _
    | discard => exact destroys _
    | collect => exact fun _ => rfl
    | strong =>
      refine .bind (counts _) fun last => ?_
      cases last with
      | false => exact fun _ => rfl
      | true => exact .bind (begins c) fun _ _ => rfl
    | handle =>
      refine .bind (counts _) fun last => ?_
      cases last with
      | false => exact fun _ => rfl
      | true => exact destroys _

theorem advance_keepsThread (t : Task) : KeepsThread t.advance := by
  cases t with
  | drop h =>
    cases link : h.link with
    | none =>
      rw [Task.advance_drop_of_none link]
      exact fun _ => rfl
    | some l =>
      rw [Task.advance_drop_of_some link]
      exact letGo_keepsThread _ _ _
  | announce label =>
    refine .bind (.bind (fun _ => rfl) fun _ => ?_) fun _ _ => rfl
    cases label.panicMessage? with
    | none => exact fun _ => rfl
    | some message =>
      refine .bind (fun _ => rfl) fun unwinding => ?_
      cases unwinding <;> exact fun _ => rfl
  | leaveGroup c =>
    refine .bind (recount_keepsThread c _) fun last => ?_
    cases last <;> exact fun _ => rfl
  | giveBack a l c => exact fun _ => rfl
  | retire a l c => exact fun _ => rfl

/-- Settling that returns leaves the thread as it was: no panic was on its way. -/
theorem sameThread_of_drain {tasks : List Task} {panics : List Passage}
    (done : drain tasks panics m = .returned () n) : m.SameThread n := by
  induction tasks, panics, m using drain.induct with
  | case1 m t rest panics more o advanced ih =>
    rw [drain_cons_returned advanced] at done
    have first := advance_keepsThread t m
    rw [advanced] at first
    exact (ih done).trans first
  | case2 m t rest panics payload o panicked ih =>
    rw [drain_cons_unwinding panicked] at done
    exact absurd done (drain_ne_returned (List.cons_ne_nil _ _) _ _ _)
  | case3 m t rest panics cause o aborted =>
    rw [drain_cons_aborted aborted] at done
    cases done
  | case4 m payload t rest others ih =>
    rw [drain_nil_cleanup] at done
    exact ih done
  | case5 m =>
    rw [drain_nil_nil] at done
    cases done
    rfl
  | case6 m payload =>
    rw [drain_nil_singleton] at done
    cases done
  | case7 m payload head tail =>
    rw [drain_nil_cons_cons] at done
    cases done

/-- When all of the destructors returned, the thread is as it was. -/
theorem sameThread_of_destroyed {id : AllocatorId} {left : List Registration}
    (returned : forAll (runDestructor id) left m = .returned () n) : m.SameThread n := by
  induction left generalizing m with
  | nil =>
    cases returned
    rfl
  | cons r rest ih =>
    obtain ⟨_, o, ran, others⟩ := returned_of_bind returned
    rw [runDestructor_eq] at ran
    obtain ⟨tasks, q, began, settled⟩ := returned_of_bind ran
    have first := beginDestruction_keepsThread r.destructor.subject (m.runNoted id r)
    rw [began] at first
    exact (ih others).trans ((sameThread_of_drain settled).trans first)

theorem sameThread_of_logged {level : Log.Level} {target message : String}
    {fields : List (String × Log.FieldValue)}
    (done : write level target message fields m = .returned () n) : m.SameThread n := by
  have kept := write_keepsThread level target message fields m
  rw [done] at kept
  exact kept

end Machine

end Custody
