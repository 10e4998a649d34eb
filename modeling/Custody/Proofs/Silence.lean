import Custody.Machine.Storage
import Custody.Proofs.Outcome

/-!
# What hooks and sinks cannot do

`Process.deeds` is the part of what happened that concerns storage. No operation of the process
adds to it, and none takes back what happened: writing to the log, reporting faults and failing
run hooks and sinks, which may do much, but what was done to storage is not theirs to note. So an
operation of the process leaves a machine undisturbed, with the memory it had and the same deeds.
-/

namespace Custody

/-- What an event says about storage, if it does. -/
def Event.storage? : Event → Option StorageEvent
  | storage e => some e
  | _ => none

theorem Event.storage?_of_isVisible {e : Event} (h : e.isVisible = true) : e.storage? = none := by
  cases e with
  | storage e => cases h
  | _ => rfl

namespace Process

/-- What was done with storage, newest first. -/
def deeds (p : Process) : List StorageEvent := p.trace.filterMap Event.storage?

theorem deeds_after (p : Process) (e : Event) :
    (p.after e).deeds = e.storage?.toList ++ p.deeds := by
  unfold deeds after
  rw [List.filterMap_cons]
  cases e.storage? <;> rfl

@[simp] theorem deeds_after_storage (p : Process) (e : StorageEvent) :
    (p.after (.storage e)).deeds = e :: p.deeds := rfl

/-- More happened, if anything, but nothing more was done with storage. -/
structure Silent (p q : Process) : Prop where
  grown : p.trace <:+ q.trace
  deeds : q.deeds = p.deeds

instance : IsPreorder Process Silent where
  refl p := ⟨List.suffix_refl p.trace, rfl⟩
  trans _ _ _ first second :=
    ⟨first.grown.trans second.grown, second.deeds.trans first.deeds⟩

/-- Nothing happened. -/
theorem Silent.of_trace {p q : Process} (same : q.trace = p.trace) : p.Silent q := by
  refine ⟨⟨[], same.symm⟩, ?_⟩
  unfold Process.deeds
  rw [same]

/-! ## Operations of the process -/

open Run

theorem after_silent {e : Event} (h : e.storage? = none) (p : Process) : p.Silent (p.after e) := by
  refine ⟨List.suffix_cons e p.trace, ?_⟩
  rw [deeds_after, h]
  rfl

theorem note_silent {e : Event} (h : e.storage? = none) : (note e).Keeps Silent :=
  Keeps.modify fun p => after_silent h p

theorem panic_silent {α : Type} (payload : Payload) :
    (panic payload : Run Process α).Keeps Silent := fun _ => Silent.of_trace rfl

theorem catching_silent {α : Type} {act : Run Process α} (h : act.Keeps Silent) :
    (catching act).Keeps Silent :=
  Keeps.catchingWith h fun _ => Silent.of_trace rfl

theorem setSink_silent (sink : Option Sink) : (setSink sink).Keeps Silent :=
  Keeps.modify fun _ => Silent.of_trace rfl

theorem unregisterNamed_silent (name : String) : (unregisterNamed name).Keeps Silent := by
  refine Keeps.bind Keeps.get fun p => ?_
  cases p.hookNamed? name with
  | none => exact Keeps.pure _
  | some id => exact Keeps.bind (fun _ => Silent.of_trace rfl) fun _ => Keeps.pure _

/-- A performer that does nothing with storage. -/
def SilentPerformer (performer : Performer) : Prop :=
  ∀ actions, (performer actions).Keeps Silent

section With

variable {performer : Performer}

theorem emitWith_silent (h : SilentPerformer performer) (e : Log.Entry) :
    (emitWith performer e).Keeps Silent := by
  refine Keeps.bind Keeps.get fun p => ?_
  by_cases admitted : p.log.admits e.level = true
  · rw [if_pos admitted]
    cases p.sink with
    | none => exact Keeps.modify fun _ => Silent.of_trace rfl
    | some sink => exact h _
  · rw [if_neg admitted]
    exact Keeps.pure ()

theorem writeWith_silent (h : SilentPerformer performer) (level : Log.Level)
    (target : Option String) (message : String) (fields : List (String × Log.FieldValue)) :
    (writeWith performer level target message fields).Keeps Silent :=
  Keeps.bind Keeps.get fun _ => emitWith_silent h _

theorem diagnose_silent (fault : Fault) (severity : Severity) :
    (diagnose fault severity).Keeps Silent :=
  fun p => trans_of Silent (Silent.of_trace rfl : p.Silent { p with faults := p.faults + 1 })
    (after_silent rfl _)

theorem tellWith_silent (h : SilentPerformer performer) (d : Diagnostic) (hook : Hook) :
    (tellWith performer d hook).Keeps Silent :=
  Keeps.bind (catching_silent (h _)) fun _ => Keeps.pure ()

theorem deliverWith_silent (h : SilentPerformer performer) (d : Diagnostic) :
    (deliverWith performer d).Keeps Silent := by
  refine Keeps.bind (Keeps.modify fun _ => Silent.of_trace rfl) fun _ => ?_
  refine Keeps.bind (writeWith_silent h _ _ _ _) fun _ => ?_
  exact Keeps.bind Keeps.get fun _ => Keeps.forAll fun hook _ => tellWith_silent h d hook

theorem raise_silent {α : Type} (d : Diagnostic) : (raise d : Run Process α).Keeps Silent := by
  refine Keeps.bind Keeps.get fun p => ?_
  by_cases aborts : p.activeConfig.diagnostics.abortOnFatal = true
  · rw [if_pos aborts]
    exact Keeps.abort _
  · rw [if_neg aborts]
    exact panic_silent _

/-- What a report does with its diagnostic. -/
theorem delivered_silent (h : SilentPerformer performer) (d : Diagnostic) (severity : Severity) :
    (deliverWith performer d >>= fun _ => Run.get >>= fun p =>
      if severity = .fatal && !p.isUnwinding then raise d else pure () : Run Process Unit).Keeps
      Silent := by
  refine Keeps.bind (deliverWith_silent h d) fun _ => ?_
  refine Keeps.bind Keeps.get fun p => ?_
  by_cases fatal : (severity = .fatal && !p.isUnwinding) = true
  · rw [if_pos fatal]
    exact raise_silent d
  · rw [if_neg fatal]
    exact Keeps.pure ()

theorem reportWith_silent (h : SilentPerformer performer) (fault : Fault) (severity : Severity) :
    (reportWith performer fault severity).Keeps Silent :=
  Keeps.bind (diagnose_silent fault severity) fun d => delivered_silent h d severity

/-- A report makes a diagnostic, whatever else comes of it. -/
theorem reportWith_diagnosed (h : SilentPerformer performer) (fault : Fault) (severity : Severity)
    (p : Process) :
    ∃ d newer, (reportWith performer fault severity p).state.trace =
      newer ++ .diagnosed d :: p.trace ∧ d.fault = fault := by
  let d : Diagnostic := ⟨fault, severity, p.faults + 1, p.thread.name⟩
  let q : Process := { p with faults := p.faults + 1 }.after (.diagnosed d)
  obtain ⟨newer, grown⟩ := (delivered_silent h d severity q).grown
  exact ⟨d, newer, grown.symm, rfl⟩

theorem failWith_silent {α : Type} (h : SilentPerformer performer) (fault : Fault) :
    (failWith performer fault : Run Process α).Keeps Silent := by
  refine Keeps.bind (diagnose_silent fault .fatal) fun d => ?_
  refine Keeps.bind (deliverWith_silent h d) fun _ => ?_
  refine Keeps.bind Keeps.get fun p => ?_
  by_cases unwinding : p.isUnwinding = true
  · rw [if_pos unwinding]
    exact Keeps.abort _
  · rw [if_neg unwinding]
    exact raise_silent d

/-- A failure does not come back. -/
theorem failWith_never_returns {α : Type} (fault : Fault) (p : Process) :
    (failWith performer fault p : Outcome Process α).Ensures (fun _ _ => False) fun _ => True := by
  refine Run.bind_ensures (Outcome.Ensures.trivial _) fun d p _ => ?_
  refine Run.bind_ensures (Outcome.Ensures.trivial _) fun _ p _ => ?_
  show ((if p.isUnwinding then Run.abort (.fatal d) else raise d : Run Process α) p).Ensures _ _
  by_cases unwinding : p.isUnwinding = true
  · rw [if_pos unwinding]
    trivial
  · rw [if_neg unwinding]
    show ((if p.activeConfig.diagnostics.abortOnFatal then Run.abort (.fatal d)
      else panic (.diagnostic d) : Run Process α) p).Ensures _ _
    by_cases aborts : p.activeConfig.diagnostics.abortOnFatal = true
    · rw [if_pos aborts]
      trivial
    · rw [if_neg aborts]
      trivial

/-- No action does anything with storage. -/
theorem performOne_silent (h : SilentPerformer performer) (a : Action) :
    (performOne performer a).Keeps Silent := by
  cases a with
  | note event visible => exact note_silent (Event.storage?_of_isVisible visible)
  | emit level target message fields => exact writeWith_silent h level target message fields
  | installSink tag react => exact setSink_silent _
  | removeSink => exact setSink_silent _
  | register name react => exact Keeps.bind (fun _ => Silent.of_trace rfl) fun _ => Keeps.pure ()
  | unregister name =>
    exact Keeps.bind (unregisterNamed_silent name) fun _ => note_silent rfl
  | clearHooks => exact Keeps.modify fun _ => Silent.of_trace rfl
  | countFaults => exact Keeps.bind Keeps.get fun _ => note_silent rfl
  | report fault severity => exact reportWith_silent h fault severity
  | fail fault => exact failWith_silent h fault
  | panic payload => exact panic_silent payload

end With

/-- However deep actions nest, none does anything with storage. -/
theorem perform_silent (depth : Nat) : SilentPerformer (perform depth) := by
  induction depth with
  | zero =>
    intro actions
    cases actions with
    | nil => exact Keeps.pure ()
    | cons a rest => exact Keeps.abort _
  | succ depth ih =>
    intro actions
    cases actions with
    | nil => exact Keeps.pure ()
    | cons a rest => exact Keeps.forAll fun a _ => performOne_silent ih a

end Process

namespace Machine

/-- What was done with storage, newest first. -/
def deeds (m : Machine) : List StorageEvent := m.process.deeds

/-- The memory is as it was, and nothing more was done with storage. -/
def Undisturbed (m n : Machine) : Prop := n.memory = m.memory ∧ n.deeds = m.deeds

instance : IsPreorder Machine Undisturbed where
  refl _ := ⟨rfl, rfl⟩
  trans _ _ _ first second := ⟨second.1.trans first.1, second.2.trans first.2⟩

theorem onProcess_undisturbed {α : Type} {act : Run Process α} (h : act.Keeps Process.Silent) :
    (onProcess act).Keeps Undisturbed :=
  Run.Keeps.within h fun _ _ kept => ⟨rfl, kept.deeds⟩

theorem write_undisturbed (level : Log.Level) (target message : String)
    (fields : List (String × Log.FieldValue)) :
    (write level target message fields).Keeps Undisturbed :=
  onProcess_undisturbed (Process.writeWith_silent (Process.perform_silent _) _ _ _ _)

theorem report_undisturbed (fault : Fault) (severity : Severity) :
    (report fault severity).Keeps Undisturbed :=
  onProcess_undisturbed (Process.reportWith_silent (Process.perform_silent _) _ _)

theorem fail_undisturbed {α : Type} (fault : Fault) :
    (fail fault : Run Machine α).Keeps Undisturbed :=
  onProcess_undisturbed (Process.failWith_silent (Process.perform_silent _) _)

/-- A failure unwinds or ends the process, and leaves the machine undisturbed. -/
theorem fail_ensures {α : Type} (fault : Fault) (m : Machine) :
    (fail fault m : Outcome Machine α).Ensures (fun _ _ => False) m.Undisturbed := by
  have kept := Outcome.Ensures.of_state (fail_undisturbed (α := α) fault m)
  have never : (fail fault m : Outcome Machine α).Ensures (fun _ _ => False) fun _ => True :=
    Outcome.ensures_mapState (Process.failWith_never_returns fault m.process)
  exact (kept.and never).mono (fun _ _ h => h.2) fun _ h => h.1

theorem panic_undisturbed {α : Type} (payload : Payload) :
    (panic payload : Run Machine α).Keeps Undisturbed :=
  onProcess_undisturbed (Process.panic_silent payload)

theorem note_undisturbed {e : Event} (h : e.storage? = none) : (note e).Keeps Undisturbed :=
  onProcess_undisturbed (Process.note_silent h)

end Machine

end Custody
