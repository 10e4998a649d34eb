import Custody.Proofs.Threads

/-!
# What becomes of a fatal fault

A fatal fault that is raised in a thread that does not unwind is made a diagnostic, recorded, logged
and told to the hooks, and then the thread unwinds with it. Two things can come between, and both
are the doing of others: a sink that gets the entry may panic itself, and sinks and hooks may go on
writing and reporting until the stack is exhausted. There is nothing else (`Process.fail_raises`),
as long as fatal faults are to unwind at all.
-/

namespace Custody

namespace Process

variable {α : Type} {p : Process} {fault : Fault}

/-- How an operation ends that raises a fatal fault, and does nothing before or afterwards. -/
inductive Raises (p : Process) (fault : Fault) : Outcome Process α → Prop
  /-- The diagnostic was recorded, logged and told to the hooks of that moment, and unwinds. -/
  | raised {d : Diagnostic} {q r : Process} (made : d = p.diagnosticOf fault .fatal)
      (logged : Logged (perform stackDepth) d.entry (p.recorded d) q)
      (told : Told (perform stackDepth) d q.hooks q r) (thread : r.thread = p.thread) :
      Raises p fault (.unwinding (.diagnostic d) r.panicStarted)
  /-- The sink panicked when it got the entry for the diagnostic. -/
  | unheard {d : Diagnostic} {sink : Sink} {payload : Payload} {q : Process}
      (made : d = p.diagnosticOf fault .fatal) (sunk : p.sink = some sink)
      (panicked : perform stackDepth (sink.react d.entry) (p.recorded d) = .unwinding payload q)
      (thread : q.thread = p.thread.panicked) : Raises p fault (.unwinding payload q)
  /-- Sinks or hooks exhausted the stack. -/
  | exhausted {q : Process} : Raises p fault (.aborted .stackExhausted q)

/-- A thread unwinds when a fault was raised. -/
theorem Raises.isUnwinding {payload : Payload} {q : Process}
    (raises : Raises p fault (.unwinding payload q : Outcome Process α)) :
    q.isUnwinding = true := by
  cases raises with
  | raised made logged told thread => rfl
  | unheard made sunk panicked thread =>
    unfold Process.isUnwinding
    rw [thread]
    rfl

/-- To fail is to deliver a diagnostic, and to unwind with it. -/
theorem failWith_eq (performer : Performer) (fault : Fault) (p : Process) :
    (failWith performer fault p : Outcome Process α) =
      (deliverWith performer (p.diagnosticOf fault .fatal)
        (p.counted (p.diagnosticOf fault .fatal))).andThen fun _ u =>
          (if u.isUnwinding then Run.abort (.fatal (p.diagnosticOf fault .fatal))
            else raise (p.diagnosticOf fault .fatal) : Run Process α) u := rfl

/-- What is written about a diagnostic is the entry for it. -/
theorem deliverWith_eq {performer : Performer} {d : Diagnostic} (named : d.thread = p.thread.name) :
    deliverWith performer d p =
      (emitWith performer d.entry { p with last := some d }).andThen fun _ q =>
        Run.forAll (tellWith performer d) q.hooks q := by
  unfold Diagnostic.entry
  rw [named]
  rfl

section Entries

variable {performer : Performer} {e : Log.Entry} {q : Process}

/-- To write an entry that the switches let through to a sink is to hand it to the sink. -/
theorem emitWith_of_sink {sink : Sink} (admitted : p.log.admits e.level = true)
    (sunk : p.sink = some sink) : emitWith performer e p = performer (sink.react e) p := by
  show (if p.log.admits e.level then _ else pure () : Run Process Unit) p = _
  rw [if_pos admitted, sunk]

/-- Any other entry is written. -/
theorem emitWith_of_no_sink (performer : Performer)
    (unsunk : p.log.admits e.level = true → p.sink = none) :
    ∃ q, emitWith performer e p = .returned () q ∧ Logged performer e p q :=
  emitWith_logged fun sink sunk admitted => by
    rw [unsunk admitted] at sunk
    cases sunk

/-- An entry that was written is withheld, printed, or taken by the sink. -/
theorem logged_of_emitWith (written : emitWith performer e p = .returned () q) :
    Logged performer e p q := by
  by_cases unsunk : p.log.admits e.level = true → p.sink = none
  · obtain ⟨q', written', logged⟩ := emitWith_of_no_sink performer unsunk
    cases written.symm.trans written'
    exact logged
  · obtain ⟨admitted, some⟩ := Classical.not_imp.1 unsunk
    obtain ⟨sink, sunk⟩ := Option.ne_none_iff_exists'.1 some
    rw [emitWith_of_sink admitted sunk] at written
    exact .taken admitted sunk written

/-- A panic that comes of an entry is the sink's. -/
theorem sunk_of_emitWith {payload : Payload}
    (written : emitWith performer e p = .unwinding payload q) :
    ∃ sink, p.sink = some sink ∧ performer (sink.react e) p = .unwinding payload q := by
  by_cases unsunk : p.log.admits e.level = true → p.sink = none
  · obtain ⟨q', written', -⟩ := emitWith_of_no_sink performer unsunk
    cases written.symm.trans written'
  · obtain ⟨admitted, some⟩ := Classical.not_imp.1 unsunk
    obtain ⟨sink, sunk⟩ := Option.ne_none_iff_exists'.1 some
    rw [emitWith_of_sink admitted sunk] at written
    exact ⟨sink, sunk, written⟩

end Entries

/-- When the entry for a diagnostic was written, the hooks are told and the diagnostic unwinds. -/
theorem raises_of_logged {d : Diagnostic} {q : Process} (calm : p.isUnwinding = false)
    (made : d = p.diagnosticOf fault .fatal)
    (logged : Logged (perform stackDepth) d.entry (p.recorded d) q)
    (steady : q.Steady (.insisting (p.isUnwinding = false))) (thread : q.thread = p.thread) :
    Raises p fault ((Run.forAll (tellWith (perform stackDepth) d) q.hooks q).andThen fun _ u =>
      (if u.isUnwinding then Run.abort (.fatal d) else raise d : Run Process α) u) := by
  have within : ∀ hook ∈ q.hooks, ∀ a ∈ hook.react d, a.Within _ :=
    fun hook mem => steady.within.hooks hook mem d trivial
  rcases told_or_exhausted within steady with ⟨r, done, told, same⟩ | ⟨r, exhausted⟩
  · have changed := Follows.forAll (fun hook mem =>
      tellWith_follows (perform_follows _ stackDepth) (within hook mem)) q steady.within
        steady.covers
    rw [done] at changed
    have last : r.Steady (.insisting (p.isUnwinding = false)) := steady.changed changed same
    have same : r.thread = p.thread := same.trans thread
    have calm : r.isUnwinding = false := by
      unfold isUnwinding
      rw [same]
      exact calm
    rw [done]
    show Raises p fault ((if r.isUnwinding then Run.abort (.fatal d) else raise d :
      Run Process α) r)
    rw [calm, if_neg Bool.false_ne_true, raise_eq last.unwinds.configured]
    exact .raised made logged told same
  · rw [exhausted]
    exact .exhausted

/-- Where nothing unwinds and fatal faults are to unwind, a fault that is raised is delivered and
unwinds, unless a sink panics on its way or the stack does not suffice. -/
theorem fail_raises (calm : p.isUnwinding = false)
    (unwinds : p.activeConfig.diagnostics.abortOnFatal = false) (fault : Fault) :
    Raises p fault (fail fault p : Outcome Process α) := by
  generalize made : p.diagnosticOf fault .fatal = d
  have steady : p.Steady (.insisting (p.isUnwinding = false)) :=
    steady_of_gentle unwinds fun passing => by rw [calm] at passing; cases passing
  have recorded : (p.recorded d).Steady (.insisting (p.isUnwinding = false)) :=
    steady.changed (made ▸ recorded_changed p fault .fatal) rfl
  have contained :=
    emitWith_contains (perform_contains _ stackDepth) d.entry (p.recorded d) recorded
  have delivered : deliverWith (perform stackDepth) d (p.counted d) =
      (emitWith (perform stackDepth) d.entry (p.recorded d)).andThen fun _ q =>
        Run.forAll (tellWith (perform stackDepth) d) q.hooks q :=
    deliverWith_eq (made ▸ rfl)
  unfold fail
  rw [failWith_eq, made, delivered]
  cases written : emitWith (perform stackDepth) d.entry (p.recorded d) with
  | returned a q =>
    rw [written] at contained
    have logged := logged_of_emitWith written
    exact raises_of_logged calm made.symm logged
      (recorded.changed (logged.changed recorded.within recorded.covers) contained) contained
  | unwinding payload q =>
    rw [written] at contained
    obtain ⟨sink, sunk, panicked⟩ := sunk_of_emitWith written
    exact .unheard made.symm sunk panicked contained
  | aborted cause q =>
    rw [written] at contained
    cases contained
    exact .exhausted

end Process

end Custody
