import Custody.Proofs.Registration
import Mathlib.Data.List.Forall2

/-!
# Delivery of diagnostics

A report records its diagnostic before anybody can see it, then writes one log entry for it, and
then tells the hooks that are registered by then. `Process.Logged` says what becomes of an
entry, and `Process.Told` says that hooks are told of a diagnostic one after another, each of
them once and in the state that the one before left behind. Whatever a hook does, its panic ends
with it (`Process.told_or_exhausted`). So a report of a warning comes back, and a report of a
fatal fault unwinds with its diagnostic unless the thread is unwinding already
(`Process.report_delivered`).

Hooks may report in turn, and the hooks that are told then may do so again. A depth is enough
for a report if this comes to an end before the depth is exhausted (`Process.Suffices`). To be
told cannot be seen from outside, so for hooks that begin with a note of what they were told
there is a statement about the notes as well: the notes of this diagnostic are made by the
hooks of the moment of delivery, by each of them once and in order.
-/

namespace Custody

/-- The log entry for a diagnostic. -/
def Diagnostic.entry (d : Diagnostic) : Log.Entry :=
  { level := d.severity.level
    message := d.text
    fields := Process.diagnosticFields d
    thread := d.thread
    target := some "tether::fault" }

/-- Before anything else a hook notes under a tag that it was told of a diagnostic, and it makes
no such note afterwards. -/
def Hook.Announces (d : Diagnostic) (hook : Hook) (tag : String) : Prop :=
  ∃ rest, hook.react d = .note (.notified tag d) :: rest ∧ ∀ a ∈ rest, a.Within (.discreet d)

namespace Process

/-- The process that has a diagnostic on record: it is counted, and the last one. -/
def recorded (p : Process) (d : Diagnostic) : Process := { p.counted d with last := some d }

/-- An entry is withheld by the switches of the log, or printed, or taken by the sink, which
returns. -/
inductive Logged (performer : Performer) (e : Log.Entry) (p : Process) : Process → Prop
  | withheld (closed : p.log.admits e.level = false) : Logged performer e p p
  | printed (admitted : p.log.admits e.level = true) (unsunk : p.sink = none) :
      Logged performer e p { p with printed := ⟨p.log.format, e⟩ :: p.printed }
  | taken {sink : Sink} {q : Process} (admitted : p.log.admits e.level = true)
      (sunk : p.sink = some sink) (returned : performer (sink.react e) p = .returned () q) :
      Logged performer e p q

/-- Hooks are told of a diagnostic one after another. Each returns, or what it panics with is
caught. -/
inductive Told (performer : Performer) (d : Diagnostic) : List Hook → Process → Process → Prop
  | nobody (p : Process) : Told performer d [] p p
  | returned {hook : Hook} {rest : List Hook} {p q r : Process}
      (did : performer (hook.react d) p = .returned () q) (others : Told performer d rest q r) :
      Told performer d (hook :: rest) p r
  | panicked {hook : Hook} {rest : List Hook} {p q r : Process} {payload : Payload}
      (did : performer (hook.react d) p = .unwinding payload q)
      (others : Told performer d rest q.panicCaught r) : Told performer d (hook :: rest) p r

/-- The stack was not exhausted. -/
def Suffices {α : Type} (o : Outcome Process α) : Prop := ∀ q, o ≠ .aborted .stackExhausted q

section With

variable {performer : Performer} {d : Diagnostic} {p q r : Process}

/-- One entry is written, where a sink that gets it returns. -/
theorem emitWith_logged {e : Log.Entry}
    (taken : ∀ sink, p.sink = some sink → p.log.admits e.level = true →
      ∃ q, performer (sink.react e) p = .returned () q) :
    ∃ q, emitWith performer e p = .returned () q ∧ Logged performer e p q := by
  show ∃ q, (if p.log.admits e.level then _ else pure () : Run Process Unit) p = _ ∧ _
  by_cases admitted : p.log.admits e.level = true
  · rw [if_pos admitted]
    cases sunk : p.sink with
    | none => exact ⟨_, rfl, .printed admitted sunk⟩
    | some sink =>
      obtain ⟨q, returned⟩ := taken sink sunk admitted
      exact ⟨q, returned, .taken admitted sunk returned⟩
  · rw [if_neg admitted]
    exact ⟨p, rfl, .withheld ((Bool.not_eq_true _).mp admitted)⟩

/-- To tell a hook comes back whether the hook returns or panics. -/
theorem tellWith_returned {hook : Hook} (did : performer (hook.react d) p = .returned () q) :
    tellWith performer d hook p = .returned () q := by
  show (Run.catchingWith panicCaught (performer (hook.react d)) p).andThen _ = _
  unfold Run.catchingWith
  rw [did]
  rfl

theorem tellWith_panicked {hook : Hook} {payload : Payload}
    (did : performer (hook.react d) p = .unwinding payload q) :
    tellWith performer d hook p = .returned () q.panicCaught := by
  show (Run.catchingWith panicCaught (performer (hook.react d)) p).andThen _ = _
  unfold Run.catchingWith
  rw [did]
  rfl

theorem tellWith_aborted {hook : Hook} {cause : Abort}
    (did : performer (hook.react d) p = .aborted cause q) :
    tellWith performer d hook p = .aborted cause q := by
  show (Run.catchingWith panicCaught (performer (hook.react d)) p).andThen _ = _
  unfold Run.catchingWith
  rw [did]
  rfl

end With

section Performing

variable {r : Regime} {depth : Nat} {d : Diagnostic} {p q : Process}

/-- To tell one hook comes back with the thread as it was, unless the stack is exhausted. -/
theorem tellWith_ends {hook : Hook} (within : ∀ a ∈ hook.react d, a.Within r)
    (steady : p.Steady r) :
    (∃ q, tellWith (perform depth) d hook p = .returned () q ∧ q.thread = p.thread ∧
      ∀ rest u, Told (perform depth) d rest q u → Told (perform depth) d (hook :: rest) p u) ∨
    ∃ q, tellWith (perform depth) d hook p = .aborted .stackExhausted q := by
  have contained := perform_contains r depth _ p within steady
  cases did : perform depth (hook.react d) p with
  | returned a q =>
    rw [did] at contained
    exact .inl ⟨q, tellWith_returned did, contained, fun _ _ => .returned did⟩
  | unwinding payload q =>
    rw [did] at contained
    exact .inl ⟨q.panicCaught, tellWith_panicked did, panicCaught_thread contained,
      fun _ _ => .panicked did⟩
  | aborted cause q =>
    rw [did] at contained
    rw [tellWith_aborted did]
    exact .inr ⟨q, congrArg (Outcome.aborted · q) contained⟩

/-- All hooks of a list are told, each once and in order, unless the stack is exhausted. -/
theorem told_or_exhausted {hooks : List Hook}
    (within : ∀ hook ∈ hooks, ∀ a ∈ hook.react d, a.Within r) (steady : p.Steady r) :
    (∃ q, Run.forAll (tellWith (perform depth) d) hooks p = .returned () q ∧
      Told (perform depth) d hooks p q ∧ q.thread = p.thread) ∨
    ∃ q, Run.forAll (tellWith (perform depth) d) hooks p = .aborted .stackExhausted q := by
  induction hooks generalizing p with
  | nil => exact .inl ⟨p, rfl, .nobody p, rfl⟩
  | cons hook rest ih =>
    have own := within hook (List.mem_cons_self ..)
    have changed := tellWith_follows (perform_follows r depth) own p steady.within steady.covers
    show (∃ q, (tellWith (perform depth) d hook p).andThen _ = _ ∧ _) ∨
      ∃ q, (tellWith (perform depth) d hook p).andThen _ = _
    rcases tellWith_ends own steady with ⟨q, told, thread, first⟩ | ⟨q, exhausted⟩
    · rw [told] at changed ⊢
      have others : ∀ hook' ∈ rest, ∀ a ∈ hook'.react d, a.Within r :=
        fun hook' mem => within hook' (List.mem_cons_of_mem hook mem)
      rcases ih others (steady.changed changed thread) with ⟨u, done, chain, thread'⟩ | exhausted
      · exact .inl ⟨u, done, first rest u chain, thread'.trans thread⟩
      · exact .inr exhausted
    · rw [exhausted]
      exact .inr ⟨q, rfl⟩

/-! ## What the notes of hooks say -/

/-- The tags under which hooks noted to have been told of a diagnostic, newest first. -/
def notifications (d : Diagnostic) (p : Process) : List String :=
  p.trace.filterMap fun
    | .notified tag d' => if d' = d then some tag else none
    | _ => none

/-- Discreet programs do not note to have been told. -/
theorem Change.notifications (h : Change (.discreet d) p q) :
    q.notifications d = p.notifications d := by
  cases h with
  | noted e permitted =>
    unfold Process.notifications Process.after
    rw [List.filterMap_cons_none]
    cases e with
    | notified tag d' =>
      refine if_neg fun same => permitted tag ?_
      rw [same]
    | _ => rfl
  | _ => rfl

theorem Changed.notifications (h : Changed (.discreet d) p q) :
    q.notifications d = p.notifications d := by
  induction h with
  | refl => rfl
  | tail _ step ih => exact step.notifications.trans ih

/-- Diagnostics that are made later are other diagnostics. -/
theorem covers_discreet (made : d.sequence ≤ p.faults) : (Regime.discreet d).Covers p := by
  rintro d' later rfl
  exact absurd later (Nat.not_lt.mpr made)

theorem perform_succ (depth : Nat) (actions : List Action) :
    perform (depth + 1) actions = Run.forAll (performOne (perform depth)) actions := by
  cases actions <;> rfl

/-- After a hook that announces itself has noted that it was told, it is discreet. -/
theorem announced {hook : Hook} {tag : String} (announces : hook.Announces d tag)
    (within : p.Within (.discreet d)) (made : d.sequence ≤ p.faults)
    (ran : perform depth (hook.react d) p ≠ .aborted .stackExhausted p) :
    Changed (.discreet d) (p.after (.notified tag d)) (perform depth (hook.react d) p).state := by
  obtain ⟨rest, react, discreet⟩ := announces
  rw [react] at ran ⊢
  cases depth with
  | zero => exact absurd rfl ran
  | succ depth =>
    have done := perform_follows (.discreet d) (depth + 1) rest (p.after (.notified tag d)) discreet
      ⟨within.sink, within.hooks⟩ (covers_discreet made)
    rw [perform_succ] at done ⊢
    exact done

/-- What a hook that announced itself leaves: one note more, and a process that is discreet as
before. -/
theorem Changed.announced {tag : String}
    (changed : Changed (.discreet d) (p.after (.notified tag d)) q)
    (within : p.Within (.discreet d)) (made : d.sequence ≤ p.faults) :
    q.notifications d = tag :: p.notifications d ∧ q.Within (.discreet d) ∧
      d.sequence ≤ q.faults :=
  ⟨changed.notifications.trans (List.filterMap_cons_some (if_pos rfl)),
    changed.within ⟨within.sink, within.hooks⟩, Nat.le_trans made changed.faults_le⟩

/-- Hooks that announce themselves note a diagnostic once each, in the order in which they are
told. -/
theorem Told.notifications {hooks : List Hook} {tags : List String}
    (told : Told (perform depth) d hooks p q)
    (announces : List.Forall₂ (Hook.Announces d) hooks tags)
    (within : p.Within (.discreet d)) (made : d.sequence ≤ p.faults) :
    q.notifications d = tags.reverse ++ p.notifications d := by
  induction told generalizing tags with
  | nobody p =>
    cases announces
    rfl
  | @returned hook rest p q r did others ih =>
    obtain ⟨tag, tags, first, later, rfl⟩ := List.forall₂_cons_left_iff.mp announces
    have ran : perform depth (hook.react d) p ≠ .aborted .stackExhausted p := by
      rw [did]
      nofun
    have changed := announced first within made ran
    rw [did] at changed
    obtain ⟨own, within', made'⟩ := changed.announced within made
    rw [ih later within' made', List.reverse_cons, List.append_assoc]
    exact congrArg (tags.reverse ++ ·) own
  | @panicked hook rest p q r payload did others ih =>
    obtain ⟨tag, tags, first, later, rfl⟩ := List.forall₂_cons_left_iff.mp announces
    have ran : perform depth (hook.react d) p ≠ .aborted .stackExhausted p := by
      rw [did]
      nofun
    have changed := announced first within made ran
    rw [did] at changed
    obtain ⟨own, within', made'⟩ := Changed.announced (changed.tail .caught) within made
    rw [ih later within' made', List.reverse_cons, List.append_assoc]
    exact congrArg (tags.reverse ++ ·) own

/-! ## A whole report -/

/-- An entry that is written is a change that no note is made of. -/
theorem Logged.changed {e : Log.Entry} (logged : Logged (perform depth) e p q)
    (within : p.Within r) (covers : r.Covers p) : Changed r p q := by
  cases logged with
  | withheld closed => exact .refl
  | printed admitted unsunk => exact .single (.printed e)
  | taken admitted sunk returned =>
    have done := perform_follows r depth _ p (within.sink _ sunk e) within covers
    rw [returned] at done
    exact done

/-- Where nothing unwinds, programs may insist on unwinding; elsewhere they are gentle. -/
theorem steady_of_gentle (unwinds : p.activeConfig.diagnostics.abortOnFatal = false)
    (gentle : p.isUnwinding = true → p.Within .gentle) :
    p.Steady (.insisting (p.isUnwinding = false)) := by
  refine ⟨?_, fun _ _ => trivial, unwinds, id⟩
  cases passing : p.isUnwinding with
  | false => exact .of_insists rfl p
  | true =>
    rw [show (true = false) = False from eq_false nofun]
    exact gentle passing

theorem recorded_changed (p : Process) (fault : Fault) (severity : Severity) :
    Changed r p (p.recorded (p.diagnosticOf fault severity)) :=
  (Relation.ReflTransGen.single (.diagnosed fault severity)).tail (.remembered _)

/-- Once its entry is written, a diagnostic is told to the hooks of that moment. -/
theorem deliverWith_of_logged {performer : Performer} (named : d.thread = p.thread.name)
    (written : emitWith performer d.entry { p with last := some d } = .returned () q) :
    deliverWith performer d p = Run.forAll (tellWith performer d) q.hooks q := by
  have wrote : writeWith performer d.severity.level (some "tether::fault") d.text
      (diagnosticFields d) { p with last := some d } = .returned () q := by
    rw [← written]
    unfold Diagnostic.entry
    rw [named]
    rfl
  show (writeWith performer d.severity.level (some "tether::fault") d.text
    (diagnosticFields d) { p with last := some d }).andThen
      (fun _ u => Run.forAll (tellWith performer d) u.hooks u) = _
  rw [wrote]
  rfl

/-- A report is a delivery, and what comes of it. -/
theorem reportWith_eq (performer : Performer) (fault : Fault) (severity : Severity) (p : Process) :
    reportWith performer fault severity p =
      (deliverWith performer (p.diagnosticOf fault severity)
        (p.counted (p.diagnosticOf fault severity))).andThen fun _ u =>
          (if severity = .fatal && !u.isUnwinding then raise (p.diagnosticOf fault severity)
            else pure () : Run Process Unit) u := rfl

/-- A report delivers its diagnostic, and then a fatal one unwinds. -/
theorem reportWith_of_delivered {performer : Performer} {fault : Fault} {severity : Severity}
    (made : p.diagnosticOf fault severity = d)
    (delivered : deliverWith performer d (p.counted d) = .returned () q)
    (unwinds : q.activeConfig.diagnostics.abortOnFatal = false) :
    reportWith performer fault severity p =
      if severity = .fatal ∧ q.isUnwinding = false then
        .unwinding (.diagnostic d) q.panicStarted
      else .returned () q := by
  rw [reportWith_eq, made, delivered]
  show (if severity = .fatal && !q.isUnwinding then raise d else pure () : Run Process Unit) q = _
  by_cases fatal : severity = .fatal ∧ q.isUnwinding = false
  · rw [if_pos fatal, if_pos (by simp [fatal])]
    exact raise_eq unwinds _
  · rw [if_neg fatal, if_neg (by simpa using fatal)]
    rfl

/-- A report that has the stack for it writes one entry, tells the hooks, and ends as its severity
asks. -/
theorem reportWith_ends {fault : Fault} {severity : Severity}
    (made : p.diagnosticOf fault severity = d) (steady : p.Steady r) (told : r.told d)
    (taken : ∀ sink, p.sink = some sink → p.log.admits severity.level = true →
      ∃ q, perform depth (sink.react d.entry) (p.recorded d) = .returned () q)
    (enough : Suffices (reportWith (perform depth) fault severity p)) :
    ∃ q u, Logged (perform depth) d.entry (p.recorded d) q ∧
      Told (perform depth) d q.hooks q u ∧ u.thread = p.thread ∧
      reportWith (perform depth) fault severity p =
        if severity = .fatal ∧ p.isUnwinding = false then .unwinding (.diagnostic d) u.panicStarted
        else .returned () u := by
  subst made
  let d := p.diagnosticOf fault severity
  have steady' : (p.recorded d).Steady r :=
    steady.changed (recorded_changed p fault severity) rfl
  obtain ⟨q, written, logged⟩ : ∃ q, emitWith (perform depth) d.entry (p.recorded d) =
    .returned () q ∧ Logged (perform depth) d.entry (p.recorded d) q := emitWith_logged taken
  have contained := emitWith_contains (perform_contains r depth) d.entry (p.recorded d) steady'
  rw [written] at contained
  have steady'' : q.Steady r :=
    steady'.changed (logged.changed steady'.within steady'.covers) contained
  have delivering : deliverWith (perform depth) d (p.counted d) =
      Run.forAll (tellWith (perform depth) d) q.hooks q :=
    deliverWith_of_logged rfl written
  have within : ∀ hook ∈ q.hooks, ∀ a ∈ hook.react d, a.Within r :=
    fun hook mem => steady''.within.hooks hook mem d told
  rcases told_or_exhausted within steady'' with ⟨u, done, chain, thread⟩ | ⟨u, exhausted⟩
  · have changed : Changed r q u := by
      have all := Follows.forAll (fun hook mem =>
        tellWith_follows (perform_follows r depth) (within hook mem)) q steady''.within
          steady''.covers
      rw [done] at all
      exact all
    have calm : u.Steady r := steady''.changed changed thread
    have thread' : u.thread = p.thread := thread.trans contained
    refine ⟨q, u, logged, chain, thread', ?_⟩
    rw [reportWith_of_delivered rfl (delivering.trans done) calm.unwinds.configured]
    unfold isUnwinding
    rw [thread']
  · refine absurd ?_ (enough u)
    rw [reportWith_eq, delivering, exhausted]
    rfl

/-- A report records its diagnostic, writes one entry for it where the log lets it through, and
tells each hook that is registered by then of it, once and in order, whatever hooks do. Then a
warning comes back, and a fatal fault unwinds with its diagnostic, unless the thread is unwinding
already. Hooks that announce themselves note the diagnostic once each. The numbers of hooks are
issued once, and a hook can be removed exactly as long as it stands. -/
theorem report_delivered {fault : Fault} {severity : Severity}
    (made : p.diagnosticOf fault severity = d)
    (unwinds : p.activeConfig.diagnostics.abortOnFatal = false)
    (gentle : p.isUnwinding = true → p.Within .gentle)
    (taken : ∀ sink, p.sink = some sink → p.log.admits severity.level = true →
      ∃ q, perform depth (sink.react d.entry) (p.recorded d) = .returned () q)
    (enough : Suffices (reportWith (perform depth) fault severity p)) :
    (∃ q r, Logged (perform depth) d.entry (p.recorded d) q ∧
      Told (perform depth) d q.hooks q r ∧ r.thread = p.thread ∧
      reportWith (perform depth) fault severity p =
        (if severity = .fatal ∧ p.isUnwinding = false then
          .unwinding (.diagnostic d) r.panicStarted
        else .returned () r) ∧
      (p.Within (.discreet d) → ∀ tags, List.Forall₂ (Hook.Announces d) q.hooks tags →
        r.notifications d = tags.reverse ++ p.notifications d)) ∧
    (∀ depth actions p, ∃ changes,
      (perform depth actions p).state.registry = p.registry.replay changes) ∧
    ∀ (start q : Process) changes, start.hooks = [] →
      q.registry = start.registry.replay changes →
      (∀ name react, ∃ id q', register name react q = .returned id q' ∧
        ¬ start.registry.Issued changes id ∧
        q'.registry = start.registry.replay (changes ++ [.registered react])) ∧
      ∀ id, ∃ removed q', unregister id q = .returned removed q' ∧
        (removed = true ↔ ∃ react, start.registry.Standing changes ⟨id, react⟩) ∧
        q'.registry = start.registry.replay (changes ++ [.unregistered id]) := by
  refine ⟨?_, fun depth actions p => ?_, fun start q changes empty history => ⟨?_, fun id => ?_⟩⟩
  · obtain ⟨q, u, logged, told, thread, ended⟩ :=
      reportWith_ends made (steady_of_gentle unwinds gentle) trivial taken enough
    refine ⟨q, u, logged, told, thread, ended, fun discreet tags announces => ?_⟩
    have place : d.sequence ≤ (p.recorded d).faults := made ▸ Nat.le_refl _
    have discreet' : (p.recorded d).Within (.discreet d) := ⟨discreet.sink, discreet.hooks⟩
    have written := logged.changed discreet' (covers_discreet place)
    rw [told.notifications announces (written.within discreet')
      (Nat.le_trans place written.faults_le), written.notifications]
    rfl
  · exact Changed.registry (perform_follows .free depth actions p
      (fun a _ => .of_insists trivial a) (.of_insists trivial p) fun _ _ => trivial)
  · intro name react
    obtain ⟨q', registered, after⟩ := registry_register name react q
    refine ⟨_, q', registered, ?_, ?_⟩
    · rw [history]
      exact Registry.not_issued_next _ _
    · rw [after, history, Registry.replay_snoc]
  · obtain ⟨removed, q', answered, found, after⟩ := registry_unregister id q
    refine ⟨removed, q', answered, found.trans ?_, ?_⟩
    · rw [history]
      constructor
      · rintro ⟨hook, mem, rfl⟩
        exact ⟨hook.react, (Registry.mem_replay_hooks empty).mp mem⟩
      · rintro ⟨react, standing⟩
        exact ⟨_, (Registry.mem_replay_hooks empty).mpr standing, rfl⟩
    · rw [after, history, Registry.replay_snoc]

/-- A process that notes log entries and has two hooks: one panics after it noted what it was told,
and the other removes all hooks. -/
def crowded : Process :=
  { sink := some (recordingSink "log")
    hooks := [⟨1, fun d => [.note (.notified "first" d), .panic (.text "hook panicked")]⟩,
      ⟨2, fun d => [.note (.notified "second" d), .clearHooks]⟩]
    nextHook := 3
    hookNames := [("second", 2), ("first", 1)] }

/-- A double free reported there. -/
def crowdedDiagnostic : Diagnostic := ⟨.doubleFree "Thing", .fatal, 1, some "main"⟩

theorem crowded_discreet : crowded.Within (.discreet crowdedDiagnostic) := by
  refine ⟨fun sink sunk e a mem => ?_, fun hook mem d other a mem' => ?_⟩
  · obtain rfl := Option.some.inj sunk
    obtain rfl := List.mem_singleton.mp mem
    exact .of_permitted (fun _ => by rintro ⟨⟩) (fun _ _ => by rintro ⟨⟩) fun _ _ => by rintro ⟨⟩
  · have noted : ∀ tag, (Action.note (.notified tag d)).Within (.discreet crowdedDiagnostic) :=
      fun tag => .of_permitted (fun _ same => other (Event.notified.inj same).2)
        (fun _ _ => by rintro ⟨⟩) fun _ _ => by rintro ⟨⟩
    rcases List.mem_pair.mp mem with rfl | rfl
    · rcases List.mem_pair.mp mem' with rfl | rfl
      · exact noted "first"
      · exact .of_permitted trivial (fun _ _ => by rintro ⟨⟩) fun _ _ => by rintro ⟨⟩
    · rcases List.mem_pair.mp mem' with rfl | rfl
      · exact noted "second"
      · exact .of_permitted trivial (fun _ _ => by rintro ⟨⟩) fun _ _ => by rintro ⟨⟩

/-- Both hooks are told although one panics and the other removes them, and the report unwinds. -/
theorem crowded_delivered :
    crowded.activeConfig.diagnostics.abortOnFatal = false ∧ crowded.isUnwinding = false ∧
    Suffices (reportWith (perform 2) (.doubleFree "Thing") .fatal crowded) ∧
    ∃ u : Process, reportWith (perform 2) (.doubleFree "Thing") .fatal crowded =
        .unwinding (.diagnostic crowdedDiagnostic) u.panicStarted ∧
      u.notifications crowdedDiagnostic = ["second", "first"] := by
  have enough : Suffices (reportWith (perform 2) (.doubleFree "Thing") .fatal crowded) := by
    intro q exhausted
    have unwound : ∃ u, reportWith (perform 2) (.doubleFree "Thing") .fatal crowded =
      .unwinding (.diagnostic crowdedDiagnostic) u := ⟨_, rfl⟩
    obtain ⟨u, unwound⟩ := unwound
    cases unwound.symm.trans exhausted
  refine ⟨rfl, rfl, enough, ?_⟩
  obtain ⟨⟨q, u, logged, told, _, ended, noted⟩, _⟩ :=
    report_delivered (p := crowded) (d := crowdedDiagnostic) rfl rfl
      (fun passing => absurd passing Bool.false_ne_true)
      (fun sink sunk _ => ⟨_, by cases sunk; rfl⟩) enough
  have standing : q.hooks = crowded.hooks := by
    cases logged with
    | withheld closed => rfl
    | printed admitted unsunk => rfl
    | taken admitted sunk returned =>
      cases sunk
      cases returned
      rfl
  refine ⟨u, ended, noted crowded_discreet ["first", "second"] ?_⟩
  rw [standing]
  refine .cons ⟨_, rfl, fun a mem => ?_⟩ (.cons ⟨_, rfl, fun a mem => ?_⟩ .nil)
  · obtain rfl := List.mem_singleton.mp mem
    exact .of_permitted trivial (fun _ _ => by rintro ⟨⟩) fun _ _ => by rintro ⟨⟩
  · obtain rfl := List.mem_singleton.mp mem
    exact .of_permitted trivial (fun _ _ => by rintro ⟨⟩) fun _ _ => by rintro ⟨⟩

end Performing

end Process

end Custody
