import Custody.Handle.Convert
import Custody.Proofs.Outcome
import Mathlib.Data.List.Forall2

/-!
# Processes that are alike

Two runs of a program that differ in what they tell the log of a shared handle that is let go of
instead of becoming the sole owner: one says that it was a strong handle, the other that it was a
local one. `Log.Entry.Alike` relates these entries, and `Process.Alike` relates processes that have
come to differ by them. The sink and the hooks of such processes react alike to what is alike, and
everything else is the same.

`Outcome.Paired` says that two operations ended in the same way, with answers and states that are
related. Whatever a process does, processes that are alike do it in pairs: `Process.perform_alike`.
-/

namespace Custody

/-! ## Outcomes in pairs -/

/-- Two outcomes of one sort, with related answers and states, and for the same reason. -/
inductive Outcome.Paired {σ τ α β : Type} (V : α → β → Prop) (S : σ → τ → Prop) :
    Outcome σ α → Outcome τ β → Prop
  | returned {a : α} {b : β} {s : σ} {t : τ} (answers : V a b) (states : S s t) :
      Paired V S (.returned a s) (.returned b t)
  | unwinding {payload : Payload} {s : σ} {t : τ} (states : S s t) :
      Paired V S (.unwinding payload s) (.unwinding payload t)
  | aborted {cause : Abort} {s : σ} {t : τ} (states : S s t) :
      Paired V S (.aborted cause s) (.aborted cause t)

namespace Outcome.Paired

variable {σ σ' τ τ' α α' β β' : Type} {V : α → β → Prop} {S : σ → τ → Prop} {o : Outcome σ α}
  {u : Outcome τ β}

/-- Answers that are related otherwise as well. -/
theorem mono {W : α → β → Prop} (h : o.Paired V S u) (answers : ∀ a b, V a b → W a b) :
    o.Paired W S u := by
  cases h with
  | returned related states => exact .returned (answers _ _ related) states
  | unwinding states => exact .unwinding states
  | aborted states => exact .aborted states

/-- States that are related otherwise as well. -/
theorem monoState {T : σ → τ → Prop} (h : o.Paired V S u) (states : ∀ s t, S s t → T s t) :
    o.Paired V T u := by
  cases h with
  | returned answers related => exact .returned answers (states _ _ related)
  | unwinding related => exact .unwinding (states _ _ related)
  | aborted related => exact .aborted (states _ _ related)

/-- Outcomes that are seen from larger states. -/
theorem mapState {T : σ' → τ' → Prop} {f : σ → σ'} {g : τ → τ'} (h : o.Paired V S u)
    (lift : ∀ s t, S s t → T (f s) (g t)) : (o.mapState f).Paired V T (u.mapState g) := by
  cases h with
  | returned answers states => exact .returned answers (lift _ _ states)
  | unwinding states => exact .unwinding (lift _ _ states)
  | aborted states => exact .aborted (lift _ _ states)

theorem andThen {W : α' → β' → Prop} {next : α → σ → Outcome σ α'} {next' : β → τ → Outcome τ β'}
    (h : o.Paired V S u)
    (second : ∀ a b s t, o = .returned a s → u = .returned b t → V a b → S s t →
      (next a s).Paired W S (next' b t)) : (o.andThen next).Paired W S (u.andThen next') := by
  cases h with
  | returned answers states => exact second _ _ _ _ rfl rfl answers states
  | unwinding states => exact .unwinding states
  | aborted states => exact .aborted states

/-- The states that were left. -/
theorem state (h : o.Paired V S u) : S o.state u.state := by
  cases h with
  | returned answers states => exact states
  | unwinding states => exact states
  | aborted states => exact states

end Outcome.Paired

namespace Run

open Outcome

variable {σ τ α α' β β' : Type} {V : α → β → Prop} {W : α' → β' → Prop} {S : σ → τ → Prop}
  {s : σ} {t : τ}

/-- One operation after another. -/
theorem bind_paired {act : Run σ α} {act' : Run τ β} {next : α → Run σ α'} {next' : β → Run τ β'}
    (first : (act s).Paired V S (act' t))
    (second : ∀ a b u v, act s = .returned a u → act' t = .returned b v → V a b → S u v →
      (next a u).Paired W S (next' b v)) :
    ((act >>= next) s).Paired W S ((act' >>= next') t) :=
  first.andThen second

theorem passing_paired {last : Run σ Unit} {last' : Run τ Unit} {payload : Payload}
    (h : (last s).Paired (fun _ _ => True) S (last' t)) :
    (passing payload last s).Paired V S (passing payload last' t) := by
  unfold passing
  generalize last s = o at h
  generalize last' t = u at h
  cases h with
  | returned _ states => exact .unwinding states
  | unwinding states => exact .aborted states
  | aborted states => exact .aborted states

theorem onUnwind_paired {act : Run σ α} {act' : Run τ β} {last : Run σ Unit} {last' : Run τ Unit}
    (first : (act s).Paired V S (act' t))
    (after : ∀ p u v, act s = .unwinding p u → act' t = .unwinding p v → S u v →
      (last u).Paired (fun _ _ => True) S (last' v)) :
    (onUnwind act last s).Paired V S (onUnwind act' last' t) := by
  unfold onUnwind
  generalize ended : act s = o at first
  generalize ended' : act' t = u at first
  cases first with
  | returned answers states => exact .returned answers states
  | unwinding states => exact passing_paired (after _ _ _ ended ended' states)
  | aborted states => exact .aborted states

theorem catchingWith_paired {act : Run σ α} {act' : Run τ α} {caught : σ → σ} {caught' : τ → τ}
    (h : (act s).Paired Eq S (act' t)) (kept : ∀ u v, S u v → S (caught u) (caught' v)) :
    (catchingWith caught act s).Paired Eq S (catchingWith caught' act' t) := by
  unfold catchingWith
  generalize act s = o at h
  generalize act' t = u at h
  cases h with
  | returned answers states =>
    cases answers
    exact .returned rfl states
  | unwinding states => exact .returned rfl (kept _ _ states)
  | aborted states => exact .aborted states

theorem forAll_paired {R : α → β → Prop} {act : α → Run σ Unit} {act' : β → Run τ Unit}
    {l : List α} {l' : List β} (related : List.Forall₂ R l l') (states : S s t)
    (each : ∀ a b u v, R a b → S u v → (act a u).Paired Eq S (act' b v)) :
    (forAll act l s).Paired Eq S (forAll act' l' t) := by
  induction related generalizing s t with
  | nil => exact .returned rfl states
  | cons head _ ih =>
    exact bind_paired (each _ _ _ _ head states) fun _ _ _ _ _ _ _ states => ih states

end Run

/-! ## What is alike -/

/-- The log entry about a shared handle that was let go of instead of becoming the sole owner. -/
def refusal (q : Qualifier) (typeName : String) (owners : Word) (thread : Option String) :
    Log.Entry :=
  { level := .debug
    message := "conversion to own released a shared reference"
    fields := [("from", .text q.name), ("type", .text typeName), ("owners", .unsigned owners)]
    thread := thread
    target := some "tether::convert" }

/-- The same entry, but for the kind of handle that was let go of. -/
inductive Log.Entry.Alike : Log.Entry → Log.Entry → Prop
  | same (e : Log.Entry) : Alike e e
  | refused (typeName : String) (owners : Word) (thread : Option String) :
      Alike (refusal .strong typeName owners thread) (refusal .handle typeName owners thread)

theorem Log.Entry.Alike.level {e e' : Log.Entry} (h : e.Alike e') : e'.level = e.level := by
  cases h <;> rfl

/-- The same event, but for the entry that a sink took. -/
inductive Event.Alike : Event → Event → Prop
  | same (e : Event) : Alike e e
  | logged (sink : String) {e e' : Log.Entry} (alike : e.Alike e') :
      Alike (.logged sink e) (.logged sink e')

/-- Actions that do alike things, and put in place what reacts alike to what is alike. -/
inductive Action.Alike : Action → Action → Prop
  | note {e e' : Event} {visible : e.isVisible = true} {visible' : e'.isVisible = true}
      (alike : e.Alike e') : Alike (.note e visible) (.note e' visible')
  | emit {level level' : Log.Level} {target target' : Option String} {message message' : String}
      {fields fields' : List (String × Log.FieldValue)}
      (alike : ∀ thread, Log.Entry.Alike ⟨level, message, fields, 0, thread, target⟩
        ⟨level', message', fields', 0, thread, target'⟩) :
      Alike (.emit level target message fields) (.emit level' target' message' fields')
  | installSink (tag : String) {react react' : Log.Entry → List Action}
      (alike : ∀ e e', e.Alike e' → List.Forall₂ Alike (react e) (react' e')) :
      Alike (.installSink tag react) (.installSink tag react')
  | removeSink : Alike .removeSink .removeSink
  | register (name : String) {react react' : Diagnostic → List Action}
      (alike : ∀ d, List.Forall₂ Alike (react d) (react' d)) :
      Alike (.register name react) (.register name react')
  | unregister (name : String) : Alike (.unregister name) (.unregister name)
  | clearHooks : Alike .clearHooks .clearHooks
  | countFaults : Alike .countFaults .countFaults
  | report (fault : Fault) (severity : Severity) :
      Alike (.report fault severity) (.report fault severity)
  | fail (fault : Fault) : Alike (.fail fault) (.fail fault)
  | panic (payload : Payload) : Alike (.panic payload) (.panic payload)

/-- Sinks that do alike things with entries that are alike. -/
structure Sink.Alike (s s' : Sink) : Prop where
  tag : s'.tag = s.tag
  react : ∀ e e', e.Alike e' → List.Forall₂ Action.Alike (s.react e) (s'.react e')

/-- Hooks that do alike things with a diagnostic. -/
structure Hook.Alike (h h' : Hook) : Prop where
  id : h'.id = h.id
  react : ∀ d, List.Forall₂ Action.Alike (h.react d) (h'.react d)

/-- The same line, but for the kind of handle that an entry speaks of. -/
structure Printed.Alike (l l' : Printed) : Prop where
  format : l'.format = l.format
  entry : l.entry.Alike l'.entry

/-- Processes that differ at most in what the log was told of handles that were let go of. -/
structure Process.Alike (p q : Process) : Prop where
  environment : q.environment = p.environment
  config : q.config = p.config
  log : q.log = p.log
  sink : Option.Rel Sink.Alike p.sink q.sink
  faults : q.faults = p.faults
  last : q.last = p.last
  hooks : List.Forall₂ Hook.Alike p.hooks q.hooks
  nextHook : q.nextHook = p.nextHook
  hookNames : q.hookNames = p.hookNames
  thread : q.thread = p.thread
  printed : List.Forall₂ Printed.Alike p.printed q.printed
  trace : List.Forall₂ Event.Alike p.trace q.trace

/-- What a destructor announced. -/
def Event.announced? : Event → Option Label
  | destroyed label => some label
  | _ => none

namespace Process

variable {p q : Process} {α : Type}

/-- What is told of events apart from what a sink took. -/
theorem Alike.filterMap_trace {f : Event → Option α} (alike : p.Alike q)
    (blind : ∀ e e', e.Alike e' → f e' = f e) : q.trace.filterMap f = p.trace.filterMap f := by
  have traces := alike.trace
  generalize p.trace = l at traces
  generalize q.trace = l' at traces
  induction traces with
  | nil => rfl
  | cons head _ ih => rw [List.filterMap_cons, List.filterMap_cons, blind _ _ head, ih]

/-- Neither the sink nor the hooks of a process can tell which kind of shared handle an entry says
was let go of. -/
def Impartial (p : Process) : Prop := p.Alike p

theorem impartial_of_alike (sink : ∀ s ∈ p.sink, s.Alike s) (hooks : ∀ h ∈ p.hooks, h.Alike h) :
    p.Impartial where
  environment := rfl
  config := rfl
  log := rfl
  sink := by
    cases is : p.sink with
    | none => exact .none
    | some s => exact .some (sink s is)
  faults := rfl
  last := rfl
  hooks := List.forall₂_same.2 hooks
  nextHook := rfl
  hookNames := rfl
  thread := rfl
  printed := List.forall₂_same.2 fun _ _ => ⟨rfl, .same _⟩
  trace := List.forall₂_same.2 fun _ _ => .same _

/-- A sink that only notes what it takes is impartial. -/
theorem recordingSink_alike (tag : String) : (recordingSink tag).Alike (recordingSink tag) :=
  ⟨rfl, fun _ _ entries => .cons (.note (.logged tag entries)) .nil⟩

/-- What concerns neither the sink nor what was logged. -/
theorem Alike.after {e e' : Event} (alike : p.Alike q) (events : e.Alike e') :
    (p.after e).Alike (q.after e') :=
  { alike with trace := .cons events alike.trace }

theorem Alike.activeConfig (alike : p.Alike q) : q.activeConfig = p.activeConfig := by
  unfold Process.activeConfig
  rw [alike.config]

theorem Alike.isUnwinding (alike : p.Alike q) : q.isUnwinding = p.isUnwinding := by
  unfold Process.isUnwinding
  rw [alike.thread]

theorem Alike.panicStarted (alike : p.Alike q) : p.panicStarted.Alike q.panicStarted :=
  { alike with
    thread := congrArg (fun t : Thread => { t with panics := t.panics + 1 }) alike.thread }

theorem Alike.panicCaught (alike : p.Alike q) : p.panicCaught.Alike q.panicCaught :=
  { alike with
    thread := congrArg (fun t : Thread => { t with panics := t.panics - 1 }) alike.thread }

/-! ## What processes do that are alike -/

/-- Processes that are alike do this in pairs. -/
def Pairs (act act' : Run Process α) : Prop :=
  ∀ p q, p.Alike q → (act p).Paired Eq Alike (act' q)

/-- What carries out actions that are alike does so in pairs. -/
def Performer.Alike (performer : Performer) : Prop :=
  ∀ l l', List.Forall₂ Action.Alike l l' → Pairs (performer l) (performer l')

theorem Pairs.pure (a : α) : Pairs (pure a) (pure a) := fun _ _ alike => .returned rfl alike

theorem Pairs.bind {β : Type} {act act' : Run Process α} {next next' : α → Run Process β}
    (first : Pairs act act') (second : ∀ a, Pairs (next a) (next' a)) :
    Pairs (act >>= next) (act' >>= next') := by
  refine fun p q alike => Run.bind_paired (first p q alike) fun a b u v _ _ same alike => ?_
  cases same
  exact second a u v alike

/-- To look at the process. -/
theorem Pairs.get {β : Type} {next next' : Process → Run Process β}
    (h : ∀ p q, p.Alike q → (next p p).Paired Eq Alike (next' q q)) :
    Pairs (Run.get >>= next) (Run.get >>= next') := h

theorem Pairs.modify {f g : Process → Process} (h : ∀ p q, p.Alike q → (f p).Alike (g q)) :
    Pairs (Run.modify f) (Run.modify g) := fun p q alike => .returned rfl (h p q alike)

theorem note_pairs {e e' : Event} (events : e.Alike e') : Pairs (note e) (note e') :=
  .modify fun _ _ alike => alike.after events

theorem panic_pairs (payload : Payload) : Pairs (panic payload : Run Process α) (panic payload) :=
  fun _ _ alike => .unwinding alike.panicStarted

section Performing

variable {performer : Performer} (performs : performer.Alike)

include performs

theorem emitWith_pairs {e e' : Log.Entry} (entries : e.Alike e') :
    Pairs (emitWith performer e) (emitWith performer e') := by
  refine .get fun p q alike => ?_
  rw [alike.log, entries.level]
  cases p.log.admits e.level with
  | false => exact .returned rfl alike
  | true =>
    have sinks := alike.sink
    generalize p.sink = sink at sinks
    generalize q.sink = sink' at sinks
    cases sinks with
    | none =>
      refine .returned rfl { alike with printed := .cons ⟨?_, entries⟩ alike.printed }
      exact congrArg Log.Switches.format alike.log
    | some sinks => exact performs _ _ (sinks.react e e' entries) p q alike

theorem writeWith_pairs {level level' : Log.Level} {target target' : Option String}
    {message message' : String} {fields fields' : List (String × Log.FieldValue)}
    (entries : ∀ thread, Log.Entry.Alike ⟨level, message, fields, 0, thread, target⟩
      ⟨level', message', fields', 0, thread, target'⟩) :
    Pairs (writeWith performer level target message fields)
      (writeWith performer level' target' message' fields') := by
  refine .get fun p q alike => ?_
  rw [alike.thread]
  exact emitWith_pairs performs (entries _) p q alike

omit performs in
theorem diagnose_pairs (fault : Fault) (severity : Severity) :
    Pairs (diagnose fault severity) (diagnose fault severity) := by
  intro p q alike
  have same : (⟨fault, severity, q.faults + 1, q.thread.name⟩ : Diagnostic) =
      ⟨fault, severity, p.faults + 1, p.thread.name⟩ := by rw [alike.faults, alike.thread]
  have counted :
      Process.Alike { p with faults := p.faults + 1 } { q with faults := q.faults + 1 } :=
    { alike with faults := congrArg (· + 1) alike.faults }
  refine .returned same.symm (counted.after ?_)
  rw [same]
  exact .same _

theorem tellWith_pairs (d : Diagnostic) {hook hook' : Hook} (hooks : hook.Alike hook') :
    Pairs (tellWith performer d hook) (tellWith performer d hook') := by
  refine .bind (fun p q alike => ?_) fun _ => .pure ()
  exact Run.catchingWith_paired (performs _ _ (hooks.react d) p q alike)
    fun _ _ => Alike.panicCaught

theorem deliverWith_pairs (d : Diagnostic) :
    Pairs (deliverWith performer d) (deliverWith performer d) := by
  refine .bind (.modify fun p q alike => { alike with last := rfl }) fun _ => ?_
  refine .bind (writeWith_pairs performs fun thread => .same _) fun _ => ?_
  exact .get fun p q alike => Run.forAll_paired alike.hooks alike fun hook hook' u v hooks alike =>
    tellWith_pairs performs d hooks u v alike

omit performs in
theorem raise_pairs (d : Diagnostic) : Pairs (raise d : Run Process α) (raise d) := by
  refine .get fun p q alike => ?_
  rw [alike.activeConfig]
  cases p.activeConfig.diagnostics.abortOnFatal with
  | true => exact .aborted alike
  | false => exact panic_pairs _ p q alike

theorem reportWith_pairs (fault : Fault) (severity : Severity) :
    Pairs (reportWith performer fault severity) (reportWith performer fault severity) := by
  refine .bind (diagnose_pairs fault severity) fun d =>
    .bind (deliverWith_pairs performs d) fun _ => .get fun p q alike => ?_
  rw [alike.isUnwinding]
  cases (severity = .fatal && !p.isUnwinding : Bool) with
  | true => exact raise_pairs d p q alike
  | false => exact .returned rfl alike

theorem failWith_pairs (fault : Fault) :
    Pairs (failWith performer fault : Run Process α) (failWith performer fault) := by
  refine .bind (diagnose_pairs fault .fatal) fun d => .bind (deliverWith_pairs performs d) fun _ =>
    .get fun p q alike => ?_
  rw [alike.isUnwinding]
  cases p.isUnwinding with
  | true => exact .aborted alike
  | false => exact raise_pairs d p q alike

omit performs in
theorem register_pairs (name : String) {react react' : Diagnostic → List Action}
    (reactions : ∀ d, List.Forall₂ Action.Alike (react d) (react' d)) :
    Pairs (register name react) (register name react') := by
  intro p q alike
  unfold register
  rw [alike.nextHook]
  refine .returned rfl { alike with hooks := ?_, nextHook := rfl, hookNames := ?_ }
  · exact List.rel_append alike.hooks (.cons ⟨rfl, reactions⟩ .nil)
  · exact congrArg (List.cons (name, p.nextHook)) alike.hookNames

omit performs in
theorem unregister_pairs (id : HookId) : Pairs (unregister id) (unregister id) := by
  intro p q alike
  have kept : List.Forall₂ Hook.Alike (p.hooks.filter (·.id != id)) (q.hooks.filter (·.id != id)) :=
    List.rel_filter (fun hook hook' hooks => by simp only [hooks.id]) alike.hooks
  refine .returned ?_ { alike with hooks := kept }
  have hooks := alike.hooks
  generalize p.hooks = l at hooks
  generalize q.hooks = l' at hooks
  induction hooks with
  | nil => rfl
  | cons head _ ih => rw [List.any_cons, List.any_cons, head.id, ih]

omit performs in
theorem unregisterNamed_pairs (name : String) :
    Pairs (unregisterNamed name) (unregisterNamed name) := by
  refine .get fun p q alike => ?_
  have same : q.hookNamed? name = p.hookNamed? name := by
    unfold hookNamed?
    rw [alike.hookNames]
  rw [same]
  cases p.hookNamed? name with
  | none => exact .returned rfl alike
  | some id =>
    exact Pairs.bind (unregister_pairs id) (fun removed => .pure (some removed)) p q alike

theorem performOne_pairs {a a' : Action} (actions : a.Alike a') :
    Pairs (performOne performer a) (performOne performer a') := by
  cases actions with
  | note events => exact note_pairs events
  | emit entries => exact writeWith_pairs performs entries
  | installSink tag reactions =>
    exact .modify fun p q alike => { alike with sink := .some ⟨rfl, reactions⟩ }
  | removeSink => exact .modify fun p q alike => { alike with sink := .none }
  | register name reactions => exact .bind (register_pairs name reactions) fun _ => .pure ()
  | unregister name =>
    exact .bind (unregisterNamed_pairs name) fun removed => note_pairs (.same _)
  | clearHooks => exact .modify fun p q alike => { alike with hooks := .nil }
  | countFaults =>
    refine .get fun p q alike => ?_
    rw [alike.faults, alike.last]
    exact note_pairs (.same _) p q alike
  | report fault severity => exact reportWith_pairs performs fault severity
  | fail fault => exact failWith_pairs performs fault
  | panic payload => exact panic_pairs payload

end Performing

/-- However deep actions nest, processes that are alike carry them out in pairs. -/
theorem perform_alike (depth : Nat) : (perform depth).Alike := by
  induction depth with
  | zero =>
    intro l l' actions
    cases actions with
    | nil => exact .pure ()
    | cons head rest => exact fun p q alike => .aborted alike
  | succ depth ih =>
    intro l l' actions
    cases actions with
    | nil => exact .pure ()
    | cons head rest =>
      exact fun p q alike => Run.forAll_paired (.cons head rest) alike
        fun a a' u v actions alike => performOne_pairs ih actions u v alike

end Process

end Custody
