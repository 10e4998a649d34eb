import Custody.Proofs.Outcome
import Custody.Process.Report
import Mathlib.Logic.Relation

/-!
# What hooks and sinks do to a process

Hooks and sinks are arbitrary programs, and what they do may put further hooks and sinks in
place. A regime says what such programs are held to: which events they note, whether they may
insist on unwinding, and of which diagnostics a hook is told at all. An action is within a
regime when it keeps to it and so does everything that it puts in place.

`Process.Change` lists the least changes that actions make to a process. However deep actions
nest, all that they do is a row of such changes (`perform_follows`), so that what each change
preserves is preserved by every program; in particular a process that is within a regime stays
within it. `Process.Contained` says how a program can end: it returns with the thread as it was,
or one panic more unwinds the thread, or the stack is exhausted (`perform_contains`). Neither
of the other ways to end a process is open to it, unless the configuration asks for that or the
program insists while a panic passes already.
-/

namespace Custody

/-- What the programs of hooks and sinks are held to. -/
structure Regime where
  /-- The events that they note. -/
  notes : Event → Prop
  /-- Whether they may insist on unwinding. -/
  fails : Prop
  /-- The diagnostics that hooks are told of. -/
  told : Diagnostic → Prop

namespace Regime

/-- Programs that insist on unwinding only if `insists`. -/
def insisting (insists : Prop) : Regime := ⟨fun _ => True, insists, fun _ => True⟩

/-- Programs that may do anything. -/
def free : Regime := insisting True

/-- Programs that never insist on unwinding: they report, and go on if the report comes back. -/
def gentle : Regime := insisting False

/-- Programs that never note to have been told of a diagnostic, and hooks that are told of all
others only. -/
def discreet (d : Diagnostic) : Regime := ⟨fun e => ∀ tag, e ≠ .notified tag d, True, (· ≠ d)⟩

/-- What a regime asks of one action by itself. -/
def Permits (r : Regime) : Action → Prop
  | .note event _ => r.notes event
  | .fail _ => r.fails
  | _ => True

/-- Hooks are told of every diagnostic that a process has yet to make. -/
def Covers (r : Regime) (p : Process) : Prop := ∀ d : Diagnostic, p.faults < d.sequence → r.told d

end Regime

/-- An action keeps to a regime, and so do the sinks and hooks that it puts in place. -/
inductive Action.Within (r : Regime) : Action → Prop
  | intro {a : Action} (permitted : r.Permits a)
      (sinks : ∀ tag react, a = .installSink tag react → ∀ e, ∀ b ∈ react e, Within r b)
      (hooks : ∀ name react, a = .register name react →
        ∀ d, r.told d → ∀ b ∈ react d, Within r b) : Within r a

namespace Action.Within

variable {r : Regime}

theorem permitted {a : Action} (h : a.Within r) : r.Permits a := by
  cases h with
  | intro permitted _ _ => exact permitted

theorem sink {tag : String} {react : Log.Entry → List Action}
    (h : (Action.installSink tag react).Within r) (e : Log.Entry) : ∀ a ∈ react e, a.Within r := by
  cases h with
  | intro _ sinks _ => exact sinks tag react rfl e

theorem hook {name : String} {react : Diagnostic → List Action}
    (h : (Action.register name react).Within r) {d : Diagnostic} (told : r.told d) :
    ∀ a ∈ react d, a.Within r := by
  cases h with
  | intro _ _ hooks => exact hooks name react rfl d told

/-- What puts nothing in place only has to be permitted. -/
theorem of_permitted {a : Action} (permitted : r.Permits a)
    (noSink : ∀ tag react, a ≠ .installSink tag react)
    (noHook : ∀ name react, a ≠ .register name react) : a.Within r :=
  ⟨permitted, fun tag react same => absurd same (noSink tag react),
    fun name react same => absurd same (noHook name react)⟩

mutual

/-- Every action is within a regime that permits every action. -/
theorem of_forall (all : ∀ a, r.Permits a) : (a : Action) → a.Within r
  | .note _ _ => of_permitted (all _) nofun nofun
  | .emit _ _ _ _ => of_permitted (all _) nofun nofun
  | .installSink _ react => by
    refine ⟨all _, fun tag' react' same e => ?_, nofun⟩
    cases same
    exact all_of_forall all (react e)
  | .removeSink => of_permitted (all _) nofun nofun
  | .register _ react => by
    refine ⟨all _, nofun, fun name' react' same d _ => ?_⟩
    cases same
    exact all_of_forall all (react d)
  | .unregister _ => of_permitted (all _) nofun nofun
  | .clearHooks => of_permitted (all _) nofun nofun
  | .countFaults => of_permitted (all _) nofun nofun
  | .report _ _ => of_permitted (all _) nofun nofun
  | .fail _ => of_permitted (all _) nofun nofun
  | .panic _ => of_permitted (all _) nofun nofun

/-- So is every list of actions. -/
theorem all_of_forall (all : ∀ a, r.Permits a) : (actions : List Action) →
    ∀ a ∈ actions, a.Within r
  | [] => nofun
  | a :: rest => List.forall_mem_cons.mpr ⟨of_forall all a, all_of_forall all rest⟩

end

/-- Programs that may insist are within the regime whatever they do. -/
theorem of_insists {insists : Prop} (h : insists) (a : Action) :
    a.Within (.insisting insists) := by
  refine of_forall (fun b => ?_) a
  cases b <;> first | exact True.intro | exact h

end Action.Within

namespace Process

/-- The sink and the hooks of a process keep to a regime. -/
structure Within (r : Regime) (p : Process) : Prop where
  sink : ∀ sink, p.sink = some sink → ∀ e, ∀ a ∈ sink.react e, a.Within r
  hooks : ∀ hook ∈ p.hooks, ∀ d, r.told d → ∀ a ∈ hook.react d, a.Within r

theorem Within.of_insists {insists : Prop} (h : insists) (p : Process) :
    p.Within (.insisting insists) :=
  ⟨fun _ _ _ a _ => .of_insists h a, fun _ _ _ _ a _ => .of_insists h a⟩

/-! ## The least changes -/

/-- The process after a hook was registered under a name. -/
def hooked (p : Process) (name : String) (react : Diagnostic → List Action) : Process :=
  { p with
    hooks := p.hooks ++ [⟨p.nextHook, react⟩]
    nextHook := p.nextHook + 1
    hookNames := (name, p.nextHook) :: p.hookNames }

/-- The diagnostic that a report of a fault makes. -/
def diagnosticOf (p : Process) (fault : Fault) (severity : Severity) : Diagnostic :=
  ⟨fault, severity, p.faults + 1, p.thread.name⟩

/-- The process after a diagnostic was made. -/
def counted (p : Process) (d : Diagnostic) : Process :=
  { p with faults := p.faults + 1 }.after (.diagnosed d)

/-- A least change that an action within a regime makes to a process. -/
inductive Change (r : Regime) (p : Process) : Process → Prop
  | noted (e : Event) (permitted : r.notes e) : Change r p (p.after e)
  | answered (name : String) (removed : Option Bool) :
      Change r p (p.after (.unhooked name removed))
  | looked (faults : Nat) (last : Option Nat) : Change r p (p.after (.counted faults last))
  | printed (e : Log.Entry) : Change r p { p with printed := ⟨p.log.format, e⟩ :: p.printed }
  | sunk (sink : Option Sink)
      (within : ∀ s, sink = some s → ∀ e, ∀ a ∈ s.react e, a.Within r) :
      Change r p { p with sink := sink }
  | hooked (name : String) (react : Diagnostic → List Action)
      (within : ∀ d, r.told d → ∀ a ∈ react d, a.Within r) : Change r p (p.hooked name react)
  | unhooked (id : HookId) : Change r p { p with hooks := p.hooks.filter (·.id != id) }
  | cleared : Change r p { p with hooks := [] }
  | diagnosed (fault : Fault) (severity : Severity) :
      Change r p (p.counted (p.diagnosticOf fault severity))
  | remembered (d : Diagnostic) : Change r p { p with last := some d }
  | panicked : Change r p p.panicStarted
  | caught : Change r p p.panicCaught

/-- A row of least changes. -/
abbrev Changed (r : Regime) : Process → Process → Prop := Relation.ReflTransGen (Change r)

namespace Change

variable {r : Regime} {p q : Process}

/-- A change within a regime leaves a process within it. -/
theorem within (h : Change r p q) (before : p.Within r) : q.Within r := by
  cases h with
  | sunk sink within => exact ⟨within, before.hooks⟩
  | hooked name react within =>
    refine ⟨before.sink, fun hook mem => ?_⟩
    rcases List.mem_append.mp mem with old | new
    · exact before.hooks hook old
    · obtain rfl := List.mem_singleton.mp new
      exact within
  | unhooked id => exact ⟨before.sink, fun hook mem => before.hooks hook (List.mem_filter.mp mem).1⟩
  | cleared => exact ⟨before.sink, nofun⟩
  | _ => exact ⟨before.sink, before.hooks⟩

/-- Diagnostics are counted, never forgotten. -/
theorem faults_le (h : Change r p q) : p.faults ≤ q.faults := by
  cases h with
  | diagnosed fault severity => exact Nat.le_succ p.faults
  | _ => exact Nat.le_refl p.faults

/-- No action configures the process. -/
theorem config (h : Change r p q) : q.config = p.config := by
  cases h <;> rfl

end Change

namespace Changed

variable {r : Regime} {p q : Process}

theorem within (h : Changed r p q) (before : p.Within r) : q.Within r := by
  induction h with
  | refl => exact before
  | tail _ step ih => exact step.within ih

theorem faults_le (h : Changed r p q) : p.faults ≤ q.faults := by
  induction h with
  | refl => exact Nat.le_refl _
  | tail _ step ih => exact Nat.le_trans ih step.faults_le

theorem covers (h : Changed r p q) (before : r.Covers p) : r.Covers q :=
  fun d later => before d (Nat.lt_of_le_of_lt h.faults_le later)

theorem activeConfig (h : Changed r p q) : q.activeConfig = p.activeConfig := by
  induction h with
  | refl => rfl
  | tail _ step ih =>
    unfold Process.activeConfig
    rw [step.config]
    exact ih

end Changed

/-! ## All that programs do -/

section Changes

variable {r : Regime} {performer : Performer} {p : Process}

/-- What an operation does to a process within a regime is a row of changes. -/
def Follows {α : Type} (r : Regime) (act : Run Process α) (p : Process) : Prop :=
  p.Within r → r.Covers p → Changed r p (act p).state

/-- What a performer does with actions within a regime is a row of changes. -/
def Performer.Follows (r : Regime) (performer : Performer) : Prop :=
  ∀ actions p, (∀ a ∈ actions, a.Within r) → Process.Follows r (performer actions) p

theorem Change.follows {α : Type} {act : Run Process α} (h : Change r p (act p).state) :
    Follows r act p := fun _ _ => .single h

theorem Follows.nothing {α : Type} {act : Run Process α} (h : (act p).state = p) :
    Follows r act p := by
  intro _ _
  rw [h]

theorem Follows.bind {α β : Type} {act : Run Process α} {next : α → Run Process β}
    (first : Follows r act p) (second : ∀ a q, Follows r (next a) q) :
    Follows r (act >>= next) p := by
  intro within covers
  refine Run.bind_state (Q := Changed r p) (first within covers) fun a q between => ?_
  exact between.trans (second a q (between.within within) (between.covers covers))

theorem Follows.forAll {α : Type} {act : α → Run Process Unit} {l : List α}
    (h : ∀ a ∈ l, ∀ p, Follows r (act a) p) (p : Process) : Follows r (Run.forAll act l) p := by
  induction l generalizing p with
  | nil => exact .nothing rfl
  | cons a rest ih =>
    refine .bind (h a (List.mem_cons_self ..) p) fun _ q => ?_
    exact ih (fun b mem => h b (List.mem_cons_of_mem a mem)) q

theorem Follows.catching {act : Run Process Unit} (h : Follows r act p) :
    Follows r (catching act) p := by
  intro within covers
  have done := h within covers
  show Changed r p (Run.catchingWith panicCaught act p).state
  unfold Run.catchingWith
  cases ended : act p with
  | returned a q =>
    rw [ended] at done
    exact done
  | unwinding payload q =>
    rw [ended] at done
    exact done.tail .caught
  | aborted cause q =>
    rw [ended] at done
    exact done

theorem emitWith_follows (h : performer.Follows r) (e : Log.Entry) (p : Process) :
    Follows r (emitWith performer e) p := by
  intro within covers
  show Changed r p ((if p.log.admits e.level then _ else pure () : Run Process Unit) p).state
  by_cases admitted : p.log.admits e.level = true
  · rw [if_pos admitted]
    cases sunk : p.sink with
    | none => exact .single (.printed e)
    | some sink => exact h _ p (within.sink sink sunk e) within covers
  · rw [if_neg admitted]
    exact .refl

theorem writeWith_follows (h : performer.Follows r) (level : Log.Level) (target : Option String)
    (message : String) (fields : List (String × Log.FieldValue)) (p : Process) :
    Follows r (writeWith performer level target message fields) p :=
  .bind (.nothing rfl) fun _ q => emitWith_follows h _ q

/-- Whoever is told of a diagnostic that the regime lets hooks hear of keeps to it. -/
theorem tellWith_follows (h : performer.Follows r) {d : Diagnostic} {hook : Hook}
    (within : ∀ a ∈ hook.react d, a.Within r) (p : Process) :
    Follows r (tellWith performer d hook) p :=
  .bind (.catching (h _ p within)) fun _ _ => .nothing rfl

theorem deliverWith_follows (h : performer.Follows r) {d : Diagnostic} (told : r.told d)
    (p : Process) : Follows r (deliverWith performer d) p := by
  refine .bind (Change.follows (.remembered d)) fun _ q => ?_
  refine .bind (writeWith_follows h _ _ _ _ q) fun _ q => ?_
  intro within covers
  exact Follows.forAll (fun hook mem => tellWith_follows h (within.hooks hook mem d told)) q
    within covers

theorem raise_follows {α : Type} (d : Diagnostic) (p : Process) :
    Follows r (raise d : Run Process α) p := by
  refine .bind (.nothing rfl) fun q q' => ?_
  by_cases aborts : q.activeConfig.diagnostics.abortOnFatal = true
  · rw [if_pos aborts]
    exact .nothing rfl
  · rw [if_neg aborts]
    exact Change.follows .panicked

/-- What is made of a diagnostic that was not made before. -/
theorem diagnosed_follows {α : Type} {next : Diagnostic → Run Process α} (fault : Fault)
    (severity : Severity)
    (h : ∀ d, r.told d → ∀ q, Follows r (next d) q) (p : Process) :
    Follows r (diagnose fault severity >>= next) p := by
  intro within covers
  have made : Change r p (p.counted (p.diagnosticOf fault severity)) := .diagnosed fault severity
  have told : r.told (p.diagnosticOf fault severity) := covers _ (Nat.lt_succ_self _)
  have after : Changed r p (p.counted (p.diagnosticOf fault severity)) := .single made
  exact after.trans (h _ told _ (after.within within) (Changed.covers after covers))

theorem reportWith_follows (h : performer.Follows r) (fault : Fault) (severity : Severity)
    (p : Process) : Follows r (reportWith performer fault severity) p := by
  refine diagnosed_follows fault severity (fun d told q => ?_) p
  refine .bind (deliverWith_follows h told q) fun _ q => ?_
  refine .bind (.nothing rfl) fun q q' => ?_
  by_cases fatal : (severity = .fatal && !q.isUnwinding) = true
  · rw [if_pos fatal]
    exact raise_follows d q'
  · rw [if_neg fatal]
    exact .nothing rfl

theorem failWith_follows {α : Type} (h : performer.Follows r) (fault : Fault) (p : Process) :
    Follows r (failWith performer fault : Run Process α) p := by
  refine diagnosed_follows fault .fatal (fun d told q => ?_) p
  refine .bind (deliverWith_follows h told q) fun _ q => ?_
  refine .bind (.nothing rfl) fun q q' => ?_
  by_cases unwinding : q.isUnwinding = true
  · rw [if_pos unwinding]
    exact .nothing rfl
  · rw [if_neg unwinding]
    exact raise_follows d q'

theorem unregisterNamed_follows (name : String) (p : Process) :
    Follows r (unregisterNamed name) p := by
  refine .bind (.nothing rfl) fun q q' => ?_
  cases q.hookNamed? name with
  | none => exact .nothing rfl
  | some id => exact .bind (Change.follows (.unhooked id)) fun _ _ => .nothing rfl

theorem performOne_follows (h : performer.Follows r) {a : Action} (within : a.Within r)
    (p : Process) : Follows r (performOne performer a) p := by
  cases a with
  | note event visible => exact Change.follows (.noted event within.permitted)
  | emit level target message fields => exact writeWith_follows h level target message fields p
  | installSink tag react =>
    refine Change.follows (.sunk _ fun s same => ?_)
    cases same
    exact within.sink
  | removeSink => exact Change.follows (.sunk none nofun)
  | register name react =>
    refine .bind (Change.follows (.hooked name react fun d told => within.hook told)) fun _ _ => ?_
    exact .nothing rfl
  | unregister name =>
    exact .bind (unregisterNamed_follows name p) fun removed _ =>
      Change.follows (.answered name removed)
  | clearHooks => exact Change.follows .cleared
  | countFaults =>
    exact .bind (.nothing rfl) fun q _ => Change.follows (.looked q.faults _)
  | report fault severity => exact reportWith_follows h fault severity p
  | fail fault => exact failWith_follows h fault p
  | panic payload => exact Change.follows .panicked

/-- However deep actions nest, all that they do is a row of least changes. -/
theorem perform_follows (r : Regime) (depth : Nat) : (perform depth).Follows r := by
  induction depth with
  | zero =>
    intro actions p within
    cases actions with
    | nil => exact .nothing rfl
    | cons a rest => exact .nothing rfl
  | succ depth ih =>
    intro actions p within
    cases actions with
    | nil => exact .nothing rfl
    | cons a rest =>
      exact .forAll (fun b mem => performOne_follows ih (within b mem)) p

end Changes

/-! ## How programs end -/

/-- A thread that was left as it was, or unwinds with one panic more, or has exhausted its
stack. -/
def Contained {α : Type} (p : Process) : Outcome Process α → Prop
  | .returned _ q => q.thread = p.thread
  | .unwinding _ q => q.thread = p.panicStarted.thread
  | .aborted cause _ => cause = .stackExhausted

/-- Fatal faults unwind, and programs insist on unwinding only where nothing unwinds already. -/
structure Unwinds (r : Regime) (p : Process) : Prop where
  configured : p.activeConfig.diagnostics.abortOnFatal = false
  alone : r.fails → p.isUnwinding = false

/-- What there is in a process where a program within a regime runs. -/
structure Steady (r : Regime) (p : Process) : Prop where
  within : p.Within r
  covers : r.Covers p
  unwinds : p.Unwinds r

/-- What a program within a regime leaves is steady, once the thread is as it was. -/
theorem Steady.changed {r : Regime} {p q : Process} (h : p.Steady r) (changed : Changed r p q)
    (thread : q.thread = p.thread) : q.Steady r := by
  refine ⟨changed.within h.within, changed.covers h.covers, ?_, fun fails => ?_⟩
  · rw [changed.activeConfig]
    exact h.unwinds.configured
  · unfold isUnwinding
    rw [thread]
    exact h.unwinds.alone fails

section Containing

variable {r : Regime} {performer : Performer} {p : Process}

/-- An operation in a steady process ends in one of the three ways. -/
def Contains {α : Type} (r : Regime) (act : Run Process α) (p : Process) : Prop :=
  p.Steady r → p.Contained (act p)

/-- A performer ends in one of the three ways with actions within a regime. -/
def Performer.Contains (r : Regime) (performer : Performer) : Prop :=
  ∀ actions p, (∀ a ∈ actions, a.Within r) → Process.Contains r (performer actions) p

theorem Contains.bind {α β : Type} {act : Run Process α} {next : α → Run Process β}
    (follows : Follows r act p) (first : Contains r act p)
    (second : ∀ a q, Contains r (next a) q) : Contains r (act >>= next) p := by
  intro steady
  have changed := follows steady.within steady.covers
  have contained := first steady
  rw [Run.bind_apply]
  cases ended : act p with
  | returned a q =>
    rw [ended] at changed contained
    have thread : q.thread = p.thread := contained
    have done := second a q (steady.changed changed thread)
    show p.Contained (next a q)
    cases last : next a q with
    | returned b u =>
      rw [last] at done
      exact Eq.trans done thread
    | unwinding payload u =>
      rw [last] at done
      refine Eq.trans done ?_
      unfold panicStarted
      rw [thread]
    | aborted cause u =>
      rw [last] at done
      exact done
  | unwinding payload q =>
    rw [ended] at contained
    exact contained
  | aborted cause q =>
    rw [ended] at contained
    exact contained

theorem Contains.forAll {α : Type} {act : α → Run Process Unit} {l : List α}
    (follows : ∀ a ∈ l, ∀ p, Follows r (act a) p) (contains : ∀ a ∈ l, ∀ p, Contains r (act a) p)
    (p : Process) : Contains r (Run.forAll act l) p := by
  induction l generalizing p with
  | nil => exact fun _ => rfl
  | cons a rest ih =>
    refine .bind (follows a (List.mem_cons_self ..) p) (contains a (List.mem_cons_self ..) p) ?_
    exact fun _ q => ih (fun b mem => follows b (List.mem_cons_of_mem a mem))
      (fun b mem => contains b (List.mem_cons_of_mem a mem)) q

/-- A panic that is caught leaves the thread as it was. -/
theorem panicCaught_thread {q : Process} (thread : q.thread = p.panicStarted.thread) :
    q.panicCaught.thread = p.thread := by
  unfold panicCaught
  rw [thread]
  rfl

theorem Contains.catching {act : Run Process Unit} (h : Contains r act p) :
    Contains r (catching act) p := by
  intro steady
  have contained := h steady
  show p.Contained (Run.catchingWith panicCaught act p)
  unfold Run.catchingWith
  cases ended : act p with
  | returned a q =>
    rw [ended] at contained
    exact contained
  | unwinding payload q =>
    rw [ended] at contained
    exact panicCaught_thread contained
  | aborted cause q =>
    rw [ended] at contained
    exact contained

theorem emitWith_contains (h : performer.Contains r) (e : Log.Entry) (p : Process) :
    Contains r (emitWith performer e) p := by
  intro steady
  show p.Contained ((if p.log.admits e.level then _ else pure () : Run Process Unit) p)
  by_cases admitted : p.log.admits e.level = true
  · rw [if_pos admitted]
    cases sunk : p.sink with
    | none => exact rfl
    | some sink => exact h _ p (steady.within.sink sink sunk e) steady
  · rw [if_neg admitted]
    exact rfl

theorem writeWith_contains (h : performer.Contains r) (level : Log.Level) (target : Option String)
    (message : String) (fields : List (String × Log.FieldValue)) (p : Process) :
    Contains r (writeWith performer level target message fields) p :=
  emitWith_contains h _ p

theorem tellWith_contains (follows : performer.Follows r) (h : performer.Contains r)
    {d : Diagnostic} {hook : Hook} (within : ∀ a ∈ hook.react d, a.Within r) (p : Process) :
    Contains r (tellWith performer d hook) p :=
  .bind (.catching (follows _ p within)) (.catching (h _ p within)) fun _ _ _ => rfl

theorem deliverWith_contains (follows : performer.Follows r) (h : performer.Contains r)
    {d : Diagnostic} (told : r.told d) (p : Process) :
    Contains r (deliverWith performer d) p := by
  refine .bind (Change.follows (.remembered d)) (fun _ => rfl) fun _ q => ?_
  refine .bind (writeWith_follows follows _ _ _ _ q) (writeWith_contains h _ _ _ _ q) fun _ q => ?_
  intro steady
  have within : ∀ hook ∈ q.hooks, ∀ a ∈ hook.react d, a.Within r :=
    fun hook mem => steady.within.hooks hook mem d told
  exact Contains.forAll (fun hook mem => tellWith_follows follows (within hook mem))
    (fun hook mem => tellWith_contains follows h (within hook mem)) q steady

/-- A fatal fault unwinds, where the process is not to end instead. -/
theorem raise_eq {α : Type} (h : p.activeConfig.diagnostics.abortOnFatal = false)
    (d : Diagnostic) :
    (raise d : Run Process α) p = .unwinding (.diagnostic d) p.panicStarted := by
  show (if p.activeConfig.diagnostics.abortOnFatal then Run.abort (.fatal d)
    else panic (.diagnostic d) : Run Process α) p = _
  rw [h]
  rfl

theorem raise_contains {α : Type} (d : Diagnostic) (p : Process) :
    Contains r (raise d : Run Process α) p := by
  intro steady
  rw [raise_eq steady.unwinds.configured]
  exact rfl

theorem diagnosed_contains {α : Type} {next : Diagnostic → Run Process α} (fault : Fault)
    (severity : Severity) (h : ∀ d, r.told d → ∀ q, Contains r (next d) q) (p : Process) :
    Contains r (diagnose fault severity >>= next) p := by
  intro steady
  have made : Changed r p (p.counted (p.diagnosticOf fault severity)) :=
    .single (.diagnosed fault severity)
  exact h _ (steady.covers _ (Nat.lt_succ_self _)) _ (steady.changed made rfl)

theorem reportWith_contains (follows : performer.Follows r) (h : performer.Contains r)
    (fault : Fault) (severity : Severity) (p : Process) :
    Contains r (reportWith performer fault severity) p := by
  refine diagnosed_contains fault severity (fun d told q => ?_) p
  refine .bind (deliverWith_follows follows told q) (deliverWith_contains follows h told q) ?_
  intro _ q steady
  show q.Contained
    ((if severity = .fatal && !q.isUnwinding then raise d else pure () : Run Process Unit) q)
  by_cases fatal : (severity = .fatal && !q.isUnwinding) = true
  · rw [if_pos fatal]
    exact raise_contains d q steady
  · rw [if_neg fatal]
    exact rfl

theorem failWith_contains {α : Type} (follows : performer.Follows r) (h : performer.Contains r)
    (permitted : r.fails) (fault : Fault) (p : Process) :
    Contains r (failWith performer fault : Run Process α) p := by
  refine diagnosed_contains fault .fatal (fun d told q => ?_) p
  refine .bind (deliverWith_follows follows told q) (deliverWith_contains follows h told q) ?_
  intro _ q steady
  show q.Contained ((if q.isUnwinding then Run.abort (.fatal d) else raise d : Run Process α) q)
  rw [steady.unwinds.alone permitted]
  exact raise_contains d q steady

theorem unregisterNamed_contains (name : String) (p : Process) :
    Contains r (unregisterNamed name) p := by
  intro _
  unfold unregisterNamed
  rw [Run.bind_apply]
  dsimp only [Run.get, Outcome.andThen]
  cases p.hookNamed? name with
  | none => exact rfl
  | some id => exact rfl

theorem performOne_contains (follows : performer.Follows r) (h : performer.Contains r) {a : Action}
    (within : a.Within r) (p : Process) : Contains r (performOne performer a) p := by
  cases a with
  | emit level target message fields => exact writeWith_contains h level target message fields p
  | unregister name =>
    exact .bind (unregisterNamed_follows name p) (unregisterNamed_contains name p)
      fun _ _ _ => rfl
  | report fault severity => exact reportWith_contains follows h fault severity p
  | fail fault => exact failWith_contains follows h within.permitted fault p
  | _ => exact fun _ => rfl

/-- However deep actions nest, no panic and no report takes the process down. -/
theorem perform_contains (r : Regime) (depth : Nat) : (perform depth).Contains r := by
  induction depth with
  | zero =>
    intro actions p _ _
    cases actions with
    | nil => exact rfl
    | cons a rest => exact rfl
  | succ depth ih =>
    intro actions p within
    cases actions with
    | nil => exact fun _ => rfl
    | cons a rest =>
      have follows := perform_follows r depth
      exact .forAll (fun b mem => performOne_follows follows (within b mem))
        (fun b mem => performOne_contains follows ih (within b mem)) p

end Containing

end Process

end Custody
