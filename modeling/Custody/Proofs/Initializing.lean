import Custody.Process.Startup
import Custody.Proofs.Raising
import Custody.Proofs.Settings

/-!
# Initialization is once, and all or nothing

A configuration stands in three places: the process keeps it, and the level and the format of the
log are set to what it says. Whether a call gets there is decided before anything is changed, by
the configuration that it is called with and by whether the process has one: `Process.Answers` says
what each call does in every state. A sink runs only at the end of a call, and no sink reaches the
settings (`Process.Changed.settings`), so a call that unwinds has done all of its work or none.

The configuration in force is then a matter of the calls alone: the first of them that is called
with a valid one decides, whatever environments the process is put in and however its log is
switched in between (`StartupCall.config_of_makeAll`).
-/

namespace Custody

namespace Process

variable {p q : Process}

/-! ## Entries leave the settings alone -/

/-- The configuration, the switches of the log and the environment are as they were. -/
structure SameSettings (p q : Process) : Prop where
  config : q.config = p.config
  log : q.log = p.log
  environment : q.environment = p.environment

namespace SameSettings

theorem refl (p : Process) : p.SameSettings p := ⟨rfl, rfl, rfl⟩

theorem trans {r : Process} (first : p.SameSettings q) (second : q.SameSettings r) :
    p.SameSettings r :=
  ⟨second.config.trans first.config, second.log.trans first.log,
    second.environment.trans first.environment⟩

end SameSettings

/-- No action has to do with the settings. -/
theorem Change.settings {r : Regime} (h : Change r p q) : p.SameSettings q := by
  cases h <;> exact ⟨rfl, rfl, rfl⟩

theorem Changed.settings {r : Regime} (h : Changed r p q) : p.SameSettings q := by
  induction h with
  | refl => exact .refl p
  | tail _ step ih => exact ih.trans step.settings

/-- Neither has what a sink does with an entry, however it ends. -/
theorem emit_settings (e : Log.Entry) (p : Process) : p.SameSettings (emit e p).state := by
  have follows := emitWith_follows (perform_follows .free stackDepth) e p
  have changed := follows (.of_insists trivial p) (fun _ _ => trivial)
  exact changed.settings

/-! ## One call -/

/-- The entry of a process that was configured. -/
def startedEntry (c : RuntimeConfig) (p : Process) : Log.Entry :=
  { level := .debug
    message := "runtime initialized"
    fields := startFields c
    thread := p.thread.name
    target := some "tether::init" }

/-- The entry of a process that was configured before. -/
def keptEntry (p : Process) : Log.Entry :=
  { level := .debug
    message := "runtime already initialized; keeping the first configuration"
    fields := []
    thread := p.thread.name
    target := some "tether::init" }

/-- A call is accepted, and all that it does to a process is to write an entry of level `debug`. -/
structure Announces (e : Log.Entry) (p : Process)
    (o : Outcome Process (Except ConfigError Unit)) : Prop where
  level : e.level = .debug
  /-- The entry is not written unless the log admits it. -/
  withheld : p.log.admits .debug = false → o = .returned (.ok ()) p
  /-- Without a sink it is printed, in the format that is set. -/
  printed : p.log.admits .debug = true → p.sink = none →
    o = .returned (.ok ()) { p with printed := ⟨p.log.format, e⟩ :: p.printed }
  /-- A sink gets it once. If the sink returns, the call does. -/
  handed : ∀ sink, p.log.admits .debug = true → p.sink = some sink →
    o = (perform stackDepth (sink.react e) p).andThen fun _ q => .returned (.ok ()) q
  /-- However the sink ends, the settings are as they were. -/
  settings : p.SameSettings o.state

theorem announces_emit {e : Log.Entry} (level : e.level = .debug) (p : Process) :
    Announces e p ((emit e p).andThen fun _ q => .returned (.ok ()) q) where
  level := level
  withheld := by
    intro closed
    have unsunk : p.log.admits e.level = true → p.sink = none := by
      rw [level, closed]
      nofun
    obtain ⟨q, written, logged⟩ := emitWith_of_no_sink (perform stackDepth) unsunk
    unfold emit
    rw [written]
    cases logged with
    | withheld => rfl
    | printed admitted | taken admitted =>
      rw [level, closed] at admitted
      cases admitted
  printed := by
    intro admitted unsunk
    obtain ⟨q, written, logged⟩ := emitWith_of_no_sink (e := e) (perform stackDepth) fun _ => unsunk
    unfold emit
    rw [written]
    cases logged with
    | withheld closed =>
      rw [level, admitted] at closed
      cases closed
    | printed => rfl
    | taken _ sunk =>
      rw [unsunk] at sunk
      cases sunk
  handed := by
    intro sink admitted sunk
    unfold emit
    rw [emitWith_of_sink (level ▸ admitted) sunk]
  settings := by
    have settings := emit_settings e p
    cases ended : emit e p with
    | _ =>
      rw [ended] at settings
      exact settings

/-- Where there is no sink, nothing keeps a call from coming back. -/
theorem Announces.returns {e : Log.Entry} {o : Outcome Process (Except ConfigError Unit)}
    (h : Announces e p o) (unsunk : p.sink = none) :
    ∃ q, o = .returned (.ok ()) q ∧ q.sink = none := by
  cases admits : p.log.admits .debug with
  | false => exact ⟨p, h.withheld admits, unsunk⟩
  | true => exact ⟨_, h.printed admits unsunk, unsunk⟩

variable {c : RuntimeConfig}

/-- What a process does with a configuration. -/
structure Answers (c : RuntimeConfig) (p : Process) : Prop where
  /-- One that is not valid is refused, and nothing is changed. -/
  refuses : ∀ e, c.validate = .error e → init c p = .returned (.error e) p
  /-- The first valid one is kept, and sets the level and the format of the log. -/
  starts : c.validate = .ok () → p.config = none →
    Announces (startedEntry c p) (p.configured c) (init c p)
  /-- Any other is accepted and ignored. -/
  keeps : c.validate = .ok () → ∀ first, p.config = some first →
    Announces (keptEntry p) p (init c p)

theorem init_of_error {e : ConfigError} (invalid : c.validate = .error e) (p : Process) :
    init c p = .returned (.error e) p := by
  unfold init
  rw [invalid]
  rfl

theorem init_of_ok (valid : c.validate = .ok ()) (p : Process) :
    init c p = (start c p).andThen fun _ q => .returned (.ok ()) q := by
  unfold init
  rw [valid]
  rfl

theorem start_of_none (fresh : p.config = none) :
    start c p = emit (startedEntry c p) (p.configured c) := by
  unfold start
  simp only [Run.bind_apply, Run.get, Outcome.andThen, fresh]
  rfl

theorem start_of_some {first : RuntimeConfig} (kept : p.config = some first) :
    start c p = emit (keptEntry p) p := by
  unfold start
  simp only [Run.bind_apply, Run.get, Outcome.andThen, kept]
  rfl

theorem answers (c : RuntimeConfig) (p : Process) : p.Answers c where
  refuses := fun _ invalid => init_of_error invalid p
  starts := by
    intro valid fresh
    rw [init_of_ok valid, start_of_none fresh]
    exact announces_emit rfl _
  keeps := by
    intro valid first kept
    rw [init_of_ok valid, start_of_some kept]
    exact announces_emit rfl _

/-- A process keeps the configuration it has; without one it takes a valid one. -/
theorem config_init (c : RuntimeConfig) (p : Process) :
    (init c p).state.config = p.config.or (if c.validate.toBool then some c else none) := by
  cases valid : c.validate with
  | error e =>
    rw [init_of_error valid]
    exact (Option.or_none ..).symm
  | ok =>
    cases kept : p.config with
    | none => exact ((answers c p).starts valid kept).settings.config
    | some first => exact (((answers c p).keeps valid first kept).settings.config).trans kept

theorem init_returns (c : RuntimeConfig) (unsunk : p.sink = none) :
    ∃ answer q, init c p = .returned answer q ∧ q.sink = none := by
  cases valid : c.validate with
  | error e => exact ⟨_, p, init_of_error valid p, unsunk⟩
  | ok =>
    cases kept : p.config with
    | none => exact ⟨_, ((answers c p).starts valid kept).returns unsunk⟩
    | some first => exact ⟨_, ((answers c p).keeps valid first kept).returns unsunk⟩

end Process

/-! ## Calls one after another -/

/-- A call that has to do with the settings. -/
inductive StartupCall
  /-- Initialize with a configuration. -/
  | init (c : RuntimeConfig)
  /-- Initialize from the environment, which is this one by then. -/
  | initIn (environment : Environment)
  | setThreshold (level : Log.Level)
  | setFormat (format : Log.Format)

namespace StartupCall

open Process

/-- The configuration that a call gives to the process. -/
def config? : StartupCall → Option RuntimeConfig
  | init c => some c
  | initIn environment => some (.ofEnvironment environment)
  | setThreshold _ | setFormat _ => none

/-- The first configuration among calls that is valid. -/
def accepted? (calls : List StartupCall) : Option RuntimeConfig :=
  (calls.filterMap config?).find? fun c => c.validate.toBool

/-- Make a call. -/
def make : StartupCall → Run Process Unit
  | init c => do let _ ← Process.init c
  | initIn environment => do
    setEnvironment environment
    let _ ← initFromEnvironment
  | setThreshold level => Process.setThreshold level
  | setFormat format => Process.setFormat format

/-- Make a call and catch the panic of a sink. -/
def makeCatching (call : StartupCall) : Run Process Unit := do
  let _ ← catching call.make

/-- Make calls one after another. -/
def makeAll (calls : List StartupCall) : Run Process Unit := Run.forAll makeCatching calls

variable {p q : Process}

theorem makeCatching_eq (call : StartupCall) (p : Process) :
    call.makeCatching p =
      match call.make p with
      | .returned _ q => .returned () q
      | .unwinding _ q => .returned () q.panicCaught
      | .aborted cause q => .aborted cause q := by
  show (Run.catchingWith panicCaught call.make p).andThen _ = _
  unfold Run.catchingWith
  cases call.make p <;> rfl

theorem accepted?_cons (call : StartupCall) (calls : List StartupCall) :
    accepted? (call :: calls) = (accepted? [call]).or (accepted? calls) := by
  unfold accepted?
  rw [← List.singleton_append, List.filterMap_append, List.find?_append]

theorem accepted?_of_config? {call : StartupCall} {c : RuntimeConfig} (h : call.config? = some c) :
    accepted? [call] = if c.validate.toBool then some c else none := by
  simp [accepted?, h]

theorem validate_of_accepted? {calls : List StartupCall} {c : RuntimeConfig}
    (h : accepted? calls = some c) : c.validate = .ok () := by
  have valid := List.find?_some h
  cases answer : c.validate with
  | error e => simp [answer, Except.toBool] at valid
  | ok => rfl

theorem config_make (call : StartupCall) (p : Process) :
    (call.make p).state.config = p.config.or (accepted? [call]) := by
  cases call with
  | init c =>
    rw [accepted?_of_config? rfl, ← config_init]
    exact congrArg config (Run.state_bind_pure (Process.init c) _ p)
  | initIn environment =>
    have given := config_init (.ofEnvironment environment) { p with environment := environment }
    rw [accepted?_of_config? rfl, ← given]
    exact congrArg config (Run.state_bind_pure (Process.init _) _ _)
  | setThreshold level => exact (Option.or_none ..).symm
  | setFormat format => exact (Option.or_none ..).symm

theorem config_makeCatching (call : StartupCall) (p : Process) :
    (call.makeCatching p).state.config = p.config.or (accepted? [call]) := by
  rw [← config_make, makeCatching_eq]
  cases call.make p <;> rfl

/-- The process has the configuration that it had before the calls, or the first valid one that it
was given. -/
theorem config_of_makeAll {calls : List StartupCall} (made : makeAll calls p = .returned () q) :
    q.config = p.config.or (accepted? calls) := by
  induction calls generalizing p with
  | nil =>
    cases made
    exact (Option.or_none ..).symm
  | cons call calls ih =>
    obtain ⟨_, between, first, rest⟩ := Run.returned_of_bind made
    have config := config_makeCatching call p
    rw [first] at config
    rw [ih rest, accepted?_cons, ← Option.or_assoc, ← config]
    rfl

/-- A panic of a sink goes no further than the call that it comes from. -/
theorem makeAll_ne_unwinding (calls : List StartupCall) (p : Process) (payload : Payload) :
    makeAll calls p ≠ .unwinding payload q := by
  induction calls generalizing p with
  | nil => nofun
  | cons call calls ih =>
    intro unwinds
    have unwinds : (call.makeCatching p).andThen (fun _ between => makeAll calls between) =
      .unwinding payload q := unwinds
    rw [makeCatching_eq] at unwinds
    cases ended : call.make p with
    | returned a between =>
      rw [ended] at unwinds
      exact ih between unwinds
    | unwinding payload' between =>
      rw [ended] at unwinds
      exact ih between.panicCaught unwinds
    | aborted cause between =>
      rw [ended] at unwinds
      cases unwinds

theorem make_returns (call : StartupCall) (unsunk : p.sink = none) :
    ∃ q, call.make p = .returned () q ∧ q.sink = none := by
  cases call with
  | init c =>
    obtain ⟨answer, q, returned, still⟩ := init_returns c unsunk
    refine ⟨q, ?_, still⟩
    show (Process.init c p).andThen _ = _
    rw [returned]
    rfl
  | initIn environment =>
    have unsunk' : { p with environment := environment }.sink = none := unsunk
    obtain ⟨answer, q, returned, still⟩ := init_returns (.ofEnvironment environment) unsunk'
    refine ⟨q, ?_, still⟩
    show (Process.init (.ofEnvironment environment) { p with environment := environment }).andThen
      _ = _
    rw [returned]
    rfl
  | setThreshold level => exact ⟨_, rfl, unsunk⟩
  | setFormat format => exact ⟨_, rfl, unsunk⟩

/-- Without a sink all calls come back. -/
theorem makeAll_returns (calls : List StartupCall) (unsunk : p.sink = none) :
    ∃ q, makeAll calls p = .returned () q := by
  induction calls generalizing p with
  | nil => exact ⟨p, rfl⟩
  | cons call calls ih =>
    obtain ⟨between, returned, still⟩ := call.make_returns unsunk
    obtain ⟨q, rest⟩ := ih still
    refine ⟨q, ?_⟩
    show (call.makeCatching p).andThen _ = _
    rw [makeCatching_eq, returned]
    exact rest

/-- A process that was given at most one valid configuration, namely this one first. -/
structure Initialized (first? : Option RuntimeConfig) (q : Process) : Prop where
  config : q.config = first?
  /-- What is in force is that configuration, or the defaults. -/
  active : q.activeConfig = first?.getD {}
  valid : q.activeConfig.validate = .ok ()
  /-- Whatever is given to it next, in whatever environment, is answered for by itself. -/
  answers : ∀ c environment, Answers c { q with environment := environment }
  /-- An environment asks for a configuration that is valid. -/
  environment : ∀ environment, (RuntimeConfig.ofEnvironment environment).validate = .ok () ∧
    initFromEnvironment { q with environment := environment } =
      Process.init (.ofEnvironment environment) { q with environment := environment }
  /-- The log is switched by calls of its own as well, one switch at a time. -/
  switches : ∀ level format,
    (setThreshold level).make q = .returned () { q with log := { q.log with threshold := level } } ∧
    (setFormat format).make q = .returned () { q with log := { q.log with format := format } }

theorem validate_ofEnvironment (environment : Environment) :
    (RuntimeConfig.ofEnvironment environment).validate = .ok () := by
  apply RuntimeConfig.validate_eq_ok_iff.2
  apply RuntimeConfig.valid_of_obeys
  intro v
  exact RuntimeConfig.obeys_iff.2 (RuntimeConfig.field_ofEnvironment environment v)

/-- After any calls, the first valid configuration that a process was given is the one it has.
Until then the next valid one is kept, and sets the level and the format of the log; afterwards it
leaves nothing but an entry. One that is not valid is refused without a trace at any time. The
calls come to an end, but for a sink that takes the process down. -/
theorem initialized_once (p : Process) (fresh : p.config = none) (calls : List StartupCall) :
    (p.sink = none → ∃ q, makeAll calls p = .returned () q) ∧
      (∀ payload q, makeAll calls p ≠ .unwinding payload q) ∧
      ∀ q, makeAll calls p = .returned () q → Initialized (accepted? calls) q := by
  refine ⟨makeAll_returns calls, fun payload q => makeAll_ne_unwinding calls p payload, ?_⟩
  intro q made
  have config : q.config = accepted? calls := by
    rw [config_of_makeAll made, fresh, Option.none_or]
  have active : q.activeConfig = (accepted? calls).getD {} := by
    rw [← config]
    rfl
  refine ⟨config, active, ?_, ?_, ?_, ?_⟩
  · rw [active]
    cases first : accepted? calls with
    | none => rfl
    | some c => exact validate_of_accepted? first
  · intro c environment
    exact Process.answers c _
  · intro environment
    exact ⟨validate_ofEnvironment environment, rfl⟩
  · intro level format
    exact ⟨rfl, rfl⟩

/-- Chunks of 100 bytes are refused, chunks of 512 bytes are then kept, and the environment of a
later call, though it asks for something valid, is not. -/
theorem initialized_once_kept :
    let small : RuntimeConfig := { arena := { chunkSize := 100 } }
    let kept : RuntimeConfig := { arena := { chunkSize := 512 }, log := { level := .debug } }
    let calls := [setThreshold .error, init small, init kept, setFormat .json, initIn .bare]
    ∃ q, makeAll calls {} = .returned () q ∧ q.config = some kept ∧ q.activeConfig = kept ∧
      Process.init small q = .returned (.error .chunkTooSmall) q ∧
      Announces (keptEntry q) q (Process.init {} q) := by
  intro small kept calls
  obtain ⟨returns, -, initialized⟩ := initialized_once {} rfl calls
  obtain ⟨q, made⟩ := returns rfl
  have once := initialized q made
  have first : accepted? calls = some kept := by decide
  rw [first] at once
  refine ⟨q, made, once.config, once.active, ?_, ?_⟩
  · exact (once.answers small q.environment).refuses _ (by decide)
  · exact (once.answers {} q.environment).keeps (by decide) kept once.config

end StartupCall

end Custody
