import Custody.Proofs.Complete
import Custody.Proofs.Loans

/-!
# What a release says of leaks

A release takes the number of live allocations when it begins, runs its destructors, writes that
number off and reports it. Destructors may let go of handles into the same arena, and so give back
what was counted as live: it is reported as leaked although it was not, and it is accounted for
twice, so that a later leak is not noticed.

`Machine.WentOn` says how a release goes on when its destructors have returned, and `ReportsLeaks`
what is expected of it: what it reports are the loans that are outstanding then, a fault is
reported if there are any and the policy of the arena does not ignore them, and the counters add
up afterwards. `Client.release_reportsLeaks_iff` is the condition under which that is so, for a
release of whichever kind in any run: the counters added up when the release began, as they do
after an orderly history, and its destructors gave nothing back to the arena.

What is counted are words, so all this is about histories that are not longer than words can count.
-/

namespace Custody

namespace Machine

open Run

variable {m n : Machine} {id : AllocatorId} {a b : Arena}

/-! ## The parts of a release -/

/-- What a release does when its destructors have run, before leaks are reported: the chunks go
back, and if anything was released it is counted and logged. -/
def wrapUp (id : AllocatorId) (a : Arena) (r : ReleaseReport) : Run Machine Unit := do
  releaseChunks id a
  if r.isEmpty then pure () else logRelease id a r

theorem leaked_of_isEmpty {r : ReleaseReport} (empty : r.isEmpty = true) : r.leaked = 0 := by
  unfold ReleaseReport.isEmpty at empty
  rw [Bool.and_eq_true] at empty
  exact beq_iff_eq.1 empty.2

/-- All that a release does when its destructors have run: after that it reports what leaked. -/
def closeRelease (id : AllocatorId) (before a : Arena) : Run Machine ReleaseReport := do
  wrapUp id a (reportOf before a)
  reportLeak a.name a.config.leakPolicy before.live
  return reportOf before a

theorem finishRelease_eq (there : m.memory.arena? id = some a) (before : Arena) :
    finishRelease id before m = closeRelease id before a m := by
  obtain ⟨n, released, -⟩ := releaseChunks_returns id a m
  have whole : wrapUp id a (reportOf before a) m =
      (if (reportOf before a).isEmpty then pure ()
        else logRelease id a (reportOf before a) : Run Machine Unit) n := by
    unfold wrapUp
    rw [bind_apply, released]
    rfl
  rw [finishRelease_of_some there, released, closeRelease, bind_apply, whole]
  show concludeRelease id a (reportOf before a) n = _
  unfold concludeRelease
  cases empty : (reportOf before a).isEmpty with
  | true =>
    have none : before.live = 0 := leaked_of_isEmpty empty
    rw [none]
    rfl
  | false =>
    show (account id a (reportOf before a) n).andThen _ = _
    unfold account
    rw [bind_apply]
    show ((logRelease id a (reportOf before a) n).andThen _).andThen _ =
      (logRelease id a (reportOf before a) n).andThen _
    cases logRelease id a (reportOf before a) n <;> rfl

/-- What a release is noted with when its destructors have run, newest first. -/
def wrapUpEvents (id : AllocatorId) (a : Arena) (r : ReleaseReport) : List StorageEvent :=
  (if r.isEmpty then [] else [.bulkReleased id r.leaked]) ++ a.chunks.map (chunkEvent id)

theorem deeds_wrapUp (there : m.memory.arena? id = some a) (r : ReleaseReport) :
    (wrapUp id a r m).state.deeds = wrapUpEvents id a r ++ m.deeds := by
  obtain ⟨n, released, -, -, -, deeds⟩ := releaseChunks_returns id a m
  unfold wrapUp wrapUpEvents
  rw [bind_apply, released]
  show ((if r.isEmpty then pure () else logRelease id a r : Run Machine Unit) n).state.deeds = _
  cases empty : r.isEmpty with
  | true => exact deeds
  | false =>
    show (logRelease id a r n).state.deeds =
      .bulkReleased id r.leaked :: (a.chunks.map (chunkEvent id) ++ m.deeds)
    rw [← deeds, logRelease_of_some (arena?_of_releaseChunks there released)]
    exact (write_undisturbed _ _ _ _ _).2

/-- To report leaks is nothing that is done with storage. -/
theorem deeds_closeRelease (there : m.memory.arena? id = some a) (before : Arena) :
    (closeRelease id before a m).state.deeds =
      wrapUpEvents id a (reportOf before a) ++ m.deeds := by
  have told : (reportLeak a.name a.config.leakPolicy before.live >>= fun _ =>
      (pure (reportOf before a) : Run Machine ReleaseReport)).Keeps Undisturbed :=
    Keeps.bind (reportLeak_undisturbed _ _ _) fun _ => Keeps.pure _
  exact bind_state (Q := fun n => n.deeds = wrapUpEvents id a (reportOf before a) ++ m.deeds)
    (deeds_wrapUp there _) fun _ n same => (told n).2.trans same

/-- What a release leaves in memory: the chunks went back, and what was live is written off if
anything was released. -/
theorem memory_closeRelease (there : n.memory.arena? id = some b)
    (released : releaseChunks id b n = .returned () g) (before : Arena) :
    (closeRelease id before b n).state.memory =
      if (reportOf before b).isEmpty then g.memory
      else (g.writtenOff id b.emptied before.live).memory := by
  have wrapped : (wrapUp id b (reportOf before b) n).state.memory =
      if (reportOf before b).isEmpty then g.memory
      else (g.writtenOff id b.emptied before.live).memory := by
    unfold wrapUp
    rw [bind_apply, released]
    show ((if (reportOf before b).isEmpty then pure ()
      else logRelease id b (reportOf before b) : Run Machine Unit) g).state.memory = _
    by_cases empty : (reportOf before b).isEmpty = true
    · rw [if_pos empty, if_pos empty]
      rfl
    · rw [if_neg empty, if_neg empty, logRelease_of_some (arena?_of_releaseChunks there released)]
      exact (write_undisturbed _ _ _ _ _).1
  have told : (reportLeak b.name b.config.leakPolicy before.live >>= fun _ =>
      (pure (reportOf before b) : Run Machine ReleaseReport)).Keeps Undisturbed :=
    .bind (reportLeak_undisturbed _ _ _) fun _ => .pure _
  rw [← wrapped]
  exact bind_state (Q := fun o => o.memory = (wrapUp id b (reportOf before b) n).state.memory)
    rfl fun _ o same => (told o).1.trans same

/-- What is left of an arena is empty, and what was live is written off if something was
released. -/
theorem arena?_closeRelease (there : n.memory.arena? id = some b) (before : Arena) :
    (closeRelease id before b n).state.memory.arena? id =
      some { b.emptied with ledger := if (reportOf before b).isEmpty then b.ledger
        else b.ledger.writeOff before.live } := by
  obtain ⟨g, released, -⟩ := releaseChunks_returns id b n
  have found := arena?_of_releaseChunks there released
  rw [memory_closeRelease there released before]
  cases (reportOf before b).isEmpty with
  | true => exact found
  | false =>
    obtain ⟨allocator, old, -⟩ := Option.bind_eq_some_iff.1 found
    exact Memory.arena?_setAllocator old _

/-! ## Counters after a release -/

/-- The counters of a release are those that its destructors left, with what was live before it
written off. -/
theorem ledgerOf_wrapUpEvents (id : AllocatorId) (before a : Arena) (deeds : List StorageEvent) :
    ∃ releases, ledgerOf id (wrapUpEvents id a (reportOf before a) ++ deeds) =
      { (ledgerOf id deeds).writeOff before.live with bulkReleases := releases } := by
  have chunks : ledgerOf id (a.chunks.map (chunkEvent id) ++ deeds) = ledgerOf id deeds := by
    refine ledgerOf_append id deeds fun e member => ?_
    obtain ⟨c, -, rfl⟩ := List.mem_map.1 member
    rfl
  unfold wrapUpEvents
  cases empty : (reportOf before a).isEmpty with
  | true =>
    have none : before.live = 0 := leaked_of_isEmpty empty
    refine ⟨(ledgerOf id deeds).bulkReleases, ?_⟩
    show ledgerOf id (a.chunks.map (chunkEvent id) ++ deeds) = _
    rw [chunks, none]
    unfold Ledger.writeOff
    simp
  | false =>
    refine ⟨((ledgerOf id deeds).writeOff before.live).bulkReleases, ?_⟩
    show (StorageEvent.bulkReleased id before.live).entered id
      (ledgerOf id (a.chunks.map (chunkEvent id) ++ deeds)) = _
    rw [chunks, StorageEvent.entered_bulkReleased]

/-! ## Blame -/

/-- A fault about so many leaks of an allocator was reported on the way from one machine to
another. -/
def Blamed (name : String) (leaked : Nat) (m n : Machine) : Prop :=
  ∃ newer d, n.process.trace = newer ++ m.process.trace ∧ .diagnosed d ∈ newer ∧
    d.fault = .notAllDeallocated name leaked

theorem leakSeverity?_eq_none_iff {policy : LeakPolicy} :
    leakSeverity? policy = none ↔ policy = .ignore := by
  cases policy with
  | ignore => exact ⟨fun _ => rfl, fun _ => rfl⟩
  | fatal => exact ⟨nofun, nofun⟩
  | warn => exact ⟨nofun, nofun⟩

/-- A leak is blamed exactly if there is one and the policy does not ignore it. -/
theorem reportLeak_blamed_iff {name : String} {policy : LeakPolicy} {leaked : Word}
    {later : List Event} (others : ∀ d, .diagnosed d ∉ later)
    (trace : n.process.trace = later ++ (reportLeak name policy leaked m).state.process.trace) :
    Blamed name leaked.toNat m n ↔ 0 < leaked ∧ policy ≠ .ignore := by
  have quiet (same : reportLeak name policy leaked m = .returned () m) :
      ¬Blamed name leaked.toNat m n := by
    rintro ⟨newer, d, grown, member, -⟩
    rw [trace, same] at grown
    rw [← List.append_cancel_right grown] at member
    exact others d member
  unfold reportLeak at trace quiet
  by_cases some : 0 < leaked
  · rw [if_pos some] at trace quiet
    cases severity? : leakSeverity? policy with
    | none =>
      rw [severity?] at quiet
      have ignored := leakSeverity?_eq_none_iff.1 severity?
      exact ⟨fun blamed => absurd blamed (quiet rfl), fun ⟨_, not⟩ => absurd ignored not⟩
    | some severity =>
      rw [severity?] at trace
      have reported : ¬policy = .ignore := fun ignored => by
        rw [leakSeverity?_eq_none_iff.2 ignored] at severity?
        cases severity?
      refine ⟨fun _ => ⟨some, reported⟩, fun _ => ?_⟩
      obtain ⟨d, newer, grown, fault⟩ := Process.reportWith_diagnosed (Process.perform_silent _)
        (.notAllDeallocated name leaked.toNat) severity m.process
      have same : (report (.notAllDeallocated name leaked.toNat) severity m).state.process.trace =
          newer ++ .diagnosed d :: m.process.trace := by
        rw [← grown]
        unfold report onProcess Run.within
        rw [Outcome.state_mapState]
        rfl
      have trace : n.process.trace = later ++
          (report (.notAllDeallocated name leaked.toNat) severity m).state.process.trace := trace
      refine ⟨later ++ newer ++ [.diagnosed d], d, ?_, ?_, fault⟩
      · rw [trace, same]
        simp
      · exact List.mem_append_right _ (List.mem_singleton.2 rfl)
  · rw [if_neg some] at quiet
    exact ⟨fun blamed => absurd blamed (quiet rfl), fun ⟨positive, _⟩ => absurd positive some⟩

/-! ## The second release -/

/-- A release that finds nothing to do is noted to have begun, and that is all. -/
theorem releaseArena_idle (there : m.memory.arena? id = some a) (collected : a.collected = [])
    (chunks : a.chunks = []) (live : a.live = 0) :
    ∃ n, releaseArena id m = .returned ⟨0, 0, 0, 0⟩ n ∧
      n.process = m.process.after (.storage (.releaseBegan id)) := by
  have report : reportOf a { a with collected := [] } = ⟨0, 0, 0, 0⟩ := by
    unfold reportOf Arena.chunkBytes
    rw [collected, chunks, live]
    rfl
  have emptied : ∃ n, releaseChunks id { a with collected := [] } (m.listTaken id a) =
      .returned () n ∧ n.process = m.process.after (.storage (.releaseBegan id)) := by
    unfold releaseChunks
    rw [show ({ a with collected := [] } : Arena).chunks = [] from chunks]
    exact ⟨_, rfl, rfl⟩
  obtain ⟨n, released, process⟩ := emptied
  refine ⟨n, ?_, process⟩
  rw [releaseArena_of_some there, collected]
  show finishRelease id a (m.listTaken id a) = _
  rw [finishRelease_of_some (arena?_listTaken there), released, report]
  rfl

/-! ## Releases whose destructors return -/

/-- How a release went on when its destructors had run: `b` is the arena as they left it, and
`mid` what happened until then, newest first. -/
structure WentOn (id : AllocatorId) (a : Arena) (m n : Machine) (b : Arena)
    (mid : List StorageEvent) : Prop where
  arena : n.memory.arena? id = some b
  like : { b with ledger := {} } = { a with collected := [], ledger := {} }
  deeds : n.deeds = mid ++ .releaseBegan id :: m.deeds
  proceed : ∀ e ∈ mid, e.isOfRelease
  rest : releaseArena id m = closeRelease id a b n

theorem wentOn_of_returned (there : m.memory.arena? id = some a)
    (returned : forAll (runDestructor id) a.collected (m.listTaken id a) = .returned () n) :
    ∃ b mid, WentOn id a m n b mid := by
  obtain ⟨b, arena, like⟩ := runDestructors_arena there
  have proceeded := runDestructors_proceeds id a.collected (m.listTaken id a)
  rw [returned] at arena proceeded
  obtain ⟨mid, deeds, proceed⟩ := proceeded
  refine ⟨b, mid, arena, like, deeds, proceed, ?_⟩
  rw [releaseArena_of_some there, returned]
  exact finishRelease_eq arena a

/-- The machine when destructors were run, if each takes no more steps than given and none
panics. -/
def destroyed (steps : Nat) (id : AllocatorId) : List Registration → Machine → Option Machine
  | [], m => some m
  | r :: rest, m =>
    match (noteStorage (.collectedRun id r.base r.destructor) >>= fun _ =>
        beginDestruction r.destructor.subject) m with
    | .returned tasks n =>
      match drained steps tasks [] n with
      | some (.returned _ o) => destroyed steps id rest o
      | _ => none
    | _ => none

/-- Destructors that are run in some number of steps are run. -/
theorem forAll_of_destroyed {steps : Nat} {registered : List Registration}
    (h : destroyed steps id registered m = some n) :
    forAll (runDestructor id) registered m = .returned () n := by
  induction registered generalizing m with
  | nil =>
    cases h
    rfl
  | cons r rest ih =>
    unfold destroyed at h
    cases began : (noteStorage (.collectedRun id r.base r.destructor) >>= fun _ =>
        beginDestruction r.destructor.subject) m with
    | returned tasks o =>
      rw [began] at h
      dsimp only at h
      cases settled : drained steps tasks [] o with
      | none =>
        rw [settled] at h
        cases h
      | some ended =>
        rw [settled] at h
        cases ended with
        | returned u q =>
          have run : runDestructor id r m = .returned () q := by
            show ((noteStorage (.collectedRun id r.base r.destructor) >>= fun _ =>
              beginDestruction r.destructor.subject) m).andThen settle = _
            rw [began]
            exact drain_of_drained settled
          show (runDestructor id r m).andThen _ = _
          rw [run]
          exact ih h
        | unwinding payload q => cases h
        | aborted cause q => cases h
    | unwinding payload o =>
      rw [began] at h
      cases h
    | aborted cause o =>
      rw [began] at h
      cases h

variable {mid : List StorageEvent}

/-- In a release of an arena that is sound, the counters go from what they were to what is left
when the live allocations are written off. -/
theorem WentOn.repaid (wentOn : WentOn id a m n b mid) (sound : m.Sound)
    (there : m.memory.arena? id = some a) (few : n.deeds.length < Word.modulus) :
    a.ledger.Repaid (ledgerOf id n.deeds) (repayments id mid) := by
  have repaid : (ledgerOf id (.releaseBegan id :: m.deeds)).Repaid
      (ledgerOf id (mid ++ .releaseBegan id :: m.deeds)) (repayments id mid) :=
    repaid_of_release wentOn.proceed (wentOn.deeds ▸ few)
  rw [← wentOn.deeds] at repaid
  rw [sound.audited.arena there]
  exact repaid

theorem WentOn.ledger (wentOn : WentOn id a m n b mid) :
    ∃ releases, ledgerOf id (releaseArena id m).state.deeds =
      { (ledgerOf id n.deeds).writeOff a.live with bulkReleases := releases } := by
  rw [wentOn.rest, deeds_closeRelease wentOn.arena]
  exact ledgerOf_wrapUpEvents id a b n.deeds

/-- An arena that was released keeps its name, its configuration and its counters, and no more. -/
theorem arena?_of_released (there : m.memory.arena? id = some a)
    (returned : forAll (runDestructor id) a.collected (m.listTaken id a) = .returned () n) :
    ∃ l, (releaseArena id m).state.memory.arena? id =
      some { id := a.id, name := a.name, config := a.config, ledger := l } := by
  obtain ⟨b, mid, wentOn⟩ := wentOn_of_returned there returned
  obtain ⟨number, name, config, -, -, -, -, collected, -⟩ := Arena.mk.inj wentOn.like
  have left (l : Ledger) : ({ b.emptied with ledger := l } : Arena) =
      { id := a.id, name := a.name, config := a.config, ledger := l } := by
    unfold Arena.emptied
    rw [number, name, config, collected]
  rw [wentOn.rest, arena?_closeRelease wentOn.arena a, left]
  exact ⟨_, rfl⟩

/-- An arena that was released has nothing left to release. -/
theorem releaseArena_spent (sound : m.Sound) (there : m.memory.arena? id = some a)
    (returned : forAll (runDestructor id) a.collected (m.listTaken id a) = .returned () n)
    (few : n.deeds.length < Word.modulus) {e : Arena}
    (left : (releaseArena id m).state.memory.arena? id = some e) :
    e.collected = [] ∧ e.chunks = [] ∧ e.live = 0 := by
  have sound' := releaseArena_staysSound id m sound
  obtain ⟨b, mid, wentOn⟩ := wentOn_of_returned there returned
  refine ⟨?_, ?_, ?_⟩
  · rw [(sound'.arenas id e left).collected, releaseArena_pending there]
    rfl
  · rw [(sound'.arenas id e left).chunks, releaseArena_chunks sound there, returned]
  · obtain ⟨releases, ledger⟩ := wentOn.ledger
    have zero := (wentOn.repaid sound there few).live_eq_zero
    rw [Arena.live, sound'.audited.arena left, ledger]
    exact zero

end Machine

namespace Client

open Machine

variable {c : Client} {id : AllocatorId} {a b : Arena} {n : Machine} {mid : List StorageEvent}

/-- Whichever way an arena is released, at most a second release begins, and does nothing. -/
theorem release_trace (sound : c.machine.Sound) (there : c.machine.memory.arena? id = some a)
    (returned : Run.forAll (runDestructor id) a.collected (c.machine.listTaken id a) =
      .returned () n) (few : n.deeds.length < Word.modulus) (exit : Exit) :
    ∃ later, (∀ e ∈ later, e = .storage (.releaseBegan id)) ∧
      (perform (.release id exit) c).state.machine.process.trace =
        later ++ (releaseArena id c.machine).state.process.trace := by
  rw [machine_release]
  cases exit with
  | reset => exact ⟨[], List.forall_mem_nil _, rfl⟩
  | drop =>
    exact ⟨[], List.forall_mem_nil _, congrArg Process.trace (process_dropArena id c.machine)⟩
  | tearDown =>
    show ∃ later, _ ∧ (Run.atEnd (releaseArena id) (dropArena id) c.machine).state.process.trace = _
    rcases Run.state_atEnd (releaseArena id) (dropArena id) c.machine with ended | ended
    · rw [ended, process_dropArena]
      cases left : (releaseArena id c.machine).state.memory.arena? id with
      | none =>
        rw [releaseArena_of_none left]
        exact ⟨[], List.forall_mem_nil _, rfl⟩
      | some e =>
        obtain ⟨collected, chunks, live⟩ := releaseArena_spent sound there returned few left
        obtain ⟨o, again, process⟩ := releaseArena_idle left collected chunks live
        rw [again]
        refine ⟨[.storage (.releaseBegan id)], fun f member => List.mem_singleton.1 member, ?_⟩
        exact congrArg Process.trace process
    · rw [ended]
      exact ⟨[], List.forall_mem_nil _, rfl⟩

/-- Whichever way an arena is released, its counters are those that the release left. -/
theorem ledgerOf_release (sound : c.machine.Sound)
    (there : c.machine.memory.arena? id = some a)
    (returned : Run.forAll (runDestructor id) a.collected (c.machine.listTaken id a) =
      .returned () n) (few : n.deeds.length < Word.modulus) (exit : Exit) :
    ledgerOf id (perform (.release id exit) c).state.machine.deeds =
      ledgerOf id (releaseArena id c.machine).state.deeds := by
  obtain ⟨later, idle, trace⟩ := release_trace sound there returned few exit
  have deeds : (perform (.release id exit) c).state.machine.deeds =
      later.filterMap Event.storage? ++ (releaseArena id c.machine).state.deeds := by
    unfold Machine.deeds Process.deeds
    rw [trace, List.filterMap_append]
  rw [deeds, ledgerOf_append id _ fun e member => ?_]
  obtain ⟨f, among, storage⟩ := List.mem_filterMap.1 member
  rw [idle f among] at storage
  cases storage
  rfl

/-- A release is right about leaks, where `b` is the arena and `n` the machine when all destructors
have run. -/
structure ReportsLeaks (id : AllocatorId) (exit : Exit) (c : Client) (a b : Arena) (n : Machine) :
    Prop where
  /-- What is reported are the loans that are outstanding then. -/
  leaked : (reportOf a b).leaked.toNat = (outstanding id n.deeds).length
  /-- When the release was logged, a fault is reported for them, if there are any and the policy
  does not ignore them. -/
  blamed : ∀ w, wrapUp id b (reportOf a b) n = .returned () w →
    (Blamed a.name (outstanding id n.deeds).length w (perform (.release id exit) c).state.machine ↔
      0 < (outstanding id n.deeds).length ∧ a.config.leakPolicy ≠ .ignore)
  /-- Every allocation is accounted for, and none is outstanding. -/
  balanced : (ledgerOf id (perform (.release id exit) c).state.machine.deeds).Balances 0

/-- A fault is reported for what was live when the release began. -/
theorem blamed_iff (sound : c.machine.Sound) (there : c.machine.memory.arena? id = some a)
    (returned : Run.forAll (runDestructor id) a.collected (c.machine.listTaken id a) =
      .returned () n) (few : n.deeds.length < Word.modulus) (exit : Exit)
    (wentOn : WentOn id a c.machine n b mid) {w : Machine}
    (wrapped : wrapUp id b (reportOf a b) n = .returned () w) :
    Blamed a.name a.live.toNat w (perform (.release id exit) c).state.machine ↔
      0 < a.live ∧ a.config.leakPolicy ≠ .ignore := by
  obtain ⟨later, idle, trace⟩ := release_trace sound there returned few exit
  obtain ⟨-, name, config, -⟩ := Arena.mk.inj wentOn.like
  have whole : (perform (.release id exit) c).state.machine.process.trace =
      later ++ (reportLeak a.name a.config.leakPolicy a.live w).state.process.trace := by
    rw [trace, wentOn.rest, closeRelease, Run.bind_apply, wrapped, name, config]
    exact congrArg (fun s : Machine => later ++ s.process.trace)
      (Outcome.state_andThen_returned _ _)
  refine reportLeak_blamed_iff (fun d member => ?_) whole
  cases idle _ member

/-- When a release is right about leaks. -/
theorem reportsLeaks_iff (sound : c.machine.Sound)
    (there : c.machine.memory.arena? id = some a)
    (returned : Run.forAll (runDestructor id) a.collected (c.machine.listTaken id a) =
      .returned () n) (few : n.deeds.length < Word.modulus) (exit : Exit)
    (wentOn : WentOn id a c.machine n b mid) :
    ReportsLeaks id exit c a b n ↔
      a.ledger.Balances (outstanding id c.machine.deeds).length ∧
        ∀ e ∈ mid, e.repaid? id = none := by
  have kept : repayments id mid = 0 →
      (outstanding id n.deeds).length = (outstanding id c.machine.deeds).length := by
    intro never
    rw [wentOn.deeds, outstanding_of_release wentOn.proceed (repayments_eq_zero_iff.1 never)]
    rfl
  obtain ⟨releases, ledger⟩ := wentOn.ledger
  have exact' := (wentOn.repaid sound there few).exact_iff kept
  rw [← repayments_eq_zero_iff, ← exact']
  have balances : (ledgerOf id (perform (.release id exit) c).state.machine.deeds).Balances 0 ↔
      ((ledgerOf id n.deeds).writeOff a.live).Balances 0 := by
    rw [ledgerOf_release sound there returned few exit, ledger]
    exact Iff.rfl
  constructor
  · intro reports
    exact ⟨reports.leaked, balances.1 reports.balanced⟩
  · rintro ⟨leaked, balanced⟩
    have leaked : a.live.toNat = (outstanding id n.deeds).length := leaked
    refine ⟨leaked, fun w wrapped => ?_, balances.2 balanced⟩
    rw [← leaked]
    exact blamed_iff sound there returned few exit wentOn wrapped

/-- When a release whose destructors return is right about leaks, in any run: exactly if the
counters balanced when it began and nothing was given back to the arena by its destructors. They
do balance after an orderly history. When something was given back, the next leak of the arena is
not noticed. -/
theorem release_reportsLeaks_iff {p : Process} {ops : List Operation}
    (done : run ops (start p) = .returned () c) (there : c.machine.memory.arena? id = some a)
    (returned : Run.forAll (runDestructor id) a.collected (c.machine.listTaken id a) =
      .returned () n) (few : n.deeds.length < Word.modulus) (exit : Exit) :
    ∃ b mid, WentOn id a c.machine n b mid ∧
      (ReportsLeaks id exit c a b n ↔
        a.ledger.Balances (outstanding id c.machine.deeds).length ∧
          ∀ e ∈ mid, e.repaid? id = none) ∧
      (Orderly id c.machine.deeds →
        a.ledger.Balances (outstanding id c.machine.deeds).length) ∧
      ((∃ e ∈ mid, e.repaid? id ≠ none) → ∀ size,
        ((ledgerOf id (perform (.release id exit) c).state.machine.deeds).allocate size
          false).live = 0) := by
  have sound := sound_of_run done
  obtain ⟨b, mid, wentOn⟩ := wentOn_of_returned there returned
  refine ⟨b, mid, wentOn, reportsLeaks_iff sound there returned few exit wentOn, ?_, ?_⟩
  · intro orderly
    have fewer : c.machine.deeds.length < Word.modulus := by
      rw [wentOn.deeds, List.length_append, List.length_cons] at few
      omega
    rw [sound.audited.arena there]
    exact sound.lawful.balances orderly fewer
  · rintro ⟨e, member, back⟩ size
    have some : 0 < repayments id mid := by
      refine Nat.pos_of_ne_zero fun none => back ?_
      exact repayments_eq_zero_iff.1 none e member
    obtain ⟨releases, ledger⟩ := wentOn.ledger
    rw [ledgerOf_release sound there returned few exit, ledger]
    exact (wentOn.repaid sound there few).live_allocate some size

/-! ## Releases with and without loans that are given back -/

/-- What a run leaves can be computed up to the end of the destructors of a release. -/
theorem exists_released (ops : List Operation) (check : Machine → Arena → Machine → Bool)
    (returns : (run ops (start {})).returns = true)
    (checked : let m := (run ops (start {})).state.machine
      ((m.memory.arena? 1).bind fun a =>
        (destroyed 20 1 a.collected (m.listTaken 1 a)).map (check m a)) = some true) :
    ∃ c a n, run ops (start {}) = .returned () c ∧ c.machine.memory.arena? 1 = some a ∧
      Run.forAll (runDestructor 1) a.collected (c.machine.listTaken 1 a) = .returned () n ∧
      check c.machine a n = true := by
  obtain ⟨a, there, checked⟩ := Option.bind_eq_some_iff.1 checked
  obtain ⟨n, ran, checked⟩ := Option.map_eq_some_iff.1 checked
  exact ⟨_, a, n, Outcome.eq_returned returns, there, forAll_of_destroyed ran, checked⟩

/-- An arena comes to collect a value, and to lend storage that is forgotten. -/
def forgetting : List Operation :=
  [.makeArena none {}, .create (.block .collect) 1 (.tag 1) false,
    .create (.block .own) 1 (.tag 2) false, .forget (.whole (.block .own) .tag 1)]

theorem release_reportsLeaks_forgetting : ∃ c a n, run forgetting (start {}) = .returned () c ∧
    c.machine.memory.arena? 1 = some a ∧
    Run.forAll (runDestructor 1) a.collected (c.machine.listTaken 1 a) = .returned () n ∧
    a.collected.length = 1 ∧ (outstanding 1 n.deeds).length = 1 ∧
    ∀ exit, ∃ b, n.memory.arena? 1 = some b ∧ ReportsLeaks 1 exit c a b n := by
  obtain ⟨c, a, n, done, there, returned, checked⟩ := exists_released forgetting
    (fun m a n => decide (a.collected.length = 1 ∧ (outstanding 1 n.deeds).length = 1 ∧
      n.deeds.length < Word.modulus ∧ a.ledger.Balances (outstanding 1 m.deeds).length ∧
      repayments 1 n.deeds = 0)) (by decide +kernel) (by decide +kernel)
  obtain ⟨one, leaked, few, balances, never⟩ := of_decide_eq_true checked
  refine ⟨c, a, n, done, there, returned, one, leaked, fun exit => ?_⟩
  obtain ⟨b, mid, wentOn, exact', -⟩ := release_reportsLeaks_iff done there returned few exit
  refine ⟨b, wentOn.arena, exact'.2 ⟨balances, fun e member => ?_⟩⟩
  refine repayments_eq_zero_iff.1 never e ?_
  rw [wentOn.deeds]
  exact List.mem_append_left _ member

/-- An arena comes to collect a value that owns another one in the same arena. -/
def lending : List Operation :=
  [.makeArena none {},
    .create (.block .strong) 1 (.node "held" Value.noNext Value.noBack) false,
    .create (.block .collect) 1 (.node "holder" (.whole (.block .strong) .node 0) Value.noBack)
      false]

/-- It is not so that every release whose destructors return is right about leaks: where a value
that an arena collected owns another one in the arena, the other one is reported as a leak. -/
theorem release_not_reportsLeaks : ¬∀ (p : Process) (ops : List Operation) (c : Client),
    run ops (start p) = .returned () c → ∀ id a, c.machine.memory.arena? id = some a → ∀ n,
      Run.forAll (runDestructor id) a.collected (c.machine.listTaken id a) = .returned () n →
      n.deeds.length < Word.modulus → ∀ b, n.memory.arena? id = some b →
        ∀ exit, ReportsLeaks id exit c a b n := by
  intro always
  obtain ⟨c, a, n, done, there, returned, checked⟩ := exists_released lending
    (fun m _ n => decide (n.deeds.length < Word.modulus ∧
      repayments 1 n.deeds ≠ repayments 1 m.deeds)) (by decide +kernel) (by decide +kernel)
  obtain ⟨few, back⟩ := of_decide_eq_true checked
  obtain ⟨b, mid, wentOn⟩ := wentOn_of_returned there returned
  have reports := always {} lending c done 1 a there n returned few b wentOn.arena .drop
  have never := ((reportsLeaks_iff (sound_of_run done) there returned few .drop wentOn).1 reports).2
  refine back ?_
  rw [wentOn.deeds]
  show List.countP _ (mid ++ _) = _
  rw [List.countP_append]
  show repayments 1 mid + repayments 1 c.machine.deeds = _
  rw [repayments_eq_zero_iff.2 never, Nat.zero_add]

end Client

end Custody
