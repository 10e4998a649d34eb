import Custody.Proofs.Numbering
import Custody.Proofs.Threads
import Custody.Proofs.WriteOffs

/-!
# Releases are accounted for and reported once

A release can be left at many points: a destructor may panic, and so may the sink that gets the log
entry; a fatal leak report raises its fault on purpose; and an arena that is torn down is released
once more whichever of these came before. What is counted, logged and reported therefore does not
happen in one place. `Machine.Concludes` says how a release goes on when its destructors have
returned: it is counted and logged at once, then reported, with one diagnostic of its own, and the
next release finds nothing left to do (`Machine.releaseArena_emptied`). Where a destructor does
not return nothing of this has happened.

`Client.run_accountsReleases` says so of every release in any run, with the counters of the arena:
what was written off is the sum of what all releases reported as leaked, and as many releases are
counted as made a report that is not empty.
-/

namespace Custody

open Process

namespace Machine

open Run

variable {m n g w : Machine} {id : AllocatorId} {a b e : Arena}

/-! ## The release after a release -/

/-- A release of an arena that has nothing left is noted to have begun, and changes nothing. -/
theorem releaseArena_emptied (there : m.memory.arena? id = some e) (collected : e.collected = [])
    (emptied : e.emptied = e) (live : e.live = 0) :
    releaseArena id m = .returned ⟨0, 0, 0, 0⟩
      { m with process := m.process.after (.storage (.releaseBegan id)) } := by
  have cleared : ({ e with collected := [] } : Arena) = e := by
    rw [← collected]
  have chunks : e.chunks = [] := by
    rw [← emptied]
    rfl
  have found : m.memory.allocators.get? id = some (.arena e) := by
    obtain ⟨allocator, found, is⟩ := Option.bind_eq_some_iff.1 there
    cases allocator with
    | heap l => cases is
    | arena a =>
      cases is
      exact found
  have kept : m.memory.setAllocator id (.arena e) = m.memory := by
    unfold Memory.setAllocator
    rw [Slab.set_of_get? found]
  have taken : m.listTaken id e =
      { m with process := m.process.after (.storage (.releaseBegan id)) } := by
    unfold listTaken
    rw [cleared, kept]
  have released : releaseChunks id e (m.listTaken id e) = .returned () (m.listTaken id e) := by
    rw [taken]
    unfold releaseChunks
    rw [chunks]
    show Outcome.returned () ({ process := _, memory := m.memory.setAllocator id _ } : Machine) = _
    rw [emptied, kept]
  have report : reportOf e e = ⟨0, 0, 0, 0⟩ := by
    unfold reportOf Arena.chunkBytes
    rw [collected, chunks, live]
    rfl
  have still : (m.listTaken id e).memory.arena? id = some e := by
    rw [taken]
    exact there
  rw [releaseArena_of_some there, collected]
  show finishRelease id e (m.listTaken id e) = _
  rw [finishRelease_of_some still, released, report, ← taken]
  rfl

/-- The release after one whose destructors returned is empty, silent and changes nothing. -/
theorem releaseArena_twice (sound : m.Sound) (there : m.memory.arena? id = some a)
    (returned : forAll (runDestructor id) a.collected (m.listTaken id a) = .returned () n)
    (few : n.deeds.length < Word.modulus) (s : Machine) (is : s = (releaseArena id m).state) :
    releaseArena id s = .returned ⟨0, 0, 0, 0⟩
      { s with process := s.process.after (.storage (.releaseBegan id)) } := by
  obtain ⟨l, left⟩ := arena?_of_released there returned
  obtain ⟨collected, -, live⟩ := releaseArena_spent sound there returned few left
  exact releaseArena_emptied (is ▸ left) collected rfl live

/-- An arena that was released is gone after its drop, and that is all that its drop does. -/
theorem dropArena_twice (sound : m.Sound) (there : m.memory.arena? id = some a)
    (returned : forAll (runDestructor id) a.collected (m.listTaken id a) = .returned () n)
    (few : n.deeds.length < Word.modulus) (s : Machine) (is : s = (releaseArena id m).state) :
    dropArena id s = .returned ()
      { process := s.process.after (.storage (.releaseBegan id))
        memory := { s.memory with allocators := s.memory.allocators.erase id } } := by
  unfold dropArena atEnd
  rw [bind_apply, releaseArena_twice sound there returned few s is]
  rfl

/-! ## What is told of a release -/

/-- How leaks of an arena are told of, where the release has been logged: not at all if there are
none or if nobody wants to know, and else with one diagnostic. Whatever other diagnostics are made
come of what sinks and hooks do. A fatal one is raised when it was delivered, unless the thread
unwinds. -/
structure Tells (name : String) (policy : LeakPolicy) (leaked : Word) (unwinding : Bool)
    (w : Machine) : Prop where
  silent : leaked = 0 ∨ policy = .ignore → reportLeak name policy leaked w = .returned () w
  once : ∀ severity, 0 < leaked → leakSeverity? policy = some severity →
    ∃ others, (∀ t ∈ others, t.author ≠ .caller) ∧
      (reportLeak name policy leaked w).state.process.diagnostics =
        w.process.diagnostics ++
          w.process.diagnosticOf (.notAllDeallocated name leaked.toNat) severity ::
            Turn.numbered (w.process.faults + 1) others
  raised : ∀ severity d, 0 < leaked → leakSeverity? policy = some severity →
    w.process.diagnosticOf (.notAllDeallocated name leaked.toNat) severity = d →
      reportLeak name policy leaked w = (do
        onProcess (deliverWith (perform stackDepth) d)
        if severity = Severity.fatal ∧ unwinding = false then onProcess (raise d))
          { w with process := w.process.counted d }

/-- A report of the machine is the delivery of its diagnostic, and what comes of it. -/
theorem report_eq {fault : Fault} {severity : Severity} {d : Diagnostic}
    (made : w.process.diagnosticOf fault severity = d) :
    report fault severity w = (do
      onProcess (deliverWith (perform stackDepth) d)
      if severity = Severity.fatal ∧ w.process.isUnwinding = false then onProcess (raise d))
        { w with process := w.process.counted d } := by
  have kept := deliverWith_keepsThread (perform_keepsThread stackDepth) d (w.process.counted d)
  show (reportWith (perform stackDepth) fault severity w.process).mapState _ =
    ((deliverWith (perform stackDepth) d (w.process.counted d)).mapState _).andThen _
  rw [reportWith_eq, made]
  cases delivered : deliverWith (perform stackDepth) d (w.process.counted d) with
  | returned u q =>
    rw [delivered] at kept
    have same : q.isUnwinding = w.process.isUnwinding := by
      unfold Process.isUnwinding
      rw [kept]
      rfl
    dsimp only [Outcome.andThen, Outcome.mapState]
    rw [same]
    by_cases fatal : severity = .fatal ∧ w.process.isUnwinding = false
    · rw [if_pos fatal, if_pos (by simp [fatal])]
      rfl
    · rw [if_neg fatal, if_neg (by simpa using fatal)]
      rfl
  | unwinding payload q => rfl
  | aborted cause q => rfl

/-- Leaks are told of once, whoever listens. -/
theorem reportLeak_tells (name : String) (policy : LeakPolicy) (leaked : Word) (w : Machine) :
    Tells name policy leaked w.process.isUnwinding w := by
  have reported {severity : Severity} (positive : 0 < leaked)
      (wanted : leakSeverity? policy = some severity) :
      reportLeak name policy leaked w =
        report (.notAllDeallocated name leaked.toNat) severity w := by
    unfold reportLeak
    rw [if_pos positive, wanted]
  constructor
  · intro nothing
    unfold reportLeak
    by_cases positive : 0 < leaked
    · rcases nothing with zero | ignored
      · rw [zero] at positive
        exact absurd positive (UInt64.lt_irrefl 0)
      · rw [if_pos positive, leakSeverity?_eq_none_iff.2 ignored]
        rfl
    · rw [if_neg positive]
      rfl
  · intro severity positive wanted
    rw [reported positive wanted]
    unfold report onProcess within
    rw [Outcome.state_mapState]
    exact reportWith_numbered stackDepth _ severity w.process
  · intro severity d positive wanted made
    rw [reported positive wanted]
    exact report_eq made

/-- How the release of an arena ends when its destructors have returned: `b` is the arena as they
left it, and `g` the machine in which its chunks have gone back. A release of nothing ends there
and says nothing. Any other is counted at once, then logged, and leaks are told of if the log entry
was written. -/
structure Concludes (id : AllocatorId) (m : Machine) (a b : Arena) (g : Machine) : Prop where
  silent : (reportOf a b).isEmpty = true → releaseArena id m = .returned (reportOf a b) g
  counted : (reportOf a b).isEmpty = false → releaseArena id m = (do
    write .debug "tether::arena" "arena torn down" (releaseFields a.name (reportOf a b))
    reportLeak a.name a.config.leakPolicy a.live
    return reportOf a b) (g.writtenOff id b.emptied a.live)
  told : ∀ w, write .debug "tether::arena" "arena torn down"
      (releaseFields a.name (reportOf a b)) (g.writtenOff id b.emptied a.live) = .returned () w →
    Tells a.name a.config.leakPolicy a.live m.process.isUnwinding w

/-- A release is accounted for and reported once. If a destructor does not return, nothing is
counted, logged or reported; else the release is concluded, and however that goes, one that follows
is empty, silent and changes nothing, also if it is that of the arena's drop. -/
structure AccountedOnce (id : AllocatorId) (m : Machine) (a : Arena) : Prop where
  stopped : (∀ n, forAll (runDestructor id) a.collected (m.listTaken id a) ≠ .returned () n) →
    reported? id m = none ∧ (releaseArena id m).returns = false ∧
      (releaseArena id m).state =
        (forAll (runDestructor id) a.collected (m.listTaken id a)).state
  concluded : ∀ n, forAll (runDestructor id) a.collected (m.listTaken id a) = .returned () n →
    ∃ b g, n.memory.arena? id = some b ∧ reported? id m = some (reportOf a b) ∧
      releaseChunks id b n = .returned () g ∧ Concludes id m a b g
  again : ∀ n s, forAll (runDestructor id) a.collected (m.listTaken id a) = .returned () n →
    n.deeds.length < Word.modulus → s = (releaseArena id m).state →
      releaseArena id s = .returned ⟨0, 0, 0, 0⟩
        { s with process := s.process.after (.storage (.releaseBegan id)) } ∧
      dropArena id s = .returned ()
        { process := s.process.after (.storage (.releaseBegan id))
          memory := { s.memory with allocators := s.memory.allocators.erase id } }

theorem releaseChunks_keepsThread (id : AllocatorId) (a : Arena) :
    KeepsThread (releaseChunks id a) :=
  .bind (.forAll fun _ _ _ => rfl) fun _ _ => rfl

/-- A release whose destructors returned is concluded. -/
theorem concludes_of_returned (there : m.memory.arena? id = some a)
    (returned : forAll (runDestructor id) a.collected (m.listTaken id a) = .returned () n) :
    ∃ b g, n.memory.arena? id = some b ∧ reported? id m = some (reportOf a b) ∧
      releaseChunks id b n = .returned () g ∧ Concludes id m a b g := by
  obtain ⟨b, mid, wentOn⟩ := wentOn_of_returned there returned
  obtain ⟨-, name, config, -⟩ := Arena.mk.inj wentOn.like
  obtain ⟨g, released, -⟩ := releaseChunks_returns id b n
  have found := arena?_of_releaseChunks wentOn.arena released
  have rest : releaseArena id m = concludeRelease id b (reportOf a b) g := by
    rw [wentOn.rest, ← finishRelease_eq wentOn.arena, finishRelease_of_some wentOn.arena, released]
    rfl
  refine ⟨b, g, wentOn.arena, ?_, released, ?_, ?_, ?_⟩
  · unfold reported?
    rw [there]
    dsimp only [Option.bind]
    rw [returned]
    dsimp only
    rw [wentOn.arena]
    rfl
  · intro empty
    rw [rest]
    unfold concludeRelease
    rw [empty]
    rfl
  · intro released
    rw [rest]
    unfold concludeRelease
    rw [released]
    show (account id b (reportOf a b) g).andThen _ = _
    unfold account
    rw [bind_apply, logRelease_of_some found, name, config,
      show (reportOf a b).leaked = a.live from rfl]
    show ((write _ _ _ _ _).andThen _).andThen _ = (write _ _ _ _ _).andThen _
    cases write .debug "tether::arena" "arena torn down" (releaseFields a.name (reportOf a b))
      (g.writtenOff id b.emptied a.live) <;> rfl
  · intro w logged
    have same : w.process.thread = m.process.thread := by
      have chunks := releaseChunks_keepsThread id b n
      rw [released] at chunks
      calc w.process.thread = (g.writtenOff id b.emptied a.live).process.thread :=
            sameThread_of_logged logged
        _ = n.process.thread := chunks
        _ = (m.listTaken id a).process.thread := sameThread_of_destroyed returned
    have unwinding : w.process.isUnwinding = m.process.isUnwinding := by
      unfold Process.isUnwinding
      rw [same]
    rw [← unwinding]
    exact reportLeak_tells a.name a.config.leakPolicy a.live w

theorem accountedOnce (sound : m.Sound) (there : m.memory.arena? id = some a) :
    AccountedOnce id m a := by
  constructor
  · intro never
    unfold reported?
    rw [releaseArena_of_some there, there]
    dsimp only [Option.bind]
    cases looped : forAll (runDestructor id) a.collected (m.listTaken id a) with
    | returned u n => exact absurd looped (never n)
    | unwinding payload n => exact ⟨rfl, rfl, rfl⟩
    | aborted cause n => exact ⟨rfl, rfl, rfl⟩
  · intro n returned
    exact concludes_of_returned there returned
  · intro n s returned few is
    exact ⟨releaseArena_twice sound there returned few s is,
      dropArena_twice sound there returned few s is⟩

end Machine

namespace Client

open Machine

/-- What is written off for reports are the leaks that they report. -/
theorem sum_writtenOff (reports : List ReleaseReport) :
    (reports.flatMap ReleaseReport.writtenOff).sum = (reports.map (·.leaked)).sum := by
  induction reports with
  | nil => rfl
  | cons r rest ih =>
    rw [List.flatMap_cons, List.sum_append, ih, List.map_cons, List.sum_cons]
    congr 1
    unfold ReleaseReport.writtenOff
    cases empty : r.isEmpty with
    | true => exact (leaked_of_isEmpty empty).symm
    | false => exact UInt64.add_zero _

/-- As often is something written off as reports are not empty. -/
theorem length_writtenOff (reports : List ReleaseReport) :
    (reports.flatMap ReleaseReport.writtenOff).length = reports.countP (!·.isEmpty) := by
  induction reports with
  | nil => rfl
  | cons r rest ih =>
    rw [List.flatMap_cons, List.length_append, ih, List.countP_cons]
    unfold ReleaseReport.writtenOff
    cases r.isEmpty with
    | true => simp
    | false => simp [Nat.add_comm]

/-- In any run of operations, the counters of an arena sum up what its releases report: what they
report as leaked, and how many reports are not empty. Those reports are written off once each and
in their order; and each of the releases, where it begins, is accounted for and reported once. -/
theorem run_accountsReleases (p : Process) (ops : List Operation) (id : AllocatorId) :
    (∀ a, (run ops (start p)).state.machine.memory.arena? id = some a →
      a.ledger.abandoned =
          ((reportsOf id (releasesIn id ops (start p))).map (·.leaked)).sum ∧
        a.ledger.bulkReleases =
          .ofNat ((reportsOf id (releasesIn id ops (start p))).countP (!·.isEmpty))) ∧
    writeOffs id (run ops (start p)).state.machine.deeds =
      (written id (releasesIn id ops (start p))).reverse ∧
    ∀ m ∈ releasesIn id ops (start p), ∀ a, m.memory.arena? id = some a →
      AccountedOnce id m a := by
  have balanced := start_balanced p
  have wrote : writeOffs id (run ops (start p)).state.machine.deeds =
      (written id (releasesIn id ops (start p))).reverse := by
    rw [writeOffs_run]
    exact List.append_nil _
  refine ⟨fun a there => ?_, wrote, fun m member a there => ?_⟩
  · have sums := run_sums p ops id
    have sound := run_sound ops balanced
    rw [wrote] at sums
    rw [sound.audited.arena there, sums.abandoned, sums.bulkReleases, List.length_reverse]
    refine ⟨?_, congrArg _ (length_writtenOff _)⟩
    rw [← sum_writtenOff]
    exact List.sum_reverse _
  · exact accountedOnce (sound_of_mem_releasesIn balanced member) there

/-- An arena under a fatal policy is reset when storage of it was forgotten. Then it comes to
collect a value, and to lend storage that is forgotten again. -/
def forgettingTwice : List Operation :=
  [.makeArena none { leakPolicy := .fatal }, .create (.block .own) 1 (.tag 1) false,
    .forget (.whole (.block .own) .tag 0), .release 1 .reset, .caught,
    .create (.block .collect) 1 (.tag 3) false, .create (.block .own) 1 (.tag 2) false,
    .forget (.whole (.block .own) .tag 2)]

/-- Torn down after that, the arena is released with a leak that is to be raised, its destructor
returns, and the counters sum up this release and the one before. -/
theorem run_accountsReleases_forgettingTwice :
    ∃ m a n, m ∈ releasesIn 1 (forgettingTwice ++ [.release 1 .tearDown]) (start {}) ∧
      m.memory.arena? 1 = some a ∧ m.process.isUnwinding = false ∧
      a.config.leakPolicy = .fatal ∧ a.live = 1 ∧ a.ledger.abandoned = 1 ∧
      Run.forAll (runDestructor 1) a.collected (m.listTaken 1 a) = .returned () n ∧
      n.deeds.length < Word.modulus ∧ AccountedOnce 1 m a := by
  obtain ⟨c, a, n, done, there, returned, checked⟩ := exists_released forgettingTwice
    (fun m a n => decide (m.process.isUnwinding = false ∧ a.config.leakPolicy = .fatal ∧
      a.live = 1 ∧ a.ledger.abandoned = 1 ∧ n.deeds.length < Word.modulus))
    (by decide +kernel) (by decide +kernel)
  obtain ⟨calm, policy, live, abandoned, few⟩ := of_decide_eq_true checked
  have member : c.machine ∈
      releasesIn 1 (forgettingTwice ++ [.release 1 .tearDown]) (start {}) := by
    rw [releasesIn_append done]
    refine List.mem_append_right _ (List.mem_append_left _ ?_)
    rw [releasesOf_release]
    exact List.mem_cons_self ..
  obtain ⟨-, -, accounted⟩ :=
    run_accountsReleases {} (forgettingTwice ++ [.release 1 .tearDown]) 1
  exact ⟨c.machine, a, n, member, there, calm, policy, live, abandoned, returned, few,
    accounted c.machine member a there⟩

end Client

end Custody
