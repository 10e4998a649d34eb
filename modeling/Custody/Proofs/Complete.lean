import Custody.Proofs.Collected

/-!
# What a release leaves undone

An arena that is gone should have run every destructor once and given every chunk back. A release
stops where a destructor panics, and the list was taken out by then: what comes after that
destructor is never run. The chunks are still there, and only an arena that is torn down comes
back to them, with its second release. An arena that is dropped takes them along.

`Client.release_whole_iff` says exactly when nothing is left undone: no destructor but the last
one may panic, and not the last one either, unless there is no chunk or the arena is torn down.
`Client.release_not_whole` is a run in which a dropped arena loses both.
-/

namespace Custody

/-- Whether the chunks of an arena go back, given how the loop over its destructors ended. -/
def Exit.givesBack (exit : Exit) : Outcome Machine Unit → Bool
  | .returned .. => true
  | .unwinding .. => exit = .tearDown
  | .aborted .. => false

namespace Machine

open Run

variable {m n : Machine} {id : AllocatorId} {a : Arena}

/-- A release has run all destructors that an arena had registered, and the chunks are back. -/
structure ReleasedWhole (id : AllocatorId) (a : Arena) (m n : Machine) : Prop where
  destructors : runs id n.deeds = a.collected.reverse ++ runs id m.deeds
  chunks : chunksHeld id n.deeds = []

/-! ## Destructors -/

/-- All destructors were run exactly if all of them but the last one returned. -/
theorem RunsUpTo.rest_eq_nil_iff {ran rest : List Registration} (upTo : RunsUpTo id ran rest m) :
    rest = [] ↔ ∃ n, forAll (runDestructor id) (ran ++ rest).dropLast m = .returned () n := by
  rcases upTo with ⟨rfl, n, returned⟩ | ⟨before, r, n, rfl, reached, never⟩
  · refine ⟨fun _ => ?_, fun _ => rfl⟩
    rw [List.append_nil]
    rcases List.eq_nil_or_concat ran with rfl | ⟨before, r, rfl⟩
    · exact ⟨m, rfl⟩
    · rw [List.concat_eq_append] at returned ⊢
      rw [List.dropLast_concat]
      exact forAll_prefix returned
  · constructor
    · rintro rfl
      rw [List.append_nil, List.dropLast_concat]
      exact ⟨n, reached⟩
    · rintro ⟨o, returned⟩
      cases rest with
      | nil => rfl
      | cons s others =>
        -- The loop would have had to come past the destructor that did not return.
        rw [List.dropLast_append_of_ne_nil (List.cons_ne_nil s others)] at returned
        obtain ⟨u, passed⟩ := forAll_prefix returned
        rw [forAll_append, reached] at passed
        have stopped : (runDestructor id r n).andThen (fun _ t => .returned () t) =
          .returned () u := passed
        cases ended : runDestructor id r n with
        | returned v t => exact absurd ended (never t)
        | unwinding p t =>
          rw [ended] at stopped
          cases stopped
        | aborted cause t =>
          rw [ended] at stopped
          cases stopped

/-- A destructor panics if the value announces itself by a label that does, unless the thread is
unwinding already. -/
theorem runDestructor_ne_returned {r : Registration} {cell : Cell} {label : Label}
    {rest : List Task} {message : String}
    (found : m.memory.cell? r.destructor.subject = some cell)
    (plan : cell.value.plan = .announce label :: rest)
    (panics : label.panicMessage? = some message) (calm : m.process.isUnwinding = false)
    (o : Machine) : runDestructor id r m ≠ .returned () o := by
  have found : (m.runNoted id r).memory.cell? r.destructor.subject = some cell := found
  rw [runDestructor_eq, Run.bind_apply, beginDestruction_of_found found, plan]
  show settle (.announce label :: rest) ((m.runNoted id r).begun r.destructor.subject cell) ≠ _
  generalize begun : (m.runNoted id r).begun r.destructor.subject cell = n
  have calm : n.process.isUnwinding = false := by
    rw [← begun]
    exact calm
  have panicked : ∃ payload k, (Task.announce label).advance n = .unwinding payload k := by
    have calm' : (n.process.after (.destroyed label)).isUnwinding = false := calm
    simp only [Task.advance, announce, panics, note, Process.note, Machine.onProcess,
      Run.within, Run.bind_apply, Run.modify, Outcome.mapState, Outcome.andThen, isUnwinding,
      Run.gets, calm', Bool.false_eq_true, if_false, Machine.panic, Process.panic]
    exact ⟨_, _, rfl⟩
  obtain ⟨payload, k, panicked⟩ := panicked
  rw [settle, drain_cons_unwinding panicked]
  exact drain_ne_returned (List.cons_ne_nil _ _) _ _ _

/-! ## Chunks -/

/-- The chunks that an arena holds are those it held. -/
def SameChunks (id : AllocatorId) (m n : Machine) : Prop :=
  chunksHeld id n.deeds = chunksHeld id m.deeds

instance (id : AllocatorId) : IsPreorder Machine (SameChunks id) where
  refl _ := rfl
  trans _ _ _ first second := Eq.trans second first

theorem Ordinary.sameChunks (h : m.Ordinary n) (id : AllocatorId) : SameChunks id m n := by
  obtain ⟨added, same, inert⟩ := h.deeds
  unfold SameChunks
  rw [same, chunksHeld_append id _ fun e member => isAbout_of_isInert (inert e member) id]

theorem runDestructor_sameChunks (id : AllocatorId) (r : Registration) :
    (runDestructor id r).Keeps (SameChunks id) := fun m => by
  have noted : SameChunks id m (m.runNoted id r) := chunksHeld_cons rfl
  exact trans_of (SameChunks id) noted
    ((runDestructor_settled id r m).ordinary.sameChunks id)

/-- Running destructors returns no chunk. -/
theorem runDestructors_sameChunks (id : AllocatorId) (left : List Registration) (m : Machine)
    (a : Arena) :
    SameChunks id m (forAll (runDestructor id) left (m.listTaken id a)).state := by
  have taken : SameChunks id m (m.listTaken id a) := chunksHeld_cons rfl
  have looped : (forAll (runDestructor id) left).Keeps (SameChunks id) :=
    Keeps.forAll fun r _ => runDestructor_sameChunks id r
  exact trans_of (SameChunks id) taken (looped _)

/-- When all destructors were run, all chunks go back. -/
theorem finishRelease_chunks (sound : m.Sound) (there : m.memory.arena? id = some a)
    (taken : sinceTaken id m.deeds = []) (before : Arena) :
    chunksHeld id (finishRelease id before m).state.deeds = [] := by
  obtain ⟨n, released, sound'⟩ := releaseChunks_sound sound there taken
  have emptied := arena?_of_releaseChunks there released
  have none : chunksHeld id n.deeds = [] := (sound'.arenas id _ emptied).chunks.symm
  have concluded : (concludeRelease id a (reportOf before a)).Keeps (SameChunks id) :=
    concludeRelease_keeps (fun _ _ h => h.sameChunks id) (fun _ _ => chunksHeld_cons rfl)
      (fun _ _ => rfl) a _
  rw [finishRelease_of_some there, released]
  exact (concluded n).trans none

/-- The chunks go back if the loop over the destructors returns, and stay if it does not. -/
theorem releaseArena_chunks (sound : m.Sound) (there : m.memory.arena? id = some a) :
    chunksHeld id (releaseArena id m).state.deeds =
      match forAll (runDestructor id) a.collected (m.listTaken id a) with
      | .returned .. => []
      | _ => a.chunks := by
  have same := runDestructors_sameChunks id a.collected m a
  have held := (sound.arenas id a there).chunks
  obtain ⟨b, arena, -⟩ := runDestructors_arena there
  rw [releaseArena_of_some there]
  cases looped : forAll (runDestructor id) a.collected (m.listTaken id a) with
  | returned u n =>
    rw [looped] at arena
    have done : Running id [] n := runDestructors_done (listTaken_running sound there) looped
    exact finishRelease_chunks done.sound arena done.taken a
  | unwinding p n =>
    rw [looped] at same
    rw [held]
    exact same
  | aborted cause n =>
    rw [looped] at same
    rw [held]
    exact same

/-- The second release finds no destructor that could panic. -/
theorem releaseArena_again (sound : m.Sound) (pending : sinceTaken id m.deeds = [])
    (there : m.memory.arena? id = some a) : chunksHeld id (releaseArena id m).state.deeds = [] := by
  have empty : a.collected = [] := by
    rw [(sound.arenas id a there).collected, pending]
    rfl
  rw [releaseArena_chunks sound there, empty]
  rfl

/-- An arena that is torn down gives its chunks back even if a destructor panics. -/
theorem tearDown_chunks (sound : m.Sound) (there : m.memory.arena? id = some a) :
    chunksHeld id (tearDown id m).state.deeds =
      match forAll (runDestructor id) a.collected (m.listTaken id a) with
      | .aborted .. => a.chunks
      | _ => [] := by
  have first := releaseArena_chunks sound there
  have sound' := releaseArena_staysSound id m sound
  have pending := releaseArena_pending there
  obtain ⟨b, arena, -⟩ := runDestructors_arena there
  have released := releaseArena_of_some there
  have whole : tearDown id m = atEnd (releaseArena id) (dropArena id) m := rfl
  cases looped : forAll (runDestructor id) a.collected (m.listTaken id a) with
  | returned u n =>
    rw [looped] at first
    rw [whole]
    rcases state_atEnd (releaseArena id) (dropArena id) m with ended | ended
    · rw [ended, deeds_dropArena]
      cases left : (releaseArena id m).state.memory.arena? id with
      | none =>
        rw [releaseArena_of_none left]
        exact first
      | some b => exact releaseArena_again sound' pending left
    · rw [ended]
      exact first
  | unwinding p n =>
    rw [looped] at released arena
    have released : releaseArena id m = .unwinding p n := released
    rw [released] at sound' pending
    have passed : (atEnd (releaseArena id) (dropArena id) m).state = (dropArena id n).state := by
      unfold atEnd
      rw [released]
      exact state_passing p (dropArena id) n
    rw [whole, passed, deeds_dropArena]
    exact releaseArena_again sound' pending arena
  | aborted cause n =>
    rw [looped] at released first
    have released : releaseArena id m = .aborted cause n := released
    rw [released] at first
    rw [whole, atEnd, released]
    exact first

end Machine

namespace Client

open Machine

variable {c : Client} {id : AllocatorId} {a : Arena}

theorem release_chunks (sound : c.machine.Sound) (there : c.machine.memory.arena? id = some a)
    (exit : Exit) : chunksHeld id (perform (.release id exit) c).state.machine.deeds =
      if exit.givesBack (Run.forAll (runDestructor id) a.collected (c.machine.listTaken id a)) then
        [] else a.chunks := by
  rw [machine_release]
  cases exit with
  | reset =>
    dsimp only
    rw [releaseArena_chunks sound there]
    cases Run.forAll (runDestructor id) a.collected (c.machine.listTaken id a) <;> rfl
  | tearDown =>
    dsimp only
    rw [tearDown_chunks sound there]
    cases Run.forAll (runDestructor id) a.collected (c.machine.listTaken id a) <;> rfl
  | drop =>
    dsimp only
    rw [deeds_dropArena, releaseArena_chunks sound there]
    cases Run.forAll (runDestructor id) a.collected (c.machine.listTaken id a) <;> rfl

theorem releasedWhole_iff (sound : c.machine.Sound)
    (there : c.machine.memory.arena? id = some a) (exit : Exit) :
    ReleasedWhole id a c.machine (perform (.release id exit) c).state.machine ↔
      (∃ n, Run.forAll (runDestructor id) a.collected.dropLast (c.machine.listTaken id a) =
        .returned () n) ∧
      (a.chunks = [] ∨
        exit.givesBack
          (Run.forAll (runDestructor id) a.collected (c.machine.listTaken id a)) = true) := by
  obtain ⟨ran, rest, list, upTo, same⟩ := release_runs sound there exit
  have chunks := release_chunks sound there exit
  have all : runs id (perform (.release id exit) c).state.machine.deeds =
      a.collected.reverse ++ runs id c.machine.deeds ↔ rest = [] := by
    rw [same, list, List.append_left_inj, List.reverse_inj]
    exact List.self_eq_append_right
  have back : chunksHeld id (perform (.release id exit) c).state.machine.deeds = [] ↔
      a.chunks = [] ∨ exit.givesBack
        (Run.forAll (runDestructor id) a.collected (c.machine.listTaken id a)) = true := by
    rw [chunks]
    by_cases gives : exit.givesBack
        (Run.forAll (runDestructor id) a.collected (c.machine.listTaken id a)) = true
    · simp [gives]
    · simp [gives]
  constructor
  · rintro ⟨destructors, chunks⟩
    refine ⟨?_, back.1 chunks⟩
    rw [list]
    exact upTo.rest_eq_nil_iff.1 (all.1 destructors)
  · rintro ⟨returned, chunks⟩
    rw [list] at returned
    exact ⟨all.2 (upTo.rest_eq_nil_iff.2 returned), back.2 chunks⟩

/-- When a release leaves nothing undone, in any run: exactly if no destructor panics but the
last, and not the last either, unless there is no chunk or the arena is torn down. -/
theorem release_whole_iff {p : Process} {ops : List Operation}
    (done : run ops (start p) = .returned () c) (there : c.machine.memory.arena? id = some a)
    (exit : Exit) :
    ReleasedWhole id a c.machine (perform (.release id exit) c).state.machine ↔
      (∃ n, Run.forAll (runDestructor id) a.collected.dropLast (c.machine.listTaken id a) =
        .returned () n) ∧
      (a.chunks = [] ∨
        exit.givesBack
          (Run.forAll (runDestructor id) a.collected (c.machine.listTaken id a)) = true) :=
  releasedWhole_iff (sound_of_run done) there exit

/-- The first of two destructors does not return. -/
private theorem not_returned_of_collected {r s : Registration}
    (collected : a.collected = [r, s])
    (value : (c.machine.memory.cell? r.destructor.subject).map (·.value) = some (.tag 1000))
    (calm : c.machine.process.isUnwinding = false) :
    ¬∃ n, Run.forAll (runDestructor id) a.collected.dropLast (c.machine.listTaken id a) =
      .returned () n := by
  obtain ⟨cell, found, value⟩ := Option.map_eq_some_iff.1 value
  have plan : cell.value.plan = [.announce (.number 1000)] := by
    rw [value]
    rfl
  rintro ⟨n, returned⟩
  rw [collected] at returned
  have first : Run.forAll (runDestructor id) [r] (c.machine.listTaken id a) = .returned () n :=
    returned
  have once : (runDestructor id r (c.machine.listTaken id a)).andThen
    (fun _ t => .returned () t) = .returned () n := first
  cases ended : runDestructor id r (c.machine.listTaken id a) with
  | returned u t =>
    have message : (Label.number 1000).panicMessage? = some ("drop of tag " ++ toString 1000) := rfl
    exact runDestructor_ne_returned (m := c.machine.listTaken id a) found plan message calm t ended
  | unwinding q t =>
    rw [ended] at once
    cases once
  | aborted cause t =>
    rw [ended] at once
    cases once

theorem release_whole_iff_collecting : ∃ c a, run collecting (start {}) = .returned () c ∧
    c.machine.memory.arena? 1 = some a ∧
      ∀ exit, ¬ReleasedWhole 1 a c.machine (perform (.release 1 exit) c).state.machine := by
  obtain ⟨c, a, r, s, done, there, collected, value, calm⟩ := run_collecting
  refine ⟨c, a, done, there, fun exit whole => ?_⟩
  exact not_returned_of_collected collected value calm
    ((release_whole_iff done there exit).1 whole).1

/-- It is not so that a release, whichever it is, runs every destructor and gives every chunk
back: when an arena is dropped that collected two values, of which the one that is destroyed first
panics, the other one is never destroyed. -/
theorem release_not_whole : ¬∀ (p : Process) (ops : List Operation) (c : Client),
    run ops (start p) = .returned () c → ∀ id a, c.machine.memory.arena? id = some a →
      ∀ exit, ReleasedWhole id a c.machine (perform (.release id exit) c).state.machine := by
  intro always
  obtain ⟨c, a, r, s, done, there, collected, value, calm⟩ := run_collecting
  have whole := always {} collecting c done 1 a there .drop
  have returned := ((releasedWhole_iff (sound_of_run done) there .drop).1 whole).1
  exact not_returned_of_collected collected value calm returned

end Client

end Custody
