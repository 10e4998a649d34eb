import Custody.Proofs.Operations

/-!
# Which destructors a release runs

A release goes through the list of destructors from its front and stops only where one does not
return: `Machine.releaseArena_runs`. The second release of an arena that is torn down finds the
list empty, also after the first one was cut short, so that an arena runs the same destructors
whichever way it is released (`Machine.tearDown_runs`, `Machine.deeds_dropArena`).

Over whole runs this comes to `Client.run_collectedSafely`: what is collected is destroyed by a
release and by nothing else, newest first, once, and while its storage is still there, and no
chunk is given back twice.
-/

namespace Custody

namespace Run

variable {σ α : Type}

@[simp] theorem state_passing (payload : Payload) (last : Run σ Unit) (s : σ) :
    (passing payload last s : Outcome σ α).state = (last s).state := by
  unfold passing
  cases last s <;> rfl

/-- What is done at the end starts from where the operation ended, if the process did not end. -/
theorem state_atEnd (act : Run σ α) (last : Run σ Unit) (s : σ) :
    (atEnd act last s).state = (last (act s).state).state ∨
      (atEnd act last s).state = (act s).state := by
  unfold atEnd
  cases act s with
  | returned a t =>
    left
    dsimp only
    rw [Outcome.state_andThen_returned]
    rfl
  | unwinding p t =>
    left
    exact state_passing p last t
  | aborted cause t => exact .inr rfl

end Run

namespace Machine

open Run

variable {m n : Machine} {id : AllocatorId} {a : Arena}

/-! ## What is kept of the history -/

/-- No more destructors of an arena were run. -/
def SameRuns (id : AllocatorId) (m n : Machine) : Prop := runs id n.deeds = runs id m.deeds

instance (id : AllocatorId) : IsPreorder Machine (SameRuns id) where
  refl _ := rfl
  trans _ _ _ first second := Eq.trans second first

/-- What is pending with an arena is what was. -/
def SamePending (id : AllocatorId) (m n : Machine) : Prop :=
  sinceTaken id n.deeds = sinceTaken id m.deeds

instance (id : AllocatorId) : IsPreorder Machine (SamePending id) where
  refl _ := rfl
  trans _ _ _ first second := Eq.trans second first

theorem Ordinary.sameRuns (h : m.Ordinary n) (id : AllocatorId) : SameRuns id m n := by
  obtain ⟨added, same, inert⟩ := h.deeds
  unfold SameRuns
  rw [same, runs_append id _ fun e member => isAbout_of_isInert (inert e member) id]

theorem Ordinary.samePending (h : m.Ordinary n) (id : AllocatorId) : SamePending id m n := by
  obtain ⟨added, same, inert⟩ := h.deeds
  unfold SamePending
  rw [same, sinceTaken_append id _ fun e member => isAbout_of_isInert (inert e member) id]

section Conclusion

variable {R : Machine → Machine → Prop} [IsPreorder Machine R]
  (ordinary : ∀ m n, m.Ordinary n → R m n)
  (counted : ∀ leaked, (noteStorage (.bulkReleased id leaked)).Keeps R)
  (changed : ∀ f : Memory → Memory, (onMemory f).Keeps R)

include ordinary counted changed

/-- What is kept by the count of a release and by what is told of it. -/
theorem concludeRelease_keeps (a : Arena) (r : ReleaseReport) :
    (concludeRelease id a r).Keeps R := by
  unfold concludeRelease
  by_cases empty : r.isEmpty = true
  · rw [empty]
    exact Keeps.pure r
  · rw [if_pos (by simp [empty])]
    refine Keeps.bind ?_ fun _ => Keeps.pure r
    refine Keeps.bind ?_ fun _ => (reportLeak_ordinary _ _ _).mono ordinary
    refine Keeps.bind (counted _) fun _ => Keeps.bind (changed _) fun _ => ?_
    exact (write_ordinary _ _ _ _).mono ordinary

/-- What is kept by all that a release does when all destructors were run. -/
theorem finishRelease_keeps (released : ∀ c, (noteChunk id c).Keeps R) (before : Arena) :
    (finishRelease id before).Keeps R := by
  refine Keeps.bind (Keeps.gets _) fun arena? => ?_
  refine Keeps.bind (Keeps.bind (Keeps.forAll fun c _ => released c) fun _ => changed _) fun _ => ?_
  exact concludeRelease_keeps ordinary counted changed _ _

end Conclusion

theorem finishRelease_sameRuns (id : AllocatorId) (before : Arena) :
    (finishRelease id before).Keeps (SameRuns id) :=
  finishRelease_keeps (fun _ _ h => h.sameRuns id) (fun _ _ => rfl) (fun _ _ => rfl)
    (fun _ _ => rfl) before

theorem finishRelease_samePending (id : AllocatorId) (before : Arena) :
    (finishRelease id before).Keeps (SamePending id) :=
  finishRelease_keeps (fun _ _ h => h.samePending id) (fun _ _ => sinceTaken_cons rfl)
    (fun _ _ => rfl) (fun _ _ => sinceTaken_cons rfl) before

theorem runDestructor_samePending (id : AllocatorId) (r : Registration) :
    (runDestructor id r).Keeps (SamePending id) := fun m => by
  have noted : SamePending id m (m.runNoted id r) := sinceTaken_cons rfl
  exact trans_of (SamePending id) noted
    ((runDestructor_settled id r m).ordinary.samePending id)

/-! ## How far a release gets -/

/-- Of a list of destructors those were run, up to one that did not return, or all. -/
def RunsUpTo (id : AllocatorId) (ran rest : List Registration) (m : Machine) : Prop :=
  (rest = [] ∧ ∃ n, forAll (runDestructor id) ran m = .returned () n) ∨
    ∃ before r n, ran = before ++ [r] ∧ forAll (runDestructor id) before m = .returned () n ∧
      ∀ o, runDestructor id r n ≠ .returned () o

/-- What was run when the loop came to its end. -/
theorem runs_runDestructors {ran : List Registration}
    (returned : forAll (runDestructor id) ran m = .returned () n) :
    runs id n.deeds = ran.reverse ++ runs id m.deeds := by
  induction ran generalizing m with
  | nil =>
    cases returned
    rfl
  | cons r rest ih =>
    have first : (runDestructor id r m).andThen (fun _ t => forAll (runDestructor id) rest t) =
      .returned () n := returned
    have once := runs_runDestructor id r m
    cases ended : runDestructor id r m with
    | returned u t =>
      rw [ended] at first once
      rw [ih first, List.reverse_cons, List.append_assoc]
      exact congrArg (rest.reverse ++ ·) once
    | unwinding p t =>
      rw [ended] at first
      cases first
    | aborted cause t =>
      rw [ended] at first
      cases first

theorem runDestructors_runs (id : AllocatorId) (left : List Registration) (m : Machine) :
    ∃ ran rest, left = ran ++ rest ∧ RunsUpTo id ran rest m ∧
      runs id (forAll (runDestructor id) left m).state.deeds = ran.reverse ++ runs id m.deeds := by
  rcases forAll_cases (runDestructor id) left m with
    ⟨t, returned⟩ | ⟨before, r, after, t, rfl, reached, stopped, never⟩
  · refine ⟨left, [], (List.append_nil left).symm, .inl ⟨rfl, t, returned⟩, ?_⟩
    rw [returned]
    exact runs_runDestructors returned
  · refine ⟨before ++ [r], after, by simp, .inr ⟨before, r, t, rfl, reached, never⟩, ?_⟩
    rw [stopped, runs_runDestructor, runs_runDestructors reached, List.reverse_append]
    rfl

/-- A release runs the list that was registered from its front, and stops only at a destructor
that does not return. -/
theorem releaseArena_runs (there : m.memory.arena? id = some a) :
    ∃ ran rest, a.collected = ran ++ rest ∧ RunsUpTo id ran rest (m.listTaken id a) ∧
      runs id (releaseArena id m).state.deeds = ran.reverse ++ runs id m.deeds := by
  obtain ⟨ran, rest, list, upTo, same⟩ := runDestructors_runs id a.collected (m.listTaken id a)
  refine ⟨ran, rest, list, upTo, ?_⟩
  have taken : runs id (m.listTaken id a).deeds = runs id m.deeds := rfl
  rw [taken] at same
  rw [releaseArena_of_some there]
  cases looped : forAll (runDestructor id) a.collected (m.listTaken id a) with
  | returned u n =>
    rw [looped] at same
    exact (finishRelease_sameRuns id a n).trans same
  | unwinding p n =>
    rw [looped] at same
    exact same
  | aborted cause n =>
    rw [looped] at same
    exact same

/-- However a release ends, the list was taken out. -/
theorem releaseArena_pending (there : m.memory.arena? id = some a) :
    sinceTaken id (releaseArena id m).state.deeds = [] := by
  have taken : sinceTaken id (m.listTaken id a).deeds = [] :=
    sinceTaken_cons_of_begins (beq_self_eq_true id)
  have looped : (forAll (runDestructor id) a.collected).Keeps (SamePending id) :=
    Keeps.forAll fun r _ => runDestructor_samePending id r
  have kept : ((forAll (runDestructor id) a.collected) >>= fun _ => finishRelease id a).Keeps
      (SamePending id) := Keeps.bind looped fun _ => finishRelease_samePending id a
  rw [releaseArena_of_some there]
  exact (kept (m.listTaken id a)).trans taken

/-- An arena whose list was taken out runs nothing when it is released. -/
theorem releaseArena_sameRuns (sound : m.Sound) (pending : sinceTaken id m.deeds = []) :
    SameRuns id m (releaseArena id m).state := by
  cases there : m.memory.arena? id with
  | none =>
    rw [releaseArena_of_none there]
    exact refl_of (SameRuns id) m
  | some a =>
    obtain ⟨ran, rest, list, -, same⟩ := releaseArena_runs there
    have empty : a.collected = [] := by
      rw [(sound.arenas id a there).collected, pending]
      rfl
    rw [empty] at list
    obtain ⟨rfl, -⟩ := List.append_eq_nil_iff.1 list.symm
    exact same

/-- To drop an arena is to release it, as far as the process goes. -/
theorem process_dropArena (id : AllocatorId) (m : Machine) :
    (dropArena id m).state.process = (releaseArena id m).state.process := by
  have released : ((releaseArena id >>= fun _ => pure ()) m).state = (releaseArena id m).state :=
    Outcome.state_andThen_returned _ _
  have forgotten (n : Machine) : (forgetAllocator id n).state.process = n.process := rfl
  rcases state_atEnd (releaseArena id >>= fun _ => pure ()) (forgetAllocator id) m with
    ended | ended
  · show (atEnd _ _ m).state.process = _
    rw [ended, released, forgotten]
  · show (atEnd _ _ m).state.process = _
    rw [ended, released]

theorem deeds_dropArena (id : AllocatorId) (m : Machine) :
    (dropArena id m).state.deeds = (releaseArena id m).state.deeds :=
  congrArg Process.deeds (process_dropArena id m)

/-- To tear an arena down is to release it, as far as destructors go: the second release, which
comes even while the first one unwinds, finds nothing to run. -/
theorem tearDown_runs (sound : m.Sound) (there : m.memory.arena? id = some a) :
    runs id (tearDown id m).state.deeds = runs id (releaseArena id m).state.deeds := by
  rcases state_atEnd (releaseArena id) (dropArena id) m with ended | ended
  · show runs id (atEnd _ _ m).state.deeds = _
    rw [ended, deeds_dropArena]
    exact releaseArena_sameRuns (releaseArena_staysSound id m sound) (releaseArena_pending there)
  · show runs id (atEnd _ _ m).state.deeds = _
    rw [ended]

end Machine

/-! ## Whole runs -/

/-- What a history of an arena says about the values that it destroys, and about its chunks. The
newest event comes first. -/
structure CollectedSafely (id : AllocatorId) (deeds : List StorageEvent) : Prop where
  /-- No destructor is run before a release. -/
  released : ∀ newer older base d, deeds = newer ++ .collectedRun id base d :: older →
    .releaseBegan id ∈ older
  /-- The destructors that were run after a release began are, in order, the first ones of what
  was registered since the list was last taken out, newest first. -/
  ordered : ∀ newest newer older, deeds = newest ++ newer ++ .releaseBegan id :: older →
    .releaseBegan id ∉ newer →
    (runs id newer).reverse <+: (sinceTaken id older).map Booking.registration
  /-- No destructor is run twice. -/
  once : ((runs id deeds).map (·.destructor.subject)).Nodup
  /-- What is run was registered, and its storage lies in a chunk that is held, if it is
  anywhere. -/
  alive : ∀ newer older base d, deeds = newer ++ .collectedRun id base d :: older →
    ∃ l, .granted id base l (some d) ∈ older ∧
      (⟨base, l, d⟩ : Booking).LiesIn (chunksHeld id older)
  /-- No chunk is given back twice. -/
  chunksOnce : ((chunksReleased id deeds).map (·.base)).Nodup
  /-- What is given back is held. -/
  chunksHeld : ∀ newer older base l, deeds = newer ++ .chunkReleased id base l :: older →
    ⟨base, l⟩ ∈ chunksHeld id older

/-- The event that a booking is. -/
theorem granted_of_booked {id : AllocatorId} {e : StorageEvent} {b : Booking}
    (h : e.booked? id = some b) : e = .granted id b.base b.layout (some b.destructor) := by
  cases e with
  | granted a base l d =>
    cases d with
    | none => cases h
    | some d =>
      by_cases same : a = id
      · simp only [StorageEvent.booked?, same, if_true, Option.some.injEq] at h
        rw [← h, same]
      · simp [StorageEvent.booked?, same] at h
  | _ => cases h

theorem eq_releaseBegan {id : AllocatorId} {e : StorageEvent} (h : e.begins id = true) :
    e = .releaseBegan id := by
  cases e with
  | releaseBegan a => rw [beq_iff_eq.1 h]
  | _ => cases h

theorem Lawful.collectedSafely {deeds : List StorageEvent} (lawful : Lawful deeds)
    (id : AllocatorId) : CollectedSafely id deeds where
  released newer older base d split := by
    rw [split] at lawful
    obtain ⟨permitted, earlier⟩ : Permitted older (.collectedRun id base d) ∧ Lawful older :=
      Lawful.of_append lawful
    obtain ⟨b, rest, next, -⟩ := permitted
    by_contra never
    have none : ∀ e ∈ older, e.begins id = false := fun e member => by
      cases began : e.begins id with
      | false => rfl
      | true => exact absurd (eq_releaseBegan began ▸ member) never
    rw [due_eq_nil none] at next
    cases next
  ordered newest newer older split last := by
    rw [split, List.append_assoc] at lawful
    have whole := (Lawful.of_append lawful).sinceTaken_eq (beq_self_eq_true id) fun f member => by
      cases began : f.begins id with
      | false => rfl
      | true => exact absurd (eq_releaseBegan began ▸ member) last
    exact ⟨_, whole.symm⟩
  once := lawful.nodup_runs id
  alive newer older base d split := by
    rw [split] at lawful
    obtain ⟨permitted, earlier⟩ : Permitted older (.collectedRun id base d) ∧ Lawful older :=
      Lawful.of_append lawful
    obtain ⟨b, rest, next, registration, stored⟩ := permitted
    have owed : b ∈ due id older := next ▸ List.mem_cons_self ..
    obtain ⟨e, member, booked⟩ := booked_of_mem_due owed
    have granted := granted_of_booked booked
    injection registration with base' destructor
    refine ⟨b.layout, ?_, ?_⟩
    · rw [← base', ← destructor, ← granted]
      exact member
    · rw [← base', ← destructor]
      exact stored
  chunksOnce := lawful.nodup_chunksReleased id
  chunksHeld newer older base l split := by
    rw [split] at lawful
    exact (Lawful.of_append lawful).1

namespace Client

open Machine

theorem machine_release (a : AllocatorId) (exit : Exit) (c : Client) :
    (perform (.release a exit) c).state.machine =
      match exit with
      | .reset => (releaseArena a c.machine).state
      | .tearDown => (tearDown a c.machine).state
      | .drop => (dropArena a c.machine).state := by
  cases exit with
  | reset => exact machine_yielding (releaseArena a) _ c
  | tearDown => exact machine_yielding (tearDown a) _ c
  | drop => exact machine_yielding (dropArena a) _ c

/-- However an arena is released, its list of destructors is run from its front. -/
theorem release_runs {c : Client} {id : AllocatorId} {a : Arena} (sound : c.machine.Sound)
    (there : c.machine.memory.arena? id = some a) (exit : Exit) :
    ∃ ran rest, a.collected = ran ++ rest ∧ RunsUpTo id ran rest (c.machine.listTaken id a) ∧
      runs id (perform (.release id exit) c).state.machine.deeds =
        ran.reverse ++ runs id c.machine.deeds := by
  obtain ⟨ran, rest, list, upTo, same⟩ := releaseArena_runs there
  refine ⟨ran, rest, list, upTo, ?_⟩
  rw [machine_release, ← same]
  cases exit with
  | reset => rfl
  | tearDown => exact tearDown_runs sound there
  | drop => exact congrArg (runs id) (deeds_dropArena id c.machine)

/-- The machine that a run leaves is sound. -/
theorem sound_of_run {p : Process} {ops : List Operation} {c : Client}
    (done : run ops (start p) = .returned () c) : c.machine.Sound := by
  have sound := run_sound ops (start_balanced p)
  rw [done] at sound
  exact sound

/-- In every run, what an arena collects is destroyed safely; and a release, whichever it is, runs
all of the destructors that were registered since the last one, newest first, or those up to the
first that does not return. -/
theorem run_collectedSafely (p : Process) (ops : List Operation) (id : AllocatorId) :
    CollectedSafely id (run ops (start p)).state.machine.deeds ∧
      ∀ c, run ops (start p) = .returned () c → ∀ a, c.machine.memory.arena? id = some a →
        ∀ exit, ∃ ran rest,
          (sinceTaken id c.machine.deeds).map Booking.registration = ran ++ rest ∧
          RunsUpTo id ran rest (c.machine.listTaken id a) ∧
          runs id (perform (.release id exit) c).state.machine.deeds =
            ran.reverse ++ runs id c.machine.deeds := by
  refine ⟨(run_sound ops (start_balanced p)).lawful.collectedSafely id, ?_⟩
  intro c done a there exit
  have sound := sound_of_run done
  rw [← (sound.arenas id a there).collected]
  exact release_runs sound there exit

/-- An arena comes to collect two values, of which the one that is destroyed first panics. -/
def collecting : List Operation :=
  [.makeArena none {}, .allocateFor (.tag 1) 1 (.small 4 2) 0,
    .allocateFor (.tag 1000) 1 (.small 4 2) 0]

theorem run_collecting : ∃ c a r s, run collecting (start {}) = .returned () c ∧
    c.machine.memory.arena? 1 = some a ∧ a.collected = [r, s] ∧
      (c.machine.memory.cell? r.destructor.subject).map (·.value) = some (.tag 1000) ∧
      c.machine.process.isUnwinding = false := by
  have done := Outcome.eq_returned (o := run collecting (start {})) (by decide +kernel)
  generalize ended : (run collecting (start {})).state = c at done
  have found : (c.machine.memory.arena? 1).map (fun a => a.collected.map (·.destructor.subject)) =
      some [1, 0] ∧ (c.machine.memory.cell? 1).map (·.value) = some (.tag 1000) ∧
        c.machine.process.isUnwinding = false := by
    rw [← ended]
    decide +kernel
  obtain ⟨list, value, calm⟩ := found
  obtain ⟨a, there, list⟩ := Option.map_eq_some_iff.1 list
  obtain ⟨r, others, collected, first, list⟩ := List.map_eq_cons_iff.1 list
  obtain ⟨s, rest, more, -, list⟩ := List.map_eq_cons_iff.1 list
  rw [more, List.map_eq_nil_iff.1 list] at collected
  refine ⟨c, a, r, s, done, there, collected, ?_, calm⟩
  rw [first]
  exact value

theorem run_collectedSafely_collecting : ∃ c a, run collecting (start {}) = .returned () c ∧
    c.machine.memory.arena? 1 = some a ∧ a.collected.length = 2 ∧
      ∀ exit, ∃ ran rest,
        (sinceTaken 1 c.machine.deeds).map Booking.registration = ran ++ rest ∧
        RunsUpTo 1 ran rest (c.machine.listTaken 1 a) ∧
        runs 1 (perform (.release 1 exit) c).state.machine.deeds =
          ran.reverse ++ runs 1 c.machine.deeds := by
  obtain ⟨c, a, r, s, done, there, collected, -⟩ := run_collecting
  refine ⟨c, a, done, there, ?_, (run_collectedSafely {} collecting 1).2 c done a there⟩
  rw [collected]
  rfl

end Client

end Custody
