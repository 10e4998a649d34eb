import Custody.Proofs.Continuity
import Custody.Proofs.Leaks
import Custody.Proofs.Upkeep
import Mathlib.Data.UInt

/-!
# What releases write off

A release that comes to its end and has released something writes off what was live when it began.
`writeOffs id` lists these numbers from a history, and in any run the counters of the allocator are
their sum and their number (`Client.run_sums`), as nothing was written off before it was made.

That is what the history says. What the releases themselves say is `Machine.reported?`, the report
that a release makes if its destructors return, and `Client.releasesIn` lists where the releases of
an allocator begin in a run, including the second one of an arena that is torn down.
`Client.writeOffs_run` brings both together: each report that is not empty is written off, once and
in order, and nothing else is.
-/

namespace Custody

/-- What an event writes off for an allocator, if it does. -/
def StorageEvent.wroteOff? (id : AllocatorId) : StorageEvent → Option Word
  | bulkReleased a leaked => if a = id then some leaked else none
  | _ => none

/-- What releases of an allocator wrote off, newest first. -/
def writeOffs (id : AllocatorId) (deeds : List StorageEvent) : List Word :=
  deeds.filterMap (·.wroteOff? id)

/-- Counters sum up what was written off, as far as words can. -/
structure Ledger.Sums (l : Ledger) (written : List Word) : Prop where
  abandoned : l.abandoned = written.sum
  bulkReleases : l.bulkReleases = .ofNat written.length

/-- What is written off for a report: nothing if it is empty. -/
def ReleaseReport.writtenOff (r : ReleaseReport) : List Word :=
  if r.isEmpty then [] else [r.leaked]

section Events

variable {id : AllocatorId} {e : StorageEvent} {added older : List StorageEvent}

theorem wroteOff?_of_isReleasing (h : e.isReleasing = false) : e.wroteOff? id = none := by
  cases e with
  | bulkReleased a leaked => cases h
  | _ => rfl

theorem wroteOff?_of_isOfRelease (h : e.isOfRelease = true) : e.wroteOff? id = none := by
  cases e with
  | bulkReleased a leaked => cases h
  | _ => rfl

theorem isEntered_of_wroteOff {leaked : Word} (h : e.wroteOff? id = some leaked) :
    e.isEntered id = true := by
  cases e with
  | bulkReleased a l =>
    obtain ⟨same, -⟩ := Option.ite_none_right_eq_some.1 h
    exact beq_iff_eq.2 same
  | _ => cases h

theorem writeOffs_append_of_none (older : List StorageEvent)
    (none : ∀ e ∈ added, e.wroteOff? id = none) :
    writeOffs id (added ++ older) = writeOffs id older := by
  unfold writeOffs
  rw [List.filterMap_append, List.filterMap_eq_nil_iff.2 none, List.nil_append]

/-- An event that does not make the allocator writes off what it says, and no more. -/
theorem Ledger.Sums.entered {l : Ledger} {written : List Word} (sums : l.Sums written)
    (old : e ≠ .made id) : (e.entered id l).Sums ((e.wroteOff? id).toList ++ written) := by
  obtain ⟨abandoned, bulkReleases⟩ := sums
  cases e with
  | made a =>
    have other : a ≠ id := fun same => old (same ▸ rfl)
    rw [show StorageEvent.entered id (.made a) l = l from if_neg other]
    exact ⟨abandoned, bulkReleases⟩
  | bulkReleased a leaked =>
    by_cases same : a = id
    · subst same
      rw [StorageEvent.entered_bulkReleased, show (StorageEvent.bulkReleased a leaked).wroteOff? a =
        some leaked from if_pos rfl]
      constructor
      · show l.abandoned + leaked = leaked + written.sum
        rw [abandoned, UInt64.add_comm]
      · show l.bulkReleases + 1 = .ofNat (written.length + 1)
        rw [bulkReleases, UInt64.ofNat_add]
        rfl
    · rw [show StorageEvent.entered id (.bulkReleased a leaked) l = l from if_neg same,
        show (StorageEvent.bulkReleased a leaked).wroteOff? id = none from if_neg same]
      exact ⟨abandoned, bulkReleases⟩
  | granted a base layout d =>
    by_cases same : a = id <;> simp only [StorageEvent.entered, same, if_true, if_false] <;>
      exact ⟨abandoned, bulkReleases⟩
  | deallocated a base layout =>
    by_cases same : a = id <;> simp only [StorageEvent.entered, same, if_true, if_false] <;>
      exact ⟨abandoned, bulkReleases⟩
  | retired a base layout =>
    by_cases same : a = id <;> simp only [StorageEvent.entered, same, if_true, if_false] <;>
      exact ⟨abandoned, bulkReleases⟩
  | _ => exact ⟨abandoned, bulkReleases⟩

theorem Ledger.Sums.append (sums : (ledgerOf id older).Sums (writeOffs id older))
    (old : ∀ e ∈ added, e ≠ .made id) :
    (ledgerOf id (added ++ older)).Sums (writeOffs id (added ++ older)) := by
  induction added with
  | nil => exact sums
  | cons e rest ih =>
    have later := (ih fun f member => old f (List.mem_cons_of_mem e member)).entered
      (old e (List.mem_cons_self ..))
    have whole : writeOffs id (e :: (rest ++ older)) =
        (e.wroteOff? id).toList ++ writeOffs id (rest ++ older) := by
      unfold writeOffs
      rw [List.filterMap_cons]
      cases e.wroteOff? id <;> rfl
    rw [← whole] at later
    exact later

end Events

/-! ## Counters in any run -/

namespace Situation

open Machine

variable {may : Licence} {raw : Prop} {s t : Situation}

/-- The counters of all allocators sum up what was written off, which is nothing for an allocator
that was not made yet. -/
structure Reckoned (s : Situation) : Prop where
  unborn : ∀ id, s.machine.memory.allocators.next ≤ id → writeOffs id s.machine.deeds = []
  sums : ∀ id, (ledgerOf id s.machine.deeds).Sums (writeOffs id s.machine.deeds)

/-- A step makes an allocator, or it makes none and writes off only for one that is there. -/
theorem Adds.old {m n : Machine} {tasks : List Task} {added : List StorageEvent}
    (adds : Adds raw m tasks n added) :
    (n.memory.allocators.next = m.memory.allocators.next + 1 ∧
        added = [.made m.memory.allocators.next]) ∨
      ∀ e ∈ added, ∀ id, e ≠ .made id ∧
        (n.memory.allocators.next ≤ id → e.wroteOff? id = none) := by
  cases adds with
  | made next => exact .inl ⟨next, rfl⟩
  | neutral are =>
    refine .inr fun e member id => ⟨?_, fun unborn => ?_⟩
    · rintro rfl
      cases (are _ member).1
    · cases wrote : e.wroteOff? id with
      | none => rfl
      | some leaked =>
        exact absurd ((are e member).2 id (isEntered_of_wroteOff wrote)) (Nat.not_lt.2 unborn)
  | overflown crowded =>
    refine .inr fun e member id => ?_
    rw [List.mem_singleton.1 member]
    exact ⟨nofun, fun _ => rfl⟩
  | lent made obtained put =>
    refine .inr fun e member id => ?_
    rcases List.mem_append.1 member with member | member
    · rcases put with rfl | rfl
      · cases member
      · rw [List.mem_singleton.1 member]
        exact ⟨nofun, fun _ => rfl⟩
    · rcases List.mem_cons.1 member with rfl | member
      · exact ⟨nofun, fun _ => rfl⟩
      · obtain ⟨neutral, unentered⟩ := obtained e member
        refine ⟨?_, fun _ => ?_⟩
        · rintro rfl
          cases neutral
        · cases wrote : e.wroteOff? id with
          | none => rfl
          | some leaked =>
            have entered := isEntered_of_wroteOff wrote
            rw [unentered] at entered
            cases entered
  | returned owed found freed =>
    refine .inr fun e member id => ?_
    rcases List.mem_cons.1 member with rfl | member
    · rcases freed with rfl | rfl <;> exact ⟨nofun, fun _ => rfl⟩
    · rw [List.mem_singleton.1 member]
      exact ⟨nofun, fun _ => rfl⟩
  | unowned allowed freed =>
    refine .inr fun e member id => ?_
    rw [List.mem_singleton.1 member]
    rcases freed with rfl | rfl <;> exact ⟨nofun, fun _ => rfl⟩

theorem Reckoned.step (reckoned : s.Reckoned) (balanced : s.Balanced) (step : Step may s t) :
    t.Reckoned := by
  obtain ⟨grows, added, deeds, adds⟩ := step.adds balanced
  rcases adds.old with ⟨next, rfl⟩ | old
  · have same (id : AllocatorId) : writeOffs id t.machine.deeds = writeOffs id s.machine.deeds := by
      rw [deeds]
      exact writeOffs_append_of_none _ fun e member => by rw [List.mem_singleton.1 member]; rfl
    refine ⟨fun id unborn => ?_, fun id => ?_⟩
    · rw [same]
      exact reckoned.unborn id (Nat.le_trans grows unborn)
    · by_cases new : s.machine.memory.allocators.next = id
      · have first : ledgerOf id t.machine.deeds = {} := by
          rw [deeds, new]
          exact StorageEvent.entered_made id _
        rw [first, same, reckoned.unborn id (Nat.le_of_eq new)]
        exact ⟨rfl, rfl⟩
      · rw [deeds]
        refine (reckoned.sums id).append fun e member => ?_
        rw [List.mem_singleton.1 member]
        exact fun is => new (StorageEvent.made.inj is)
  · refine ⟨fun id unborn => ?_, fun id => ?_⟩
    · rw [deeds, writeOffs_append_of_none _ fun e member => (old e member id).2 unborn]
      exact reckoned.unborn id (Nat.le_trans grows unborn)
    · rw [deeds]
      exact (reckoned.sums id).append fun e member => (old e member id).1

theorem Reckoned.leads (leads : Leads may s t) (balanced : s.Balanced) (reckoned : s.Reckoned) :
    t.Reckoned := by
  induction leads with
  | refl => exact reckoned
  | tail leads step ih => exact ih.step (balanced.leads leads) step

end Situation

/-! ## What single releases write off -/

namespace Machine

open Run

variable {m n : Machine} {id : AllocatorId} {a : Arena}

/-- The report that a release makes, if there is an arena and all of its destructors return. -/
def reported? (id : AllocatorId) (m : Machine) : Option ReleaseReport :=
  (m.memory.arena? id).bind fun a =>
    match forAll (runDestructor id) a.collected (m.listTaken id a) with
    | .returned _ n => (n.memory.arena? id).map (reportOf a)
    | _ => none

theorem Unreleased.writeOffs (h : m.Unreleased n) (id : AllocatorId) :
    writeOffs id n.deeds = Custody.writeOffs id m.deeds := by
  obtain ⟨added, same, none⟩ := h
  rw [same, writeOffs_append_of_none _ fun e member => wroteOff?_of_isReleasing (none e member)]

theorem Proceeds.writeOffs (h : m.Proceeds n) (id : AllocatorId) :
    writeOffs id n.deeds = Custody.writeOffs id m.deeds := by
  obtain ⟨added, same, proceed⟩ := h
  rw [same, writeOffs_append_of_none _ fun e member => wroteOff?_of_isOfRelease (proceed e member)]

/-- Until the destructors are run, nothing is written off. -/
theorem writeOffs_runDestructors (id other : AllocatorId) (a : Arena) (m : Machine) :
    writeOffs other (forAll (runDestructor id) a.collected (m.listTaken id a)).state.deeds =
      writeOffs other m.deeds :=
  (runDestructors_proceeds id a.collected (m.listTaken id a)).writeOffs other

theorem writeOffs_wrapUpEvents (id other : AllocatorId) (a : Arena) (r : ReleaseReport)
    (deeds : List StorageEvent) :
    writeOffs other (wrapUpEvents id a r ++ deeds) =
      (if other = id then r.writtenOff else []) ++ writeOffs other deeds := by
  have chunks : writeOffs other (a.chunks.map (chunkEvent id) ++ deeds) =
      writeOffs other deeds := by
    refine writeOffs_append_of_none _ fun e member => ?_
    obtain ⟨c, -, rfl⟩ := List.mem_map.1 member
    rfl
  unfold wrapUpEvents ReleaseReport.writtenOff
  rw [List.append_assoc]
  cases r.isEmpty with
  | true => simpa using chunks
  | false =>
    show List.filterMap (·.wroteOff? other)
      (.bulkReleased id r.leaked :: (a.chunks.map (chunkEvent id) ++ deeds)) = _
    rw [List.filterMap_cons]
    by_cases same : other = id
    · subst same
      rw [show (StorageEvent.bulkReleased other r.leaked).wroteOff? other = some r.leaked from
        if_pos rfl, if_pos rfl]
      exact congrArg (r.leaked :: ·) chunks
    · rw [show (StorageEvent.bulkReleased id r.leaked).wroteOff? other = none from
        if_neg (Ne.symm same), if_neg same]
      exact chunks

/-- A release writes off what it reports, if that is not empty; whatever ends it. -/
theorem writeOffs_releaseArena (id other : AllocatorId) (m : Machine) :
    writeOffs other (releaseArena id m).state.deeds =
      (if other = id then (reported? id m).toList.flatMap ReleaseReport.writtenOff else []) ++
        writeOffs other m.deeds := by
  cases there : m.memory.arena? id with
  | none =>
    have unreported : reported? id m = none := by
      unfold reported?
      rw [there]
      rfl
    rw [releaseArena_of_none there, unreported]
    by_cases same : other = id
    · rw [if_pos same]
      rfl
    · rw [if_neg same]
      rfl
  | some a =>
    have before := writeOffs_runDestructors id other a m
    have report : reported? id m =
        match forAll (runDestructor id) a.collected (m.listTaken id a) with
        | .returned _ n => (n.memory.arena? id).map (reportOf a)
        | _ => none := by
      unfold reported?
      rw [there]
      rfl
    have stopped (unreported : reported? id m = none) (n : Machine)
        (same : writeOffs other n.deeds = writeOffs other m.deeds) :
        writeOffs other n.deeds = (if other = id then
          (reported? id m).toList.flatMap ReleaseReport.writtenOff else []) ++
            writeOffs other m.deeds := by
      rw [unreported, same]
      by_cases self : other = id
      · rw [if_pos self]
        rfl
      · rw [if_neg self]
        rfl
    rw [releaseArena_of_some there]
    cases looped : forAll (runDestructor id) a.collected (m.listTaken id a) with
    | unwinding payload n =>
      rw [looped] at before report
      exact stopped report n before
    | aborted cause n =>
      rw [looped] at before report
      exact stopped report n before
    | returned u n =>
      rw [looped] at before report
      obtain ⟨b, arena, -⟩ := runDestructors_arena there
      rw [looped] at arena
      have arena : n.memory.arena? id = some b := arena
      have before : writeOffs other n.deeds = writeOffs other m.deeds := before
      dsimp only at report
      rw [arena] at report
      show writeOffs other (finishRelease id a n).state.deeds = _
      rw [finishRelease_eq arena, deeds_closeRelease arena, writeOffs_wrapUpEvents, before, report]
      simp

end Machine

/-! ## Releases in a run -/

/-- Where things are done at the end of an operation: in the state that it left, unless the process
has ended. -/
def Outcome.survivor? {σ α : Type} : Outcome σ α → Option σ
  | returned _ s | unwinding _ s => some s
  | aborted _ _ => none

theorem Outcome.eq_state_of_survivor? {σ α : Type} {o : Outcome σ α} {s : σ}
    (h : o.survivor? = some s) : s = o.state := by
  cases o with
  | returned a t => exact (Option.some.inj h).symm
  | unwinding payload t => exact (Option.some.inj h).symm
  | aborted cause t => cases h

namespace Client

open Machine

variable {c : Client} {id : AllocatorId}

/-- Where an operation begins to release an allocator. An arena that is torn down is released a
second time, where the first release has left it. -/
def releasesOf (id : AllocatorId) : Operation → Client → List Machine
  | .release a exit, c =>
    if a = id then
      c.machine :: if exit = .tearDown then (releaseArena id c.machine).survivor?.toList else []
    else []
  | _, _ => []

/-- Where the operations of a run begin to release an allocator, in their order. -/
def releasesIn (id : AllocatorId) : List Operation → Client → List Machine
  | [], _ => []
  | op :: rest, c =>
    releasesOf id op c ++
      match attempt op c with
      | .returned _ d => releasesIn id rest d
      | _ => []

/-- The releases of a run that goes on are those until then and those later. -/
theorem releasesIn_append {ops : List Operation} {c d : Client}
    (done : run ops c = .returned () d) (more : List Operation) :
    releasesIn id (ops ++ more) c = releasesIn id ops c ++ releasesIn id more d := by
  induction ops generalizing c with
  | nil =>
    cases done
    rfl
  | cons op rest ih =>
    obtain ⟨_, e, attempted, done⟩ := Run.returned_of_bind done
    show releasesOf id op c ++ (match attempt op c with
        | .returned _ d => releasesIn id (rest ++ more) d
        | _ => []) =
      (releasesOf id op c ++ match attempt op c with
        | .returned _ d => releasesIn id rest d
        | _ => []) ++ releasesIn id more d
    rw [attempted, List.append_assoc]
    exact congrArg _ (ih done)

/-- What releases report that begin in some machines, in their order. -/
def reportsOf (id : AllocatorId) (releases : List Machine) : List ReleaseReport :=
  releases.filterMap (reported? id)

/-- What is written off for these reports. -/
def written (id : AllocatorId) (releases : List Machine) : List Word :=
  (reportsOf id releases).flatMap ReleaseReport.writtenOff

theorem written_append (id : AllocatorId) (first second : List Machine) :
    written id (first ++ second) = written id first ++ written id second := by
  unfold written reportsOf
  rw [List.filterMap_append, List.flatMap_append]

theorem written_cons (id : AllocatorId) (m : Machine) (releases : List Machine) :
    written id (m :: releases) =
      (reported? id m).toList.flatMap ReleaseReport.writtenOff ++ written id releases := by
  unfold written reportsOf
  rw [List.filterMap_cons]
  cases reported? id m with
  | none => rfl
  | some r =>
    dsimp only [Option.toList]
    rw [List.flatMap_cons, List.flatMap_singleton]

/-- One release is written off at most once. -/
theorem writeOffs_release (id : AllocatorId) (m : Machine) :
    writeOffs id (releaseArena id m).state.deeds =
      (written id [m]).reverse ++ writeOffs id m.deeds := by
  rw [writeOffs_releaseArena, if_pos rfl, written_cons]
  congr 1
  unfold written reportsOf
  cases reported? id m with
  | none => rfl
  | some r =>
    dsimp only [Option.toList, List.filterMap_nil]
    rw [List.flatMap_singleton, List.flatMap_nil, List.append_nil]
    unfold ReleaseReport.writtenOff
    cases r.isEmpty <;> rfl

theorem releasesOf_release (id : AllocatorId) (exit : Exit) (c : Client) :
    releasesOf id (.release id exit) c =
      c.machine ::
        if exit = .tearDown then (releaseArena id c.machine).survivor?.toList else [] := if_pos rfl

theorem releasesOf_release_of_ne {id a : AllocatorId} (ne : a ≠ id) (exit : Exit) (c : Client) :
    releasesOf id (.release a exit) c = [] := if_neg ne

theorem releasesOf_of_other {op : Operation} (other : op.isRelease = false) (c : Client) :
    releasesOf id op c = [] := by
  cases op with
  | release a exit => cases other
  | _ => rfl

/-- An attempt leaves the state that the operation left. -/
theorem state_attempt (op : Operation) (c : Client) :
    (attempt op c).state = (perform op c).state := by
  show ((Run.catchingWith id (perform op) c).andThen fun _ d => .returned () d).state = _
  unfold Run.catchingWith
  cases perform op c <;> rfl

/-- An arena that is torn down is released, and then it is dropped. -/
theorem deeds_tearDown (id : AllocatorId) (m : Machine) :
    (tearDown id m).state.deeds = match (releaseArena id m).survivor? with
      | some n => (releaseArena id n).state.deeds
      | none => (releaseArena id m).state.deeds := by
  unfold tearDown Run.atEnd
  cases releaseArena id m with
  | returned r n =>
    dsimp only
    rw [Outcome.state_andThen_returned]
    exact deeds_dropArena id n
  | unwinding payload n =>
    dsimp only
    rw [Run.state_passing]
    exact deeds_dropArena id n
  | aborted cause n => rfl

/-- A release of an allocator writes nothing off for the others. -/
theorem writeOffs_release_of_ne {id a : AllocatorId} (ne : id ≠ a) (m : Machine) :
    writeOffs id (releaseArena a m).state.deeds = writeOffs id m.deeds := by
  rw [writeOffs_releaseArena, if_neg ne, List.nil_append]

/-- An operation writes off what its releases report. -/
theorem writeOffs_attempt (id : AllocatorId) (op : Operation) (c : Client) :
    writeOffs id (attempt op c).state.machine.deeds =
      (written id (releasesOf id op c)).reverse ++ writeOffs id c.machine.deeds := by
  cases releases : op.isRelease with
  | false =>
    rw [releasesOf_of_other releases]
    exact (attempt_unreleased releases c).writeOffs id
  | true =>
    cases op with
    | release a exit =>
      have first := deeds_tearDown a c.machine
      have again : ∀ n, (releaseArena a c.machine).survivor? = some n →
          n = (releaseArena a c.machine).state := fun n => Outcome.eq_state_of_survivor?
      rw [state_attempt, machine_release]
      by_cases same : a = id
      · subst same
        rw [releasesOf_release]
        cases exit with
        | reset => exact writeOffs_release a c.machine
        | drop =>
          show writeOffs a (dropArena a c.machine).state.deeds = _
          rw [deeds_dropArena]
          exact writeOffs_release a c.machine
        | tearDown =>
          dsimp only
          rw [if_pos rfl, first]
          cases survived : (releaseArena a c.machine).survivor? with
          | none => exact writeOffs_release a c.machine
          | some n =>
            dsimp only [Option.toList]
            rw [writeOffs_release, again n survived, writeOffs_release,
              show ∀ x y : Machine, [x, y] = [x] ++ [y] from fun _ _ => rfl, written_append,
              List.reverse_append, List.append_assoc]
      · rw [releasesOf_release_of_ne same]
        have other : id ≠ a := fun is => same is.symm
        cases exit with
        | reset => exact writeOffs_release_of_ne other c.machine
        | drop =>
          show writeOffs id (dropArena a c.machine).state.deeds = _
          rw [deeds_dropArena]
          exact writeOffs_release_of_ne other c.machine
        | tearDown =>
          dsimp only
          rw [first]
          cases survived : (releaseArena a c.machine).survivor? with
          | none => exact writeOffs_release_of_ne other c.machine
          | some n =>
            dsimp only
            rw [writeOffs_release_of_ne other, again n survived, writeOffs_release_of_ne other]
            rfl
    | _ => cases releases

/-- However a run ends, each report of its releases that is not empty was written off, once and in
order, and nothing else was. -/
theorem writeOffs_run (id : AllocatorId) (ops : List Operation) (c : Client) :
    writeOffs id (run ops c).state.machine.deeds =
      (written id (releasesIn id ops c)).reverse ++ writeOffs id c.machine.deeds := by
  induction ops generalizing c with
  | nil => rfl
  | cons op rest ih =>
    have first := writeOffs_attempt id op c
    show writeOffs id ((attempt op c).andThen fun _ d => run rest d).state.machine.deeds =
      (written id (releasesOf id op c ++ match attempt op c with
        | .returned _ d => releasesIn id rest d
        | _ => [])).reverse ++ _
    rw [written_append, List.reverse_append, List.append_assoc, ← first]
    cases attempt op c with
    | returned u d => exact ih d
    | unwinding payload d => rfl
    | aborted cause d => rfl

/-- In any run the counters of an allocator sum up what its releases wrote off. -/
theorem run_sums (p : Process) (ops : List Operation) (id : AllocatorId) :
    (ledgerOf id (run ops (start p)).state.machine.deeds).Sums
      (writeOffs id (run ops (start p)).state.machine.deeds) := by
  have balanced := start_balanced p
  have led : Leads True (start p).situation (run ops (start p)) :=
    run_leads ops (fun _ _ _ => trivial) balanced
  obtain ⟨t, leads, is⟩ := led.exists_state
  have reckoned : (start p).situation.Reckoned := ⟨fun _ _ => rfl, fun _ => ⟨rfl, rfl⟩⟩
  rw [← is]
  exact (reckoned.leads leads balanced).sums id

/-! ## Where releases begin -/

/-- Where an operation begins a release, the machine is sound. -/
theorem sound_of_mem_releasesOf {op : Operation} {m : Machine} (sound : c.machine.Sound)
    (member : m ∈ releasesOf id op c) : m.Sound := by
  cases op with
  | release a exit =>
    by_cases same : a = id
    · rw [same, releasesOf_release] at member
      rcases List.mem_cons.1 member with rfl | member
      · exact sound
      · by_cases again : exit = .tearDown
        · rw [if_pos again] at member
          have is := Outcome.eq_state_of_survivor? (Option.mem_toList.1 member)
          rw [is]
          exact releaseArena_staysSound id c.machine sound
        · rw [if_neg again] at member
          cases member
    · rw [releasesOf_release_of_ne same] at member
      cases member
  | _ => cases member

/-- Where a run begins a release, the machine is sound. -/
theorem sound_of_mem_releasesIn {ops : List Operation} {m : Machine} (balanced : c.Balanced)
    (member : m ∈ releasesIn id ops c) : m.Sound := by
  induction ops generalizing c with
  | nil => cases member
  | cons op rest ih =>
    rcases List.mem_append.1 member with first | later
    · exact sound_of_mem_releasesOf balanced.sound first
    · have led : Leads True c.situation (attempt op c) :=
        attempt_leads op (fun _ => trivial) balanced
      cases attempted : attempt op c with
      | returned u d =>
        rw [attempted] at led later
        exact ih (balanced.leads led) later
      | unwinding payload d =>
        rw [attempted] at later
        cases later
      | aborted cause d =>
        rw [attempted] at later
        cases later

end Client

end Custody
