import Custody.Proofs.Granting

/-!
# Releases keep arenas in agreement with their history

A release takes the list of destructors out, runs them one after another, and gives the chunks
back. While it runs them, what is left of the list is what the history says to be due
(`Machine.Running`), so that each is permitted when it is run; and as nothing else is done with
the arena meanwhile, the chunks that are given back afterwards are those that are held. A release
in which a destructor panics stops there, in a machine that is sound.

The same goes for the counts of blocks: a destructor destroys a value that no handle owns, so
releases keep the books as well.
-/

namespace Custody

namespace Run

variable {σ α : Type}

/-- A loop goes through all of its list, or stops where the operation does not return. -/
theorem forAll_cases (act : α → Run σ Unit) (l : List α) (s : σ) :
    (∃ t, forAll act l s = .returned () t) ∨
      ∃ before a after t, l = before ++ a :: after ∧ forAll act before s = .returned () t ∧
        forAll act l s = act a t ∧ ∀ u, act a t ≠ .returned () u := by
  induction l generalizing s with
  | nil => exact .inl ⟨s, rfl⟩
  | cons a rest ih =>
    have first : forAll act (a :: rest) s = (act a s).andThen fun _ t => forAll act rest t := rfl
    cases ended : act a s with
    | returned u t =>
      have whole : forAll act (a :: rest) s = forAll act rest t := by
        rw [first, ended]
        rfl
      rw [whole]
      rcases ih t with ⟨u, returned⟩ | ⟨before, b, after, u, rfl, reached, stopped, never⟩
      · exact .inl ⟨u, returned⟩
      · refine .inr ⟨a :: before, b, after, u, rfl, ?_, stopped, never⟩
        show (act a s).andThen (fun _ t => forAll act before t) = _
        rw [ended]
        exact reached
    | unwinding p t =>
      refine .inr ⟨[], a, rest, s, rfl, rfl, ?_, ?_⟩
      · rw [first, ended]
        rfl
      · rw [ended]
        exact nofun
    | aborted cause t =>
      refine .inr ⟨[], a, rest, s, rfl, rfl, ?_, ?_⟩
      · rw [first, ended]
        rfl
      · rw [ended]
        exact nofun

end Run

/-! ## What is known of bookings -/

section Known

variable {id : AllocatorId} {deeds : List StorageEvent} {b : Booking}

theorem subject?_of_booked {e : StorageEvent} (h : e.booked? id = some b) :
    e.subject? = some b.destructor.subject := by
  cases e with
  | granted a base l d =>
    cases d with
    | none => cases h
    | some d =>
      by_cases same : a = id
      · simp only [StorageEvent.booked?, same, if_true, Option.some.injEq] at h
        rw [← h]
        rfl
      · simp [StorageEvent.booked?, same] at h
  | _ => cases h

/-- What is pending was registered. -/
theorem booked_of_mem_sinceTaken (member : b ∈ sinceTaken id deeds) :
    ∃ e ∈ deeds, e.booked? id = some b := by
  obtain ⟨e, among, booked⟩ := List.mem_filterMap.1 member
  exact ⟨e, (List.takeWhile_sublist _).subset among, booked⟩

/-- What is due was registered. -/
theorem booked_of_mem_due (member : b ∈ due id deeds) : ∃ e ∈ deeds, e.booked? id = some b := by
  have later {older : List StorageEvent} {e : StorageEvent}
      (h : ∃ f ∈ older, f.booked? id = some b) : ∃ f ∈ e :: older, f.booked? id = some b := by
    obtain ⟨f, among, booked⟩ := h
    exact ⟨f, List.mem_cons_of_mem _ among, booked⟩
  induction deeds with
  | nil => cases member
  | cons e older ih =>
    cases began : e.begins id with
    | true =>
      rw [due_cons_of_begins began] at member
      exact later (booked_of_mem_sinceTaken member)
    | false =>
      cases ran : e.ran? id with
      | none =>
        rw [due_cons began ran] at member
        exact later (ih member)
      | some r =>
        rw [due_cons_of_ran began ran] at member
        exact later (ih (List.mem_of_mem_tail member))

end Known

/-! ## Stages of a release -/

/-- Whether an event is a stage of the release of an arena: its list is taken out, a chunk goes back,
or the release is counted. -/
def StorageEvent.isStageOf (id : AllocatorId) : StorageEvent → Bool
  | releaseBegan a | chunkReleased a _ _ | bulkReleased a _ => a == id
  | _ => false

namespace StorageEvent

variable {id : AllocatorId} {e : StorageEvent}

theorem apart_of_isStageOf (h : e.isStageOf id) {other : AllocatorId} (ne : other ≠ id) :
    e.isAbout other = false ∧ e.isEntered other = false := by
  have apart {a : AllocatorId} (same : (a == id) = true) : (a == other) = false := by
    rw [eq_of_beq same]
    exact beq_eq_false_iff_ne.2 (Ne.symm ne)
  cases e with
  | releaseBegan a => exact ⟨apart h, rfl⟩
  | chunkReleased a base l => exact ⟨apart h, rfl⟩
  | bulkReleased a leaked => exact ⟨rfl, apart h⟩
  | _ => cases h

theorem places_of_isStageOf (h : e.isStageOf id) (c : CellId) : e.places c = false := by
  cases e with
  | placed d l => cases h
  | _ => rfl

theorem subject?_of_isStageOf (h : e.isStageOf id) : e.subject? = none := by
  cases e with
  | granted a base l d => cases h
  | _ => rfl

theorem chunkBase?_of_isStageOf (h : e.isStageOf id) : e.chunkBase? = none := by
  cases e with
  | chunkObtained a base l => cases h
  | _ => rfl

end StorageEvent

/-- An allocator that took the place of another is found there. -/
theorem Memory.arena?_setAllocator {m : Memory} {id : AllocatorId} {old : Allocator}
    (found : m.allocator? id = some old) (new : Allocator) :
    (m.setAllocator id new).arena? id = new.arena? := by
  show ((m.allocators.set id new).get? id).bind Allocator.arena? = _
  rw [Slab.get?_set_self found]
  rfl

namespace Machine

variable {m n : Machine} {id : AllocatorId} {a : Arena}

/-- A machine in which an arena went through stages of its release is sound. -/
theorem Sound.staged {b : Arena} {added : List StorageEvent} (sound : m.Sound)
    (there : m.memory.arena? id = some a) (cells : n.memory.cells = m.memory.cells)
    (allocators : n.memory.allocators = m.memory.allocators.set id (.arena b))
    (top : n.memory.heap.top = m.memory.heap.top) (deeds : n.deeds = added ++ m.deeds)
    (lawful : Lawful n.deeds) (stages : ∀ e ∈ added, e.isStageOf id)
    (held : chunksHeld id n.deeds ⊆ chunksHeld id m.deeds) (reflects : b.Reflects id n.deeds)
    (ledger : b.ledger = ledgerOf id n.deeds) : n.Sound := by
  refine sound.moveOn there cells allocators (Nat.le_of_eq top.symm) deeds lawful ?_ ?_ ?_ ?_
    (fun c member => sound.bounded id c (held member)) reflects ledger
  · intro other ne e member
    exact StorageEvent.apart_of_isStageOf (stages e member) ne
  · intro e member c
    exact StorageEvent.places_of_isStageOf (stages e member) c
  · intro e member c subject
    rw [StorageEvent.subject?_of_isStageOf (stages e member)] at subject
    cases subject
  · intro e member base obtained
    rw [StorageEvent.chunkBase?_of_isStageOf (stages e member)] at obtained
    cases obtained

/-! ## Taking the list -/

/-- The machine in which the list of destructors of an arena was taken out. -/
def listTaken (m : Machine) (id : AllocatorId) (a : Arena) : Machine where
  process := m.process.after (.storage (.releaseBegan id))
  memory := m.memory.setAllocator id (.arena { a with collected := [] })

/-- The arena whose list was taken out is there without it. -/
theorem arena?_listTaken (there : m.memory.arena? id = some a) :
    (m.listTaken id a).memory.arena? id = some { a with collected := [] } := by
  obtain ⟨allocator, found, -⟩ := Option.bind_eq_some_iff.1 there
  exact Memory.arena?_setAllocator found _

/-- Destructors are being run: those that are left are due, and their storage is held. -/
structure Running (id : AllocatorId) (left : List Registration) (m : Machine) : Prop where
  sound : m.Sound
  taken : sinceTaken id m.deeds = []
  left : (due id m.deeds).map Booking.registration = left
  stored : ∀ b ∈ due id m.deeds, b.LiesIn (chunksHeld id m.deeds)

theorem listTaken_running (sound : m.Sound) (there : m.memory.arena? id = some a) :
    Running id a.collected (m.listTaken id a) := by
  obtain ⟨collected, chunks, stored, cursor⟩ := sound.arenas id a there
  have began : (StorageEvent.releaseBegan id).begins id = true := beq_self_eq_true id
  have held : chunksHeld id (m.listTaken id a).deeds = chunksHeld id m.deeds := chunksHeld_cons rfl
  have due : due id (m.listTaken id a).deeds = sinceTaken id m.deeds := due_cons_of_begins began
  have none : sinceTaken id (m.listTaken id a).deeds = [] := sinceTaken_cons_of_begins began
  refine ⟨?_, none, by rw [due, collected], by rw [due, held]; exact stored⟩
  have deeds : (m.listTaken id a).deeds = [.releaseBegan id] ++ m.deeds := rfl
  refine sound.staged there rfl rfl rfl deeds ⟨trivial, sound.lawful⟩ ?_ ?_ ⟨?_, ?_, ?_, ?_⟩ ?_
  · intro e member
    rw [List.mem_singleton.1 member]
    exact began
  · rw [held]
    exact List.Subset.refl _
  · rw [none]
    rfl
  · rw [held]
    exact chunks
  · rw [none]
    exact nofun
  · rw [held]
    exact cursor
  · have counted : a.ledger = ledgerOf id m.deeds := sound.audited.arena there
    exact counted

/-! ## Running destructors -/

/-- The machine in which it was noted that a destructor is run. -/
def runNoted (m : Machine) (id : AllocatorId) (r : Registration) : Machine :=
  { m with process := m.process.after (.storage (.collectedRun id r.base r.destructor)) }

theorem runDestructor_eq (id : AllocatorId) (r : Registration) (m : Machine) :
    runDestructor id r m =
      (beginDestruction r.destructor.subject >>= settle) (m.runNoted id r) := rfl

/-- What follows the note settles. -/
theorem runDestructor_settled (id : AllocatorId) (r : Registration) (m : Machine) :
    (m.runNoted id r).Settled (runDestructor id r m).state := by
  rw [runDestructor_eq]
  exact Run.Keeps.bind (beginDestruction_settled _) settle_settled _

/-- To run a destructor is noted once. -/
theorem runs_runDestructor (id : AllocatorId) (r : Registration) (m : Machine) :
    runs id (runDestructor id r m).state.deeds = r :: runs id m.deeds := by
  obtain ⟨added, same, letting⟩ := (runDestructor_settled id r m).deeds
  have others : ∀ e ∈ added, e.isAbout id = false := fun e member =>
    isAbout_of_isInert (isInert_of_isLettingGo (letting e member)) id
  have ran : (StorageEvent.collectedRun id r.base r.destructor).ran? id = some r := if_pos rfl
  rw [same, runs_append id _ others]
  exact List.filterMap_cons_some ran

/-- To note that the next destructor is run leaves a machine sound. -/
theorem runNoted_sound {r : Registration} {left : List Registration}
    (running : Running id (r :: left) m) : (m.runNoted id r).Sound := by
  obtain ⟨sound, -, next, stored⟩ := running
  obtain ⟨b, rest, isDue, registration, -⟩ := List.map_eq_cons_iff.1 next
  have taken (other : AllocatorId) :
      sinceTaken other (m.runNoted id r).deeds = sinceTaken other m.deeds := sinceTaken_cons rfl
  have held (other : AllocatorId) :
      chunksHeld other (m.runNoted id r).deeds = chunksHeld other m.deeds := chunksHeld_cons rfl
  refine ⟨⟨?_, sound.lawful⟩, ?_, ?_, ?_, ?_, sound.audited.note (fun _ => rfl) rfl rfl, ?_⟩
  · exact ⟨b, rest, isDue, registration, stored b (by rw [isDue]; exact List.mem_cons_self ..)⟩
  · intro e member c subject
    rcases List.mem_cons.1 member with rfl | member
    · cases subject
    · refine (sound.subjects e member c subject).imp_left fun before => ?_
      refine before.later rfl (rfl : _ = [_] ++ m.deeds) fun f member => ?_
      rw [List.mem_singleton.1 member]
      rfl
  · intro e member base obtained
    rcases List.mem_cons.1 member with rfl | member
    · cases obtained
    · exact sound.bases e member base obtained
  · intro other c member
    rw [held] at member
    exact sound.bounded other c member
  · intro other a there
    obtain ⟨collected, chunks, stored, cursor⟩ := sound.arenas other a there
    exact ⟨by rw [taken, collected], by rw [held, chunks], by rw [taken, held]; exact stored,
      by rw [held]; exact cursor⟩
  · intro other unborn
    rw [taken, held]
    exact sound.unborn other unborn

/-- One destructor more was run, and the next one is due, whether it returned or panicked. -/
theorem runDestructor_running {r : Registration} {left : List Registration}
    (running : Running id (r :: left) m) : Running id left (runDestructor id r m).state := by
  have noted := runNoted_sound running
  obtain ⟨-, taken, next, stored⟩ := running
  obtain ⟨b, rest, isDue, -, remaining⟩ := List.map_eq_cons_iff.1 next
  have ran : (StorageEvent.collectedRun id r.base r.destructor).ran? id = some r := if_pos rfl
  have settled := runDestructor_settled id r m
  obtain ⟨added, same, letting⟩ := settled.deeds
  have others (other : AllocatorId) : ∀ e ∈ added, e.isAbout other = false := fun e member =>
    isAbout_of_isInert (isInert_of_isLettingGo (letting e member)) other
  have isDue' : due id (runDestructor id r m).state.deeds = rest := by
    rw [same, due_append id _ (others id)]
    show due id (.collectedRun id r.base r.destructor :: m.deeds) = rest
    rw [due_cons_of_ran rfl ran, isDue, List.tail_cons]
  have held : chunksHeld id (runDestructor id r m).state.deeds = chunksHeld id m.deeds := by
    rw [same, chunksHeld_append id _ (others id)]
    exact chunksHeld_cons rfl
  refine ⟨noted.ordinary settled.ordinary, ?_, ?_, ?_⟩
  · rw [same, sinceTaken_append id _ (others id)]
    exact (sinceTaken_cons rfl).trans taken
  · rw [isDue', remaining]
  · rw [isDue', held]
    exact fun b member => stored b (by rw [isDue]; exact List.mem_cons_of_mem _ member)

/-- The first so many destructors were run. -/
theorem runDestructors_running {ran left : List Registration}
    (running : Running id (ran ++ left) m) {n : Machine}
    (returned : Run.forAll (runDestructor id) ran m = .returned () n) : Running id left n := by
  induction ran generalizing m with
  | nil =>
    cases returned
    exact running
  | cons r rest ih =>
    have first : (runDestructor id r m).andThen (fun _ t => Run.forAll (runDestructor id) rest t) =
      .returned () n := returned
    have next := runDestructor_running running
    cases ended : runDestructor id r m with
    | returned u t =>
      rw [ended] at first next
      exact ih next first
    | unwinding p t =>
      rw [ended] at first
      cases first
    | aborted cause t =>
      rw [ended] at first
      cases first

/-- All destructors were run. -/
theorem runDestructors_done {left : List Registration} (running : Running id left m) {n : Machine}
    (returned : Run.forAll (runDestructor id) left m = .returned () n) : Running id [] n := by
  rw [← List.append_nil left] at running
  exact runDestructors_running running returned

/-- However the loop ends, the machine is sound. -/
theorem runDestructors_sound {left : List Registration} (running : Running id left m) :
    (Run.forAll (runDestructor id) left m).state.Sound := by
  rcases Run.forAll_cases (runDestructor id) left m with
    ⟨t, returned⟩ | ⟨before, r, after, t, rfl, reached, stopped, -⟩
  · rw [returned]
    exact (runDestructors_done running returned).sound
  · rw [stopped]
    exact (runDestructor_running (runDestructors_running running reached)).sound

/-! ## Until a release is counted -/

/-- What happens in a release until it is counted. -/
def Proceeds (m n : Machine) : Prop :=
  ∃ added, n.deeds = added ++ m.deeds ∧ ∀ e ∈ added, e.isOfRelease

instance : IsPreorder Machine Proceeds where
  refl _ := ⟨[], rfl, nofun⟩
  trans _ _ _ first second := by
    obtain ⟨added, same, proceed⟩ := first
    obtain ⟨more, same', proceed'⟩ := second
    refine ⟨more ++ added, by rw [same', same, List.append_assoc], fun e member => ?_⟩
    rcases List.mem_append.1 member with member | member
    · exact proceed' e member
    · exact proceed e member

theorem Settled.proceeds (h : m.Settled n) : Proceeds m n := by
  obtain ⟨added, same, letting⟩ := h.deeds
  refine ⟨added, same, fun e member => ?_⟩
  have lettingGo := letting e member
  cases e with
  | deallocated a base l => rfl
  | retired a base l => rfl
  | destructionBegan c => rfl
  | destructionFailed c => rfl
  | handedBack c => rfl
  | miscounted c fault => rfl
  | _ => cases lettingGo

theorem runDestructor_proceeds (id : AllocatorId) (r : Registration) :
    (runDestructor id r).Keeps Proceeds := fun m => by
  have noted : Proceeds m (m.runNoted id r) :=
    ⟨[_], rfl, fun e member => by rw [List.mem_singleton.1 member]; rfl⟩
  exact trans_of Proceeds noted (runDestructor_settled id r m).proceeds

theorem runDestructors_proceeds (id : AllocatorId) (left : List Registration) :
    (Run.forAll (runDestructor id) left).Keeps Proceeds :=
  Run.Keeps.forAll fun r _ => runDestructor_proceeds id r

/-! ## Giving chunks back -/

/-- What the return of a chunk is noted with. -/
def chunkEvent (id : AllocatorId) (c : Chunk) : StorageEvent := .chunkReleased id c.base c.layout

/-- Chunks that are held may be given back, each once, in whatever order. -/
private theorem lawful_chunkEvents {id : AllocatorId} {chunks : List Chunk} :
    ∀ {older : List StorageEvent}, Lawful older → (chunksHeld id older).Perm chunks →
      Lawful (chunks.reverse.map (chunkEvent id) ++ older) ∧
        chunksHeld id (chunks.reverse.map (chunkEvent id) ++ older) = [] := by
  induction chunks with
  | nil =>
    intro older lawful held
    exact ⟨lawful, held.eq_nil⟩
  | cons c rest ih =>
    intro older lawful held
    have released : (chunkEvent id c).released? id = some c := if_pos rfl
    have member : c ∈ chunksHeld id older := held.symm.subset (List.mem_cons_self ..)
    have next : (chunksHeld id (chunkEvent id c :: older)).Perm rest := by
      rw [chunksHeld_cons_of_released released]
      have erased := held.erase c
      rw [List.erase_cons_head] at erased
      exact erased
    have lawful : Lawful (chunkEvent id c :: older) := ⟨member, lawful⟩
    have moved : (c :: rest).reverse.map (chunkEvent id) ++ older =
        rest.reverse.map (chunkEvent id) ++ (chunkEvent id c :: older) := by
      rw [List.reverse_cons, List.map_append, List.append_assoc]
      rfl
    rw [moved]
    exact ih lawful next

theorem noteChunks_returns (id : AllocatorId) (chunks : List Chunk) (m : Machine) :
    ∃ n, Run.forAll (noteChunk id) chunks m = .returned () n ∧ n.memory = m.memory ∧
      n.deeds = chunks.reverse.map (chunkEvent id) ++ m.deeds := by
  induction chunks generalizing m with
  | nil => exact ⟨m, rfl, rfl, rfl⟩
  | cons c rest ih =>
    let noted : Machine :=
      { m with process := m.process.after (.storage (chunkEvent id c)) }
    obtain ⟨n, returned, memory, deeds⟩ := ih noted
    refine ⟨n, returned, memory, ?_⟩
    rw [deeds, List.reverse_cons, List.map_append, List.append_assoc]
    rfl

/-- What comes back to the heap is not handed out again. -/
private theorem top_afterReturns (h : Heap) (chunks : List Chunk) :
    (chunks.foldl (fun heap c => heap.afterReturn c.base) h).top = h.top := by
  induction chunks generalizing h with
  | nil => rfl
  | cons c rest ih => exact ih _

/-- What the return of an arena's chunks comes to. -/
theorem releaseChunks_returns (id : AllocatorId) (a : Arena) (m : Machine) :
    ∃ n, releaseChunks id a m = .returned () n ∧ n.memory.cells = m.memory.cells ∧
      n.memory.allocators = m.memory.allocators.set id (.arena a.emptied) ∧
      n.memory.heap.top = m.memory.heap.top ∧
      n.deeds = a.chunks.map (chunkEvent id) ++ m.deeds := by
  obtain ⟨n, returned, memory, deeds⟩ := noteChunks_returns id a.chunks.reverse m
  rw [List.reverse_reverse] at deeds
  refine ⟨{ n with memory := { n.memory.setAllocator id (.arena a.emptied) with
    heap := a.chunks.foldl (fun heap c => heap.afterReturn c.base) n.memory.heap } },
    ?_, ?_, ?_, ?_, deeds⟩
  · unfold releaseChunks
    rw [Run.bind_apply, returned]
    rfl
  · show n.memory.cells = _
    rw [memory]
  · show n.memory.allocators.set id (.arena a.emptied) = _
    rw [memory]
  · rw [← memory]
    exact top_afterReturns n.memory.heap a.chunks

/-- An arena whose list is empty gives its chunks back. -/
theorem releaseChunks_sound (sound : m.Sound) (there : m.memory.arena? id = some a)
    (taken : sinceTaken id m.deeds = []) :
    ∃ n, releaseChunks id a m = .returned () n ∧ n.Sound := by
  obtain ⟨collected, chunks, stored, cursor⟩ := sound.arenas id a there
  obtain ⟨n, returned, cells, allocators, top, deeds⟩ := releaseChunks_returns id a m
  refine ⟨n, returned, ?_⟩
  have perm : (chunksHeld id m.deeds).Perm a.chunks.reverse := by
    rw [chunks]
    exact (List.reverse_perm _).symm
  have events := lawful_chunkEvents sound.lawful perm
  rw [List.reverse_reverse, ← deeds] at events
  obtain ⟨lawful, none⟩ := events
  have taken' : sinceTaken id n.deeds = [] := by
    rw [deeds]
    induction a.chunks with
    | nil => exact taken
    | cons c rest ih => exact (sinceTaken_cons rfl).trans ih
  refine sound.staged there cells allocators top deeds lawful ?_ ?_ ⟨?_, ?_, ?_, nofun⟩ ?_
  · intro e member
    obtain ⟨c, -, rfl⟩ := List.mem_map.1 member
    exact beq_self_eq_true id
  · rw [none]
    exact List.nil_subset _
  · show a.collected = _
    rw [collected, taken, taken']
  · rw [none]
    rfl
  · rw [taken']
    exact nofun
  · rw [deeds, ledgerOf_append id _ fun e member => ?_]
    · have counted : a.ledger = ledgerOf id m.deeds := sound.audited.arena there
      exact counted
    · obtain ⟨c, -, rfl⟩ := List.mem_map.1 member
      rfl

theorem releaseChunks_proceeds (id : AllocatorId) (a : Arena) :
    (releaseChunks id a).Keeps Proceeds := by
  refine Run.Keeps.bind (Run.Keeps.forAll fun c _ m => ?_) fun _ => fun m => refl_of Proceeds m
  exact ⟨[chunkEvent id c], rfl, fun e member => by rw [List.mem_singleton.1 member]; rfl⟩

/-! ## Counting a release -/

/-- The machine in which a release of an arena was counted. -/
def writtenOff (m : Machine) (id : AllocatorId) (a : Arena) (leaked : Word) : Machine where
  process := m.process.after (.storage (.bulkReleased id leaked))
  memory := m.memory.setAllocator id (.arena { a with ledger := a.ledger.writeOff leaked })

/-- A release is counted, and then it is logged. -/
theorem logRelease_of_some (there : m.memory.arena? id = some a) (before : Arena)
    (r : ReleaseReport) :
    logRelease id before r m =
      write .debug "tether::arena" "arena torn down" (releaseFields before.name r)
        (m.writtenOff id a r.leaked) := by
  obtain ⟨allocator, found, isArena⟩ := Option.bind_eq_some_iff.1 there
  cases allocator with
  | heap l => cases isArena
  | arena b =>
    cases isArena
    have changed (f : Allocator → Allocator) :
        m.memory.changeAllocator id f = m.memory.setAllocator id (f (.arena a)) := by
      unfold Memory.changeAllocator
      rw [found]
    show write _ _ _ _ ({
        process := m.process.after (.storage (.bulkReleased id r.leaked))
        memory := m.memory.changeAllocator id _ } : Machine) = _
    rw [changed]
    rfl

/-- A release may be counted that writes off what was live when it began. -/
theorem writtenOff_sound {leaked : Word} (sound : m.Sound) (there : m.memory.arena? id = some a)
    (began : ∃ mid before, m.deeds = mid ++ .releaseBegan id :: before ∧
      (∀ e ∈ mid, e.isOfRelease) ∧ leaked = (ledgerOf id before).live) :
    (m.writtenOff id a leaked).Sound := by
  obtain ⟨collected, chunks, stored, cursor⟩ := sound.arenas id a there
  have taken : sinceTaken id (m.writtenOff id a leaked).deeds = sinceTaken id m.deeds :=
    sinceTaken_cons rfl
  have held : chunksHeld id (m.writtenOff id a leaked).deeds = chunksHeld id m.deeds :=
    chunksHeld_cons rfl
  have deeds : (m.writtenOff id a leaked).deeds = [.bulkReleased id leaked] ++ m.deeds := rfl
  refine sound.staged there rfl rfl rfl deeds ⟨began, sound.lawful⟩ ?_ ?_ ⟨?_, ?_, ?_, ?_⟩ ?_
  · intro e member
    rw [List.mem_singleton.1 member]
    exact beq_self_eq_true id
  · rw [held]
    exact List.Subset.refl _
  · rw [taken]
    exact collected
  · rw [held]
    exact chunks
  · rw [taken, held]
    exact stored
  · rw [held]
    exact cursor
  · show a.ledger.writeOff leaked =
      (StorageEvent.bulkReleased id leaked).entered id (ledgerOf id m.deeds)
    rw [sound.audited.arena there]
    exact (if_pos rfl).symm

/-! ## Whole releases -/

/-- Count a release if it released anything. -/
def concludeRelease (id : AllocatorId) (a : Arena) (r : ReleaseReport) :
    Run Machine ReleaseReport := do
  if !r.isEmpty then account id a r
  return r

/-- What a release of an arena reports: `before` is the arena as it was found, and `after` as the
destructors left it. -/
def reportOf (before after : Arena) : ReleaseReport :=
  ⟨before.collected.length, after.chunks.length, after.chunkBytes, before.live⟩

/-- What a release does when all destructors were run; `before` is the arena as it was found. -/
def finishRelease (id : AllocatorId) (before : Arena) : Run Machine ReleaseReport := do
  let arena := (← ofMemory (·.arena? id)).getD { before with collected := [] }
  releaseChunks id arena
  concludeRelease id arena (reportOf before arena)

theorem finishRelease_of_some (there : m.memory.arena? id = some a) (before : Arena) :
    finishRelease id before m =
      (releaseChunks id a m).andThen fun _ n => concludeRelease id a (reportOf before a) n := by
  show (releaseChunks id ((m.memory.arena? id).getD _) m).andThen (fun _ n =>
    concludeRelease id ((m.memory.arena? id).getD _)
      (reportOf before ((m.memory.arena? id).getD _)) n) = _
  rw [there]
  rfl

/-- The list of an arena is taken out and run, and the release is finished if that returns. -/
theorem releaseArena_of_some (there : m.memory.arena? id = some a) :
    releaseArena id m =
      (Run.forAll (runDestructor id) a.collected (m.listTaken id a)).andThen fun _ n =>
        finishRelease id a n := by
  unfold releaseArena ofMemory
  rw [Run.bind_apply]
  dsimp only [Outcome.andThen, Run.gets]
  rw [there]
  rfl

/-- What is no arena has nothing to release. -/
theorem releaseArena_of_none (gone : m.memory.arena? id = none) :
    releaseArena id m = .returned ⟨0, 0, 0, 0⟩ m := by
  unfold releaseArena ofMemory
  rw [Run.bind_apply]
  dsimp only [Outcome.andThen, Run.gets]
  rw [gone]
  rfl

/-- Allocators are as they were, but for their counters. -/
def SameAllocators (m n : Machine) : Prop :=
  ∀ id, (n.memory.allocator? id).map Allocator.uncounted =
    (m.memory.allocator? id).map Allocator.uncounted

instance : IsPreorder Machine SameAllocators where
  refl _ _ := rfl
  trans _ _ _ first second id := (second id).trans (first id)

theorem runDestructor_sameAllocators (id : AllocatorId) (r : Registration) :
    (runDestructor id r).Keeps SameAllocators := fun m =>
  (runDestructor_settled id r m).allocators

/-- While destructors are run an arena keeps all but its counters. -/
theorem runDestructors_arena (there : m.memory.arena? id = some a) :
    ∃ b, (Run.forAll (runDestructor id) a.collected (m.listTaken id a)).state.memory.arena? id =
      some b ∧ { b with ledger := {} } = { a with collected := [], ledger := {} } := by
  have kept : (Run.forAll (runDestructor id) a.collected).Keeps SameAllocators :=
    Run.Keeps.forAll fun r _ => runDestructor_sameAllocators id r
  have same := kept (m.listTaken id a)
  obtain ⟨b, now, like⟩ := arena?_of_uncounted (same id).symm (arena?_listTaken there)
  exact ⟨b, now, like⟩

/-- An arena that gave its chunks back is there without them. -/
theorem arena?_of_releaseChunks (there : m.memory.arena? id = some a)
    (released : releaseChunks id a m = .returned () n) :
    n.memory.arena? id = some a.emptied := by
  obtain ⟨allocator, found, -⟩ := Option.bind_eq_some_iff.1 there
  obtain ⟨o, released', -, allocators, -⟩ := releaseChunks_returns id a m
  rw [released] at released'
  cases released'
  show (n.memory.allocators.get? id).bind Allocator.arena? = _
  rw [allocators]
  exact Memory.arena?_setAllocator found _

/-- When all destructors were run, the rest of a release leaves a machine sound. -/
theorem finishRelease_staysSound (sound : m.Sound) (there : m.memory.arena? id = some a)
    (taken : sinceTaken id m.deeds = []) {before : Arena}
    (began : ∃ mid older, m.deeds = mid ++ .releaseBegan id :: older ∧
      (∀ e ∈ mid, e.isOfRelease) ∧ before.live = (ledgerOf id older).live) :
    (finishRelease id before m).state.Sound := by
  obtain ⟨n, released, soundAfter⟩ := releaseChunks_sound sound there taken
  have emptied := arena?_of_releaseChunks there released
  have proceeded : Proceeds m n := by
    have kept := releaseChunks_proceeds id a m
    rw [released] at kept
    exact kept
  rw [finishRelease_of_some there, released]
  show (concludeRelease id a (reportOf before a) n).state.Sound
  unfold concludeRelease
  by_cases empty : (reportOf before a).isEmpty = true
  · rw [empty]
    exact soundAfter
  · rw [if_pos (by simp [empty])]
    obtain ⟨mid, older, deeds, proceed, live⟩ := began
    obtain ⟨added, same, proceed'⟩ := proceeded
    have done : (n.writtenOff id a.emptied (reportOf before a).leaked).Sound := by
      refine writtenOff_sound soundAfter emptied ⟨added ++ mid, older, ?_, ?_, live⟩
      · rw [same, deeds, List.append_assoc]
      · intro e member
        rcases List.mem_append.1 member with member | member
        · exact proceed' e member
        · exact proceed e member
    have logged : (logRelease id a (reportOf before a) n).state.Sound := by
      rw [logRelease_of_some emptied]
      exact done.ordinary (write_ordinary _ _ _ _ _)
    have accounted : (account id a (reportOf before a) n).state.Sound :=
      Run.bind_state (Q := Sound) logged fun _ o sound =>
        sound.ordinary (reportLeak_ordinary _ _ _ o)
    exact Run.bind_state (Q := Sound) accounted fun _ _ sound => sound
/-- A release leaves a machine sound, however it ends. -/
theorem releaseArena_staysSound (id : AllocatorId) : (releaseArena id).Keeps StaysSound := by
  intro m sound
  cases there : m.memory.arena? id with
  | none =>
    rw [releaseArena_of_none there]
    exact sound
  | some a =>
    rw [releaseArena_of_some there]
    have running := listTaken_running sound there
    have kept := runDestructors_sound running
    obtain ⟨b, arena, -⟩ := runDestructors_arena there
    cases looped : Run.forAll (runDestructor id) a.collected (m.listTaken id a) with
    | unwinding p n =>
      rw [looped] at kept
      exact kept
    | aborted cause n =>
      rw [looped] at kept
      exact kept
    | returned u n =>
      rw [looped] at arena
      have done : Running id [] n := runDestructors_done running looped
      have proceeded : Proceeds (m.listTaken id a) n := by
        have kept := runDestructors_proceeds id a.collected (m.listTaken id a)
        rw [looped] at kept
        exact kept
      obtain ⟨mid, deeds, proceed⟩ := proceeded
      refine finishRelease_staysSound done.sound arena done.taken ⟨mid, m.deeds, deeds, proceed, ?_⟩
      rw [Arena.live, sound.audited.arena there]

/-! ## Releases keep the books -/

variable {tasks : List Task}

/-- What is run next is there, and nobody else destroys it. -/
theorem Running.isSubject {r : Registration} {left : List Registration}
    (running : Running id (r :: left) m) : m.IsSubject r.destructor.subject := by
  obtain ⟨sound, -, next, -⟩ := running
  obtain ⟨b, rest, isDue, registration, -⟩ := List.map_eq_cons_iff.1 next
  obtain ⟨e, member, booked⟩ :=
    booked_of_mem_due (isDue ▸ List.mem_cons_self .. : b ∈ due id m.deeds)
  have subject := subject?_of_booked booked
  have same : b.destructor.subject = r.destructor.subject := by
    rw [← registration]
    rfl
  rw [same] at subject
  exact (sound.subjects e member _ subject).resolve_right nofun

/-- What is run next destroys a value that no handle owns. -/
theorem beginDestructor_books {r : Registration} {left : List Registration}
    (running : Running id (r :: left) m) (books : m.Books tasks) :
    ∃ v n, beginDestruction r.destructor.subject (m.runNoted id r) = .returned (Value.plan v) n ∧
      n.Books (v.plan ++ tasks) := by
  obtain ⟨cell, found, unowned⟩ := running.isSubject
  have noted : (m.runNoted id r).Books tasks :=
    books.sameCells (noteStorage_sameCells (e := .collectedRun id r.base r.destructor) rfl m)
  have found : (m.runNoted id r).memory.cell? r.destructor.subject = some cell := found
  have never : (m.runNoted id r).deeds.countP (·.places r.destructor.subject) =
      m.deeds.countP (·.places r.destructor.subject) := List.countP_cons_of_neg Bool.false_ne_true
  rw [← never] at unowned
  refine ⟨cell.value, _, beginDestruction_of_found found, (noted.but.begun found).books ?_⟩
  have fits := noted r.destructor.subject
  rw [found] at fits
  rw [tally_begun_self found, cell?_begun_self found]
  exact ⟨fits.1, fits.2.beginning unowned⟩

end Machine

end Custody
