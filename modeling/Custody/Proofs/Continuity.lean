import Custody.Proofs.Situations

/-!
# What lasts from step to step

Values change and are destroyed, blocks count and change hands, and storage goes back; but a cell
stays where it is. `Cell.Endures` is what a cell keeps: where its storage lies, who lent it and with
what layout, the type that the value was made with, whether there is a control block, and whether
the allocator is to destroy the value. `Situation.Step.cells` says that all cells endure every step,
and that a new cell is as the history has it: `Machine.Recorded`.

`Situation.Step.adds` says what a step adds to the history. It is one of few things: nothing that
makes a loan or ends one, a count that failed because there are too many handles, a new allocator, a
loan, a loan for a value that is put there at once, or the return of a cell's storage.
-/

namespace Custody

/-- What a cell keeps whatever happens. -/
structure Cell.Endures (before after : Cell) : Prop where
  home : after.home = before.home
  base : after.base = before.base
  layout : after.layout = before.layout
  offset : after.offset = before.offset
  kind : after.kind = before.kind
  bare : after.state = none ↔ before.state = none
  collected : after.state = some .collect ↔ before.state = some .collect

namespace Cell

theorem Endures.refl (c : Cell) : c.Endures c := ⟨rfl, rfl, rfl, rfl, rfl, Iff.rfl, Iff.rfl⟩

theorem Endures.trans {a b c : Cell} (first : a.Endures b) (second : b.Endures c) :
    a.Endures c where
  home := second.home.trans first.home
  base := second.base.trans first.base
  layout := second.layout.trans first.layout
  offset := second.offset.trans first.offset
  kind := second.kind.trans first.kind
  bare := second.bare.trans first.bare
  collected := second.collected.trans first.collected

/-- A block is one whose value is collected if its owner says so. -/
theorem collected_iff (c : Cell) :
    c.state = some .collect ↔ c.state.map BlockState.owner = some .collect := by
  cases c.state with
  | none => simp
  | some s => cases s <;> simp [BlockState.owner]

theorem Ages.endures {before after : Cell} (h : before.Ages after) : before.Endures after where
  home := h.home
  base := h.base
  layout := h.layout
  offset := h.offset
  kind := h.kind
  bare := by
    have same := congrArg Option.isNone h.owner
    rw [Option.isNone_map, Option.isNone_map] at same
    rw [← Option.isNone_iff_eq_none, ← Option.isNone_iff_eq_none, same]
  collected := by rw [collected_iff, collected_iff, h.owner]

/-- The destructor that is registered for a cell: the one of a value that its allocator is to
destroy. -/
def destructor (cell : Cell) (c : CellId) : Option Destructor :=
  if cell.state = some .collect then some ⟨cell.offset, c⟩ else none

theorem Endures.destructor {before after : Cell} (h : before.Endures after) (c : CellId) :
    after.destructor c = before.destructor c := by
  unfold Cell.destructor
  rw [h.offset]
  exact if_congr h.collected rfl rfl

end Cell

namespace Machine

/-- All cells endure, and there are no others. -/
def Continues (m n : Machine) : Prop :=
  ∀ c, Option.Rel Cell.Endures (m.memory.cell? c) (n.memory.cell? c)

variable {m n o : Machine} {c : CellId}

theorem Continues.refl (m : Machine) : m.Continues m := fun c => by
  cases m.memory.cell? c with
  | none => exact .none
  | some cell => exact .some (Cell.Endures.refl cell)

theorem Continues.of_cells (same : n.memory.cells = m.memory.cells) : m.Continues n := fun c => by
  have found : n.memory.cell? c = m.memory.cell? c := by
    unfold Memory.cell?
    rw [same]
  rw [found]
  exact Continues.refl m c

theorem Settled.continues (h : m.Settled n) : m.Continues n :=
  fun c => (h.cells c).mono fun _ _ aged => aged.endures

theorem continues_setCell {old new : Cell} (found : m.memory.cell? c = some old)
    (endures : old.Endures new) : m.Continues { m with memory := m.memory.setCell c new } :=
  fun d => by
    show Option.Rel _ (m.memory.cell? d) ((m.memory.setCell c new).cell? d)
    by_cases same : d = c
    · subst same
      rw [found, Memory.cell?_setCell_self found]
      exact .some endures
    · rw [Memory.cell?_setCell_of_ne _ _ same]
      exact Continues.refl m d

/-- Every cell that was there is still there. -/
def Persists (m n : Machine) : Prop :=
  ∀ c cell, m.memory.cell? c = some cell →
    ∃ later, n.memory.cell? c = some later ∧ cell.Endures later

theorem Persists.refl (m : Machine) : m.Persists m :=
  fun _ cell found => ⟨cell, found, Cell.Endures.refl cell⟩

theorem Persists.trans (first : m.Persists n) (second : n.Persists o) : m.Persists o := by
  intro c cell found
  obtain ⟨between, there, endures⟩ := first c cell found
  obtain ⟨later, there, endures'⟩ := second c between there
  exact ⟨later, there, endures.trans endures'⟩

theorem Continues.persists (h : m.Continues n) : m.Persists n :=
  fun c _ found => (h c).exists_right found

/-- A cell that is there was there before. -/
theorem Continues.earlier {later : Cell} (h : m.Continues n)
    (found : n.memory.cell? c = some later) :
    ∃ cell, m.memory.cell? c = some cell ∧ cell.Endures later :=
  (h c).exists_left found

/-! ## Cells and the history -/

/-- A value was put into a cell for an owner right after its storage was lent. -/
def PlacedAt (deeds : List StorageEvent) (c : CellId) (id : AllocatorId) (loan : Loan)
    (d : Option Destructor) : Prop :=
  ∃ newer older,
    deeds = newer ++ .placed id c :: .granted id loan.address loan.layout d :: older

theorem PlacedAt.append {deeds : List StorageEvent} {id : AllocatorId} {loan : Loan}
    {d : Option Destructor} (h : PlacedAt deeds c id loan d) (added : List StorageEvent) :
    PlacedAt (added ++ deeds) c id loan d := by
  obtain ⟨newer, older, split⟩ := h
  exact ⟨added ++ newer, older, by rw [split, List.append_assoc]⟩

end Machine

/-- The storage of a cell. -/
def Cell.loan (cell : Cell) : Loan := ⟨cell.base, cell.layout⟩

/-- The layout of a cell's storage and the place of the value in it are those of its type: by
itself, or behind a control block. -/
structure Cell.Shaped (cell : Cell) : Prop where
  bare : cell.state = none → cell.layout = cell.kind.layout ∧ cell.offset = 0
  block : cell.state ≠ none → cell.kind.layout.block? = some cell.layout ∧
    cell.offset = cell.kind.layout.valueOffset

theorem Cell.Endures.loan {before after : Cell} (h : before.Endures after) :
    after.loan = before.loan := by
  unfold Cell.loan
  rw [h.base, h.layout]

theorem Cell.Endures.shaped {before after : Cell} (h : before.Endures after)
    (shaped : before.Shaped) : after.Shaped := by
  obtain ⟨bare, block⟩ := shaped
  constructor
  · intro none
    rw [h.layout, h.kind, h.offset]
    exact bare (h.bare.1 none)
  · intro some
    rw [h.layout, h.kind, h.offset]
    exact block fun none => some (h.bare.2 none)

namespace Machine

/-- A cell is as the history has it: its storage is what was lent right before the value was put
there, and has the shape for it; or the value has no block, and was put there for no owner. -/
def Recorded (m : Machine) (c : CellId) (cell : Cell) : Prop :=
  (cell.state = none ∧ m.deeds.countP (·.places c) = 0) ∨
    ∃ id, cell.home = some id ∧ cell.Shaped ∧
      PlacedAt m.deeds c id cell.loan (cell.destructor c)

variable {m n : Machine} {c : CellId}

theorem Recorded.later {cell later : Cell} {added : List StorageEvent} (h : m.Recorded c cell)
    (endures : cell.Endures later) (deeds : n.deeds = added ++ m.deeds)
    (never : ∀ e ∈ added, e.places c = false) : n.Recorded c later := by
  rcases h with ⟨bare, unplaced⟩ | ⟨id, home, shaped, placed⟩
  · refine .inl ⟨endures.bare.2 bare, ?_⟩
    rw [deeds, List.countP_append, unplaced, Nat.add_zero, List.countP_eq_zero]
    exact fun e member => by simp [never e member]
  · refine .inr ⟨id, endures.home.trans home, endures.shaped shaped, ?_⟩
    rw [deeds, endures.loan, endures.destructor]
    exact placed.append added

end Machine

/-! ## Events that make no loan and end none -/

/-- Whether an event neither makes a loan nor ends one, puts no value anywhere, makes no allocator,
and says of no count that it failed. -/
def StorageEvent.isNeutral : StorageEvent → Bool
  | made _ | granted _ _ _ none | deallocated .. | retired .. | placed .. | handedBack _
  | miscounted .. => false
  | granted _ _ _ (some _) | destructionBegan _ | destructionFailed _
  | releaseBegan _ | collectedRun .. | chunkObtained .. | chunkReleased .. | bulkReleased .. => true

namespace StorageEvent

variable {e : StorageEvent}

theorem repaid?_of_isNeutral (h : e.isNeutral) (id : AllocatorId) : e.repaid? id = none := by
  cases e with
  | deallocated a base l => cases h
  | retired a base l => cases h
  | _ => rfl

theorem places_of_isNeutral (h : e.isNeutral) (c : CellId) : e.places c = false := by
  cases e with
  | placed a d => cases h
  | _ => rfl

end StorageEvent

namespace Machine

/-- Nothing was noted that makes a loan or ends one, or that is about an allocator which was not
made yet. -/
structure Neutral (m n : Machine) : Prop where
  next : m.memory.allocators.next ≤ n.memory.allocators.next
  deeds : ∃ added, n.deeds = added ++ m.deeds ∧ ∀ e ∈ added, e.isNeutral = true ∧
    ∀ id, e.isEntered id = true → id < n.memory.allocators.next

variable {m n o : Machine}

theorem Neutral.of_deeds (next : n.memory.allocators.next = m.memory.allocators.next)
    (same : n.deeds = m.deeds) : m.Neutral n :=
  ⟨Nat.le_of_eq next.symm, [], same, List.forall_mem_nil _⟩

theorem Neutral.refl (m : Machine) : m.Neutral m := .of_deeds rfl rfl

theorem Neutral.trans (first : m.Neutral n) (second : n.Neutral o) : m.Neutral o where
  next := Nat.le_trans first.next second.next
  deeds := by
    obtain ⟨added, same, neutral⟩ := first.deeds
    obtain ⟨more, same', neutral'⟩ := second.deeds
    refine ⟨more ++ added, by rw [same', same, List.append_assoc], fun e member => ?_⟩
    rcases List.mem_append.1 member with member | member
    · exact neutral' e member
    · obtain ⟨is, made⟩ := neutral e member
      exact ⟨is, fun id entered => Nat.lt_of_lt_of_le (made id entered) second.next⟩

instance : IsPreorder Machine Neutral where
  refl := Neutral.refl
  trans _ _ _ := Neutral.trans

/-- One more event that no allocator counts. -/
theorem Neutral.note {e : StorageEvent} (neutral : e.isNeutral = true)
    (other : ∀ id, e.isEntered id = false)
    (next : n.memory.allocators.next = m.memory.allocators.next)
    (deeds : n.deeds = e :: m.deeds) : m.Neutral n := by
  refine ⟨Nat.le_of_eq next.symm, [e], deeds, fun f member => ?_⟩
  rw [List.mem_singleton.1 member]
  refine ⟨neutral, fun id entered => ?_⟩
  rw [other id] at entered
  cases entered

theorem Undisturbed.neutral (h : m.Undisturbed n) : m.Neutral n :=
  .of_deeds (by rw [h.1]) h.2

open Run

/-- A count that does not fail is no event. -/
theorem recount_neutral {α : Type} [Inhabited α] {c : CellId}
    {operation : BlockState → BlockState × Except CountFault α} {answer : α}
    (counted : recount c operation m = .returned answer n) : m.Neutral n := by
  unfold recount at counted
  cases found : m.memory.cell? c with
  | none =>
    rw [found] at counted
    cases counted
    exact Neutral.refl m
  | some cell =>
    rw [found] at counted
    dsimp only at counted
    cases state : cell.state with
    | none =>
      rw [state] at counted
      cases counted
      exact Neutral.refl m
    | some s =>
      rw [state] at counted
      dsimp only at counted
      cases answered : (operation s).2 with
      | ok a =>
        rw [answered] at counted
        cases counted
        exact .of_deeds rfl rfl
      | error fault =>
        rw [answered] at counted
        have never := miscount_noted (α := α) c cell.kind s fault
          { m with memory := m.memory.setCell c { cell with state := some (operation s).1 } }
        rw [show miscount c cell.kind s fault _ = _ from counted] at never
        exact never.elim

theorem beginDestruction_neutral (c : CellId) : (beginDestruction c).Keeps Neutral := by
  intro m
  unfold beginDestruction
  cases m.memory.cell? c with
  | none => exact Neutral.refl m
  | some cell => exact .note (e := .destructionBegan c) rfl (fun _ => rfl) rfl rfl

theorem destroyWith_neutral {task : AllocatorId → Layout → CellId → Task} {c : CellId}
    {more : List Task} (went : destroyWith task c m = .returned more n) : m.Neutral n := by
  obtain ⟨taken, o, began, rest⟩ := returned_of_bind went
  cases rest
  exact Situation.of_returned (beginDestruction_neutral c) began

/-- To count a reference out makes no loan and ends none, if what is done about the last one does
not. -/
theorem countOut_neutral {c : CellId} {operation : BlockState → BlockState × Except CountFault Bool}
    {last : Run Machine (List Task)} {more : List Task}
    (went : (do if ← recount c operation then last else return []) m = .returned more n)
    (neutral : ∀ o, last o = .returned more n → o.Neutral n) : m.Neutral n := by
  obtain ⟨isLast, o, counted, rest⟩ := returned_of_bind went
  have first := recount_neutral counted
  cases isLast with
  | false =>
    cases rest
    exact first
  | true => exact first.trans (neutral o rest)

/-- To let go of a handle is to make no loan and to end none. -/
theorem letGo_neutral {kind : Kind} {c : CellId} {o : Ownership} {more : List Task}
    (went : letGo kind c o m = .returned more n) : m.Neutral n := by
  cases o with
  | unique home =>
    obtain ⟨taken, o, began, rest⟩ := returned_of_bind went
    cases rest
    exact Situation.of_returned (beginDestruction_neutral c) began
  | weak =>
    refine countOut_neutral went fun o given => ?_
    cases given
    exact Neutral.refl _
  | block owner =>
    cases owner with
    | own => exact destroyWith_neutral went
    | discard => exact destroyWith_neutral went
    | collect =>
      cases went
      exact Neutral.refl m
    | strong =>
      refine countOut_neutral went fun o destroyed => ?_
      obtain ⟨taken, q, began, rest⟩ := returned_of_bind destroyed
      cases rest
      exact Situation.of_returned (beginDestruction_neutral c) began
    | handle => exact countOut_neutral went fun o => destroyWith_neutral

/-- To carry out a task that gives nothing back is to make no loan and to end none. Whatever a task
counts is there to be counted. -/
theorem advance_neutral {t : Task} {tasks : List Task} (books : m.Books (t :: tasks))
    (stays : ∀ a l c, ¬(t = .giveBack a l c ∨ t = .retire a l c)) :
    m.Neutral (t.advance m).state := by
  cases t with
  | drop h =>
    cases link : h.link with
    | none =>
      rw [Task.advance_drop_of_none link]
      exact Neutral.refl m
    | some l =>
      obtain ⟨more, n, went, -⟩ := letGo_books link books
      rw [Task.advance_drop_of_some link, went]
      exact letGo_neutral went
  | announce label =>
    exact (Keeps.bind (announce_undisturbed label) fun _ => Keeps.pure []).mono
      (fun _ _ => Undisturbed.neutral) m
  | leaveGroup c =>
    obtain ⟨more, n, advanced, -⟩ := leaveGroup_books books
    rw [advanced]
    show m.Neutral n
    refine countOut_neutral advanced fun o given => ?_
    cases given
    exact Neutral.refl _
  | giveBack a l c => exact absurd (.inl rfl) (stays a l c)
  | retire a l c => exact absurd (.inr rfl) (stays a l c)

theorem noteFailures_neutral (tasks : List Task) (m : Machine) :
    m.Neutral (noteFailures tasks m) := by
  refine ⟨Nat.le_refl _, _, deeds_noteFailures tasks m, fun e member => ?_⟩
  obtain ⟨c, -, rfl⟩ := List.mem_map.1 (List.mem_reverse.1 member)
  exact ⟨rfl, nofun⟩

/-- A new allocator is noted to have been made, and is the one that comes next. -/
structure Makes (m n : Machine) : Prop where
  next : n.memory.allocators.next = m.memory.allocators.next + 1
  deeds : n.deeds = .made m.memory.allocators.next :: m.deeds

theorem makeHeap_makes : makeHeap.Keeps Makes := fun _ => ⟨Slab.next_push _ _, rfl⟩

theorem makeArena_makes (name : Option String) (config : ArenaConfig) :
    (makeArena name config).Keeps Makes := fun _ => ⟨Slab.next_push _ _, rfl⟩

theorem retagged_neutral (h : Handle) (owner : BlockOwner) :
    (retagged h owner).Keeps Neutral := by
  have given (c : CellId) : (retag c owner).Keeps Neutral := fun m => by
    refine .of_deeds ?_ rfl
    show Slab.next (Memory.allocators _) = _
    unfold Machine.retag onMemory Run.modify
    dsimp only [Outcome.state]
    cases m.memory.cell? c <;> rfl
  unfold retagged
  cases h.link with
  | none => exact Keeps.bind (Keeps.pure _) fun _ => Keeps.pure _
  | some l => exact Keeps.bind (given _) fun _ => Keeps.pure _

/-- To count one more handle is to make no loan and to end none. -/
theorem Counting.neutral {loose more : List Handle} {act : Run Machine (List Handle)}
    (way : Counting m loose act) (done : act m = .returned more n) : m.Neutral n := by
  have cloned {h g : Handle} {o : Machine} (made : clone h m = .returned g o) : m.Neutral o := by
    obtain ⟨u, q, acquired, rest⟩ := returned_of_bind made
    cases rest
    unfold acquire at acquired
    cases link : h.link with
    | none =>
      rw [link] at acquired
      cases acquired
      exact Neutral.refl m
    | some l =>
      rw [link] at acquired
      cases owns : h.ownership with
      | unique home =>
        rw [owns] at acquired
        cases acquired
        exact Neutral.refl m
      | weak =>
        rw [owns] at acquired
        exact recount_neutral acquired
      | block owner =>
        rw [owns] at acquired
        cases owner with
        | strong => exact recount_neutral acquired
        | handle => exact recount_neutral acquired
        | _ =>
          cases acquired
          exact Neutral.refl m
  cases way with
  | again clonable seen =>
    obtain ⟨g, o, made, rest⟩ := returned_of_bind done
    cases rest
    exact cloned made
  | observer owns seen =>
    obtain ⟨g, o, made, rest⟩ := returned_of_bind done
    cases rest
    exact cloned made
  | @owner h observes seen =>
    obtain ⟨g, o, made, rest⟩ := returned_of_bind done
    cases rest
    unfold upgrade at made
    cases link : h.link with
    | none =>
      rw [link] at made
      cases made
      exact Neutral.refl m
    | some l =>
      rw [link] at made
      obtain ⟨there, q, counted, rest⟩ := returned_of_bind made
      have first := recount_neutral counted
      cases there with
      | false =>
        cases rest
        exact first
      | true =>
        cases rest
        exact first

theorem releaseChunks_neutral (id : AllocatorId) (a : Arena) :
    (releaseChunks id a).Keeps Neutral := by
  intro m
  obtain ⟨n, released, -, allocators, -, deeds⟩ := releaseChunks_returns id a m
  rw [released]
  refine ⟨?_, _, deeds, fun e member => ?_⟩
  · show m.memory.allocators.next ≤ n.memory.allocators.next
    exact Nat.le_of_eq (by rw [allocators, Slab.next_set])
  · obtain ⟨c, -, rfl⟩ := List.mem_map.1 member
    exact ⟨rfl, nofun⟩

/-! ## What requests add to the history -/

/-- What a request notes if it is satisfied: that an arena obtained a chunk, if it did, and then
the loan. -/
theorem allocate_deeds {id : AllocatorId} {l : Layout} {d : Option Destructor}
    {answer : Except AllocError Grant} (asked : allocate id l d m = .returned answer n) :
    n.memory.allocators.next = m.memory.allocators.next ∧
      match answer with
      | .ok grant => id < m.memory.allocators.next ∧ ∃ chunks,
          n.deeds = .granted id grant.address l d :: (chunks ++ m.deeds) ∧
            ∀ e ∈ chunks, e.isNeutral = true ∧ ∀ a, e.isEntered a = false
      | .error _ => n.deeds = m.deeds := by
  cases there : m.memory.allocator? id with
  | none =>
    rw [allocate_of_none there] at asked
    cases asked
    exact ⟨rfl, rfl⟩
  | some a =>
    rw [allocate_of_some there] at asked
    have kept : (m.memory.allocate id a l d).2.allocators.next = m.memory.allocators.next := by
      unfold Memory.allocate
      split <;> exact Slab.next_set _ _ _
    generalize m.memory.allocate id a l d = reply at asked kept
    obtain ⟨e | grant, after⟩ := reply
    · cases asked
      exact ⟨kept, rfl⟩
    · have made : id < m.memory.allocators.next := Slab.lt_next_of_get? there
      unfold noteGrant at asked
      dsimp only at asked
      cases obtained : chunkObtained? a l grant with
      | none =>
        rw [obtained] at asked
        cases asked
        exact ⟨kept, made, [], rfl, List.forall_mem_nil _⟩
      | some chunk =>
        rw [obtained] at asked
        cases asked
        refine ⟨kept, made, [.chunkObtained id grant.address chunk], rfl, fun e member => ?_⟩
        rw [List.mem_singleton.1 member]
        exact ⟨rfl, fun _ => rfl⟩

end Machine

namespace Situation

open Machine

/-- What a step adds to the history. -/
inductive Adds (raw : Prop) (m : Machine) (tasks : List Task) (n : Machine) :
    List StorageEvent → Prop
  /-- No loan is made, and none ends. -/
  | neutral {added : List StorageEvent} (are : ∀ e ∈ added, e.isNeutral = true ∧
      ∀ id, e.isEntered id = true → id < n.memory.allocators.next) : Adds raw m tasks n added
  /-- There are as many handles to a cell as can be counted, and one more is not counted. -/
  | overflown {c : CellId} (crowded : (m.tally tasks c).Crowded) :
      Adds raw m tasks n [.miscounted c .overflow]
  /-- An allocator is made. -/
  | made (next : n.memory.allocators.next = m.memory.allocators.next + 1) :
      Adds raw m tasks n [.made m.memory.allocators.next]
  /-- Storage is lent, and perhaps a value is put there at once. -/
  | lent {id : AllocatorId} {address : Address} {l : Layout} {d : Option Destructor}
      {chunks placed : List StorageEvent} (made : id < n.memory.allocators.next)
      (obtained : ∀ e ∈ chunks, e.isNeutral = true ∧ ∀ a, e.isEntered a = false)
      (put : placed = [] ∨ placed = [.placed id m.memory.cells.next]) :
      Adds raw m tasks n (placed ++ .granted id address l d :: chunks)
  /-- The storage of a cell goes back. -/
  | returned {id : AllocatorId} {l : Layout} {c : CellId} {cell : Cell} {e : StorageEvent}
      (owed : .giveBack id l c ∈ tasks ∨ .retire id l c ∈ tasks)
      (found : m.memory.cell? c = some cell)
      (freed : e = .deallocated id cell.base l ∨ e = .retired id cell.base l) :
      Adds raw m tasks n [e, .handedBack c]
  /-- Storage goes back that no handle stands for. -/
  | unowned {id : AllocatorId} {address : Address} {l : Layout} {e : StorageEvent} (allowed : raw)
      (freed : e = .deallocated id address l ∨ e = .retired id address l) : Adds raw m tasks n [e]

variable {raw : Prop} {may : Licence} {s t : Situation}

/-- How a step leaves the history. -/
def Extends (raw : Prop) (s : Situation) (n : Machine) : Prop :=
  s.machine.memory.allocators.next ≤ n.memory.allocators.next ∧
    ∃ added, n.deeds = added ++ s.machine.deeds ∧ Adds raw s.machine s.duties n added

theorem Extends.of_neutral {n : Machine} (h : s.machine.Neutral n) : Extends raw s n := by
  obtain ⟨added, deeds, are⟩ := h.deeds
  exact ⟨h.next, added, deeds, .neutral are⟩

theorem Extends.of_makes {m n : Machine} {k : List Handle} (h : m.Makes n) :
    Extends raw (rest m k) n :=
  ⟨Nat.le_of_lt (h.next ▸ Nat.lt_succ_self _), _, h.deeds, .made h.next⟩

/-- What a request adds to the history, with what is done next. -/
theorem Extends.of_granted {m n o : Machine} {k : List Handle} {id : AllocatorId} {l : Layout}
    {d : Option Destructor} {grant : Grant} {placed : List StorageEvent}
    (asked : allocate id l d m = .returned (.ok grant) n)
    (next : o.memory.allocators.next = n.memory.allocators.next)
    (deeds : o.deeds = placed ++ n.deeds)
    (put : placed = [] ∨ placed = [.placed id m.memory.cells.next]) :
    Extends raw (rest m k) o := by
  obtain ⟨kept, made, chunks, noted, obtained⟩ := allocate_deeds asked
  have same : o.memory.allocators.next = m.memory.allocators.next := next.trans kept
  refine ⟨Nat.le_of_eq same.symm, placed ++ .granted id grant.address l d :: chunks, ?_,
    .lent (same ▸ made) obtained put⟩
  rw [deeds, noted]
  exact (List.append_assoc placed (.granted id grant.address l d :: chunks) m.deeds).symm

/-- A task that is carried out gives back the storage of its cell, or adds nothing that concerns
loans. -/
private theorem extends_advance {m n : Machine} {t : Task} {others : List Task}
    {tasks : List Task} (member : t ∈ tasks) (books : m.Books (t :: others))
    (left : (t.advance m).state = n) :
    m.memory.allocators.next ≤ n.memory.allocators.next ∧
      ∃ added, n.deeds = added ++ m.deeds ∧ Adds raw m tasks n added := by
  by_cases stays : ∀ a l c, ¬(t = .giveBack a l c ∨ t = .retire a l c)
  · have kept := advance_neutral books stays
    rw [left] at kept
    obtain ⟨added, deeds, are⟩ := kept.deeds
    exact ⟨kept.next, added, deeds, .neutral are⟩
  · simp only [not_forall, not_not] at stays
    obtain ⟨a, l, c, is⟩ := stays
    obtain ⟨cell, found⟩ : ∃ cell, m.memory.cell? c = some cell := by
      have fits := books c
      cases found : m.memory.cell? c with
      | some cell => exact ⟨cell, rfl⟩
      | none =>
        rw [found] at fits
        rcases is with rfl | rfl
        · rw [tally_return_self m others (.inl rfl)] at fits
          exact absurd (Tally.Untouched.returning fits) (Nat.succ_ne_zero _)
        · rw [tally_return_self m others (.inr rfl)] at fits
          exact absurd (Tally.Untouched.returning fits) (Nat.succ_ne_zero _)
    have start : (m.memory.cell? c).elim 0 (·.base) = cell.base := by
      rw [found]
      rfl
    rcases is with rfl | rfl
    · subst left
      refine ⟨Nat.le_of_eq (next_changeAllocator m.memory a _).symm,
        [.deallocated a ((m.memory.cell? c).elim 0 (·.base)) l, .handedBack c], rfl, ?_⟩
      rw [start]
      exact .returned (.inl member) found (.inl rfl)
    · subst left
      refine ⟨Nat.le_of_eq (next_changeAllocator m.memory a _).symm,
        [.retired a ((m.memory.cell? c).elim 0 (·.base)) l, .handedBack c], rfl, ?_⟩
      rw [start]
      exact .returned (.inr member) found (.inr rfl)

private theorem extends_settling {m n : Machine} {k : List Handle} {tasks tasks' : List Task}
    {panics panics' : List Passage} (balanced : Balanced ⟨m, k, tasks, panics⟩)
    (step : Destruction.Step ⟨tasks, panics, m⟩ ⟨tasks', panics', n⟩) :
    Extends raw ⟨m, k, tasks, panics⟩ n := by
  have books : m.Books ((tasks ++ panics.flatMap (·.cleanup)) ++ k.map .drop) :=
    balanced.balanced.books
  cases step with
  | @task t rest more panics m n advanced =>
    exact extends_advance (List.mem_append_left _ (List.mem_append_left _ (List.mem_cons_self ..)))
      books (congrArg Outcome.state advanced)
  | @panic t rest panics payload m n panicked =>
    have stays : ∀ a l c, ¬(t = .giveBack a l c ∨ t = .retire a l c) := by
      rintro a l c (rfl | rfl)
      · cases panicked
      · cases panicked
    have kept := advance_neutral books stays
    rw [panicked] at kept
    exact .of_neutral (kept.trans (noteFailures_neutral rest n))
  | cleanup => exact .of_neutral (Neutral.refl m)

/-- What a step adds to the history is one of few things. -/
theorem Step.adds (balanced : s.Balanced) (step : Step may s t) : Extends may.raw s t.machine := by
  cases step with
  | reordered same => exact .of_neutral (Neutral.refl _)
  | emptyGained empty => exact .of_neutral (Neutral.refl _)
  | emptyLost empty => exact .of_neutral (Neutral.refl _)
  | aside same => exact .of_neutral same.neutral
  | counted way done => exact .of_neutral (way.neutral done)
  | @uncounted m k act way failed =>
    obtain ⟨c, noted, crowded⟩ := way.failed balanced.books failed
    have next := congrArg (fun memory : Memory => memory.allocators.next) noted.1
    exact ⟨Nat.le_of_eq next.symm, [.miscounted c .overflow], noted.2, .overflown crowded⟩
  | redirected clonable owns cell => exact .of_neutral (Neutral.refl _)
  | @placed m n o k v home l offset state ownership d grant c housing asked put =>
    have next : n.memory.cells.next = m.memory.cells.next :=
      congrArg Slab.next (of_returned (allocate_sameCells home l d) asked).1
    cases put
    rw [next]
    exact .of_granted asked rfl (rfl : _ = [_] ++ n.deeds) (.inr rfl)
  | requested asked => exact .of_granted asked rfl (List.nil_append _).symm (.inl rfl)
  | refused fresh asked =>
    obtain ⟨next, same⟩ := allocate_deeds asked
    exact .of_neutral (.of_deeds next same)
  | @registered m n k v home l offset grant asked =>
    exact .of_granted asked rfl (List.nil_append n.deeds).symm (.inl rfl)
  | @retagged m n k h g owner way done =>
    exact .of_neutral (of_returned (retagged_neutral h owner) done)
  | rewritten found moved => exact .of_neutral (.of_deeds rfl rfl)
  | movedOut refers found returns => exact .of_neutral (.of_deeds rfl rfl)
  | letGo h => exact .of_neutral (Neutral.refl _)
  | destroyed v => exact .of_neutral (Neutral.refl _)
  | settling step => exact extends_settling balanced step
  | left => exact .of_neutral (Neutral.refl _)
  | heapMade done => exact .of_makes (of_returned makeHeap_makes done)
  | arenaMade done => exact .of_makes (of_returned (makeArena_makes _ _) done)
  | @listTaken m k id a there =>
    exact .of_neutral (.note (e := .releaseBegan id) rfl (fun _ => rfl) (Slab.next_set _ _ _) rfl)
  | @destructorRun m n k id r others tasks running next =>
    have noted : m.Neutral (m.runNoted id r) :=
      .note (e := .collectedRun id r.base r.destructor) rfl (fun _ => rfl) rfl rfl
    exact .of_neutral (noted.trans (of_returned (beginDestruction_neutral _) next))
  | chunksReturned there taken done =>
    exact .of_neutral (of_returned (releaseChunks_neutral _ _) done)
  | @writtenOff m k id a leaked there began =>
    obtain ⟨allocator, found, -⟩ := Option.bind_eq_some_iff.1 there
    have next : (m.writtenOff id a leaked).memory.allocators.next = m.memory.allocators.next :=
      Slab.next_set _ _ _
    refine .of_neutral ⟨Nat.le_of_eq next.symm, [.bulkReleased id leaked], rfl, fun e member => ?_⟩
    rw [List.mem_singleton.1 member, next]
    refine ⟨rfl, fun other entered => ?_⟩
    rw [← beq_iff_eq.1 entered]
    exact Slab.lt_next_of_get? found
  | @forgotten m n k id done =>
    cases done
    exact .of_neutral (.of_deeds (Slab.next_erase _ _) rfl)
  | @deallocated m n k id address l allowed done =>
    cases done
    exact ⟨Nat.le_of_eq (next_changeAllocator m.memory id _).symm,
      [.deallocated id address l], rfl, .unowned allowed (.inl rfl)⟩
  | @retired m n k id address l allowed done =>
    cases done
    exact ⟨Nat.le_of_eq (next_changeAllocator m.memory id _).symm,
      [.retired id address l], rfl, .unowned allowed (.inr rfl)⟩

/-! ## Cells -/

/-- A request for storage is satisfied with a loan. -/
def Lends (m : Machine) (loan : Loan) : Prop :=
  ∃ home d grant n, allocate home loan.layout d m = .returned (.ok grant) n ∧
    grant.address = loan.address

/-- All cells endure, and at most one comes to be, as the history has it, in storage that was asked
for. -/
def ContinuesOrAdds (m n : Machine) : Prop :=
  m.Continues n ∨
    ∃ cell, n.memory.cells = m.memory.cells.push cell ∧ n.Recorded m.memory.cells.next cell ∧
      Lends m cell.loan

/-- A block that changes hands stays one whose value is not collected. -/
theorem retagged_cases {m n : Machine} {tasks : List Task} {h g : Handle} {owner : BlockOwner}
    (way : Retagging m h owner) (books : m.Books tasks) (seen : m.Seen tasks h)
    (done : retagged h owner m = .returned g n) :
    n = m ∨ ∃ c cell, m.memory.cell? c = some cell ∧ n = m.withState c cell (.fresh owner) ∧
      cell.Endures { cell with state := some (.fresh owner) } := by
  have owned : h.ownership = .block .own ∨ h.ownership = .block .strong ∨
      h.ownership = .block .handle := by
    cases way with
    | share owns shared => exact .inl owns
    | unshare shared alone => exact .inr shared
  have uncollected : BlockState.fresh owner ≠ .collect := by
    cases way with
    | share owns shared => rcases shared with rfl | rfl <;> exact nofun
    | unshare shared alone => exact nofun
  have left : n = (retagged h owner m).state := (congrArg Outcome.state done).symm
  cases link : h.link with
  | none =>
    unfold retagged at left
    rw [link] at left
    exact .inl left
  | some l =>
    obtain ⟨cell, found, blocked, notCollected⟩ := found_of_retaggable books seen link owned
    rw [state_retagged owner link found] at left
    refine .inr ⟨l.cell, cell, found, left, rfl, rfl, rfl, rfl, rfl, ?_, ?_⟩
    · exact ⟨nofun, fun none => absurd none blocked⟩
    · refine ⟨fun collect => ?_, fun collect => absurd collect notCollected⟩
      exact absurd (Option.some.inj collect) uncollected

/-- A value that is housed is where the history has it. -/
theorem recorded_placed {m n o : Machine} {v : Value} {home : AllocatorId} {l : Layout}
    {offset : Nat} {state : Option BlockState} {ownership : Ownership} {d : Option Destructor}
    {grant : Grant} {c : CellId}
    (housing : Housing v home m.memory.cells.next l offset state ownership d)
    (asked : allocate home l d m = .returned (.ok grant) n)
    (put : settleIn home grant l offset state v n = .returned c o) : ContinuesOrAdds m o := by
  have cells := (of_returned (allocate_sameCells home l d) asked).1
  obtain ⟨-, -, chunks, noted, -⟩ := allocate_deeds asked
  cases put
  let cell : Cell := ⟨some home, grant.address, l, offset, v.kind, state, v⟩
  have shaped : cell.Shaped := by
    cases housing with
    | bare => exact ⟨fun _ => ⟨rfl, rfl⟩, fun none => absurd rfl none⟩
    | block owner found => exact ⟨nofun, fun _ => ⟨found, rfl⟩⟩
  refine .inr ⟨cell, congrArg (Slab.push · cell) cells,
    .inr ⟨home, rfl, shaped, [], chunks ++ m.deeds, ?_⟩, home, d, grant, n, asked, rfl⟩
  have registered : d = cell.destructor m.memory.cells.next := by
    unfold Cell.destructor
    show d = if state = some .collect then some ⟨offset, m.memory.cells.next⟩ else none
    cases housing with
    | bare => rfl
    | block owner found =>
      unfold blockDestructor
      cases owner <;> rfl
  have next : n.memory.cells.next = m.memory.cells.next := congrArg Slab.next cells
  show StorageEvent.placed home n.memory.cells.next :: n.deeds = _
  rw [noted, next, ← registered]
  rfl

/-- In a step all cells endure, and at most one comes to be. -/
theorem Step.cells (balanced : s.Balanced) (step : Step may s t) :
    ContinuesOrAdds s.machine t.machine := by
  cases step with
  | reordered same => exact .inl (Continues.refl _)
  | emptyGained empty => exact .inl (Continues.refl _)
  | emptyLost empty => exact .inl (Continues.refl _)
  | aside same => exact .inl (.of_cells same.sameCells.1)
  | counted way done => exact .inl (of_returned way.settled done).continues
  | @uncounted m k act way failed => exact .inl (way.settled m).continues
  | redirected clonable owns cell => exact .inl (Continues.refl _)
  | placed housing asked put => exact recorded_placed housing asked put
  | requested asked =>
    exact .inl (.of_cells (of_returned (allocate_sameCells _ _ _) asked).1)
  | refused fresh asked =>
    exact .inl (.of_cells (of_returned (allocate_sameCells _ _ _) asked).1)
  | @registered m n k v home l offset grant asked =>
    have same := of_returned (allocate_sameCells home l _) asked
    refine .inr ⟨Session.StorageStep.taggedCell home l offset grant v,
      congrArg (Slab.push · _) same.1, .inl ⟨rfl, ?_⟩, home, _, grant, n, asked, rfl⟩
    have books := balanced.books.sameCells same
    have next : n.memory.cells.next = m.memory.cells.next := congrArg Slab.next same.1
    have never := books.placed_next
    rw [next] at never
    exact never
  | @retagged m n k h g owner way done =>
    have seen : m.Seen ((h :: k).map .drop) h := seen_of_mem (List.mem_cons_self ..)
    rcases retagged_cases way balanced.books seen done with rfl | ⟨c, cell, found, rfl, endures⟩
    · exact .inl (Continues.refl _)
    · exact .inl (continues_setCell found endures)
  | rewritten found moved =>
    exact .inl (continues_setCell found ⟨rfl, rfl, rfl, rfl, rfl, Iff.rfl, Iff.rfl⟩)
  | movedOut refers found returns =>
    exact .inl (continues_setCell found ⟨rfl, rfl, rfl, rfl, rfl, Iff.rfl, Iff.rfl⟩)
  | letGo h => exact .inl (Continues.refl _)
  | destroyed v => exact .inl (Continues.refl _)
  | settling step => exact .inl step.settled.continues
  | left => exact .inl (Continues.refl _)
  | heapMade done => exact .inl (.of_cells (of_returned makeHeap_sameCells done).1)
  | arenaMade done => exact .inl (.of_cells (of_returned (makeArena_sameCells _ _) done).1)
  | listTaken there => exact .inl (.of_cells rfl)
  | @destructorRun m n k id r others tasks running next =>
    have began : (m.runNoted id r).Settled n :=
      of_returned (beginDestruction_settled r.destructor.subject) next
    exact .inl began.continues
  | chunksReturned there taken done =>
    exact .inl (.of_cells (of_returned (releaseChunks_sameCells _ _) done).1)
  | writtenOff there began => exact .inl (.of_cells rfl)
  | forgotten done => exact .inl (.of_cells (of_returned (forgetAllocator_sameCells _) done).1)
  | deallocated allowed done =>
    exact .inl (.of_cells (of_returned (deallocate_sameCells _ _ _) done).1)
  | retired allowed done =>
    exact .inl (.of_cells (of_returned (retire_sameCells _ _ _) done).1)

/-- Every cell stays where it is. -/
theorem Step.persists (balanced : s.Balanced) (step : Step may s t) :
    s.machine.Persists t.machine := by
  intro c cell found
  rcases step.cells balanced with continues | ⟨new, cells, -⟩
  · exact continues.persists c cell found
  · refine ⟨cell, ?_, Cell.Endures.refl cell⟩
    show t.machine.memory.cells.get? c = some cell
    rw [cells, Slab.get?_push_of_ne _ _ (Nat.ne_of_lt (Slab.lt_next_of_get? found))]
    exact found

/-- Every cell stays where it is, whatever a program does. -/
theorem Leads.persists (leads : Leads may s t) (balanced : s.Balanced) :
    s.machine.Persists t.machine := by
  induction leads with
  | refl => exact Persists.refl _
  | tail leads step ih => exact ih.trans (step.persists (balanced.leads leads))

/-! ## Records -/

/-- All cells are as the history has them. -/
def Recorded (s : Situation) : Prop :=
  ∀ c cell, s.machine.memory.cell? c = some cell → s.machine.Recorded c cell

/-- No value is put into a cell that is there. -/
theorem Adds.places_eq_false {m n : Machine} {tasks : List Task} {added : List StorageEvent}
    {c : CellId} (adds : Adds raw m tasks n added) (there : c < m.memory.cells.next) :
    ∀ e ∈ added, e.places c = false := by
  cases adds with
  | neutral are => exact fun e member => StorageEvent.places_of_isNeutral (are e member).1 c
  | overflown crowded =>
    intro e member
    rw [List.mem_singleton.1 member]
    rfl
  | made next =>
    intro e member
    rw [List.mem_singleton.1 member]
    rfl
  | @lent id address l d chunks placed made obtained put =>
    intro e member
    rcases List.mem_append.1 member with member | member
    · rcases put with rfl | rfl
      · cases member
      · rw [List.mem_singleton.1 member]
        exact beq_eq_false_iff_ne.2 (Nat.ne_of_gt there)
    · rcases List.mem_cons.1 member with rfl | member
      · rfl
      · exact StorageEvent.places_of_isNeutral (obtained e member).1 c
  | returned owed found freed =>
    intro e member
    rcases List.mem_cons.1 member with rfl | member
    · rcases freed with rfl | rfl <;> rfl
    · rw [List.mem_singleton.1 member]
      rfl
  | unowned allowed freed =>
    intro e member
    rw [List.mem_singleton.1 member]
    rcases freed with rfl | rfl <;> rfl

/-- Where there are no cells, there is nothing to be recorded. -/
theorem recorded_of_vacant {m : Machine} {k : List Handle}
    (vacant : ∀ c, m.memory.cell? c = none) : (rest m k).Recorded := by
  intro c cell found
  have none : m.memory.cell? c = some cell := found
  rw [vacant c] at none
  cases none

theorem Recorded.step (recorded : s.Recorded) (balanced : s.Balanced) (step : Step may s t) :
    t.Recorded := by
  intro c later found
  obtain ⟨-, added, deeds, adds⟩ := step.adds balanced
  have stays {cell : Cell} (there : s.machine.memory.cell? c = some cell)
      (endures : cell.Endures later) : t.machine.Recorded c later :=
    (recorded c cell there).later endures deeds
      (adds.places_eq_false (Slab.lt_next_of_get? there))
  rcases step.cells balanced with continues | ⟨new, cells, asHad, -⟩
  · obtain ⟨cell, there, endures⟩ := continues.earlier found
    exact stays there endures
  · have there : (s.machine.memory.cells.push new).get? c = some later := by
      rw [← cells]
      exact found
    by_cases last : c = s.machine.memory.cells.next
    · rw [last, Slab.get?_push_next] at there
      cases there
      exact last ▸ asHad
    · rw [Slab.get?_push_of_ne _ _ last] at there
      exact stays there (Cell.Endures.refl later)

theorem Recorded.leads (leads : Leads may s t) (balanced : s.Balanced) (recorded : s.Recorded) :
    t.Recorded := by
  induction leads with
  | refl => exact recorded
  | tail leads step ih => exact ih.step (balanced.leads leads) step

end Situation

end Custody
