import Custody.Proofs.Fencing

/-!
# Nothing instances among all that a program does

What stands for nothing is put into storage of its own, with no owner and no handle inside that
refers to anything. So the books balance as they did, and the machine is as sound; and as the heap
granted the storage, the fence around such storage stands. `Machine.Upholds` says all this of the
machine before and the machine afterwards, and `Family.request_upholds` of a request, whatever comes
of it.

The other way round, no step of a program has to do with the registry of nothing instances
(`Situation.Step.sameNothings`), so only requests register a type.
-/

namespace Custody

/-! ## Values that live for ever and the books -/

/-- What stands for nothing holds no handle that refers to anything. -/
theorem Value.isEmpty_of_mem_handles_ofNothing {k : Kind} :
    ∀ h ∈ (Value.ofNothing k).handles, h.isEmpty = true := by
  cases k with
  | pair => exact List.forall_mem_nil _
  | node => decide
  | _ => exact List.forall_mem_nil _

namespace Machine

variable {m : Machine} {tasks : List Task}

theorem Books.of_drops_isEmpty {handles : List Handle} (empty : ∀ h ∈ handles, h.isEmpty = true) :
    m.Books (handles.map .drop ++ tasks) ↔ m.Books tasks := by
  induction handles with
  | nil => rfl
  | cons h rest ih =>
    have rest := ih fun g member => empty g (List.mem_cons_of_mem h member)
    exact (Books.of_drop_isEmpty (empty h (List.mem_cons_self ..))).trans rest

/-- To grant storage for ever does not matter to arenas. -/
theorem endowed_ordinary (m : Machine) (base : Address) (v : Value) :
    m.Ordinary (m.endowed base v) :=
  { Ordinary.refl m with
    subjects := fun _ subject => isSubject_addCell _ subject
    top := m.memory.heap.top_le_afterGrant _ }

end Machine

/-- The books balance when what stands for nothing is put into storage of its own. -/
theorem Situation.Balanced.endowed {m : Machine} {k : List Handle} (balanced : (rest m k).Balanced)
    (base : Address) (kind : Kind) : (rest (m.endowed base (.ofNothing kind)) k).Balanced := by
  refine balanced_of_books ?_ (balanced.sound.ordinary (m.endowed_ordinary base _))
  have held := (Machine.Books.of_drops_isEmpty
    (Value.isEmpty_of_mem_handles_ofNothing (k := kind))).2 balanced.books
  have bare : (Memory.lastingCell base (.ofNothing kind)).state = none := rfl
  exact Machine.addCell_books bare held

/-! ## The registry -/

namespace Machine

open Run

/-- The registry of nothing instances is as it was. -/
def SameNothings (m n : Machine) : Prop := n.memory.nothings = m.memory.nothings

instance : IsPreorder Machine SameNothings where
  refl _ := rfl
  trans _ _ _ first second := second.trans first

theorem recount_sameNothings {α : Type} [Inhabited α] (c : CellId)
    (operation : BlockState → BlockState × Except CountFault α) :
    (recount c operation).Keeps SameNothings :=
  recount_keeps (fun _ _ same => congrArg Memory.nothings same.1) (fun _ _ _ => rfl)
    fun _ _ _ _ _ => rfl

theorem beginDestruction_sameNothings (c : CellId) : (beginDestruction c).Keeps SameNothings := by
  intro m
  unfold beginDestruction
  cases m.memory.cell? c <;> rfl

theorem changeAllocator_sameNothings (id : AllocatorId) (change : Allocator → Allocator)
    (m : Machine) : m.SameNothings { m with memory := m.memory.changeAllocator id change } := by
  show (m.memory.changeAllocator id change).nothings = _
  unfold Memory.changeAllocator
  cases m.memory.allocator? id <;> rfl

theorem deallocate_sameNothings (id : AllocatorId) (address : Address) (l : Layout) :
    (deallocate id address l).Keeps SameNothings :=
  fun m => changeAllocator_sameNothings id Allocator.deallocate m

theorem retire_sameNothings (id : AllocatorId) (address : Address) (l : Layout) :
    (retire id address l).Keeps SameNothings :=
  fun m => changeAllocator_sameNothings id Allocator.retire m

theorem advance_sameNothings (t : Task) : t.advance.Keeps SameNothings := by
  refine advance_keeps (fun _ _ c operation _ => recount_sameNothings c operation)
    beginDestruction_sameNothings
    (fun l => (announce_undisturbed l).mono fun _ _ same => congrArg Memory.nothings same.1) t ?_
  rintro a l c (rfl | rfl)
  · refine .bind (fun _ => rfl) fun _ => .bind (.gets _) fun start => ?_
    exact .bind (deallocate_sameNothings a start l) fun _ => .pure _
  · refine .bind (fun _ => rfl) fun _ => .bind (.gets _) fun start => ?_
    exact .bind (retire_sameNothings a start l) fun _ => .pure _

theorem allocate_sameNothings (id : AllocatorId) (l : Layout) (d : Option Destructor)
    {m n : Machine} {grant : Grant} (asked : allocate id l d m = .returned (.ok grant) n) :
    m.SameNothings n := by
  obtain ⟨a, -, answer⟩ := memory_of_allocate asked
  have kept : (m.memory.allocate id a l d).2.nothings = m.memory.nothings := by
    unfold Memory.allocate
    split <;> rfl
  rw [answer] at kept
  exact kept

theorem retagged_sameNothings (h : Handle) (owner : BlockOwner) :
    (retagged h owner).Keeps SameNothings := by
  have given (c : CellId) : (retag c owner).Keeps SameNothings := fun m => by
    show (Machine.memory _).nothings = m.memory.nothings
    unfold retag onMemory Run.modify
    dsimp only [Outcome.state]
    cases m.memory.cell? c <;> rfl
  unfold retagged
  cases h.link with
  | none => exact .bind (.pure _) fun _ => .pure _
  | some l => exact .bind (given _) fun _ => .pure _

end Machine

/-- No step of a destruction has to do with the registry. -/
theorem Destruction.Step.sameNothings {d e : Destruction} (step : d.Step e) :
    d.machine.SameNothings e.machine := by
  cases step with
  | task advanced => exact Situation.of_returned (Machine.advance_sameNothings _) advanced
  | @panic t rest panics payload m n panicked =>
    have kept := Machine.advance_sameNothings t m
    rw [panicked] at kept
    exact kept
  | cleanup => rfl

namespace Situation

open Machine

variable {may : Licence} {s t : Situation}

/-- No step has to do with the registry. -/
theorem Step.sameNothings (step : Step may s t) : s.machine.SameNothings t.machine := by
  cases step with
  | reordered order => rfl
  | emptyGained empty => rfl
  | emptyLost empty => rfl
  | aside same => exact congrArg Memory.nothings same.1
  | counted way done =>
    exact of_returned (way.keeps fun _ _ c operation _ => recount_sameNothings c operation) done
  | uncounted way failed =>
    exact way.keeps (fun _ _ c operation _ => recount_sameNothings c operation) _
  | redirected clonable owns cell => rfl
  | placed housing asked put =>
    have same := allocate_sameNothings _ _ _ asked
    cases put
    exact same
  | requested asked => exact allocate_sameNothings _ _ _ asked
  | refused fresh asked =>
    rw [eq_of_refused asked]
    rfl
  | registered asked =>
    have same := allocate_sameNothings _ _ _ asked
    exact same
  | retagged way done => exact of_returned (retagged_sameNothings _ _) done
  | rewritten found moved => rfl
  | movedOut refers found returns => rfl
  | letGo h => rfl
  | destroyed v => rfl
  | settling step => exact step.sameNothings
  | left => rfl
  | heapMade done =>
    cases done
    rfl
  | arenaMade done =>
    cases done
    rfl
  | listTaken there => rfl
  | destructorRun running next =>
    have same := of_returned (beginDestruction_sameNothings _) next
    exact same
  | @chunksReturned m n k id a there taken done =>
    have kept : (releaseChunks id a).Keeps SameNothings :=
      .bind (.forAll fun _ _ _ => rfl) fun _ _ => rfl
    exact of_returned kept done
  | writtenOff there began => rfl
  | forgotten done =>
    cases done
    rfl
  | deallocated allowed done => exact of_returned (deallocate_sameNothings _ _ _) done
  | retired allowed done => exact of_returned (retire_sameNothings _ _ _) done

theorem Leads.sameNothings (leads : Leads may s t) : s.machine.SameNothings t.machine := by
  induction leads with
  | refl => rfl
  | tail _ step ih => exact step.sameNothings.trans ih

end Situation

/-! ## What requests uphold -/

namespace Machine

open Run Situation

/-- What is in order stays in order, whatever handles there are: the books, the fence, and where
cells are. -/
structure Upholds (k : List Handle) (m n : Machine) : Prop where
  balanced : (rest m k).Balanced → (rest n k).Balanced
  fenced : m.memory.Fenced → n.memory.Fenced
  persists : m.Persists n

variable {k : List Handle} {m n : Machine}

instance : IsPreorder Machine (Upholds k) where
  refl m := ⟨id, id, Persists.refl m⟩
  trans _ _ _ first second :=
    ⟨second.balanced ∘ first.balanced, second.fenced ∘ first.fenced,
      first.persists.trans second.persists⟩

theorem Undisturbed.upholds (same : m.Undisturbed n) : m.Upholds k n where
  balanced balanced := balanced.step (.aside same : Step ({ raw := False } : Licence) _ _)
  fenced fenced := by
    rw [same.1]
    exact fenced
  persists := same.settled.continues.persists

theorem changeNothings_upholds (m : Machine) (change : NothingRegistry → NothingRegistry) :
    m.Upholds k { m with memory := m.memory.changeNothings change } where
  balanced balanced := by
    have ordinary : m.Ordinary { m with memory := m.memory.changeNothings change } :=
      ⟨fun _ subject => subject, fun _ a there => ⟨a, there, rfl⟩, Nat.le_refl _, Nat.le_refl _,
        ⟨[], rfl, List.forall_mem_nil _⟩, fun audited => audited⟩
    exact balanced_of_books balanced.books (balanced.sound.ordinary ordinary)
  fenced fenced := fenced.changeNothings change
  persists c cell found := ⟨cell, found, .refl cell⟩

theorem makeLasting_upholds (kind : Kind) : (makeLasting (.ofNothing kind)).Keeps (Upholds k) := by
  intro m
  unfold makeLasting
  cases granted : m.memory.heap.grant? (Value.ofNothing kind).kind.layout with
  | none => exact refl_of (Upholds k) m
  | some base =>
    exact ⟨fun balanced => balanced.endowed base kind, fun fenced => fenced.addLasting granted,
      m.endowed_persists base _⟩

/-- Whatever recipes there are, a request leaves all in order. -/
theorem request_upholds (recipe : Kind → Recipe) (depth : Nat) (kind : Kind) :
    (request recipe depth kind).Keeps (Upholds k) :=
  request_keeps (fun _ _ same => same.upholds) changeNothings_upholds makeLasting_upholds recipe
    depth kind

end Machine

end Custody
