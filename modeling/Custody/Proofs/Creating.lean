import Custody.Proofs.Directions
import Custody.Proofs.Granting
import Custody.Proofs.Moves
import Custody.Proofs.Operations
import Custody.Proofs.Passing
import Custody.Proofs.Raising
import Custody.Proofs.Repaying

/-!
# Creating, with and without an answer

Whoever creates an owner of a value gets an answer (`tryCreate`) or insists on the owner (`create`).
Both ask the same allocator for the same storage, and where it is granted they make the same owner
and leave the same machine (`Machine.Made`). Where it is refused the allocator is as it was, since a
refusal changes nothing, and the value is destroyed once. What one answers the other raises as a
fault (`Machine.Refused`). The two differ in the order: a unique owner's value is destroyed while
the fault unwinds, any other before the fault is raised, and `Machine.Insists` has a case for each.

A value may own other values in the arena that refuses it, and its destructor gives their storage
back. The arena counts that, and nothing else changes in it. Nor is the fault always what unwinds,
as a sink that gets the entry about it may panic first, or write on until the stack is exhausted.
`Machine.Repaid` and `Process.Raises` are exact about both.
-/

namespace Custody

/-! ## What an owner asks for -/

namespace Owner

/-- The layout that an owner of a value asks for, if there is one. -/
def layout? (k : Kind) : Owner → Option Layout
  | unique => some k.layout
  | block _ => k.layout.block?

/-- Whether an owner has a destructor registered. -/
def isCollecting : Owner → Bool
  | block .collect => true
  | _ => false

end Owner

/-- Whether an event is that a destructor runs. -/
def Event.isDestruction : Event → Bool
  | destroyed _ | storage (.destructionBegan _) | storage (.destructionFailed _)
  | storage (.collectedRun ..) => true
  | _ => false

/-! ## Answers of allocators -/

namespace Allocator

variable {a after : Allocator} {memory : Layout → Option Address} {l : Layout}
  {d : Option Destructor} {grant : Grant} {e : AllocError}

/-- A front end of the heap answers, or an arena does. -/
theorem allocate_cases {answer : Except AllocError Grant}
    (h : a.allocate memory l d = (answer, after)) :
    (∃ ledger kept, a = .heap ledger ∧ after = .heap kept ∧
      allocateOnHeap memory ledger l d = (answer, kept)) ∨
    ∃ b kept, a = .arena b ∧ after = .arena kept ∧ b.allocate memory l d = (answer, kept) := by
  cases a with
  | heap ledger =>
    cases h
    exact .inl ⟨ledger, _, rfl, rfl, rfl⟩
  | arena b =>
    cases h
    exact .inr ⟨b, _, rfl, rfl, rfl⟩

/-- An allocator that refuses a request is as it was. -/
theorem allocate_error (supplies : Arena.Supplies memory)
    (h : a.allocate memory l d = (.error e, after)) : after = a := by
  obtain ⟨ledger, kept, rfl, rfl, asked⟩ | ⟨b, kept, rfl, rfl, asked⟩ := allocate_cases h
  · rw [Machine.allocateOnHeap_error asked]
  · rw [Arena.allocate_error supplies asked]

/-- An allocator that serves a request counts it. -/
theorem ledger_allocate (supplies : Arena.Supplies memory)
    (h : a.allocate memory l d = (.ok grant, after)) :
    after.ledger = a.ledger.allocate l.size d.isSome := by
  obtain ⟨ledger, kept, rfl, rfl, asked⟩ | ⟨b, kept, rfl, rfl, asked⟩ := allocate_cases h
  · obtain ⟨rfl, -, counted, -⟩ := Machine.allocateOnHeap_ok asked
    exact counted
  · obtain ⟨placed, rfl, served⟩ := Arena.allocate_ok supplies asked
    obtain ⟨chunk?, grown⟩ := served.grown
    show placed.ledger.allocate l.size d.isSome = _
    rw [grown.ledger]
    rfl

end Allocator

namespace Memory

variable {m : Memory} {home : AllocatorId} {a after : Allocator} {l : Layout}
  {d : Option Destructor} {e : AllocError} {grant : Grant}

/-- A request that is refused by an allocator which is as it was changes nothing. -/
theorem allocate_of_error (there : m.allocator? home = some a)
    (asked : a.allocate m.heap.grant? l d = (.error e, after)) (same : after = a) :
    m.allocate home a l d = (.error e, m) := by
  have kept : m.setAllocator home after = m := by
    unfold setAllocator
    rw [same, show m.allocators.set home a = m.allocators from Slab.set_of_get? there]
  unfold allocate
  rw [asked]
  dsimp only
  rw [kept]

/-- A request that is served changes the allocator and the heap. -/
theorem allocate_of_ok (home : AllocatorId)
    (asked : a.allocate m.heap.grant? l d = (.ok grant, after)) :
    ∃ taken, m.allocate home a l d = (.ok grant, taken) ∧ taken.cells = m.cells ∧
      taken.allocators = m.allocators.set home after := by
  unfold allocate
  rw [asked]
  exact ⟨_, rfl, rfl, rfl⟩

end Memory

namespace Machine

variable {m n : Machine} {home : AllocatorId} {a : Allocator} {l : Layout} {d : Option Destructor}

/-- Between two machines things happened, but no destructor has run. -/
def DestroysNothing (m n : Machine) : Prop :=
  ∃ added, n.process = m.process.having added m.process.thread.panics ∧
    ∀ e ∈ added, e.isDestruction = false

theorem DestroysNothing.refl (m : Machine) : m.DestroysNothing m :=
  ⟨[], rfl, List.forall_mem_nil _⟩

theorem DestroysNothing.trans {o : Machine} (first : m.DestroysNothing n)
    (second : n.DestroysNothing o) : m.DestroysNothing o := by
  obtain ⟨added, process, quiet⟩ := first
  obtain ⟨more, process', quiet'⟩ := second
  refine ⟨more ++ added, ?_, List.forall_mem_append.2 ⟨quiet', quiet⟩⟩
  rw [process', process, Process.having_having]
  rfl

/-- What there is when an allocator has served a request. -/
structure Granted (home : AllocatorId) (a : Allocator) (l : Layout) (d : Option Destructor)
    (m n : Machine) : Prop where
  cells : n.memory.cells = m.memory.cells
  allocator : ∃ b, n.memory.allocator? home = some b ∧ b.ledger = a.ledger.allocate l.size d.isSome
  others : ∀ id, id ≠ home → n.memory.allocator? id = m.memory.allocator? id
  quiet : m.DestroysNothing n

/-- To note a grant changes nothing but what happened. -/
theorem noteGrant_returned (home : AllocatorId) (a : Allocator) (l : Layout)
    (d : Option Destructor) (grant : Grant) (m : Machine) :
    ∃ n, noteGrant home a l d grant m = .returned () n ∧ n.memory = m.memory ∧
      m.DestroysNothing n := by
  unfold noteGrant
  cases chunkObtained? a l grant with
  | none => exact ⟨_, rfl, rfl, [.storage _], rfl, by simp [Event.isDestruction]⟩
  | some chunk => exact ⟨_, rfl, rfl, [.storage _, .storage _], rfl, by simp [Event.isDestruction]⟩

/-- What is left when an allocator serves a request. -/
theorem allocate_of_granted {grant : Grant} {after : Allocator}
    (there : m.memory.allocator? home = some a)
    (asked : a.allocate m.memory.heap.grant? l d = (.ok grant, after)) :
    ∃ n, allocate home l d m = .returned (.ok grant) n ∧ m.Granted home a l d n := by
  obtain ⟨memory, taken, cells, allocators⟩ := Memory.allocate_of_ok home asked
  obtain ⟨n, noted, same, quiet⟩ := noteGrant_returned home a l d grant ⟨m.process, memory⟩
  have there' : m.memory.allocators.get? home = some a := there
  rw [allocate_of_some there, taken]
  dsimp only
  rw [noted]
  refine ⟨n, rfl, by rw [same]; exact cells,
    ⟨after, ?_, Allocator.ledger_allocate (Arena.supplies_grant? m.memory.heap) asked⟩,
    fun id ne => ?_, quiet⟩
  · show n.memory.allocators.get? home = _
    rw [same, allocators]
    exact Slab.get?_set_self there'
  · show n.memory.allocators.get? id = _
    rw [same, allocators]
    exact Slab.get?_set_of_ne _ (Ne.symm ne)

/-- An allocator that is there refuses a request, and nothing changes, or serves it. -/
theorem allocate_ends (there : m.memory.allocator? home = some a) (l : Layout)
    (d : Option Destructor) :
    (∃ e, allocate home l d m = .returned (.error e) m) ∨
      ∃ grant n, allocate home l d m = .returned (.ok grant) n ∧ m.Granted home a l d n := by
  cases asked : a.allocate m.memory.heap.grant? l d with
  | mk answer after =>
    cases answer with
    | error e =>
      have same := Allocator.allocate_error (Arena.supplies_grant? m.memory.heap) asked
      rw [allocate_of_some there, Memory.allocate_of_error there asked same]
      exact .inl ⟨e, rfl⟩
    | ok grant =>
      obtain ⟨n, served, granted⟩ := allocate_of_granted there asked
      exact .inr ⟨grant, n, served, granted⟩

/-! ## Owners -/

/-- What there is when an owner of a value has come of storage that its allocator had: the value is
in a cell of its own, with a fresh control block if the owner has one. -/
structure Made (owner : Owner) (home : AllocatorId) (a : Allocator) (v : Value) (m : Machine)
    (h : Handle) (n : Machine) : Prop extends m.Houses n owner home v h where
  cells : ∀ c, c ≠ m.memory.cells.next → n.memory.cell? c = m.memory.cell? c
  /-- The allocator counts one allocation more, and a collected one if the owner collects. -/
  allocator : ∃ l b, owner.layout? v.kind = some l ∧ n.memory.allocator? home = some b ∧
    b.ledger = a.ledger.allocate l.size owner.isCollecting
  allocators : ∀ id, id ≠ home → n.memory.allocator? id = m.memory.allocator? id
  quiet : m.DestroysNothing n

/-- A value that is put into storage that was granted for it has its owner. -/
theorem Granted.made {owner : Owner} {v : Value} (granted : m.Granted home a l d n)
    (layout : owner.layout? v.kind = some l) (destructor : d.isSome = owner.isCollecting)
    (grant : Grant) (offset : Nat) :
    ∃ u, settleIn home grant l offset owner.block? v n = .returned m.memory.cells.next u ∧
      m.Made owner home a v (.whole (owner.ownership home) v.kind m.memory.cells.next) u := by
  obtain ⟨cells, ⟨b, there, counted⟩, others, quiet⟩ := granted
  let cell : Cell := ⟨some home, grant.address, l, offset, v.kind, owner.block?, v⟩
  have next : n.memory.cells.next = m.memory.cells.next := by rw [cells]
  refine ⟨⟨n.process.after (.storage (.placed home m.memory.cells.next)), n.memory.addCell cell⟩,
    ?_, ⟨rfl, cell, ?_, rfl, rfl, rfl⟩, fun c other => ?_, ⟨l, b, layout, there, ?_⟩, others,
    quiet.trans ⟨[.storage (.placed home m.memory.cells.next)], rfl, ?_⟩⟩
  · unfold settleIn
    rw [next]
  · rw [← next]
    exact Memory.cell?_addCell_self n.memory cell
  · show (n.memory.cells.push cell).get? c = _
    rw [Slab.get?_push_of_ne _ _ (next ▸ other), cells]
    rfl
  · rw [counted, destructor]
  · exact List.forall_mem_singleton.2 rfl

/-- A unique owner of a value is made, or nothing changes. -/
theorem placeUnique_ends (there : m.memory.allocator? home = some a) (v : Value) :
    (∃ e, placeUnique home v m = .returned (.error e) m) ∨
      ∃ h n, placeUnique home v m = .returned (.ok h) n ∧ m.Made .unique home a v h n := by
  unfold placeUnique
  rw [Run.bind_apply]
  rcases allocate_ends there v.kind.layout none with ⟨e, refused⟩ | ⟨grant, n, served, granted⟩
  · rw [refused]
    exact .inl ⟨e, rfl⟩
  · have layout : Owner.unique.layout? v.kind = some v.kind.layout := rfl
    obtain ⟨u, settled, made⟩ := granted.made layout rfl grant 0
    have settled : settleIn home grant v.kind.layout 0 none v n = _ := settled
    refine .inr ⟨_, u, ?_, made⟩
    rw [served]
    show (settleIn home grant v.kind.layout 0 none v >>= fun cell =>
      pure (.ok (.whole (.unique home) v.kind cell)) : Run Machine (Except AllocError Handle)) n = _
    rw [Run.bind_apply, settled]
    rfl

/-- A value that is too large for a control block in front of it is destroyed. -/
theorem tryCreateBlock_of_tooLarge (owner : BlockOwner) (home : AllocatorId) {v : Value}
    (layout : v.kind.layout.block? = none) (m : Machine) :
    tryCreateBlock owner home v m =
      (dropValue v m).andThen fun _ n => .returned (.error .invalidLayout) n := by
  unfold tryCreateBlock
  rw [layout]
  rfl

/-- A value that there is no storage for behind a control block is destroyed. -/
theorem tryCreateBlock_of_refused {owner : BlockOwner} {v : Value} {e : AllocError}
    (layout : v.kind.layout.block? = some l)
    (refused : allocate home l
      (blockDestructor owner v.kind.layout.valueOffset m.memory.cells.next) m =
        .returned (.error e) m) :
    tryCreateBlock owner home v m =
      (dropValue v m).andThen fun _ n => .returned (.error e) n := by
  unfold tryCreateBlock
  rw [layout]
  show (allocate home l _ m).andThen _ = _
  rw [refused]
  rfl

/-- A value that there is storage for behind a control block has its owner. -/
theorem tryCreateBlock_of_granted (owner : BlockOwner) {v : Value} {grant : Grant}
    (layout : v.kind.layout.block? = some l)
    (served : allocate home l
      (blockDestructor owner v.kind.layout.valueOffset m.memory.cells.next) m =
        .returned (.ok grant) n)
    (granted : m.Granted home a l
      (blockDestructor owner v.kind.layout.valueOffset m.memory.cells.next) n) :
    ∃ h u, tryCreateBlock owner home v m = .returned (.ok h) u ∧
      m.Made (.block owner) home a v h u := by
  have asked : (Owner.block owner).layout? v.kind = some l := layout
  let offset := v.kind.layout.valueOffset
  obtain ⟨u, settled, made⟩ := granted.made asked (by cases owner <;> rfl) grant offset
  have settled : settleIn home grant l offset (some (.fresh owner)) v n = _ := settled
  refine ⟨_, u, ?_, made⟩
  unfold tryCreateBlock
  rw [layout]
  show (allocate home l _ m).andThen _ = _
  rw [served]
  show (settleIn home grant l offset (some (.fresh owner)) v >>= fun cell =>
    pure (.ok (.whole (.block owner) v.kind cell)) : Run Machine (Except AllocError Handle)) n = _
  rw [Run.bind_apply, settled]
  rfl

/-- An owner behind a control block is made, or the value is destroyed. -/
theorem tryCreateBlock_ends (there : m.memory.allocator? home = some a) (owner : BlockOwner)
    (v : Value) :
    (∃ e, tryCreateBlock owner home v m =
        (dropValue v m).andThen fun _ n => .returned (.error e) n) ∨
      ∃ h n, tryCreateBlock owner home v m = .returned (.ok h) n ∧
        m.Made (.block owner) home a v h n := by
  cases layout : v.kind.layout.block? with
  | none => exact .inl ⟨_, tryCreateBlock_of_tooLarge owner home layout m⟩
  | some l =>
    rcases allocate_ends there l
      (blockDestructor owner v.kind.layout.valueOffset m.memory.cells.next) with
      ⟨e, refused⟩ | ⟨grant, n, served, granted⟩
    · exact .inl ⟨e, tryCreateBlock_of_refused layout refused⟩
    · exact .inr (tryCreateBlock_of_granted owner layout served granted)

/-! ## What is refused -/

/-- How a creation ends that raises a fault for want of storage, where the value's destruction leads
from one machine to another. A unique owner's value is destroyed when the fault was raised, any
other before. -/
inductive Insists (owner : Owner) (fault : Fault) (m n : Machine) : Outcome Machine Handle → Prop
  | before {o : BlockOwner} {outcome : Outcome Process Handle} (kind : owner = .block o)
      (raises : n.process.Raises fault outcome) :
      Insists owner fault m n (outcome.mapState fun q => ⟨q, n.memory⟩)
  | passing {added : List Event} {payload : Payload} {q : Process} (kind : owner = .unique)
      (raises : m.process.Raises fault (.unwinding payload q : Outcome Process Handle))
      (happened : n.process = m.process.having added m.process.thread.panics) :
      Insists owner fault m n (.unwinding payload ⟨q.having added q.thread.panics, n.memory⟩)
  | exhausted {q : Process} (kind : owner = .unique)
      (raises : m.process.Raises fault (.aborted .stackExhausted q : Outcome Process Handle)) :
      Insists owner fault m n (.aborted .stackExhausted ⟨q, m.memory⟩)

/-- What becomes of a value that there is no storage for, where the value's destruction leads from
one machine to another. -/
structure Refused (owner : Owner) (home : AllocatorId) (a : Allocator) (v : Value) (e : AllocError)
    (m n : Machine) : Prop where
  /-- The value was destroyed once, and that is all. -/
  tried : tryCreate owner home v m = .returned (.error e) n
  destroyed : dropValue v m = .returned () n
  /-- The allocator counts what the destructor gave back to it, and is as it was otherwise. -/
  allocator : ∃ added, n.deeds = added ++ m.deeds ∧ n.memory.allocator? home =
    some (a.repaid (added.countP (·.frees home)) (added.countP (·.retires home)))
  /-- A value without handles, or with empty ones only, gives nothing back. -/
  untouched : (∀ h ∈ v.handles, h.isEmpty = true) → n.memory = m.memory
  /-- Without an answer one fault is raised, for the same reason. -/
  insists : Insists owner (e.toFault a.name) m n (create owner home v m)

/-- A fault that is raised is the business of the process. -/
theorem fail_eq {α : Type} (fault : Fault) (m : Machine) :
    (fail fault m : Outcome Machine α) =
      (Process.fail fault m.process).mapState fun q => ⟨q, m.memory⟩ := rfl

/-- To destroy a value gives storage back, and does nothing else to allocators. -/
theorem allocator?_of_dropValue {v : Value} (there : m.memory.allocator? home = some a)
    (destroyed : dropValue v m = .returned () n) :
    ∃ added, n.deeds = added ++ m.deeds ∧ n.memory.allocator? home =
      some (a.repaid (added.countP (·.frees home)) (added.countP (·.retires home))) := by
  have repaid : Repaid home m (drain v.plan [] m).state := drain_repaid v.plan [] m
  rw [show drain v.plan [] m = .returned () n from destroyed] at repaid
  obtain ⟨added, deeds, same⟩ := repaid
  rw [there] at same
  exact ⟨added, deeds, same⟩

/-- Tasks that lead to nothing and leave memory alone do so together. -/
theorem memory_of_idle {tasks : List Task}
    (idle : ∀ t ∈ tasks, ∀ m more n, t.advance m = .returned more n →
      more = [] ∧ n.memory = m.memory)
    (done : drain tasks [] m = .returned () n) : n.memory = m.memory := by
  induction tasks generalizing m with
  | nil =>
    rw [drain_nil_nil] at done
    cases done
    rfl
  | cons t rest ih =>
    cases advanced : t.advance m with
    | returned more u =>
      obtain ⟨rfl, same⟩ := idle t (List.mem_cons_self ..) m more u advanced
      rw [drain_cons_returned advanced] at done
      rw [ih (fun t member => idle t (List.mem_cons_of_mem _ member)) done]
      exact same
    | unwinding payload u =>
      rw [drain_cons_unwinding advanced] at done
      exact absurd done (drain_ne_returned (List.cons_ne_nil _ _) _ _ _)
    | aborted cause u =>
      rw [drain_cons_aborted advanced] at done
      cases done

/-- To destroy a value that owns and observes nothing leaves memory alone. -/
theorem memory_of_dropValue {v : Value} (none : ∀ h ∈ v.handles, h.isEmpty = true)
    (destroyed : dropValue v m = .returned () n) : n.memory = m.memory := by
  refine memory_of_idle (fun t member m more n advanced => ?_) destroyed
  rcases Value.mem_plan member with ⟨label, rfl⟩ | ⟨h, among, rfl⟩
  · have same := announce_ensures label m
    have advanced : (announce label m).andThen (fun _ u => .returned [] u) = .returned more n :=
      advanced
    cases announced : announce label m with
    | returned _ u =>
      rw [announced] at advanced same
      cases advanced
      exact ⟨rfl, same⟩
    | unwinding payload u =>
      rw [announced] at advanced
      cases advanced
    | aborted cause u =>
      rw [announced] at advanced
      cases advanced
  · rw [Task.advance_drop_of_none (Option.isNone_iff_eq_none.1 (none h among))] at advanced
    cases advanced
    exact ⟨rfl, rfl⟩

/-- What becomes of a value that there is no storage for, when no answer can be given. -/
def refuse (owner : Owner) (home : AllocatorId) (v : Value) (e : AllocError) : Run Machine Handle :=
  match owner with
  | .unique => Run.onUnwind (failAllocation home e) (dropValue v)
  | .block _ => do
    dropValue v
    failAllocation home e

/-- Where there is no storage, there is no handle either. -/
theorem refuse_not_returns (owner : Owner) (home : AllocatorId) (v : Value) (e : AllocError)
    (m : Machine) : (refuse owner home v e m).returns = false := by
  have never (n : Machine) : (failAllocation home e n : Outcome Machine Handle).returns = false :=
    (fail_ensures (e.toFault (n.memory.allocatorName home)) n).not_returns
  cases owner with
  | block o =>
    show ((dropValue v m).andThen fun _ n => failAllocation home e n).returns = false
    cases dropValue v m with
    | returned _ n => exact never n
    | unwinding payload n => rfl
    | aborted cause n => rfl
  | unique =>
    have never := never m
    show (Run.onUnwind (failAllocation home e) (dropValue v) m).returns = false
    unfold Run.onUnwind Run.passing
    cases failed : (failAllocation home e m : Outcome Machine Handle) with
    | returned g n =>
      rw [failed] at never
      cases never
    | unwinding payload n =>
      dsimp only
      cases dropValue v n <;> rfl
    | aborted cause n => rfl

/-- An owner behind a control block that could be made is what is answered without asking. -/
theorem create_of_made {owner : BlockOwner} {v : Value} {h : Handle}
    (made : tryCreateBlock owner home v m = .returned (.ok h) n) :
    create (.block owner) home v m = .returned h n := by
  show (tryCreateBlock owner home v m).andThen _ = _
  rw [made]
  rfl

/-- A fault is raised when the value of an owner behind a control block was destroyed. -/
theorem create_of_refused {owner : BlockOwner} {v : Value} {e : AllocError}
    (refused : tryCreateBlock owner home v m =
      (dropValue v m).andThen fun _ n => .returned (.error e) n) :
    create (.block owner) home v m = refuse (.block owner) home v e m := by
  show (tryCreateBlock owner home v m).andThen _ =
    (dropValue v m).andThen fun _ n => failAllocation home e n
  rw [refused]
  cases dropValue v m <;> rfl

/-- There is an owner, or the value is destroyed; and who does not ask for an answer gets the same
owner, or a fault. -/
theorem tryCreate_ends (there : m.memory.allocator? home = some a) (owner : Owner) (v : Value) :
    (∃ h n, tryCreate owner home v m = .returned (.ok h) n ∧
        create owner home v m = .returned h n ∧ m.Made owner home a v h n) ∨
      ∃ e, tryCreate owner home v m =
          ((dropValue v m).andThen fun _ n => .returned (.error e) n) ∧
        create owner home v m = refuse owner home v e m := by
  cases owner with
  | unique =>
    unfold tryCreate create
    dsimp only
    rw [Run.bind_apply, Run.bind_apply]
    rcases placeUnique_ends there v with ⟨e, refused⟩ | ⟨h, n, placed, made⟩
    · rw [refused]
      exact .inr ⟨e, rfl, rfl⟩
    · rw [placed]
      exact .inl ⟨h, n, rfl, rfl, made⟩
  | block o =>
    rcases tryCreateBlock_ends there o v with ⟨e, refused⟩ | ⟨h, n, placed, made⟩
    · exact .inr ⟨e, refused, create_of_refused refused⟩
    · exact .inl ⟨h, n, placed, create_of_made placed, made⟩

/-- What is answered with an error is not created. -/
theorem create_not_returns {owner : Owner} {v : Value} {e : AllocError}
    (there : m.memory.allocator? home = some a)
    (tried : tryCreate owner home v m = .returned (.error e) n) :
    (create owner home v m).returns = false := by
  rcases tryCreate_ends there owner v with ⟨h, u, made, -⟩ | ⟨e, -, refused⟩
  · cases tried.symm.trans made
  · rw [refused]
    exact refuse_not_returns owner home v e m

/-- The fault that an allocator's refusal is bears its name. -/
theorem failAllocation_eq {α : Type} (there : m.memory.allocator? home = some a) (e : AllocError) :
    (failAllocation home e m : Outcome Machine α) = fail (e.toFault a.name) m := by
  have named : m.memory.allocatorName home = a.name := by
    unfold Memory.allocatorName
    rw [there]
    rfl
  rw [← named]
  rfl

/-- Where no answer can be given, a fault is raised, before or after the value is destroyed. -/
theorem refuse_insists (owner : Owner) {v : Value} (there : m.memory.allocator? home = some a)
    (calm : m.process.isUnwinding = false)
    (unwinds : m.process.activeConfig.diagnostics.abortOnFatal = false)
    (destroyed : dropValue v m = .returned () n) (e : AllocError) :
    Insists owner (e.toFault a.name) m n (refuse owner home v e m) := by
  obtain ⟨happened, process, elsewhere⟩ := dropValue_passes v m () n destroyed
  cases owner with
  | block o =>
    obtain ⟨added, -, given⟩ := allocator?_of_dropValue there destroyed
    show Insists _ _ m n ((dropValue v m).andThen _)
    rw [destroyed]
    show Insists _ _ m n (failAllocation home e n)
    rw [failAllocation_eq given, Allocator.name_repaid, fail_eq]
    refine .before rfl (Process.fail_raises ?_ ?_ _)
    · rw [process]
      exact calm
    · rw [process]
      exact unwinds
  | unique =>
    have raises := Process.fail_raises (α := Handle) calm unwinds (e.toFault a.name)
    show Insists _ _ m n (Run.onUnwind (failAllocation home e) (dropValue v) m)
    unfold Run.onUnwind
    rw [failAllocation_eq there, fail_eq]
    generalize Process.fail (e.toFault a.name) m.process = outcome at raises
    cases outcome with
    | returned h q => cases raises
    | aborted cause q =>
      cases raises with
      | exhausted => exact .exhausted rfl .exhausted
    | unwinding payload q =>
      -- What returns in a calm thread returns while the fault passes.
      show Insists _ _ m n (Run.passing payload (dropValue v) ⟨q, m.memory⟩)
      unfold Run.passing
      rw [elsewhere q fun _ => raises.isUnwinding]
      exact .passing rfl raises process

/-- A refusal of which both attempts learn is all that becomes of the value. -/
theorem refused_of_error {owner : Owner} {v : Value} {e : AllocError}
    (there : m.memory.allocator? home = some a) (calm : m.process.isUnwinding = false)
    (unwinds : m.process.activeConfig.diagnostics.abortOnFatal = false)
    (destroyed : dropValue v m = .returned () n)
    (tried : tryCreate owner home v m =
      (dropValue v m).andThen fun _ n => .returned (.error e) n)
    (created : create owner home v m = refuse owner home v e m) :
    Refused owner home a v e m n where
  tried := by
    rw [tried, destroyed]
    rfl
  destroyed := destroyed
  allocator := allocator?_of_dropValue there destroyed
  untouched := fun none => memory_of_dropValue none destroyed
  insists := created ▸ refuse_insists owner there calm unwinds destroyed e

/-- The heap has no owner that collects. -/
theorem tryCreate_collect_of_heap {ledger : Ledger}
    (there : m.memory.allocator? home = some (.heap ledger)) {v : Value}
    (valid : v.kind.layout.block?.isSome = true) :
    tryCreate (.block .collect) home v m =
      (dropValue v m).andThen fun _ n => .returned (.error .collectUnsupported) n := by
  obtain ⟨l, layout⟩ := Option.isSome_iff_exists.1 valid
  let d := blockDestructor .collect v.kind.layout.valueOffset m.memory.cells.next
  have asked : (Allocator.heap ledger).allocate m.memory.heap.grant? l d =
      (.error .collectUnsupported, .heap ledger) := rfl
  have refused : allocate home l d m = .returned (.error .collectUnsupported) m := by
    rw [allocate_of_some there, Memory.allocate_of_error there asked rfl]
  exact tryCreateBlock_of_refused layout refused

/-- How the two ways of creating an owner of a value agree, where the value's destruction leads from
one machine to another. -/
structure Agrees (owner : Owner) (home : AllocatorId) (a : Allocator) (v : Value) (m n : Machine) :
    Prop where
  /-- One makes an owner if the other makes the same, and the machines that they leave are the same
  as well. -/
  same : ∀ h u, tryCreate owner home v m = .returned (.ok h) u ↔
    create owner home v m = .returned h u
  ends : (∃ h u, tryCreate owner home v m = .returned (.ok h) u ∧ m.Made owner home a v h u) ∨
    ∃ e, Refused owner home a v e m n
  /-- The heap does not collect. -/
  collected : ∀ ledger, a = .heap ledger → owner = .block .collect →
    v.kind.layout.block?.isSome = true → Refused owner home a v .collectUnsupported m n

/-- Creating with an answer and without agree: on a thread that does not unwind, where fatal faults
are to unwind, both make the same owner of a value whose destructor does not panic, or both destroy
the value once, and what one answers the other raises as a fault. -/
theorem create_agrees (owner : Owner) (there : m.memory.allocator? home = some a)
    (calm : m.process.isUnwinding = false)
    (unwinds : m.process.activeConfig.diagnostics.abortOnFatal = false) {v : Value}
    (destroyed : dropValue v m = .returned () n) : Agrees owner home a v m n := by
  rcases tryCreate_ends there owner v with ⟨h, u, tried, created, made⟩ | ⟨e, tried, created⟩
  · refine ⟨fun h' u' => ?_, .inl ⟨h, u, tried, made⟩, ?_⟩
    · rw [tried, created]
      constructor <;> rintro ⟨⟩ <;> rfl
    · rintro ledger rfl rfl valid
      rw [tryCreate_collect_of_heap there valid, destroyed] at tried
      cases tried
  · have refused := refused_of_error there calm unwinds destroyed tried created
    refine ⟨fun h u => ?_, .inr ⟨e, refused⟩, ?_⟩
    · have never := create_not_returns there refused.tried
      rw [refused.tried]
      refine ⟨nofun, fun returned => ?_⟩
      rw [returned] at never
      cases never
    · rintro ledger rfl rfl valid
      have answered := tryCreate_collect_of_heap there valid
      rw [refused.tried, destroyed] at answered
      cases answered
      exact refused

/-- What becomes of a value that its allocator refuses storage for can be computed. -/
theorem tryCreate_of_drained (owner : BlockOwner) {v : Value} {e : AllocError} {steps : Nat}
    {o : Outcome Machine Unit} (there : m.memory.allocator? home = some a)
    (layout : v.kind.layout.block? = some l)
    (asked : a.allocate m.memory.heap.grant? l
      (blockDestructor owner v.kind.layout.valueOffset m.memory.cells.next) = (.error e, a))
    (settled : drained steps v.plan [] m = some o) (returns : o.returns = true) :
    dropValue v m = .returned () o.state ∧
      tryCreate (.block owner) home v m = .returned (.error e) o.state := by
  have destroyed : dropValue v m = .returned () o.state :=
    (drain_of_drained settled).trans (Outcome.eq_returned returns)
  have refused : allocate home l
      (blockDestructor owner v.kind.layout.valueOffset m.memory.cells.next) m =
        .returned (.error e) m := by
    rw [allocate_of_some there, Memory.allocate_of_error there asked rfl]
  have tried : tryCreate (.block owner) home v m = _ := tryCreateBlock_of_refused layout refused
  rw [destroyed] at tried
  exact ⟨destroyed, tried⟩

/-- An arena is full, and a value that it has no room for owns another one, which lies in it. The
other goes with the value. -/
theorem exists_crowded : ∃ ops c v a n, Client.run ops (Client.start {}) = .returned () c ∧
    c.machine.memory.allocator? 1 = some a ∧ c.machine.process.isUnwinding = false ∧
      c.machine.process.activeConfig.diagnostics.abortOnFatal = false ∧
      dropValue v c.machine = .returned () n ∧
      tryCreate (.block .own) 1 v c.machine = .returned (.error (.outOfMemory 160 8)) n ∧
      n.memory.allocator? 1 = some (a.repaid 1 0) ∧ a.ledger.deallocations = 0 := by
  let owned : Handle := .whole (.block .strong) .node 0
  let v : Value := .node "outer" owned Value.noBack
  let ops : List Operation :=
    [.makeArena (some "full") { chunkSize := 256, maxSize := 256 },
      .create (.block .strong) 1 (.node "inner" Value.noNext Value.noBack) false]
  have done := Outcome.eq_returned (o := Client.run ops (Client.start {})) (by decide +kernel)
  generalize ended : (Client.run ops (Client.start {})).state = c at done
  have checked : c.machine.process.isUnwinding = false ∧
      c.machine.process.activeConfig.diagnostics.abortOnFatal = false ∧
        ((c.machine.memory.allocator? 1).bind fun a => (drained 20 v.plan [] c.machine).map fun o =>
          decide (a.allocate c.machine.memory.heap.grant? (.small 160 3) none =
              (.error (.outOfMemory 160 8), a) ∧ o.returns = true ∧
            o.state.memory.allocator? 1 = some (a.repaid 1 0) ∧ a.ledger.deallocations = 0)) =
          some true := by
    rw [← ended]
    decide +kernel
  obtain ⟨calm, unwinds, checked⟩ := checked
  obtain ⟨a, there, checked⟩ := Option.bind_eq_some_iff.1 checked
  obtain ⟨o, settled, checked⟩ := Option.map_eq_some_iff.1 checked
  obtain ⟨asked, returns, repaid, none⟩ := of_decide_eq_true checked
  have layout : v.kind.layout.block? = some (.small 160 3) := by decide +kernel
  obtain ⟨destroyed, tried⟩ :=
    tryCreate_of_drained .own there layout asked settled returns
  exact ⟨ops, c, v, a, o.state, done, there, calm, unwinds, destroyed, tried, repaid, none⟩

/-- Creating fails, with an answer and without, and the arena counts the storage that the value's
destructor gave back to it. -/
theorem exists_create_agrees : ∃ ops c v a n, Client.run ops (Client.start {}) = .returned () c ∧
    c.machine.memory.allocator? 1 = some a ∧ Agrees (.block .own) 1 a v c.machine n ∧
      Refused (.block .own) 1 a v (.outOfMemory 160 8) c.machine n ∧
        n.memory.allocator? 1 = some (a.repaid 1 0) := by
  obtain ⟨ops, c, v, a, n, done, there, calm, unwinds, destroyed, tried, repaid, -⟩ :=
    exists_crowded
  have agrees := create_agrees (.block .own) there calm unwinds destroyed
  refine ⟨ops, c, v, a, n, done, there, agrees, ?_, repaid⟩
  rcases agrees.ends with ⟨h, u, made, -⟩ | ⟨e, refused⟩
  · rw [tried] at made
    cases made
  · have answered := refused.tried
    rw [tried] at answered
    cases answered
    exact refused

/-- The heap does not collect, and without an answer that is a fault. -/
theorem create_num_collect {ledger : Ledger}
    (there : m.memory.allocator? systemAllocator = some (.heap ledger)) :
    create (.block .collect) systemAllocator (.num 1) m =
      (Process.fail (.collectUnsupported "system") m.process).mapState fun q => ⟨q, m.memory⟩ := by
  have valid : (Value.num 1).kind.layout.block?.isSome = true := by decide +kernel
  have destroyed : dropValue (.num 1) m = .returned () m := drain_nil_nil m
  rw [create_of_refused (tryCreate_collect_of_heap there valid)]
  show (dropValue (.num 1) m).andThen _ = _
  rw [destroyed]
  exact failAllocation_eq there _

/-- An arena need not be as it was when creating has failed: the value's destructor gave storage
back. Nor need creating without an answer unwind with its fault: a sink may panic that gets the
entry about it, and a sink may write on and on. -/
theorem exists_tryCreate_repays :
    (∃ ops c v a b n e, Client.run ops (Client.start {}) = .returned () c ∧
      c.machine.memory.allocator? 1 = some a ∧ c.machine.process.isUnwinding = false ∧
        c.machine.process.activeConfig.diagnostics.abortOnFatal = false ∧
        dropValue v c.machine = .returned () n ∧
        tryCreate (.block .own) 1 v c.machine = .returned (.error e) n ∧
        n.memory.allocator? 1 = some b ∧ b.ledger ≠ a.ledger) ∧
      (∃ p n, p.isUnwinding = false ∧ p.activeConfig.diagnostics.abortOnFatal = false ∧
        create (.block .collect) systemAllocator (.num 1) (Client.start p).machine =
          .unwinding (.text "sink") n) ∧
      ∃ p n, p.isUnwinding = false ∧ p.activeConfig.diagnostics.abortOnFatal = false ∧
        create (.block .collect) systemAllocator (.num 1) (Client.start p).machine =
          .aborted .stackExhausted n := by
  refine ⟨?_, ?_, ?_⟩
  · obtain ⟨ops, c, v, a, n, done, there, calm, unwinds, destroyed, tried, repaid, none⟩ :=
      exists_crowded
    refine ⟨ops, c, v, a, _, n, _, done, there, calm, unwinds, destroyed, tried, repaid,
      fun same => ?_⟩
    rw [Allocator.ledger_repaid] at same
    have same := congrArg Ledger.deallocations same
    unfold Ledger.repaid at same
    rw [none] at same
    cases same
  · let p : Process := { sink := some ⟨"", fun _ => [.panic (.text "sink")]⟩ }
    have panicked := Outcome.eq_unwinding (p := .text "sink")
      (o := (Process.fail (.collectUnsupported "system") p : Outcome Process Handle))
      (by decide +kernel)
    have created := create_num_collect (m := (Client.start p).machine) rfl
    rw [show (Client.start p).machine.process = p from rfl, panicked] at created
    exact ⟨p, _, rfl, rfl, created⟩
  · let p : Process := { sink := some ⟨"", fun _ => [.emit .error none "" []]⟩ }
    have aborted := Outcome.eq_aborted (c := .stackExhausted)
      (o := (Process.fail (.collectUnsupported "system") p : Outcome Process Handle))
      (by decide +kernel)
    have created := create_num_collect (m := (Client.start p).machine) rfl
    rw [show (Client.start p).machine.process = p from rfl, aborted] at created
    exact ⟨p, _, rfl, rfl, created⟩

end Machine

end Custody
