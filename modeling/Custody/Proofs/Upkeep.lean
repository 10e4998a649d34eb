import Custody.Proofs.Operations

/-!
# What is done between releases

An operation of a client is a release or it is none, and what it adds to the history tells which:
only a release begins one, runs destructors that were registered, gives chunks back, and is counted.
`Client.attempt_unreleased` says that all other operations do nothing of that, however they end; so
that what a history says of releases is what its releases added to it.
-/

namespace Custody

/-- Whether an event is one that only a release is made of. -/
def StorageEvent.isReleasing : StorageEvent → Bool
  | releaseBegan _ | collectedRun .. | chunkReleased .. | bulkReleased .. => true
  | made _ | granted .. | deallocated .. | retired .. | placed .. | destructionBegan _
  | destructionFailed _ | handedBack _ | miscounted .. | chunkObtained .. => false

/-- Whether an operation is a release. -/
def Operation.isRelease : Operation → Bool
  | .release .. => true
  | _ => false

namespace Machine

open Run

/-- What was noted is nothing that only a release is made of. -/
def Unreleased (m n : Machine) : Prop :=
  ∃ added, n.deeds = added ++ m.deeds ∧ ∀ e ∈ added, e.isReleasing = false

instance : IsPreorder Machine Unreleased where
  refl _ := ⟨[], rfl, nofun⟩
  trans _ _ _ first second := by
    obtain ⟨added, same, none⟩ := first
    obtain ⟨more, same', none'⟩ := second
    refine ⟨more ++ added, by rw [same', same, List.append_assoc], fun e member => ?_⟩
    rcases List.mem_append.1 member with member | member
    · exact none' e member
    · exact none e member

variable {m n : Machine} {α : Type}

theorem Settled.unreleased (h : m.Settled n) : m.Unreleased n := by
  obtain ⟨added, same, letting⟩ := h.deeds
  refine ⟨added, same, fun e member => ?_⟩
  have lettingGo := letting e member
  cases e with
  | releaseBegan a => cases lettingGo
  | collectedRun a base d => cases lettingGo
  | chunkReleased a base l => cases lettingGo
  | bulkReleased a leaked => cases lettingGo
  | _ => rfl

theorem Undisturbed.unreleased (h : m.Undisturbed n) : m.Unreleased n := h.settled.unreleased

theorem unreleased_of_settled {act : Run Machine α} (h : act.Keeps Settled) :
    act.Keeps Unreleased := h.mono fun _ _ => Settled.unreleased

theorem unreleased_of_undisturbed {act : Run Machine α} (h : act.Keeps Undisturbed) :
    act.Keeps Unreleased := h.mono fun _ _ => Undisturbed.unreleased

theorem onMemory_unreleased (f : Memory → Memory) : (onMemory f).Keeps Unreleased :=
  fun _ => ⟨[], rfl, nofun⟩

theorem noteStorage_unreleased {e : StorageEvent} (h : e.isReleasing = false) :
    (noteStorage e).Keeps Unreleased :=
  fun _ => ⟨[e], rfl, fun f member => by rw [List.mem_singleton.1 member, h]⟩

theorem dropHandle_unreleased (h : Handle) : (dropHandle h).Keeps Unreleased :=
  unreleased_of_settled (dropHandle_settled h)

theorem dropValue_unreleased (v : Value) : (dropValue v).Keeps Unreleased :=
  unreleased_of_settled (settle_settled v.plan)

theorem recount_unreleased [Inhabited α] (c : CellId)
    (operation : BlockState → BlockState × Except CountFault α)
    (kept : ∀ s, (operation s).1.owner = s.owner) : (recount c operation).Keeps Unreleased :=
  unreleased_of_settled (recount_settled c kept)

theorem clone_unreleased (h : Handle) : (clone h).Keeps Unreleased :=
  clone_keeps (fun _ => recount_unreleased) h

theorem acquire_unreleased (h : Handle) : (acquire h).Keeps Unreleased := fun m => by
  rw [← state_bind_pure (acquire h) fun _ => h]
  exact clone_unreleased h m

/-! ## Creating -/

theorem allocate_unreleased (id : AllocatorId) (l : Layout) (d : Option Destructor) :
    (allocate id l d).Keeps Unreleased := by
  have noted (a : Allocator) (grant : Grant) : (noteGrant id a l d grant).Keeps Unreleased := by
    unfold noteGrant
    cases chunkObtained? a l grant with
    | none => exact Keeps.bind (Keeps.pure ()) fun _ => noteStorage_unreleased rfl
    | some chunk =>
      exact Keeps.bind (noteStorage_unreleased rfl) fun _ => noteStorage_unreleased rfl
  intro m
  cases found : m.memory.allocator? id with
  | none =>
    rw [allocate_of_none found]
    exact refl_of Unreleased m
  | some a =>
    rw [allocate_of_some found]
    generalize m.memory.allocate id a l d = answer
    obtain ⟨e | grant, after⟩ := answer
    · exact ⟨[], rfl, nofun⟩
    · exact Keeps.bind (noted a grant) (fun _ => Keeps.pure (Except.ok (ε := AllocError) grant)) _

theorem settleIn_unreleased (home : AllocatorId) (grant : Grant) (l : Layout) (offset : Nat)
    (state : Option BlockState) (v : Value) :
    (settleIn home grant l offset state v).Keeps Unreleased :=
  fun m => ⟨[.placed home m.memory.cells.next], rfl,
    fun e member => by rw [List.mem_singleton.1 member]; rfl⟩

theorem placeUnique_unreleased (home : AllocatorId) (v : Value) :
    (placeUnique home v).Keeps Unreleased := by
  refine Keeps.bind (allocate_unreleased _ _ _) fun answer => ?_
  cases answer with
  | error e => exact Keeps.pure _
  | ok grant => exact Keeps.bind (settleIn_unreleased _ _ _ _ _ _) fun _ => Keeps.pure _

theorem tryCreateBlock_unreleased (owner : BlockOwner) (home : AllocatorId) (v : Value) :
    (tryCreateBlock owner home v).Keeps Unreleased := by
  unfold tryCreateBlock
  cases v.kind.layout.block? with
  | none => exact Keeps.bind (dropValue_unreleased v) fun _ => Keeps.pure _
  | some l =>
    refine Keeps.bind (Keeps.gets _) fun subject => ?_
    refine Keeps.bind (allocate_unreleased _ _ _) fun answer => ?_
    cases answer with
    | error e => exact Keeps.bind (dropValue_unreleased v) fun _ => Keeps.pure _
    | ok grant => exact Keeps.bind (settleIn_unreleased _ _ _ _ _ _) fun _ => Keeps.pure _

theorem tryCreate_unreleased (owner : Owner) (home : AllocatorId) (v : Value) :
    (tryCreate owner home v).Keeps Unreleased := by
  cases owner with
  | block o => exact tryCreateBlock_unreleased o home v
  | unique =>
    refine Keeps.bind (placeUnique_unreleased home v) fun answer => ?_
    cases answer with
    | error e => exact Keeps.bind (dropValue_unreleased v) fun _ => Keeps.pure _
    | ok h => exact Keeps.pure _

theorem create_unreleased (owner : Owner) (home : AllocatorId) (v : Value) :
    (create owner home v).Keeps Unreleased := by
  have fails (e : AllocError) : (failAllocation home e : Run Machine Handle).Keeps Unreleased :=
    Keeps.bind (Keeps.gets _) fun _ => unreleased_of_undisturbed (fail_undisturbed _)
  cases owner with
  | block o =>
    refine Keeps.bind (tryCreateBlock_unreleased o home v) fun answer => ?_
    cases answer with
    | error e => exact fails e
    | ok h => exact Keeps.pure h
  | unique =>
    refine Keeps.bind (placeUnique_unreleased home v) fun answer => ?_
    cases answer with
    | error e => exact Keeps.onUnwind (fails e) (dropValue_unreleased v)
    | ok h => exact Keeps.pure h

/-! ## Sharing and moving -/

theorem narrowTo_unreleased (h : Handle) (kind : Kind) (target : Option Place) :
    (narrowTo h kind target).Keeps Unreleased := by
  unfold narrowTo
  cases h.link with
  | none => exact Keeps.pure _
  | some l =>
    cases target with
    | none => exact Keeps.pure _
    | some place => exact Keeps.bind (acquire_unreleased h) fun _ => Keeps.pure _

theorem narrow_unreleased (h : Handle) (kind : Kind) (place : Place) :
    (narrow h kind place).Keeps Unreleased := by
  refine Keeps.bind Keeps.get fun m => ?_
  by_cases inside : surrounds h kind place m.memory = true
  · rw [if_pos inside]
    exact narrowTo_unreleased h kind (some place)
  · rw [if_neg inside]
    exact Keeps.pure _

theorem cloneAll_unreleased (handles : List Handle) : (cloneAll handles).Keeps Unreleased := by
  induction handles with
  | nil => exact Keeps.pure _
  | cons h rest ih =>
    refine Keeps.bind (clone_unreleased h) fun copy => ?_
    exact Keeps.bind (Keeps.onUnwind ih (dropHandle_unreleased copy)) fun _ => Keeps.pure _

theorem copyValue_unreleased (v : Value) : (copyValue v).Keeps Unreleased := by
  cases v with
  | node label next back =>
    refine Keeps.bind (clone_unreleased next) fun copy => ?_
    exact Keeps.bind (Keeps.onUnwind (clone_unreleased back) (dropHandle_unreleased copy)) fun _ =>
      Keeps.pure _
  | bundle label held => exact Keeps.bind (cloneAll_unreleased held) fun _ => Keeps.pure _
  | _ => exact Keeps.pure _

theorem deepCopy_unreleased (h : Handle) : (deepCopy h).Keeps Unreleased := by
  refine Keeps.bind Keeps.get fun m => ?_
  dsimp only
  split
  · exact Keeps.bind (copyValue_unreleased _) fun v => create_unreleased _ _ v
  · exact Keeps.pure _

theorem moveOut_unreleased (h : Handle) : (moveOut h).Keeps Unreleased := by
  unfold moveOut
  cases h.link with
  | none => exact Keeps.pure _
  | some l =>
    refine Keeps.bind (Keeps.gets _) fun v => Keeps.bind (onMemory_unreleased _) fun _ => ?_
    cases h.ownership with
    | unique home =>
      exact Keeps.bind (unreleased_of_settled (settle_settled _)) fun _ => Keeps.pure _
    | _ =>
      refine Keeps.bind (Keeps.gets _) fun tasks => ?_
      exact Keeps.bind (unreleased_of_settled (settle_settled tasks)) fun _ => Keeps.pure _

theorem fromUnique_unreleased (owner : BlockOwner) (h : Handle) :
    (fromUnique owner h).Keeps Unreleased := by
  refine Keeps.bind Keeps.get fun m => Keeps.bind (moveOut_unreleased h) fun v? => ?_
  cases v? with
  | none => exact Keeps.pure _
  | some v => exact create_unreleased _ _ v

theorem intoUnique_unreleased (h : Handle) : (intoUnique h).Keeps Unreleased := by
  refine Keeps.bind Keeps.get fun m => ?_
  cases h.home? m.memory with
  | none => exact Keeps.pure _
  | some home =>
    refine Keeps.bind (moveOut_unreleased h) fun v? => ?_
    cases v? with
    | none => exact Keeps.pure _
    | some v => exact create_unreleased _ _ v

theorem retagged_unreleased (h : Handle) (owner : BlockOwner) :
    (retagged h owner).Keeps Unreleased := by
  unfold retagged
  cases h.link with
  | none => exact Keeps.bind (Keeps.pure ()) fun _ => Keeps.pure _
  | some l => exact Keeps.bind (onMemory_unreleased _) fun _ => Keeps.pure _

theorem isExclusive_unreleased (h : Handle) : (isExclusive h).Keeps Unreleased := by
  unfold isExclusive
  split
  · exact Keeps.pure _
  · exact Keeps.pure _
  · exact Keeps.pure _
  · exact recount_unreleased _ _ fun _ => rfl

theorem logRefusal_unreleased (h : Handle) (c : CellId) : (logRefusal h c).Keeps Unreleased := by
  refine Keeps.bind (Keeps.gets _) fun cell? => ?_
  cases cell? with
  | none => exact Keeps.pure ()
  | some cell => exact unreleased_of_undisturbed (write_undisturbed _ _ _ _)

/-! ## Handles inside values -/

theorem resetHandle_unreleased (p : Place) (held? : Value → Option Handle)
    (put : Handle → Value → Value) : (resetHandle p held? put).Keeps Unreleased := by
  refine Keeps.bind (Keeps.gets _) fun old? => ?_
  cases old? with
  | none => exact Keeps.pure ()
  | some old =>
    exact Keeps.bind (onMemory_unreleased _) fun _ => dropHandle_unreleased old

theorem replaceHandle_unreleased (p : Place) (held? : Value → Option Handle)
    (put : Handle → Value → Value) (h : Handle) :
    (replaceHandle p held? put h).Keeps Unreleased :=
  Keeps.atEnd (resetHandle_unreleased p held? put) (onMemory_unreleased _)

theorem linkNext_unreleased (p : Place) (h : Handle) : (linkNext p h).Keeps Unreleased :=
  Keeps.bind (clone_unreleased h) fun _ => replaceHandle_unreleased _ _ _ _

theorem linkBack_unreleased (p : Place) (h : Handle) : (linkBack p h).Keeps Unreleased := by
  refine Keeps.bind (clone_unreleased _) fun observer => ?_
  refine Keeps.atEnd ?_ (dropHandle_unreleased observer)
  exact Keeps.bind (clone_unreleased observer) fun _ => replaceHandle_unreleased _ _ _ _

theorem changeIfExclusive_unreleased (h : Handle) (f : Value → Value) :
    (changeIfExclusive h f).Keeps Unreleased := by
  unfold changeIfExclusive
  cases h.target? with
  | none => exact Keeps.pure _
  | some place =>
    refine Keeps.bind (isExclusive_unreleased h) fun alone => ?_
    cases alone with
    | true => exact Keeps.bind (onMemory_unreleased _) fun _ => Keeps.pure _
    | false => exact Keeps.pure _

end Machine

/-! ## Operations of clients -/

namespace Client

open Machine

/-- What a client does to its machine is nothing that only a release is made of. -/
def Unreleased (c d : Client) : Prop := c.machine.Unreleased d.machine

instance : IsPreorder Client Unreleased where
  refl c := refl_of Machine.Unreleased c.machine
  trans _ _ _ first second := trans_of Machine.Unreleased first second

variable {α : Type}

theorem onMachine_unreleased {act : Run Machine α} (h : act.Keeps Machine.Unreleased) :
    (onMachine act).Keeps Unreleased := Run.Keeps.within h fun _ _ kept => kept

theorem hold_unreleased (handles : List Handle) : (hold handles).Keeps Unreleased :=
  fun c => refl_of Unreleased c

theorem lose_unreleased (handles : List Handle) : (lose handles).Keeps Unreleased :=
  fun c => refl_of Unreleased c

theorem yielding_unreleased {act : Run Machine α} {handles : α → List Handle}
    (h : act.Keeps Machine.Unreleased) : (yielding act handles).Keeps Unreleased :=
  Run.Keeps.bind (onMachine_unreleased h) fun _ => hold_unreleased _

theorem spending_unreleased {handles : List Handle} {act : Run Client Unit}
    (h : act.Keeps Unreleased) : (spending handles act).Keeps Unreleased := by
  intro c
  unfold spending
  cases takeAll handles c.held with
  | none => exact refl_of Unreleased c
  | some rest => exact h { c with held := rest }

theorem provided_unreleased {condition : Client → Bool} {act : Run Client Unit}
    (h : act.Keeps Unreleased) : (provided condition act).Keeps Unreleased := by
  intro c
  unfold provided
  by_cases met : condition c = true
  · rw [if_pos met]
    exact h c
  · rw [if_neg met]
    exact refl_of Unreleased c

theorem intoOwn_unreleased (h : Handle) : (intoOwn h).Keeps Unreleased := by
  unfold intoOwn canOwnAlone
  cases h.link with
  | none => exact hold_unreleased _
  | some l =>
    refine Run.Keeps.bind (onMachine_unreleased ?_) fun alone => ?_
    · by_cases projected : l.projected = true
      · rw [if_pos projected]
        exact Run.Keeps.pure _
      · rw [if_neg projected]
        exact isExclusive_unreleased h
    · cases alone with
      | true => exact yielding_unreleased (retagged_unreleased h .own)
      | false =>
        refine Run.Keeps.bind ?_ fun _ => yielding_unreleased (dropHandle_unreleased h)
        exact Run.Keeps.onUnwind (onMachine_unreleased (logRefusal_unreleased h l.cell))
          (lose_unreleased [h])

theorem convert_unreleased (h : Handle) (owner : Owner) : (convert h owner).Keeps Unreleased := by
  unfold convert
  by_cases alone : mustBeAlone h owner = true
  · rw [if_pos alone]
    exact intoOwn_unreleased h
  · rw [if_neg alone]
    cases is : Machine.convert h owner with
    | none => exact hold_unreleased _
    | some conversion =>
      rcases convert_cases is with ⟨home, o, -, rfl, rfl⟩ | ⟨-, rfl, rfl⟩ | ⟨-, o, -, rfl, rfl⟩ |
        ⟨shared, rfl⟩
      · exact yielding_unreleased (fromUnique_unreleased o h)
      · exact yielding_unreleased (intoUnique_unreleased h)
      · exact yielding_unreleased (retagged_unreleased h o)
      · refine absurd ?_ alone
        rw [mustBeAlone, shared]
        rfl

theorem allocateFor_unreleased (v : Value) (a : AllocatorId) (l : Layout) (offset : Nat) :
    (allocateFor v a l offset).Keeps Unreleased := by
  refine Run.Keeps.bind (onMachine_unreleased (Run.Keeps.gets _)) fun subject => ?_
  refine Run.Keeps.bind (onMachine_unreleased (allocate_unreleased _ _ _)) fun answer => ?_
  cases answer with
  | error e => exact hold_unreleased _
  | ok grant => exact onMachine_unreleased (onMemory_unreleased _)

theorem exchange_unreleased (cell : CellId) (v : Value) : (exchange cell v).Keeps Unreleased := by
  refine Run.Keeps.bind (onMachine_unreleased (Run.Keeps.gets _)) fun old? => ?_
  cases old? with
  | none => exact hold_unreleased _
  | some old =>
    dsimp only
    by_cases same : old.kind = v.kind
    · rw [if_pos same]
      exact Run.Keeps.bind (onMachine_unreleased (onMemory_unreleased _)) fun _ =>
        hold_unreleased _
    · rw [if_neg same]
      exact hold_unreleased _

theorem perform_unreleased {op : Operation} (other : op.isRelease = false) :
    (perform op).Keeps Unreleased := by
  cases op with
  | create owner home v fallible =>
    refine spending_unreleased ?_
    cases fallible with
    | true => exact yielding_unreleased (tryCreate_unreleased _ _ _)
    | false => exact yielding_unreleased (create_unreleased _ _ _)
  | destroy v => exact spending_unreleased (yielding_unreleased (dropValue_unreleased v))
  | clone h => exact provided_unreleased (yielding_unreleased (clone_unreleased h))
  | downgrade h => exact provided_unreleased (yielding_unreleased (clone_unreleased _))
  | upgrade h =>
    exact provided_unreleased (yielding_unreleased (upgrade_keeps (fun _ => recount_unreleased) h))
  | narrow h kind place checked =>
    refine provided_unreleased ?_
    cases checked with
    | true => exact yielding_unreleased (narrow_unreleased h kind place)
    | false => exact yielding_unreleased (narrowTo_unreleased h kind (some place))
  | deepCopy h => exact provided_unreleased (yielding_unreleased (deepCopy_unreleased h))
  | take h => exact spending_unreleased (hold_unreleased _)
  | reset h => exact spending_unreleased (yielding_unreleased (dropHandle_unreleased h))
  | assign old new =>
    refine spending_unreleased ?_
    exact Run.Keeps.atEnd (onMachine_unreleased (dropHandle_unreleased old)) (hold_unreleased _)
  | drop h => exact spending_unreleased (yielding_unreleased (dropHandle_unreleased h))
  | forget h => exact spending_unreleased (lose_unreleased _)
  | convert h owner => exact spending_unreleased (convert_unreleased h owner)
  | moveOut h =>
    exact provided_unreleased (spending_unreleased (yielding_unreleased (moveOut_unreleased h)))
  | set h d =>
    exact provided_unreleased (yielding_unreleased (changeIfExclusive_unreleased h _))
  | exchange cell v => exact spending_unreleased (exchange_unreleased cell v)
  | linkNext p h => exact provided_unreleased (yielding_unreleased (linkNext_unreleased p h))
  | linkBack p h => exact provided_unreleased (yielding_unreleased (linkBack_unreleased p h))
  | unlinkNext p => exact yielding_unreleased (resetHandle_unreleased p _ _)
  | allocateFor v a l offset => exact spending_unreleased (allocateFor_unreleased v a l offset)
  | allocate a l => exact yielding_unreleased (allocate_unreleased a l none)
  | deallocate a address l =>
    exact yielding_unreleased (unreleased_of_settled (deallocate_settled a address l))
  | retire a address l =>
    exact yielding_unreleased (unreleased_of_settled (retire_settled a address l))
  | makeHeap =>
    exact yielding_unreleased fun m => ⟨[.made m.memory.allocators.next], rfl,
      fun e member => by rw [List.mem_singleton.1 member]; rfl⟩
  | makeArena name config =>
    exact yielding_unreleased fun m => ⟨[.made m.memory.allocators.next], rfl,
      fun e member => by rw [List.mem_singleton.1 member]; rfl⟩
  | release a exit => cases other
  | act actions =>
    exact yielding_unreleased
      (unreleased_of_undisturbed (onProcess_undisturbed (Process.perform_silent _ _)))
  | caught => exact yielding_unreleased fun m => ⟨[], rfl, nofun⟩

/-- An operation that is no release does nothing that only a release is made of. -/
theorem attempt_unreleased {op : Operation} (other : op.isRelease = false) :
    (attempt op).Keeps Unreleased :=
  Run.Keeps.bind (Run.Keeps.catchingWith (perform_unreleased other) fun c => refl_of Unreleased c)
    fun _ => Run.Keeps.pure ()

end Client

end Custody
