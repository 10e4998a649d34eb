import Custody.Proofs.Courses.Moving
import Custody.Proofs.Lockstep

/-!
# Runs that keep abreast

What a program does with a strong group, another does with a local one: `Handle.asLocal` is the
handle that it has, and `Owner.asLocal` the kind of owner that it creates. Two runs are abreast
between two operations if their machines are twins and the books of both balance with their
handles, and `Run.bind_abreast` carries this from one operation to the next. Every operation that
strong and local owners have in common ends in the same way for both, with the same answer or with
the handle that stands for it.

Counts are the one thing in which the groups could differ: a strong group counts one owner more
than a local one. As long as fewer owners are counted than both allow, neither fails.
-/

namespace Custody

/-! ## Local counterparts -/

/-- The kind of owner on one thread that stands for a strong one. -/
def BlockOwner.asLocal : BlockOwner → BlockOwner
  | strong => handle
  | other => other

/-- The kind of owner that stands for another when no group is strong. -/
def Owner.asLocal : Owner → Owner
  | unique => unique
  | block owner => block owner.asLocal

/-- The way of owning that stands for another when no group is strong. -/
def Ownership.asLocal : Ownership → Ownership
  | block owner => block owner.asLocal
  | other => other

namespace Handle

/-- The handle that stands for another when no group is strong. -/
def asLocal (h : Handle) : Handle := h.held h.ownership.asLocal

@[simp] theorem link_asLocal (h : Handle) : h.asLocal.link = h.link := rfl

theorem twin_asLocal (h : Handle) : h.Twin h.asLocal := by
  obtain ⟨ownership, kind, link⟩ := h
  cases ownership with
  | unique home => exact .same _
  | weak => exact .same _
  | block owner =>
    cases owner with
    | strong => exact .shared rfl
    | _ => exact .same _

theorem asLocal_whole (owner : Owner) (home : AllocatorId) (kind : Kind) (c : CellId) :
    (whole (owner.ownership home) kind c).asLocal =
      whole (owner.asLocal.ownership home) kind c := by
  cases owner <;> rfl

end Handle

/-- Cells that are fresh from their owners. -/
theorem Cell.Twin.fresh (cell : Cell) (owner : BlockOwner) :
    Cell.Twin { cell with state := some (.fresh owner) }
      { cell with state := some (.fresh owner.asLocal) } := by
  cases owner with
  | strong => exact .shared (c := { cell with state := some (.strong 1 1) }) rfl (.inr rfl)
  | _ => exact .same _

namespace Machine

open Situation

/-- Two runs between two operations: machines that are twins, and books that balance in either
run. -/
structure Abreast (m : Machine) (k : List Handle) (n : Machine) (k' : List Handle) : Prop where
  twins : m.Twins n
  first : (rest m k).Balanced
  second : (rest n k').Balanced
  directed : (rest n k').Directed

/-- Twin handles that are on the books of machines that are twins. -/
structure Booked (m : Machine) (h : Handle) (n : Machine) (h' : Handle) : Prop where
  twins : m.Twins n
  twin : h.Twin h'
  first : ∃ tasks, m.Books tasks ∧ m.Seen tasks h
  second : ∃ tasks, n.Books tasks ∧ n.Seen tasks h'

/-- Fewer owners are counted in every strong group than can be. -/
def Countable (m : Machine) : Prop :=
  ∀ c s w, m.memory.block? c = some (.strong s w) → s < maxRefCount

/-- A machine is countable if every control block is. -/
theorem countable_of_all {m : Machine} (all : ∀ place ∈ m.memory.cells.places, ∀ cell ∈ place,
    ∀ state ∈ cell.state, state.owners < maxRefCount) : m.Countable := by
  intro c s w block
  obtain ⟨cell, found, state⟩ := Option.bind_eq_some_iff.1 block
  have member := List.mem_of_getElem? (Option.join_eq_some_iff.1 found)
  exact all _ member cell rfl _ state

variable {m n u v : Machine} {k k' l l' : List Handle} {h h' : Handle}

/-- Where both runs have got on to. -/
theorem Abreast.after (abreast : m.Abreast k n k')
    (leads : Situation.Leads True (rest m k) (rest u l))
    (leads' : Situation.Leads True (rest n k') (rest v l')) (twins : u.Twins v) :
    u.Abreast l v l' :=
  ⟨twins, abreast.first.leads leads, abreast.second.leads leads',
    abreast.directed.leads leads' abreast.second⟩

/-- The handles of two runs are on the books. -/
theorem Abreast.booked (abreast : m.Abreast k n k') (twin : h.Twin h') (member : h ∈ k)
    (member' : h' ∈ k') : m.Booked h n h' :=
  ⟨abreast.twins, twin, ⟨_, abreast.first.books, seen_of_mem (List.mem_map_of_mem member)⟩,
    ⟨_, abreast.second.books, seen_of_mem (List.mem_map_of_mem member')⟩⟩

theorem Booked.cellsOf (booked : m.Booked h n h') {l : Link} (link : h.link = some l) :
    CellsOf m n l h h' := by
  obtain ⟨tasks, books, seen⟩ := booked.first
  obtain ⟨tasks', books', seen'⟩ := booked.second
  exact booked.twins.cellsOf booked.twin books seen books' seen' link

end Machine

namespace Outcome.Paired

variable {σ τ α β : Type} {V W : α → β → Prop} {S : σ → τ → Prop} {o : Outcome σ α}
  {u : Outcome τ β}

/-- What does not return has whatever answer is asked for. -/
theorem of_ensures {unwinds : σ → Prop} (h : o.Paired V S u)
    (never : o.Ensures (fun _ _ => False) unwinds) : o.Paired W S u := by
  cases h with
  | returned answers states => exact never.elim
  | unwinding states => exact .unwinding states
  | aborted states => exact .aborted states

end Outcome.Paired

namespace Run

open Machine Situation

variable {α α' β β' : Type} {m n : Machine} {k k' : List Handle}
  {V : α → β → Prop} {W : α' → β' → Prop}

/-- One operation after another, in runs that are abreast. -/
theorem bind_abreast {act : Run Machine α} {act' : Run Machine β} {next : α → Run Machine α'}
    {next' : β → Run Machine β'} {returns : α → List Handle} {returns' : β → List Handle}
    (abreast : m.Abreast k n k') (first : (act m).Paired V Twins (act' n))
    (leads : (act m).Leads True (rest m k) returns k)
    (leads' : (act' n).Leads True (rest n k') returns' k')
    (second : ∀ a b u v, act m = .returned a u → act' n = .returned b v → V a b →
      u.Abreast (returns a) v (returns' b) → (next a u).Paired W Twins (next' b v)) :
    ((act >>= next) m).Paired W Twins ((act' >>= next') n) := by
  refine bind_paired first fun a b u v ended ended' answers twins => ?_
  rw [ended] at leads
  rw [ended'] at leads'
  exact second a b u v ended ended' answers (abreast.after leads leads' twins)

theorem onUnwind_abreast {act : Run Machine α} {act' : Run Machine β}
    {last last' : Run Machine Unit} {returns : α → List Handle} {returns' : β → List Handle}
    {unwinds unwinds' : List Handle} (abreast : m.Abreast k n k')
    (first : (act m).Paired V Twins (act' n))
    (leads : (act m).Leads True (rest m k) returns unwinds)
    (leads' : (act' n).Leads True (rest n k') returns' unwinds')
    (after : ∀ u v, u.Abreast unwinds v unwinds' → (last u).Paired Eq Twins (last' v)) :
    (onUnwind act last m).Paired V Twins (onUnwind act' last' n) := by
  refine onUnwind_paired first fun p u v ended ended' twins => ?_
  rw [ended] at leads
  rw [ended'] at leads'
  exact (after u v (abreast.after leads leads' twins)).mono fun _ _ _ => trivial

end Run

namespace Machine

open Situation Session

variable {m n : Machine} {k k' : List Handle} {h h' : Handle} {v : Value}

/-! ## Letting go -/

/-- Settling begins in lockstep where both runs begin to settle twins. -/
private theorem settled_paired {tasks tasks' : List Task} {l l' : List Handle}
    (abreast : m.Abreast k n k') (same : List.Forall₂ Task.Twin tasks tasks')
    (step : Situation.Step True (rest m k) ⟨m, l, tasks, []⟩)
    (step' : Situation.Step True (rest n k') ⟨n, l', tasks', []⟩) :
    (settle tasks m).Paired Eq Twins (settle tasks' n) :=
  drain_paired ⟨abreast.twins, same, .nil, abreast.first.step step, abreast.second.step step',
    abreast.directed.step abreast.second step'⟩

theorem dropHandle_paired (twin : h.Twin h') (abreast : m.Abreast (h :: k) n (h' :: k')) :
    (dropHandle h m).Paired Eq Twins (dropHandle h' n) :=
  settled_paired abreast (.cons (.alike (.drop twin)) .nil) (.letGo h) (.letGo h')

theorem dropValue_paired (v : Value) (abreast : m.Abreast (v.handles ++ k) n (v.handles ++ k')) :
    (dropValue v m).Paired Eq Twins (dropValue v n) :=
  settled_paired abreast (Task.twins_refl _) (.destroyed v) (.destroyed v)

/-! ## Creating -/

theorem settleIn_paired (home : AllocatorId) (grant : Grant) (layout : Layout) (offset : Nat)
    {state state' : Option BlockState} (v : Value) (twins : m.Twins n)
    (cells : Cell.Twin ⟨some home, grant.address, layout, offset, v.kind, state, v⟩
      ⟨some home, grant.address, layout, offset, v.kind, state', v⟩) :
    (settleIn home grant layout offset state v m).Paired Eq Twins
      (settleIn home grant layout offset state' v n) := by
  unfold settleIn
  rw [twins.memory.next]
  exact .returned rfl ⟨twins.process.after (.same _), twins.memory.addCell cells⟩

theorem placeUnique_paired (home : AllocatorId) (v : Value) (twins : m.Twins n) :
    (placeUnique home v m).Paired (fun a b => b = a.map Handle.asLocal) Twins
      (placeUnique home v n) := by
  refine Run.bind_paired (allocate_pairs home _ none m n twins) ?_
  rintro answer _ u w - - rfl twins
  cases answer with
  | error e => exact .returned rfl twins
  | ok grant =>
    refine Run.bind_paired (settleIn_paired home grant _ 0 v twins (.same _)) ?_
    rintro c _ u w - - rfl twins
    exact .returned rfl twins

private theorem blockDestructor_asLocal (owner : BlockOwner) (offset : Nat) (c : CellId) :
    blockDestructor owner.asLocal offset c = blockDestructor owner offset c := by
  cases owner <;> rfl

/-- A request for a block that is refused changes nothing that the books speak of. -/
private theorem refused_leads {owner : BlockOwner} {home : AllocatorId} {l : Layout} {offset : Nat}
    {e : AllocError}
    (asked : allocate home l (blockDestructor owner offset m.memory.cells.next) m =
      .returned (.error e) n) : Situation.Leads True (rest m k) (rest n k) := by
  refine .single (.refused (fun d is => ?_) asked)
  unfold blockDestructor at is
  split at is
  · cases is
    rfl
  · cases is

theorem tryCreateBlock_paired (owner : BlockOwner) (home : AllocatorId)
    (abreast : m.Abreast (v.handles ++ k) n (v.handles ++ k')) :
    (tryCreateBlock owner home v m).Paired (fun a b => b = a.map Handle.asLocal) Twins
      (tryCreateBlock owner.asLocal home v n) := by
  have twins := abreast.twins
  unfold tryCreateBlock
  cases v.kind.layout.block? with
  | none =>
    refine Run.bind_paired (dropValue_paired v abreast) fun _ _ _ _ _ _ _ twins => ?_
    exact .returned rfl twins
  | some l =>
    show Outcome.Paired _ _
      ((allocate home l (blockDestructor owner v.kind.layout.valueOffset m.memory.cells.next)
        m).andThen _)
      ((allocate home l (blockDestructor owner.asLocal v.kind.layout.valueOffset
        n.memory.cells.next) n).andThen _)
    refine Outcome.Paired.andThen (V := Eq) (S := Twins) ?_
      fun answer _ u w asked asked' is twins => ?_
    · rw [blockDestructor_asLocal, twins.memory.next]
      exact allocate_pairs home l _ m n twins
    · cases is
      cases answer with
      | error e =>
        have abreast := abreast.after (refused_leads asked) (refused_leads asked') twins
        refine Run.bind_paired (dropValue_paired v abreast) fun _ _ _ _ _ _ _ twins => ?_
        exact .returned rfl twins
      | ok grant =>
        refine Run.bind_paired (settleIn_paired home grant l _ v twins
          (.fresh ⟨some home, grant.address, l, _, v.kind, none, v⟩ owner)) ?_
        rintro c _ _ _ _ _ rfl twins
        exact .returned (congrArg Except.ok (Handle.asLocal_whole (.block owner) home _ c).symm)
          twins

theorem tryCreate_paired (owner : Owner) (home : AllocatorId)
    (abreast : m.Abreast (v.handles ++ k) n (v.handles ++ k')) :
    (tryCreate owner home v m).Paired (fun a b => b = a.map Handle.asLocal) Twins
      (tryCreate owner.asLocal home v n) := by
  cases owner with
  | block o => exact tryCreateBlock_paired o home abreast
  | unique =>
    refine Run.bind_abreast abreast (placeUnique_paired home v abreast.twins)
      (placeUnique_leads home) (placeUnique_leads home) ?_
    rintro answer _ u w - - rfl abreast
    cases answer with
    | ok g => exact .returned rfl abreast.twins
    | error e =>
      refine Run.bind_paired (dropValue_paired v abreast) fun _ _ _ _ _ _ _ twins => ?_
      exact .returned rfl twins

/-- A failure for want of storage comes back in neither run. -/
theorem failAllocation_paired {α : Type} {V : α → α → Prop} (home : AllocatorId) (e : AllocError)
    (twins : m.Twins n) : (failAllocation home e m).Paired V Twins (failAllocation home e n) := by
  have name : n.memory.allocatorName home = m.memory.allocatorName home := by
    unfold Memory.allocatorName
    rw [twins.memory.allocator?]
  show (fail (e.toFault (m.memory.allocatorName home)) m).Paired V Twins
    (fail (e.toFault (n.memory.allocatorName home)) n)
  rw [name]
  exact (fail_pairs _ m n twins).of_ensures (fail_ensures _ m)

theorem create_paired (owner : Owner) (home : AllocatorId)
    (abreast : m.Abreast (v.handles ++ k) n (v.handles ++ k')) :
    (create owner home v m).Paired (fun g g' => g' = g.asLocal) Twins
      (create owner.asLocal home v n) := by
  cases owner with
  | block o =>
    refine Run.bind_paired (tryCreateBlock_paired o home abreast) ?_
    rintro answer _ u w - - rfl twins
    cases answer with
    | ok g => exact .returned rfl twins
    | error e => exact failAllocation_paired home e twins
  | unique =>
    refine Run.bind_abreast abreast (placeUnique_paired home v abreast.twins)
      (placeUnique_leads home) (placeUnique_leads home) ?_
    rintro answer _ u w - - rfl abreast
    cases answer with
    | ok g => exact .returned rfl abreast.twins
    | error e =>
      have leads (m : Machine) (k : List Handle) :
          (failAllocation home e m).Leads True (rest m k) (fun g : Handle => g :: k) k :=
        failAllocation_leads home e
      exact Run.onUnwind_abreast abreast (failAllocation_paired home e abreast.twins)
        (leads _ _) (leads _ _) fun _ _ abreast => dropValue_paired v abreast

/-! ## Counting one more handle -/

/-- To count one more handle to a cell that is the same. -/
private theorem acquire_same (twins : m.Twins n)
    (same : ∀ l, h.link = some l → n.memory.cell? l.cell = m.memory.cell? l.cell) :
    (acquire h m).Paired Eq Twins (acquire h n) := by
  unfold acquire
  cases link : h.link with
  | none => exact .returned rfl twins
  | some l =>
    have same := same l link
    cases h.ownership with
    | unique home => exact .returned rfl twins
    | weak => exact recount_paired _ twins same
    | block owner =>
      cases owner with
      | strong => exact recount_paired _ twins same
      | handle => exact recount_paired _ twins same
      | _ => exact .returned rfl twins

theorem acquire_paired (booked : m.Booked h n h') (countable : m.Countable) :
    (acquire h m).Paired Eq Twins (acquire h' n) := by
  have twins := booked.twins
  have twin := booked.twin
  cases link : h.link with
  | none =>
    unfold acquire
    rw [twin.link, link]
    exact .returned rfl twins
  | some l =>
    cases booked.cellsOf link with
    | same same =>
      refine acquire_same twins fun l' link' => ?_
      obtain rfl : l = l' := Option.some.inj (link.symm.trans link')
      exact same
    | shared owns found state homed alive found' =>
      have few := countable l.cell _ _ (Option.bind_eq_some_iff.2 ⟨_, found, state⟩)
      have strong : acquire h = recount l.cell BlockState.incrementStrong := by
        unfold acquire
        rw [link, owns]
      have onThread : acquire (h.held (.block .handle)) =
          recount l.cell BlockState.incrementLocal := by
        unfold acquire
        rw [twin.link, link]
        rfl
      rw [strong, onThread]
      refine recount_shared twins found state found' ?_ (if_pos few) (.inr rfl)
      unfold BlockState.incrementStrong BlockState.raised
      dsimp only
      rw [if_pos (UInt64.le_of_lt few)]

theorem clone_paired (booked : m.Booked h n h') (countable : m.Countable) :
    (clone h m).Paired (fun g g' => g = h ∧ g' = h') Twins (clone h' n) := by
  refine Run.bind_paired (acquire_paired booked countable) ?_
  exact fun _ _ _ _ _ _ _ twins => .returned ⟨rfl, rfl⟩ twins

/-! ## Copies -/

/-- A clone of a handle that is the same in both runs. -/
private theorem clone_same (abreast : m.Abreast k n k') (copyable : m.Copyable h)
    (copyable' : n.Copyable h) : (clone h m).Paired Eq Twins (clone h n) := by
  refine Run.bind_paired (acquire_same abreast.twins fun l link => ?_)
    fun _ _ _ _ _ _ _ twins => .returned rfl twins
  exact abreast.twins.cell_same abreast.first.balanced.books (copyable.seen _)
    abreast.second.balanced.books (copyable'.seen _) link

theorem cloneAll_paired (handles : List Handle) (copyable : ∀ h ∈ handles, m.Copyable h)
    (copyable' : ∀ h ∈ handles, n.Copyable h) (abreast : m.Abreast k n k') :
    (cloneAll handles m).Paired Eq Twins (cloneAll handles n) := by
  induction handles generalizing m n k k' with
  | nil => exact .returned rfl abreast.twins
  | cons h others ih =>
    have first := copyable h (List.mem_cons_self ..)
    have first' := copyable' h (List.mem_cons_self ..)
    refine Run.bind_abreast abreast (clone_same abreast first first')
      (clone_leads first.1 (first.seen _)) (clone_leads first'.1 (first'.seen _)) ?_
    rintro g _ u w done done' rfl abreast
    have same := clone_sameRefs h m
    rw [done] at same
    have same' := clone_sameRefs h n
    rw [done'] at same'
    have copyable := fun k member => (copyable k (List.mem_cons_of_mem _ member)).sameRefs same
    have copyable' := fun k member => (copyable' k (List.mem_cons_of_mem _ member)).sameRefs same'
    refine Run.bind_paired (Run.onUnwind_abreast abreast (ih copyable copyable' abreast)
      (cloneAll_leads others copyable abreast.first)
      (cloneAll_leads others copyable' abreast.second)
      fun _ _ abreast => dropHandle_paired (.same g) abreast) ?_
    rintro copies _ u w - - rfl twins
    exact .returned rfl twins

theorem copyValue_paired {v : Value} (copyable : ∀ h ∈ v.handles, m.Copyable h)
    (copyable' : ∀ h ∈ v.handles, n.Copyable h) (abreast : m.Abreast k n k') :
    (copyValue v m).Paired Eq Twins (copyValue v n) := by
  cases v with
  | node label next back =>
    have first := copyable next (List.mem_cons_self ..)
    have first' := copyable' next (List.mem_cons_self ..)
    refine Run.bind_abreast abreast (clone_same abreast first first')
      (clone_leads first.1 (first.seen _)) (clone_leads first'.1 (first'.seen _)) ?_
    rintro g _ u w done done' rfl abreast
    have same := clone_sameRefs next m
    rw [done] at same
    have same' := clone_sameRefs next n
    rw [done'] at same'
    have second := (copyable back (by simp [Value.handles])).sameRefs same
    have second' := (copyable' back (by simp [Value.handles])).sameRefs same'
    refine Run.bind_paired (Run.onUnwind_abreast abreast (clone_same abreast second second')
      (clone_leads second.1 (second.seen _)) (clone_leads second'.1 (second'.seen _))
      fun _ _ abreast => dropHandle_paired (.same g) abreast) ?_
    rintro copy _ u w - - rfl twins
    exact .returned rfl twins
  | bundle label held =>
    refine Run.bind_paired (cloneAll_paired held copyable copyable' abreast) ?_
    rintro copies _ u w - - rfl twins
    exact .returned rfl twins
  | _ => exact .returned rfl abreast.twins

/-! ## Looking -/

section Looking

variable (twins : m.Twins n) (h : Handle)

include twins

theorem value?_asLocal : h.asLocal.value? n.memory = h.value? m.memory := by
  obtain ⟨ownership, kind, link⟩ := h
  have seen (p? : Option Place) : p?.bind n.memory.read? = p?.bind m.memory.read? := by
    cases p? with
    | none => rfl
    | some p => exact twins.memory.read? p
  cases ownership with
  | unique home => exact seen _
  | weak => rfl
  | block owner => exact seen _

theorem home?_asLocal : h.asLocal.home? n.memory = h.home? m.memory := by
  obtain ⟨ownership, kind, link⟩ := h
  cases ownership with
  | unique home => rfl
  | weak => rfl
  | block owner =>
    cases link with
    | none => rfl
    | some l => exact twins.memory.bind (fun _ _ twin => twin.home) l.cell

theorem owners_asLocal : h.asLocal.owners n.memory = h.owners m.memory := by
  unfold Handle.owners
  rw [Handle.link_asLocal]
  cases h.link with
  | none => rfl
  | some l => exact congrArg (Option.getD · 0) (twins.memory.owners l.cell)

theorem surrounds_asLocal (kind : Kind) (place : Place) :
    surrounds h.asLocal kind place n.memory = surrounds h kind place m.memory := by
  have target : h.asLocal.target? = h.target? := h.twin_asLocal.target?
  have outer : h.target?.bind n.memory.address? = h.target?.bind m.memory.address? := by
    cases h.target? with
    | none => rfl
    | some p => exact twins.memory.address? p
  unfold surrounds
  rw [target, outer, twins.memory.address?]
  rfl

end Looking

theorem owner?_asLocal (h : Handle) : h.asLocal.owner? = h.owner?.map Owner.asLocal := by
  obtain ⟨ownership, kind, link⟩ := h
  cases ownership <;> rfl

theorem deepCopy_paired
    (copyable : ∀ v, h.value? m.memory = some v → ∀ g ∈ v.handles, m.Copyable g)
    (copyable' : ∀ v, h.asLocal.value? n.memory = some v → ∀ g ∈ v.handles, n.Copyable g)
    (abreast : m.Abreast k n k') :
    (deepCopy h m).Paired (fun g g' => g' = g.asLocal) Twins (deepCopy h.asLocal n) := by
  have sameOwner := owner?_asLocal h
  have sameValue := value?_asLocal abreast.twins (h := h)
  have sameHome := home?_asLocal abreast.twins (h := h)
  have nothing (missing : h.owner? = none ∨ h.value? m.memory = none ∨ h.home? m.memory = none) :
      (deepCopy h m).Paired (fun g g' => g' = g.asLocal) Twins (deepCopy h.asLocal n) := by
    have missing' : h.asLocal.owner? = none ∨ h.asLocal.value? n.memory = none ∨
        h.asLocal.home? n.memory = none := by
      rw [sameOwner, sameValue, sameHome, Option.map_eq_none_iff]
      exact missing
    rw [deepCopy_of_none missing, deepCopy_of_none missing']
    exact .returned rfl abreast.twins
  rw [sameValue] at copyable'
  cases owns : h.owner? with
  | none => exact nothing (.inl owns)
  | some owner =>
    cases value : h.value? m.memory with
    | none => exact nothing (.inr (.inl value))
    | some v =>
      cases lies : h.home? m.memory with
      | none => exact nothing (.inr (.inr lies))
      | some home =>
        have owns' := sameOwner.trans (congrArg _ owns)
        rw [deepCopy_of_some owns value lies, deepCopy_of_some owns' (sameValue.trans value)
          (sameHome.trans lies)]
        have copyable := copyable v value
        have copyable' := copyable' v value
        refine Run.bind_abreast abreast (copyValue_paired copyable copyable' abreast)
          (copyValue_leads copyable abreast.first)
          (copyValue_leads copyable' abreast.second) ?_
        rintro copy _ u w - - rfl abreast
        exact create_paired owner home abreast

/-! ## Narrowing and dereferencing -/

theorem narrowTo_paired (kind : Kind) (target : Option Place)
    (booked : m.Booked h n h.asLocal) (countable : m.Countable) :
    (narrowTo h kind target m).Paired (fun g g' => g' = g.asLocal) Twins
      (narrowTo h.asLocal kind target n) := by
  have twins := booked.twins
  unfold narrowTo
  rw [Handle.link_asLocal]
  cases h.link with
  | none => exact .returned rfl twins
  | some l =>
    cases target with
    | none => exact .returned rfl twins
    | some place =>
      refine Run.bind_paired
        (acquire_paired booked countable) ?_
      exact fun _ _ _ _ _ _ _ twins => .returned rfl twins

theorem narrow_paired (kind : Kind) (place : Place) (booked : m.Booked h n h.asLocal)
    (countable : m.Countable) :
    (narrow h kind place m).Paired (fun g g' => g' = g.asLocal) Twins
      (narrow h.asLocal kind place n) := by
  show Outcome.Paired _ _
    ((if surrounds h kind place m.memory then narrowTo h kind (some place)
      else pure (.empty h.ownership kind) : Run Machine Handle) m)
    ((if surrounds h.asLocal kind place n.memory then narrowTo h.asLocal kind (some place)
      else pure (.empty h.asLocal.ownership kind) : Run Machine Handle) n)
  have twins := booked.twins
  rw [surrounds_asLocal twins]
  by_cases inside : surrounds h kind place m.memory = true
  · rw [if_pos inside, if_pos inside]
    exact narrowTo_paired kind (some place) booked countable
  · rw [if_neg inside, if_neg inside]
    exact .returned rfl twins

theorem target_paired (h : Handle) (twins : m.Twins n) :
    (target h m).Paired Eq Twins (target h.asLocal n) := by
  have same : h.asLocal.target? = h.target? := h.twin_asLocal.target?
  unfold target
  rw [same]
  cases h.target? with
  | none => exact fail_pairs _ m n twins
  | some place => exact .returned rfl twins

/-! ## Being alone -/

private theorem isExclusive_of_none (empty : h.link = none) : isExclusive h = pure false := by
  unfold isExclusive
  rw [empty]

theorem isExclusive_paired (booked : m.Booked h n h') :
    (isExclusive h m).Paired Eq Twins (isExclusive h' n) := by
  have twins := booked.twins
  have twin := booked.twin
  cases link : h.link with
  | none =>
    rw [isExclusive_of_none link, isExclusive_of_none (twin.link.trans link)]
    exact .returned rfl twins
  | some l =>
    cases booked.cellsOf link with
    | same same =>
      unfold isExclusive
      rw [link]
      cases h.ownership with
      | unique home => exact .returned rfl twins
      | weak => exact .returned rfl twins
      | block owner => exact recount_paired _ twins same
    | shared owns found state homed alive found' =>
      have strong : isExclusive h =
          recount l.cell fun state => (state, state.isAlone .strong) := by
        unfold isExclusive
        rw [link, owns]
      have onThread : isExclusive (h.held (.block .handle)) =
          recount l.cell fun state => (state, state.isAlone .handle) := by
        unfold isExclusive
        rw [twin.link, link]
        rfl
      rw [strong, onThread]
      exact recount_shared twins found state found' rfl rfl (.inr rfl)

theorem changeIfExclusive_paired (f : Value → Value) (booked : m.Booked h n h.asLocal) :
    (changeIfExclusive h f m).Paired Eq Twins (changeIfExclusive h.asLocal f n) := by
  have same : h.asLocal.target? = h.target? := h.twin_asLocal.target?
  unfold changeIfExclusive
  rw [same]
  cases h.target? with
  | none => exact .returned rfl booked.twins
  | some place =>
    refine Run.bind_paired (isExclusive_paired booked) ?_
    rintro alone _ u w - - rfl twins
    cases alone with
    | false => exact .returned rfl twins
    | true =>
      have changed : Pairs (onMemory (·.change place f)) (onMemory (·.change place f)) :=
        .onMemory fun _ _ twins => twins.change place f
      exact changed.bind (fun _ => .pure true) u w twins

theorem canOwnAlone_paired (l : Link) (booked : m.Booked h n h.asLocal) :
    (canOwnAlone h l m).Paired Eq Twins (canOwnAlone h.asLocal l n) := by
  unfold canOwnAlone
  by_cases projected : l.projected = true
  · rw [if_pos projected, if_pos projected]
    exact .returned rfl booked.twins
  · rw [if_neg projected, if_neg projected]
    exact isExclusive_paired booked

/-- A block that changes hands does so in both runs. -/
theorem retagged_paired (h : Handle) (owner : BlockOwner) (twins : m.Twins n) :
    (retagged h owner m).Paired (fun g g' => g' = g.asLocal) Twins
      (retagged h.asLocal owner.asLocal n) := by
  unfold retagged
  rw [Handle.link_asLocal]
  cases h.link with
  | none => exact .returned rfl twins
  | some l =>
    refine .returned rfl ⟨twins.process, ?_⟩
    show Memory.Twins (retag l.cell owner m).state.memory
      (retag l.cell owner.asLocal n).state.memory
    cases found : m.memory.cell? l.cell with
    | none =>
      rw [retag_of_none found, retag_of_none (twins.memory.missing found)]
      exact twins.memory
    | some cell =>
      obtain ⟨cell', there, twin⟩ := twins.memory.found found
      rw [retag_of_some found, retag_of_some there]
      refine twins.memory.setCell found there ?_
      rw [twin.withState]
      exact .fresh cell owner

/-- The entries about a handle that is let go of differ in what they call it. -/
theorem logRefusal_paired (h : Handle) (c : CellId) (twins : m.Twins n) :
    (logRefusal h c m).Paired Eq Twins (logRefusal h.asLocal c n) := by
  unfold logRefusal
  rw [Run.bind_apply, Run.bind_apply]
  show Outcome.Paired _ _ ((Outcome.returned (m.memory.cell? c) m).andThen _)
    ((Outcome.returned (n.memory.cell? c) n).andThen _)
  cases found : m.memory.cell? c with
  | none =>
    rw [twins.memory.missing found]
    exact .returned rfl twins
  | some cell =>
    obtain ⟨cell', there, twin⟩ := twins.memory.found found
    rw [there]
    dsimp only [Outcome.andThen]
    rw [twin.kind, twin.owners]
    refine Pairs.onProcess (Process.writeWith_pairs (Process.perform_alike _) fun thread => ?_) m n
      twins
    obtain ⟨ownership, kind, link⟩ := h
    cases ownership with
    | unique home => exact .same _
    | weak => exact .same _
    | block owner =>
      cases owner with
      | strong => exact .refused _ _ thread
      | _ => exact .same _

end Machine

end Custody
