import Custody.Proofs.Continuity

/-!
# Storage that goes back where it came from

Behind a control block, the block says where storage came from and with what layout it was asked
for. A unique owner has no block: it carries its allocator, and the layout is that of its type. So
that storage goes back where it came from is a fact about handles. `Machine.Directed` says it of a
task: whatever the task gives back, or the handle that it lets go of, was lent by the allocator that
it names, with the layout that it names.

`Situation.Directed.step` says that every step keeps this for all handles and all tasks.
-/

namespace Custody

/-- What destroying a value takes is to announce labels and to let go of its handles. -/
theorem Value.mem_plan {v : Value} {t : Task} (member : t ∈ v.plan) :
    (∃ label, t = .announce label) ∨ ∃ h ∈ v.handles, t = .drop h := by
  cases v with
  | node label next back =>
    simp only [plan, List.mem_cons, List.not_mem_nil, or_false] at member
    rcases member with rfl | rfl | rfl
    · exact .inl ⟨_, rfl⟩
    · exact .inr ⟨next, List.mem_cons_self .., rfl⟩
    · exact .inr ⟨back, List.mem_cons_of_mem _ (List.mem_cons_self ..), rfl⟩
  | bundle label held =>
    rcases List.mem_cons.1 member with rfl | member
    · exact .inl ⟨_, rfl⟩
    · obtain ⟨h, held, rfl⟩ := List.mem_map.1 member
      exact .inr ⟨h, held, rfl⟩
  | pair left right n m =>
    simp only [plan, List.mem_cons, List.not_mem_nil, or_false] at member
    rcases member with rfl | rfl | rfl | rfl | rfl <;> exact .inl ⟨_, rfl⟩
  | tracked label => exact .inl ⟨_, List.mem_singleton.1 member⟩
  | unit => exact .inl ⟨_, List.mem_singleton.1 member⟩
  | tag n => exact .inl ⟨_, List.mem_singleton.1 member⟩
  | mark label => exact .inl ⟨_, List.mem_singleton.1 member⟩
  | _ => cases member

/-- The handles that a value leaves behind are empty. -/
theorem Value.link_of_mem_remains {v : Value} {h : Handle} (member : h ∈ v.remains.handles) :
    h.link = none := by
  cases v with
  | node label next back =>
    rcases List.mem_cons.1 member with rfl | member
    · rfl
    · rw [List.mem_singleton.1 member]
      rfl
  | _ => cases member

namespace Machine

/-- The storage of a cell was lent by an allocator, which was asked for a layout. -/
def Lent (m : Machine) (c : CellId) (a : AllocatorId) (l : Layout) : Prop :=
  ∃ cell, m.memory.cell? c = some cell ∧ cell.home = some a ∧ cell.layout = l

/-- What a task gives back, or the handle that it lets go of, was lent by the allocator that is
named, with the layout that is named. -/
def Directed (m : Machine) : Task → Prop
  | .drop h => ∀ l home, h.link = some l → h.ownership = .unique home →
      m.Lent l.cell home h.kind.layout
  | .giveBack a l c | .retire a l c => m.Lent c a l
  | .announce _ | .leaveGroup _ => True

/-- All handles inside of values are directed. -/
def WellStored (m : Machine) : Prop :=
  ∀ c cell, m.memory.cell? c = some cell → ∀ h ∈ cell.value.handles, m.Directed (.drop h)

variable {m n : Machine} {t : Task} {h : Handle}

theorem Lent.later {c : CellId} {a : AllocatorId} {l : Layout} (lent : m.Lent c a l)
    (persists : m.Persists n) : n.Lent c a l := by
  obtain ⟨cell, found, home, layout⟩ := lent
  obtain ⟨later, there, endures⟩ := persists c cell found
  exact ⟨later, there, endures.home.trans home, endures.layout.trans layout⟩

theorem Directed.later (directed : m.Directed t) (persists : m.Persists n) : n.Directed t := by
  cases t with
  | drop h => exact fun l home link owns => (directed l home link owns).later persists
  | giveBack a l c => exact Lent.later directed persists
  | retire a l c => exact Lent.later directed persists
  | announce label => trivial
  | leaveGroup c => trivial

/-- Only a unique owner has to know where its storage came from. -/
theorem directed_of_ne (m : Machine) (shared : ∀ home, h.ownership ≠ .unique home) :
    m.Directed (.drop h) :=
  fun _ home _ owns => absurd owns (shared home)

theorem directed_of_link_none (m : Machine) (empty : h.link = none) : m.Directed (.drop h) := by
  intro l home link
  rw [empty] at link
  cases link

/-- To destroy a value whose handles are directed. -/
theorem directed_plan {v : Value} (stored : ∀ h ∈ v.handles, m.Directed (.drop h)) :
    ∀ t ∈ v.plan, m.Directed t := by
  intro t member
  rcases Value.mem_plan member with ⟨label, rfl⟩ | ⟨h, held, rfl⟩
  · trivial
  · exact stored h held

/-! ## What tasks lead to -/

/-- Handles inside of values stay, or are emptied. -/
theorem WellStored.settled (stored : m.WellStored) (settled : m.Settled n) : n.WellStored := by
  intro c later found h member
  obtain ⟨cell, there, aged⟩ := (settled.cells c).exists_left found
  rcases aged.value with same | spent
  · rw [same] at member
    exact (stored c cell there h member).later settled.continues.persists
  · rw [spent] at member
    exact n.directed_of_link_none (Value.link_of_mem_remains member)

open Outcome

theorem beginDestruction_directed (c : CellId) (stored : m.WellStored) :
    (beginDestruction c m).Ensures (fun tasks n => ∀ t ∈ tasks, n.Directed t) fun _ => True := by
  have settled := beginDestruction_settled c m
  unfold beginDestruction at settled ⊢
  cases found : m.memory.cell? c with
  | none => exact List.forall_mem_nil _
  | some cell =>
    rw [found] at settled
    exact directed_plan fun h member =>
      (stored c cell found h member).later (Settled.continues settled).persists

theorem storageTask_directed {task : AllocatorId → Layout → CellId → Task}
    (way : Returning task) (c : CellId) (m : Machine) :
    (storageTask task c m).Ensures (fun tasks n => ∀ t ∈ tasks, n.Directed t) fun _ => True := by
  unfold storageTask ofMemory Run.gets
  dsimp only
  cases found : m.memory.cell? c with
  | none => exact List.forall_mem_nil _
  | some cell =>
    intro t member
    obtain ⟨home, there, rfl⟩ := List.mem_map.1 member
    have lent : m.Lent c home cell.layout := ⟨cell, found, Option.mem_toList.1 there, rfl⟩
    rcases way with rfl | rfl
    · exact lent
    · exact lent

/-- What is destroyed first, with what follows. -/
private theorem directed_append {first last : List Task} (before : ∀ t ∈ first, n.Directed t)
    (after : ∀ t ∈ last, n.Directed t) : ∀ t ∈ first ++ last, n.Directed t := by
  intro t member
  rcases List.mem_append.1 member with member | member
  · exact before t member
  · exact after t member

theorem destroyWith_directed {task : AllocatorId → Layout → CellId → Task} (way : Returning task)
    (c : CellId) (stored : m.WellStored) :
    (destroyWith task c m).Ensures (fun tasks n => ∀ t ∈ tasks, n.Directed t) fun _ => True := by
  refine Run.bind_ensures (beginDestruction_directed c stored) fun taken n directed => ?_
  exact directed_append directed (storageTask_directed way c n)

/-- What is done after counting is done in a machine that is stored as well. -/
private theorem directed_recount {c : CellId}
    {operation : BlockState → BlockState × Except CountFault Bool}
    (kept : ∀ s, (operation s).1.owner = s.owner) {next : Bool → Run Machine (List Task)}
    (stored : m.WellStored)
    (done : ∀ last n, n.WellStored →
      (next last n).Ensures (fun tasks o => ∀ t ∈ tasks, o.Directed t) fun _ => True) :
    ((recount c operation >>= next) m).Ensures (fun tasks n => ∀ t ∈ tasks, n.Directed t)
      fun _ => True := by
  have left : (recount c operation m).Ensures (fun _ n => n.WellStored) fun _ => True :=
    (Ensures.of_state (stored.settled (recount_settled c kept m))).mono (fun _ _ h => h)
      fun _ _ => trivial
  exact Run.bind_ensures left done

theorem letGo_directed {kind : Kind} {c : CellId} {o : Ownership} (stored : m.WellStored)
    (lent : ∀ home, o = .unique home → m.Lent c home kind.layout) :
    (letGo kind c o m).Ensures (fun tasks n => ∀ t ∈ tasks, n.Directed t) fun _ => True := by
  cases o with
  | unique home =>
    have settled := Ensures.of_state (Q := m.Settled) (beginDestruction_settled c m)
    have began := (beginDestruction_directed c stored).and settled
    refine Run.bind_ensures (began.mono (fun _ _ h => h) fun _ _ => trivial) ?_
    rintro taken n ⟨directed, settled⟩
    refine directed_append directed fun t member => ?_
    rw [List.mem_singleton.1 member]
    exact (lent home rfl).later settled.continues.persists
  | weak =>
    refine directed_recount (fun s => by cases s <;> rfl) stored fun last n _ => ?_
    cases last with
    | false => exact List.forall_mem_nil _
    | true => exact storageTask_directed (.inl rfl) c n
  | block owner =>
    cases owner with
    | own => exact destroyWith_directed (.inl rfl) c stored
    | discard => exact destroyWith_directed (.inr rfl) c stored
    | collect => exact List.forall_mem_nil _
    | strong =>
      refine directed_recount (fun s => by cases s <;> rfl) stored fun last n stored => ?_
      cases last with
      | false => exact List.forall_mem_nil _
      | true =>
        refine Run.bind_ensures (beginDestruction_directed c stored) fun taken n directed => ?_
        refine directed_append directed fun t member => ?_
        rw [List.mem_singleton.1 member]
        trivial
    | handle =>
      refine directed_recount BlockState.owner_decrementLocal stored fun last n stored => ?_
      cases last with
      | false => exact List.forall_mem_nil _
      | true => exact destroyWith_directed (.inl rfl) c stored

/-- A task that is directed leads to tasks that are. -/
theorem advance_directed (t : Task) (directed : m.Directed t) (stored : m.WellStored) :
    (t.advance m).Ensures (fun tasks n => ∀ t ∈ tasks, n.Directed t) fun _ => True := by
  cases t with
  | drop h =>
    cases link : h.link with
    | none =>
      rw [Task.advance_drop_of_none link]
      exact List.forall_mem_nil _
    | some l =>
      rw [Task.advance_drop_of_some link]
      exact letGo_directed stored fun home owns => directed l home link owns
  | announce label =>
    exact Run.bind_ensures (Ensures.trivial _) fun _ _ _ => List.forall_mem_nil _
  | leaveGroup c =>
    refine directed_recount (fun s => by cases s <;> rfl) stored fun last n _ => ?_
    cases last with
    | false => exact List.forall_mem_nil _
    | true => exact storageTask_directed (.inl rfl) c n
  | giveBack a l c => exact List.forall_mem_nil _
  | retire a l c => exact List.forall_mem_nil _

/-- What can be cloned is no unique owner. -/
theorem shared_of_isClonable (clonable : Session.isClonable h = true) (home : AllocatorId) :
    h.ownership ≠ .unique home := by
  intro owns
  unfold Session.isClonable at clonable
  rw [owns] at clonable
  cases clonable

/-- A handle that is counted besides others is no unique owner. -/
theorem Counting.shared {loose more : List Handle} {act : Run Machine (List Handle)}
    (way : Counting m loose act) (done : act m = .returned more n) :
    ∀ h ∈ more, ∀ home, h.ownership ≠ .unique home := by
  cases way with
  | again clonable seen =>
    obtain ⟨g, o, cloned, listed⟩ := Run.returned_of_bind done
    cases listed
    cases eq_of_clone cloned
    intro g member home
    rw [List.mem_singleton.1 member]
    exact shared_of_isClonable clonable home
  | observer owns seen =>
    obtain ⟨g, o, cloned, listed⟩ := Run.returned_of_bind done
    cases listed
    cases eq_of_clone cloned
    intro g member home owns
    rw [List.mem_singleton.1 member] at owns
    cases owns
  | owner observes seen =>
    obtain ⟨owner?, o, upgraded, listed⟩ := Run.returned_of_bind done
    cases listed
    intro g member home owns
    rw [Option.mem_toList.1 member] at upgraded
    rw [eq_of_upgrade upgraded] at owns
    cases owns

/-- A block that changes hands gets no unique owner. -/
theorem shared_of_retagged {h g : Handle} {owner : BlockOwner}
    (done : retagged h owner m = .returned g n) : ∀ home, g.ownership ≠ .unique home := by
  have held : g = h.held (.block owner) := by
    unfold retagged at done
    cases link : h.link with
    | none =>
      rw [link] at done
      cases done
      rfl
    | some l =>
      rw [link] at done
      obtain ⟨u, o, -, held⟩ := Run.returned_of_bind done
      cases held
      rfl
  rw [held]
  exact fun _ => nofun

/-- What is put into a cell in place of what was there. -/
theorem WellStored.setCell {c : CellId} {old new : Cell} (stored : m.WellStored)
    (found : m.memory.cell? c = some old) (endures : old.Endures new)
    (directed : ∀ h ∈ new.value.handles, m.Directed (.drop h)) :
    WellStored { m with memory := m.memory.setCell c new } := by
  have persists := (continues_setCell found endures).persists
  intro d cell there h member
  have there : (m.memory.setCell c new).cell? d = some cell := there
  by_cases same : d = c
  · subst same
    rw [Memory.cell?_setCell_self found] at there
    cases there
    exact (directed h member).later persists
  · rw [Memory.cell?_setCell_of_ne _ _ same] at there
    exact (stored d cell there h member).later persists

theorem WellStored.of_cells (stored : m.WellStored) (same : n.memory.cells = m.memory.cells) :
    n.WellStored := by
  intro c cell found h member
  have found : m.memory.cell? c = some cell := by
    unfold Memory.cell? at found ⊢
    rw [← same]
    exact found
  exact (stored c cell found h member).later (Continues.of_cells same).persists

/-- One more cell, for a value whose handles are directed. -/
theorem WellStored.push {cell : Cell} (stored : m.WellStored)
    (cells : n.memory.cells = m.memory.cells.push cell) (persists : m.Persists n)
    (directed : ∀ h ∈ cell.value.handles, m.Directed (.drop h)) : n.WellStored := by
  intro c later found h member
  have found : (m.memory.cells.push cell).get? c = some later := by
    rw [← cells]
    exact found
  by_cases last : c = m.memory.cells.next
  · rw [last, Slab.get?_push_next] at found
    cases found
    exact (directed h member).later persists
  · rw [Slab.get?_push_of_ne _ _ last] at found
    exact (stored c later found h member).later persists

end Machine

namespace Situation

open Machine

/-- All handles and all tasks are directed. -/
structure Directed (s : Situation) : Prop where
  duties : ∀ t ∈ s.duties, s.machine.Directed t
  stored : s.machine.WellStored

variable {may : Licence} {s t : Situation}

/-- The handles of a situation at rest. -/
theorem directed_rest {m : Machine} {k : List Handle} :
    (rest m k).Directed ↔ (∀ h ∈ k, m.Directed (.drop h)) ∧ m.WellStored := by
  have duties : (rest m k).duties = k.map .drop := rfl
  constructor
  · rintro ⟨directed, stored⟩
    exact ⟨fun h member => directed _ (duties ▸ List.mem_map_of_mem member), stored⟩
  · rintro ⟨directed, stored⟩
    refine ⟨fun t member => ?_, stored⟩
    obtain ⟨h, held, rfl⟩ := List.mem_map.1 (duties ▸ member)
    exact directed h held

/-- Where there are neither handles nor cells, nothing has to be directed. -/
theorem directed_of_vacant {m : Machine} (vacant : ∀ c, m.memory.cell? c = none) :
    (rest m []).Directed := by
  refine directed_rest.2 ⟨List.forall_mem_nil _, fun c cell found => ?_⟩
  rw [vacant c] at found
  cases found

/-- What is just being settled besides the handles. -/
theorem directed_settling {m : Machine} {k : List Handle} {tasks : List Task}
    (loose : ∀ h ∈ k, m.Directed (.drop h)) (directed : ∀ t ∈ tasks, m.Directed t)
    (stored : m.WellStored) : Directed ⟨m, k, tasks, []⟩ := by
  refine ⟨fun t member => ?_, stored⟩
  have member : t ∈ tasks ++ [] ++ k.map .drop := member
  rw [List.append_nil] at member
  rcases List.mem_append.1 member with member | member
  · exact directed t member
  · obtain ⟨h, held, rfl⟩ := List.mem_map.1 member
    exact loose h held

/-- Handles that are the same as before in a machine that stores the same. -/
private theorem Directed.rest {m n : Machine} {k k' : List Handle}
    (directed : (rest m k).Directed) (persists : m.Persists n) (stored : n.WellStored)
    (same : ∀ h ∈ k', h ∈ k ∨ m.Directed (.drop h)) : (rest n k').Directed := by
  obtain ⟨loose, -⟩ := directed_rest.1 directed
  refine directed_rest.2 ⟨fun h member => ?_, stored⟩
  rcases same h member with old | new
  · exact (loose h old).later persists
  · exact new.later persists

/-- What leaves the cells alone leaves all directed. -/
private theorem Directed.of_cells {m n : Machine} {k : List Handle}
    (directed : (Situation.rest m k).Directed) (same : n.memory.cells = m.memory.cells) :
    (Situation.rest n k).Directed :=
  directed.rest (Continues.of_cells same).persists (directed.stored.of_cells same)
    fun _ member => .inl member

/-- A value in its new cell, with its first owner. -/
private theorem Directed.placed {m n o : Machine} {k : List Handle} {v : Value}
    {home : AllocatorId} {l : Layout} {offset : Nat} {state : Option BlockState}
    {ownership : Ownership} {d : Option Destructor} {grant : Grant} {c : CellId}
    (directed : (Situation.rest m (v.handles ++ k)).Directed) (persists : m.Persists o)
    (housing : Housing v home m.memory.cells.next l offset state ownership d)
    (asked : allocate home l d m = .returned (.ok grant) n)
    (put : settleIn home grant l offset state v n = .returned c o) :
    (Situation.rest o (.whole ownership v.kind c :: k)).Directed := by
  have cells := (of_returned (allocate_sameCells home l d) asked).1
  obtain ⟨loose, stored⟩ := directed_rest.1 directed
  cases put
  let cell : Cell := ⟨some home, grant.address, l, offset, v.kind, state, v⟩
  have added : n.memory.cells.push cell = m.memory.cells.push cell :=
    congrArg (Slab.push · cell) cells
  refine directed_rest.2 ⟨fun h member => ?_, ?_⟩
  · rcases List.mem_cons.1 member with rfl | member
    · intro link id is owns
      cases is
      have owns : ownership = .unique id := owns
      cases housing with
      | bare =>
        cases owns
        exact ⟨cell, Slab.get?_push_next n.memory.cells cell, rfl, rfl⟩
      | block owner found => cases owns
    · exact (loose h (List.mem_append_right _ member)).later persists
  · exact stored.push added persists fun h member => loose h (List.mem_append_left _ member)

/-- A step of settling leads to tasks that are directed. -/
private theorem directed_step {m n : Machine} {k : List Handle} {tasks tasks' : List Task}
    {panics panics' : List Passage} (directed : Directed ⟨m, k, tasks, panics⟩)
    (step : Destruction.Step ⟨tasks, panics, m⟩ ⟨tasks', panics', n⟩) :
    Directed ⟨n, k, tasks', panics'⟩ := by
  have persists := step.settled.continues.persists
  refine ⟨fun t member => ?_, directed.stored.settled step.settled⟩
  have before (member : t ∈ tasks ++ panics.flatMap (·.cleanup) ++ k.map .drop) : n.Directed t :=
    (directed.duties t member).later persists
  have member : t ∈ tasks' ++ panics'.flatMap (·.cleanup) ++ k.map .drop := member
  cases step with
  | @task u rest more panics m n advanced =>
    have led := advance_directed u
      (directed.duties u (List.mem_append_left _ (List.mem_append_left _ (List.mem_cons_self ..))))
      directed.stored
    rw [advanced] at led
    rw [List.append_assoc, List.append_assoc] at member
    rcases List.mem_append.1 member with new | old
    · exact led t new
    · refine before ?_
      rw [List.append_assoc]
      exact List.mem_cons_of_mem u old
  | @panic u rest panics payload m n panicked =>
    refine before ?_
    have member : t ∈ Task.cleanup rest ++ panics.flatMap (·.cleanup) ++ k.map .drop := member
    simp only [List.mem_append] at member ⊢
    rcases member with (left | others) | loose
    · exact .inl (.inl (List.mem_cons_of_mem u (List.mem_filter.1 left).1))
    · exact .inl (.inr others)
    · exact .inr loose
  | @cleanup payload u rest others m => exact before member

/-- Every step leaves all handles and all tasks directed. -/
theorem Directed.step (directed : s.Directed) (balanced : s.Balanced) (step : Step may s t) :
    t.Directed := by
  have persists := step.persists balanced
  cases step with
  | reordered same =>
    exact directed.rest persists directed.stored fun h member => .inl (same.symm.subset member)
  | emptyGained empty =>
    refine directed.rest persists directed.stored fun h member => ?_
    rcases List.mem_cons.1 member with rfl | member
    · exact .inr (directed_of_link_none _ (Option.isNone_iff_eq_none.1 empty))
    · exact .inl member
  | emptyLost empty =>
    exact directed.rest persists directed.stored
      fun h member => .inl (List.mem_cons_of_mem _ member)
  | aside same => exact directed.of_cells same.sameCells.1
  | counted way done =>
    refine directed.rest persists (directed.stored.settled (of_returned way.settled done)) ?_
    intro h member
    rcases List.mem_append.1 member with new | old
    · exact .inr (directed_of_ne _ (way.shared done h new))
    · exact .inl old
  | @uncounted m k act way failed =>
    exact directed.rest persists (directed.stored.settled (way.settled m))
      fun _ member => .inl member
  | @redirected m k h g clonable owns cell =>
    refine directed.rest persists directed.stored fun f member => ?_
    rcases List.mem_cons.1 member with rfl | member
    · exact .inr (directed_of_ne _ fun home is => shared_of_isClonable clonable home (owns ▸ is))
    · exact .inl (List.mem_cons_of_mem _ member)
  | placed housing asked put => exact directed.placed persists housing asked put
  | requested asked => exact directed.of_cells (of_returned (allocate_sameCells _ _ _) asked).1
  | refused fresh asked => exact directed.of_cells (of_returned (allocate_sameCells _ _ _) asked).1
  | @registered m n k v home l offset grant asked =>
    have cells := (of_returned (allocate_sameCells home l _) asked).1
    obtain ⟨loose, stored⟩ := directed_rest.1 directed
    refine directed_rest.2 ⟨fun h member => ?_, ?_⟩
    · exact (loose h (List.mem_append_right _ member)).later persists
    · refine stored.push (congrArg (Slab.push · _) cells) persists fun h member => ?_
      exact loose h (List.mem_append_left _ member)
  | @retagged m n k h g owner way done =>
    refine directed.rest persists ?_ fun f member => ?_
    · have seen : m.Seen ((h :: k).map .drop) h := seen_of_mem (List.mem_cons_self ..)
      rcases retagged_cases way balanced.books seen done with rfl | ⟨c, cell, found, rfl, endures⟩
      · exact directed.stored
      · exact directed.stored.setCell found endures fun f member =>
          directed.stored c cell found f member
    · rcases List.mem_cons.1 member with rfl | member
      · exact .inr (directed_of_ne _ (shared_of_retagged done))
      · exact .inl (List.mem_cons_of_mem _ member)
  | @rewritten m k k' c cell v found moved =>
    obtain ⟨loose, stored⟩ := directed_rest.1 directed
    have all : ∀ h ∈ v.handles ++ k', m.Directed (.drop h) := by
      intro h member
      rcases List.mem_append.1 (moved.symm.subset member) with inside | outside
      · exact stored c cell found h inside
      · exact loose h outside
    refine directed.rest persists ?_ fun h member => .inr (all h (List.mem_append_right _ member))
    refine stored.setCell found ⟨rfl, rfl, rfl, rfl, rfl, Iff.rfl, Iff.rfl⟩ fun h member => ?_
    exact all h (List.mem_append_left _ member)
  | @movedOut m k h link cell home l refers found returns =>
    obtain ⟨loose, stored⟩ := directed_rest.1 directed
    refine directed_settling (fun f member => ?_) (fun u member => ?_) ?_
    · rcases List.mem_append.1 member with inside | outside
      · exact (stored link.cell cell found f inside).later persists
      · exact (loose f (List.mem_cons_of_mem _ outside)).later persists
    · rw [List.mem_singleton.1 member]
      have lent : m.Lent link.cell home l := by
        cases returns with
        | bare owns => exact loose h (List.mem_cons_self ..) link home refers owns
        | block owns there => exact ⟨cell, found, there, rfl⟩
      exact lent.later persists
    · refine stored.setCell found ⟨rfl, rfl, rfl, rfl, rfl, Iff.rfl, Iff.rfl⟩ fun f member => ?_
      exact directed_of_link_none _ (Value.link_of_mem_remains member)
  | @letGo m k h =>
    obtain ⟨loose, stored⟩ := directed_rest.1 directed
    refine directed_settling (fun f member => loose f (List.mem_cons_of_mem _ member)) ?_ stored
    intro u member
    rw [List.mem_singleton.1 member]
    exact loose h (List.mem_cons_self ..)
  | destroyed v =>
    obtain ⟨loose, stored⟩ := directed_rest.1 directed
    exact directed_settling (fun f member => loose f (List.mem_append_right _ member))
      (directed_plan fun f member => loose f (List.mem_append_left _ member)) stored
  | settling step => exact directed_step directed step
  | left => exact ⟨directed.duties, directed.stored⟩
  | heapMade done => exact directed.of_cells (of_returned makeHeap_sameCells done).1
  | arenaMade done => exact directed.of_cells (of_returned (makeArena_sameCells _ _) done).1
  | listTaken there => exact directed.of_cells rfl
  | @destructorRun m n k id r others tasks running next =>
    obtain ⟨loose, stored⟩ := directed_rest.1 directed
    have noted : (m.runNoted id r).WellStored := stored.of_cells rfl
    have led := beginDestruction_directed r.destructor.subject noted
    have settled := beginDestruction_settled r.destructor.subject (m.runNoted id r)
    rw [next] at led settled
    exact directed_settling (fun f member => (loose f member).later persists) led
      (noted.settled settled)
  | chunksReturned there taken done =>
    exact directed.of_cells (of_returned (releaseChunks_sameCells _ _) done).1
  | writtenOff there began => exact directed.of_cells rfl
  | forgotten done => exact directed.of_cells (of_returned (forgetAllocator_sameCells _) done).1
  | deallocated allowed done =>
    exact directed.of_cells (of_returned (deallocate_sameCells _ _ _) done).1
  | retired allowed done => exact directed.of_cells (of_returned (retire_sameCells _ _ _) done).1

theorem Directed.leads (leads : Leads may s t) (balanced : s.Balanced) (directed : s.Directed) :
    t.Directed := by
  induction leads with
  | refl => exact directed
  | tail leads step ih => exact ih.step (balanced.leads leads) step

end Situation

end Custody
