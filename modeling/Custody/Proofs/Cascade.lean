import Custody.Proofs.Moments
import Mathlib.Algebra.BigOperators.Group.Finset.Basic
import Mathlib.Order.Bounds.Defs

/-!
# Cascades

When the last owner of a shared value goes, the value is destroyed, and the owners inside it go
in turn. This is about groups whose values hold nothing but strong and weak handles, in any graph,
and whose destructors do not panic.

A value is doomed with a set of values if it has owners, and each of them is the handle that is
dropped or lies inside a value of the set. `Client.dropHandle_cascade` says that dropping a strong
handle comes to an end, and that the values whose destruction begins are the least set of values
that are doomed with the set itself: what only keeps itself alive stays. Every other group loses
as many owners as the destroyed values held, the storage of a destroyed value goes back unless an
observer elsewhere keeps it, and at no moment in between is a value whose destruction has begun
brought back by one of its observers.

A single step leaves values alone or strikes one of them, which had a single owner left
(`Machine.advance_peaceful`); `Cascade.advance` is what is kept from step to step.
-/

namespace Custody

/-! ## Peaceful values -/

/-- A task of a cascade: the handles that are let go of are owners and observers of shared
groups, and labels are announced without a panic. -/
def Task.Peaceful : Task → Prop
  | drop h => h.qualifier = .strong ∨ h.qualifier = .weak
  | announce label => label.panicMessage? = none
  | leaveGroup _ | giveBack .. | retire .. => True

/-- The value holds only owners and observers of shared groups, and is destroyed without a
panic. -/
def Value.Peaceful (v : Value) : Prop := ∀ t ∈ v.plan, t.Peaceful

/-- All values that are shared by strong handles are peaceful. -/
def Memory.Peaceful (m : Memory) : Prop :=
  ∀ v cell strong weak, m.cell? v = some cell → cell.state = some (.strong strong weak) →
    cell.value.Peaceful

instance : DecidablePred Task.Peaceful
  | .drop h => inferInstanceAs (Decidable (h.qualifier = .strong ∨ h.qualifier = .weak))
  | .announce label => inferInstanceAs (Decidable (label.panicMessage? = none))
  | .leaveGroup _ | .giveBack .. | .retire .. => .isTrue trivial

instance : DecidablePred Value.Peaceful := fun v =>
  inferInstanceAs (Decidable (∀ t ∈ v.plan, t.Peaceful))

/-- Memory is peaceful if all that lies in it is. -/
theorem Memory.peaceful_of_all {m : Memory}
    (all : ∀ place ∈ m.cells.places, ∀ cell ∈ place, cell.value.Peaceful) : m.Peaceful := by
  intro v cell _ _ found _
  exact all _ (List.mem_of_getElem? (Option.join_eq_some_iff.1 found)) cell rfl

/-- What a peaceful value leaves behind is peaceful. -/
theorem Value.Peaceful.remains {v : Value} (h : v.Peaceful) : v.remains.Peaceful := by
  cases v with
  | node label next back =>
    intro t mem
    simp only [Value.remains, Value.plan, List.mem_cons, List.not_mem_nil, or_false] at mem
    rcases mem with rfl | rfl | rfl
    · exact h _ (List.mem_cons_self ..)
    · exact h (.drop next) (List.mem_cons_of_mem _ (List.mem_cons_self ..))
    · exact h (.drop back) (List.mem_cons_of_mem _ (List.mem_cons_of_mem _ (List.mem_cons_self ..)))
  | bundle label held =>
    intro t mem
    obtain rfl := List.mem_singleton.1 mem
    exact h _ (List.mem_cons_self ..)
  | _ => exact h

/-- Settling keeps shared values peaceful. -/
theorem Memory.Peaceful.settled {m n : Machine} (h : m.memory.Peaceful) (settled : m.Settled n) :
    n.memory.Peaceful := by
  intro v cell strong weak found state
  obtain ⟨old, before, aged⟩ := (settled.cells v).exists_left found
  have owner := aged.owner
  rw [state] at owner
  obtain ⟨s, old_state, kind⟩ := Option.map_eq_some_iff.1 owner.symm
  cases s with
  | strong s w =>
    have peaceful := h v old s w before old_state
    rcases aged.value with same | spent
    · rw [same]
      exact peaceful
    · rw [spent]
      exact peaceful.remains
  | _ => cases kind

namespace Machine

/-! ## What one step does to values -/

/-- How often the destruction of a value began. -/
def destructions (m : Machine) (v : CellId) : Nat := m.deeds.count (.destructionBegan v)

/-- How often a panic left the destruction of a value. -/
def failures (m : Machine) (v : CellId) : Nat := m.deeds.count (.destructionFailed v)

/-- The value in a cell. -/
def value? (m : Machine) (v : CellId) : Option Value := (m.memory.cell? v).map (·.value)

/-- No destruction began and none failed, and all values are as they were. -/
structure Spares (m n : Machine) : Prop where
  destructions : n.destructions = m.destructions
  failures : n.failures = m.failures
  values : n.value? = m.value?

instance : IsPreorder Machine Spares where
  refl _ := ⟨rfl, rfl, rfl⟩
  trans _ _ _ first second :=
    ⟨second.destructions.trans first.destructions, second.failures.trans first.failures,
      second.values.trans first.values⟩

/-- The destruction of one value began, which left its remains. -/
structure Strikes (v : CellId) (m n : Machine) : Prop where
  destructions : n.destructions = Function.update m.destructions v (m.destructions v + 1)
  failures : n.failures = m.failures
  values : n.value? = Function.update m.value? v ((m.value? v).map Value.remains)

variable {m n : Machine} {tasks : List Task}

theorem Undisturbed.spares (h : m.Undisturbed n) : m.Spares n := by
  refine ⟨?_, ?_, ?_⟩
  · unfold destructions
    rw [h.2]
  · unfold failures
    rw [h.2]
  · unfold value?
    rw [h.1]

/-- What is noted of anything else is no destruction. -/
theorem spares_note {e : StorageEvent} (began : ∀ v, e ≠ .destructionBegan v)
    (failed : ∀ v, e ≠ .destructionFailed v) (m : Machine) :
    m.Spares { m with process := m.process.after (.storage e) } := by
  refine ⟨funext fun v => ?_, funext fun v => ?_, rfl⟩
  · exact List.count_cons_of_ne (began v)
  · exact List.count_cons_of_ne (failed v)

theorem value?_setCell {c : CellId} {cell : Cell} (found : m.memory.cell? c = some cell)
    (new : Cell) :
    ({ m with memory := m.memory.setCell c new } : Machine).value? =
      Function.update m.value? c (some new.value) := by
  funext v
  unfold value?
  by_cases same : v = c
  · subst same
    rw [Function.update_self, Memory.cell?_setCell_self found]
    rfl
  · rw [Function.update_of_ne same, Memory.cell?_setCell_of_ne _ _ same]

/-- To count strikes nothing. -/
theorem spares_withState {c : CellId} {cell : Cell} (found : m.memory.cell? c = some cell)
    (s : BlockState) : m.Spares (m.withState c cell s) := by
  refine ⟨rfl, rfl, (value?_setCell found _).trans ?_⟩
  refine Function.update_eq_self_iff.2 ?_
  unfold value?
  rw [found]
  rfl

theorem recount_spares {α : Type} [Inhabited α] (c : CellId)
    (operation : BlockState → BlockState × Except CountFault α) :
    (recount c operation).Keeps Spares :=
  recount_keeps (fun _ _ => Undisturbed.spares)
    (fun m c fault => spares_note (e := .miscounted c fault) (fun _ => nofun) (fun _ => nofun) m)
    fun _ _ _ found _ => spares_withState found _

theorem begun_strikes {c : CellId} {cell : Cell} (found : m.memory.cell? c = some cell) :
    Strikes c m (m.begun c cell) := by
  refine ⟨funext fun v => ?_, funext fun v => ?_, ?_⟩
  · show List.count _ (.destructionBegan c :: m.deeds) = _
    by_cases same : v = c
    · subst same
      rw [Function.update_self, List.count_cons_self]
      rfl
    · rw [Function.update_of_ne same, List.count_cons_of_ne]
      · rfl
      · rintro ⟨⟩
        exact same rfl
  · have other : StorageEvent.destructionBegan c ≠ .destructionFailed v := nofun
    exact List.count_cons_of_ne other
  · refine (value?_setCell found _).trans ?_
    unfold value?
    rw [found]
    rfl

/-- Giving storage back strikes nothing. -/
theorem spares_returned {freed : StorageEvent} {c : CellId} {memory : Memory}
    (cells : memory.cells = m.memory.cells) (began : ∀ v, freed ≠ .destructionBegan v)
    (failed : ∀ v, freed ≠ .destructionFailed v) :
    m.Spares ⟨(m.process.after (.storage (.handedBack c))).after (.storage freed), memory⟩ := by
  have noted := spares_note (e := .handedBack c) (fun _ => nofun) (fun _ => nofun) m
  have done := trans_of Spares noted (spares_note began failed _)
  refine ⟨done.destructions, done.failures, funext fun v => ?_⟩
  unfold value? Memory.cell?
  rw [cells]

/-- A peaceful label is announced without a panic. -/
theorem announce_peaceful {label : Label} (peaceful : label.panicMessage? = none) (m : Machine) :
    announce label m = .returned () { m with process := m.process.after (.destroyed label) } := by
  unfold announce
  rw [peaceful]
  rfl

/-- Where the last reference to a block is given up, its storage is to go back. -/
theorem leaveGroup_peaceful (c : CellId) (m : Machine) :
    ((Task.leaveGroup c).advance m).Ensures
      (fun more n => (∀ t ∈ more, t.Peaceful) ∧ m.Spares n) fun _ => True := by
  refine Run.bind_ensures ((Outcome.Ensures.of_state (Q := m.Spares) (recount_spares c _ m)).mono
    (fun _ _ spared => spared) fun _ _ => trivial) fun last n spared => ?_
  cases last with
  | false => exact ⟨List.forall_mem_nil _, spared⟩
  | true =>
    refine ⟨fun t mem => ?_, spared⟩
    dsimp only at mem
    cases found : n.memory.cell? c with
    | none =>
      rw [found] at mem
      cases mem
    | some cell =>
      rw [found] at mem
      obtain ⟨home, -, rfl⟩ := List.mem_map.1 mem
      trivial

theorem Spares.strikes {v : CellId} {o : Machine} (spared : m.Spares n) (struck : Strikes v n o) :
    Strikes v m o := by
  refine ⟨struck.destructions.trans ?_, struck.failures.trans spared.failures,
    struck.values.trans ?_⟩
  · rw [spared.destructions]
  · rw [spared.values]

/-- Besides what is let go of just now nothing owns a value, and nothing is going to. -/
structure LastOwner (m : Machine) (tasks : List Task) (v : CellId) : Prop where
  alone : ∃ weak, m.memory.block? v = some (.strong 1 weak)
  tasks : Task.refs .strong v tasks = 0
  values : m.memory.refs .strong v = 0

/-- Letting go of an owner of a shared value spares all values, or it strikes this one, if no
other owner is left. -/
theorem letGo_strong_peaceful {h : Handle} {l : Link} (link : h.link = some l)
    (owns : h.ownership = .block .strong) (calm : m.memory.Peaceful)
    (books : m.Books (.drop h :: tasks)) :
    ∃ more n, letGo h.kind l.cell h.ownership m = .returned more n ∧ (∀ t ∈ more, t.Peaceful) ∧
      (m.Spares n ∨ ∃ v, m.LastOwner tasks v ∧ Strikes v m n) := by
  obtain ⟨cell, found, governed, homed, law⟩ := books.found link
  have qualifier : h.qualifier = .strong := congrArg Ownership.qualifier owns
  rw [qualifier] at governed law
  obtain ⟨s, w, state⟩ : ∃ s w, cell.state = some (.strong s w) := governed
  rw [state] at law
  have law : ((m.tally tasks l.cell).adding .strong).StrongLaw s w := law
  have alive : s ≠ 0 := (law.alive (by rw [Tally.adding_refs_self]; omega)).1
  rw [owns]
  by_cases last : s = 1
  · subst last
    refine ⟨_, _, letGo_strong_last found state h.kind, fun t mem => ?_, .inr ⟨l.cell, ?_, ?_⟩⟩
    · rcases List.mem_append.1 mem with mem | mem
      · exact calm l.cell cell 1 w found state t mem
      · obtain rfl := List.mem_singleton.1 mem
        trivial
    · have owners := law.owners
      rw [Tally.adding_refs_self] at owners
      have none : Task.refs .strong l.cell tasks + m.memory.refs .strong l.cell = 0 :=
        Nat.succ.inj owners
      refine ⟨⟨w, ?_⟩, Nat.eq_zero_of_add_eq_zero_right none,
        Nat.eq_zero_of_add_eq_zero_left none⟩
      unfold Memory.block?
      rw [found]
      exact state
    · exact (spares_withState found _).strikes (begun_strikes (cell?_withState_self found _))
  · exact ⟨_, _, letGo_strong_more found state alive last h.kind, List.forall_mem_nil _,
      .inl (spares_withState found _)⟩

/-- A peaceful task returns, and leads to peaceful tasks. It spares all values, or it strikes one
whose last owner it lets go of. -/
theorem advance_peaceful {t : Task} (peaceful : t.Peaceful) (calm : m.memory.Peaceful)
    (books : m.Books (t :: tasks)) :
    ∃ more n, t.advance m = .returned more n ∧ (∀ t' ∈ more, t'.Peaceful) ∧
      (m.Spares n ∨ ∃ v, m.LastOwner tasks v ∧ Strikes v m n) := by
  cases t with
  | drop h =>
    cases link : h.link with
    | none =>
      rw [Task.advance_drop_of_none link]
      exact ⟨[], m, rfl, List.forall_mem_nil _, .inl (refl_of Spares m)⟩
    | some l =>
      rw [Task.advance_drop_of_some link]
      cases owns : h.ownership with
      | block owner =>
        cases owner with
        | strong => exact owns ▸ letGo_strong_peaceful link owns calm books
        | _ =>
          rcases peaceful with q | q
          · exact nomatch (congrArg Ownership.qualifier owns).symm.trans q
          · exact nomatch (congrArg Ownership.qualifier owns).symm.trans q
      | unique home =>
        rcases peaceful with q | q
        · exact nomatch (congrArg Ownership.qualifier owns).symm.trans q
        · exact nomatch (congrArg Ownership.qualifier owns).symm.trans q
      | weak =>
        obtain ⟨more, n, went, -⟩ := letGo_books link books
        rw [owns] at went
        have led := leaveGroup_peaceful l.cell m
        rw [show (Task.leaveGroup l.cell).advance m = .returned more n from went] at led
        exact ⟨more, n, went, led.1, .inl led.2⟩
  | announce label =>
    refine ⟨[], { m with process := m.process.after (.destroyed label) }, ?_,
      List.forall_mem_nil _, .inl ?_⟩
    · show (announce label m).andThen _ = _
      rw [announce_peaceful peaceful]
      rfl
    · exact Undisturbed.spares ⟨rfl, rfl⟩
  | leaveGroup c =>
    obtain ⟨more, n, advanced, -⟩ := leaveGroup_books books
    have led := leaveGroup_peaceful c m
    rw [advanced] at led
    exact ⟨more, n, advanced, led.1, .inl led.2⟩
  | giveBack a l c =>
    refine ⟨[], _, rfl, List.forall_mem_nil _,
      .inl (spares_returned ?_ (fun _ => nofun) fun _ => nofun)⟩
    exact Memory.cells_deallocate _ _ _ _
  | retire a l c =>
    refine ⟨[], _, rfl, List.forall_mem_nil _,
      .inl (spares_returned ?_ (fun _ => nofun) fun _ => nofun)⟩
    exact Memory.cells_changeAllocator _ _ _

/-! ## Which values are doomed -/

/-- A value has owners, and each of them is the handle that is dropped, which is not counted among
the others, or lies inside a value of a set. -/
structure Doomed (m : Machine) (others : List Handle) (S : Set CellId) (v : CellId) : Prop where
  owned : ∃ strong weak, m.memory.block? v = some (.strong strong weak) ∧ strong ≠ 0
  outside : ∀ h ∈ others, h.refersTo .strong v = false
  inside : ∀ u value, m.value? u = some value →
    (∃ h ∈ value.handles, h.refersTo .strong v = true) → u ∈ S

/-- A value that refers to another counts in memory. -/
theorem refs_pos_of_value? {q : Qualifier} {u v : CellId} {value : Value}
    (there : m.value? u = some value) {h : Handle} (mem : h ∈ value.handles)
    (refers : h.refersTo q v = true) : 0 < m.memory.refs q v := by
  obtain ⟨cell, found, rfl⟩ := Option.map_eq_some_iff.1 there
  refine Nat.lt_of_lt_of_le ?_ (Slab.le_total _ found)
  exact List.countP_pos_iff.2 ⟨h, mem, refers⟩

/-- How a cascade stands that began with a machine: what is still to be done is peaceful, no panic
is on its way, and each value is as it was or was struck once. Whatever was struck lies in every
set that contains what is doomed with it. -/
structure Cascade (m : Machine) (others : List Handle) (d : Destruction) : Prop where
  first : ∃ tasks, m.Books (tasks ++ others.map .drop)
  balanced : d.Balanced (others.map .drop)
  calm : d.machine.memory.Peaceful
  tasks : ∀ t ∈ d.tasks, t.Peaceful
  panics : d.panics = []
  settled : m.Settled d.machine
  failures : d.machine.failures = m.failures
  values : ∀ v, (d.machine.destructions v = m.destructions v ∧ d.machine.value? v = m.value? v) ∨
    (d.machine.destructions v = m.destructions v + 1 ∧
      d.machine.value? v = (m.value? v).map Value.remains)
  struck : ∀ v, m.destructions v < d.machine.destructions v →
    ∃ strong weak, m.memory.block? v = some (.strong strong weak) ∧ strong ≠ 0
  least : ∀ S : Set CellId, (∀ v, m.Doomed others S v → v ∈ S) →
    ∀ v, m.destructions v < d.machine.destructions v → v ∈ S

/-! ## From step to step -/

namespace Cascade

variable {others : List Handle} {d : Destruction}

/-- A value whose last owner goes was not struck before, and has owners from the beginning. -/
theorem fresh (h : Cascade m others d) {v : CellId}
    (last : d.machine.LastOwner (tasks ++ others.map .drop) v) :
    d.machine.destructions v = m.destructions v ∧
      ∃ strong weak, m.memory.block? v = some (.strong strong weak) ∧ strong ≠ 0 := by
  obtain ⟨weak, block⟩ := last.alone
  have law : Tally.StrongLaw _ 1 weak := h.balanced.books.law block
  have none : d.machine.destructions v = 0 := Nat.succ.inj law.began
  have same : d.machine.destructions v = m.destructions v := by
    rcases h.values v with ⟨same, -⟩ | ⟨more, -⟩
    · exact same
    · exact absurd (more.symm.trans none) (Nat.succ_ne_zero _)
  obtain ⟨strong', weak', before⟩ := h.settled.block?_strong block
  obtain ⟨duties, first⟩ := h.first
  refine ⟨same, strong', weak', before, fun gone => ?_⟩
  have law' : Tally.StrongLaw _ strong' weak' := first.law before
  have began : m.destructions v + strong'.sign = 1 := law'.began
  rw [gone, ← same, none] at began
  cases began

/-- A value whose last owner goes is doomed with any set that contains what was struck before. -/
theorem doomed (h : Cascade m others d) {v : CellId}
    (last : d.machine.LastOwner (tasks ++ others.map .drop) v) {S : Set CellId}
    (struck : ∀ u, m.destructions u < d.machine.destructions u → u ∈ S) :
    m.Doomed others S v := by
  refine ⟨(h.fresh last).2, fun g mem => ?_, fun u value there ⟨g, mem, refers⟩ => ?_⟩
  · have none := last.tasks
    rw [Task.refs_append, Task.refs_map_drop] at none
    exact refs_eq_zero_iff.1 (Nat.eq_zero_of_add_eq_zero_left none) g mem
  · rcases h.values u with ⟨-, same⟩ | ⟨more, -⟩
    · have refs := refs_pos_of_value? (same.trans there) mem refers
      rw [last.values] at refs
      exact absurd refs (Nat.lt_irrefl 0)
    · exact struck u (more ▸ Nat.lt_succ_self _)

/-- Every task of a cascade returns, and the cascade goes on. -/
theorem advance {t : Task} {rest : List Task} (h : Cascade m others d)
    (next : d.tasks = t :: rest) :
    ∃ more n, t.advance d.machine = .returned more n ∧ Cascade m others ⟨more ++ rest, [], n⟩ := by
  obtain ⟨todo, panics, now⟩ := d
  obtain rfl : todo = t :: rest := next
  obtain rfl : panics = [] := h.panics
  have books : now.Books (t :: (rest ++ others.map .drop)) := by
    have books := h.balanced.books
    unfold Destruction.duties at books
    rw [List.flatMap_nil, List.append_nil] at books
    exact books
  have peaceful := h.tasks
  obtain ⟨more, n, advanced, led, done⟩ :=
    advance_peaceful (peaceful t (List.mem_cons_self ..)) h.calm books
  have settled := advance_settled t now
  rw [advanced] at settled
  have step : Destruction.Step ⟨t :: rest, [], now⟩ ⟨more ++ rest, [], n⟩ := .task advanced
  have tasks : ∀ t' ∈ more ++ rest, t'.Peaceful :=
    List.forall_mem_append.2 ⟨led, fun t' mem => peaceful t' (List.mem_cons_of_mem t mem)⟩
  refine ⟨more, n, advanced, ?_⟩
  rcases done with spared | ⟨v, last, struck⟩
  · exact {
      first := h.first
      balanced := h.balanced.step step
      calm := h.calm.settled settled
      tasks := tasks
      panics := rfl
      settled := h.settled.trans settled
      failures := spared.failures.trans h.failures
      values := by
        rw [spared.destructions, spared.values]
        exact h.values
      struck := by
        rw [spared.destructions]
        exact h.struck
      least := by
        rw [spared.destructions]
        exact h.least }
  · obtain ⟨same, owned⟩ := h.fresh last
    have before : ∀ u, m.destructions u < n.destructions u →
        u = v ∨ m.destructions u < now.destructions u := by
      intro u more
      by_cases this : u = v
      · exact .inl this
      · rw [struck.destructions, Function.update_of_ne this] at more
        exact .inr more
    exact {
      first := h.first
      balanced := h.balanced.step step
      calm := h.calm.settled settled
      tasks := tasks
      panics := rfl
      settled := h.settled.trans settled
      failures := struck.failures.trans h.failures
      values := fun u => by
        rw [struck.destructions, struck.values]
        by_cases this : u = v
        · subst this
          rw [Function.update_self, Function.update_self]
          rcases h.values u with ⟨-, value⟩ | ⟨again, -⟩
          · rw [value, ← same]
            exact .inr ⟨rfl, rfl⟩
          · rw [again] at same
            exact absurd same (Nat.succ_ne_self _)
        · rw [Function.update_of_ne this, Function.update_of_ne this]
          exact h.values u
      struck := fun u more => by
        rcases before u more with rfl | earlier
        · exact owned
        · exact h.struck u earlier
      least := fun S closed u more => by
        rcases before u more with rfl | earlier
        · exact closed u (h.doomed last (h.least S closed))
        · exact h.least S closed u earlier }

/-- A cascade comes to an end. -/
theorem ends (h : Cascade m others d) :
    ∃ n, drain d.tasks d.panics d.machine = .returned () n ∧
      Relation.ReflTransGen Destruction.Step d ⟨[], [], n⟩ ∧ Cascade m others ⟨[], [], n⟩ := by
  obtain ⟨todo, panics, now⟩ := d
  show ∃ n, drain todo panics now = _ ∧ _
  induction todo, panics, now using drain.induct with
  | case1 now t rest panics more n advanced ih =>
    obtain rfl : panics = [] := h.panics
    obtain ⟨more', n', advanced', goesOn⟩ := h.advance rfl
    obtain ⟨rfl, rfl⟩ : more = more' ∧ n = n' := by
      have same := advanced.symm.trans advanced'
      injection same with first second
      exact ⟨first, second⟩
    obtain ⟨o, drained, steps, ended⟩ := ih goesOn
    rw [drain_cons_returned advanced]
    exact ⟨o, drained, .head (.task advanced) steps, ended⟩
  | case2 now t rest panics payload n panicked ih =>
    obtain ⟨more, n', advanced, -⟩ := h.advance rfl
    cases panicked.symm.trans advanced
  | case3 now t rest panics cause n aborted =>
    obtain ⟨more, n', advanced, -⟩ := h.advance rfl
    cases aborted.symm.trans advanced
  | case4 now payload t rest others' ih => cases h.panics
  | case5 now => exact ⟨now, drain_nil_nil now, .refl, h⟩
  | case6 now payload => cases h.panics
  | case7 now payload head tail => cases h.panics

end Cascade

/-! ## What is left at the end -/

/-- How many handles of a qualifier inside the value of one cell refer to another. -/
def holds (m : Machine) (q : Qualifier) (u v : CellId) : Nat :=
  ((m.memory.cell? u).map fun cell => refs q v cell.value.handles).getD 0

/-- The values whose destruction began between two machines. -/
def fallen (m n : Machine) : Finset CellId :=
  (Finset.range m.memory.cells.next).filter fun v => m.destructions v < n.destructions v

private theorem foldr_eq_sum {α : Type} (f : Option α → Nat) (places : List (Option α)) :
    places.foldr (fun place n => f place + n) 0 =
      ∑ i ∈ Finset.range places.length, f (places[i]?).join := by
  induction places with
  | nil => rfl
  | cons place rest ih =>
    rw [List.foldr_cons, List.length_cons, Finset.sum_range_succ', ih, Nat.add_comm]
    simp only [List.getElem?_cons_succ, List.getElem?_cons_zero, Option.join_some]

/-- The references in memory are those inside the value of each cell. -/
theorem refs_eq_sum (m : Machine) (q : Qualifier) (v : CellId) :
    m.memory.refs q v = ∑ u ∈ Finset.range m.memory.cells.next, m.holds q u v :=
  foldr_eq_sum (fun place => (place.map fun cell : Cell => refs q v cell.value.handles).getD 0)
    m.memory.cells.places

theorem holds_eq_zero_iff {q : Qualifier} {u v : CellId} :
    m.holds q u v = 0 ↔
      ∀ value, m.value? u = some value → ∀ h ∈ value.handles, h.refersTo q v = false := by
  unfold holds value?
  cases m.memory.cell? u with
  | none =>
    rw [Option.map_none, Option.getD_none, Option.map_none]
    exact ⟨fun _ value there => absurd there (Option.some_ne_none value).symm, fun _ => rfl⟩
  | some cell =>
    rw [Option.map_some, Option.getD_some, Option.map_some, Custody.refs_eq_zero_iff]
    refine ⟨fun none value same => ?_, fun none => none cell.value rfl⟩
    obtain rfl := Option.some.inj same
    exact none

/-- A value that has owners was not destroyed before, nor did its destruction fail. -/
theorem Books.unharmed (books : m.Books tasks) {v : CellId} {s w : Word}
    (block : m.memory.block? v = some (.strong s w)) (owned : s ≠ 0) :
    m.destructions v = 0 ∧ m.failures v = 0 := by
  have law : Tally.StrongLaw _ s w := books.law block
  have began : m.destructions v + s.sign = 1 := law.began
  have share : _ + m.failures v + s.sign ≤ 1 := law.share
  rw [Word.sign_of_ne owned] at began share
  omega

namespace Cascade

variable {others : List Handle} {h : Handle} (ended : Cascade m others ⟨[], [], n⟩)

include ended

theorem mem_fallen {v : CellId} :
    v ∈ m.fallen n ↔ m.destructions v < n.destructions v := by
  unfold fallen
  rw [Finset.mem_filter, Finset.mem_range, and_iff_right_iff_imp]
  intro more
  obtain ⟨s, w, block, -⟩ := ended.struck v more
  obtain ⟨cell, found, -⟩ := Option.bind_eq_some_iff.1 block
  exact Slab.lt_next_of_get? found

/-- A value that was destroyed holds nothing any more, and any other what it held. -/
theorem holds_after (q : Qualifier) (u v : CellId) :
    n.holds q u v = if ¬ m.destructions u < n.destructions u then m.holds q u v else 0 := by
  have same (o : Machine) : o.holds q u v = ((o.value? u).map fun value =>
      refs q v value.handles).getD 0 := by
    unfold holds value?
    rw [Option.map_map]
    rfl
  rw [same n, same m]
  rcases ended.values u with ⟨kept, value⟩ | ⟨more, value⟩
  · have kept : n.destructions u = m.destructions u := kept
    rw [if_pos (kept ▸ Nat.lt_irrefl _)]
    exact congrArg (fun value? => (Option.map _ value?).getD 0) value
  · have more : n.destructions u = m.destructions u + 1 := more
    rw [if_neg (not_not_intro (more ▸ Nat.lt_succ_self _)), show n.value? u = _ from value,
      Option.map_map]
    cases m.value? u with
    | none => rfl
    | some value => exact Value.refs_remains value q v

/-- What destroyed values held is what memory lost. -/
theorem refs_split (q : Qualifier) (v : CellId) :
    m.memory.refs q v = n.memory.refs q v + ∑ u ∈ m.fallen n, m.holds q u v := by
  have next : n.memory.cells.next = m.memory.cells.next := ended.settled.next
  have kept : n.memory.refs q v = ∑ u ∈ (Finset.range m.memory.cells.next).filter
      (fun u => ¬ m.destructions u < n.destructions u), m.holds q u v := by
    rw [refs_eq_sum, next, Finset.sum_filter]
    exact Finset.sum_congr rfl fun u _ => ended.holds_after q u v
  rw [kept, refs_eq_sum, Nat.add_comm]
  exact (Finset.sum_filter_add_sum_filter_not _ _ _).symm

/-- What nothing refers to in the end, no value referred to that was not destroyed. -/
theorem refs_eq_zero_iff {q : Qualifier} {v : CellId} :
    n.memory.refs q v = 0 ↔ ∀ u ∉ m.fallen n, ∀ value, m.value? u = some value →
      ∀ h ∈ value.handles, h.refersTo q v = false := by
  rw [refs_eq_sum, Finset.sum_eq_zero_iff]
  constructor
  · intro none u stays value there
    refine holds_eq_zero_iff.1 ?_ value there
    have known : u < n.memory.cells.next := by
      obtain ⟨cell, found, -⟩ := Option.map_eq_some_iff.1 there
      rw [show n.memory.cells.next = m.memory.cells.next from ended.settled.next]
      exact Slab.lt_next_of_get? found
    have zero := none u (Finset.mem_range.2 known)
    rwa [ended.holds_after, if_pos (mt ended.mem_fallen.2 stays)] at zero
  · intro none u _
    rw [ended.holds_after]
    by_cases struck : m.destructions u < n.destructions u
    · rw [if_neg (not_not_intro struck)]
    · rw [if_pos struck]
      exact holds_eq_zero_iff.2 (none u (mt ended.mem_fallen.1 struck))

/-- What a block of a strong group says at the end. -/
theorem law {v : CellId} {s w : Word} (block : n.memory.block? v = some (.strong s w)) :
    (n.tally (others.map .drop) v).StrongLaw s w :=
  Books.law (show n.Books (others.map .drop) from ended.balanced.books) block

/-- The last owner of a value that was destroyed is gone. -/
theorem ownerless {v : CellId} (struck : v ∈ m.fallen n) :
    ∃ weak, n.memory.block? v = some (.strong 0 weak) := by
  have more := ended.mem_fallen.1 struck
  obtain ⟨s, w, block, -⟩ := ended.struck v more
  obtain ⟨s', w', after⟩ := ended.settled.strong_block? block
  have began : n.destructions v + s'.sign = 1 := (ended.law after).began
  have gone : s' = 0 := by
    by_contra alive
    rw [Word.sign_of_ne alive] at began
    omega
  exact ⟨w', gone ▸ after⟩

/-- A value that has no owner at the end is one whose owners are all gone, from outside of memory
and from the values that stay. -/
theorem ownerless_iff {v : CellId} {s w : Word} (block : n.memory.block? v = some (.strong s w)) :
    s = 0 ↔ (∀ g ∈ others, g.refersTo .strong v = false) ∧
      ∀ u ∉ m.fallen n, ∀ value, m.value? u = some value →
        ∀ g ∈ value.handles, g.refersTo .strong v = false := by
  have owners : Task.refs .strong v (others.map .drop) + n.memory.refs .strong v = s.toNat :=
    (ended.law block).owners
  rw [Task.refs_map_drop] at owners
  rw [← ended.refs_eq_zero_iff, ← Custody.refs_eq_zero_iff, ← UInt64.toNat_inj, ← owners]
  exact Nat.add_eq_zero_iff

section Begun

variable (books : m.Books ((h :: others).map .drop))

include books

/-- What was destroyed was destroyed once, without a panic. -/
theorem once {v : CellId} (struck : v ∈ m.fallen n) :
    n.destructions v = 1 ∧ n.failures v = 0 := by
  obtain ⟨weak, block⟩ := ended.ownerless struck
  obtain ⟨s, w, before, owned⟩ := ended.struck v (ended.mem_fallen.1 struck)
  refine ⟨(ended.law block).began, (congrFun ended.failures v).trans ?_⟩
  exact (books.unharmed before owned).2

/-- Exactly what is doomed with what was destroyed was destroyed. -/
theorem fallen_iff (v : CellId) :
    v ∈ (m.fallen n : Set CellId) ↔ m.Doomed others (m.fallen n) v := by
  constructor
  · intro struck
    obtain ⟨weak, block⟩ := ended.ownerless struck
    obtain ⟨outside, inside⟩ := (ended.ownerless_iff block).1 rfl
    refine ⟨ended.struck v (ended.mem_fallen.1 struck), outside, ?_⟩
    rintro u value there ⟨g, mem, refers⟩
    by_contra stays
    rw [inside u stays value there g mem] at refers
    cases refers
  · intro doomed
    obtain ⟨s, w, block, owned⟩ := doomed.owned
    obtain ⟨s', w', after⟩ := ended.settled.strong_block? block
    have gone : s' = 0 := by
      refine (ended.ownerless_iff after).2 ⟨doomed.outside, fun u stays value there g mem => ?_⟩
      refine (Bool.not_eq_true _).mp fun refers => stays ?_
      exact doomed.inside u value there ⟨g, mem, refers⟩
    have began : n.destructions v + s'.sign = 1 := (ended.law after).began
    rw [gone] at began
    refine ended.mem_fallen.2 ?_
    rw [(books.unharmed block owned).1]
    exact Nat.lt_of_lt_of_eq Nat.one_pos began.symm

/-- What was destroyed is the least set of values that are doomed with it. -/
theorem isLeast : IsLeast {S : Set CellId | ∀ v, v ∈ S ↔ m.Doomed others S v}
    (m.fallen n : Set CellId) :=
  ⟨ended.fallen_iff books, fun S fixed v struck =>
    ended.least S (fun u => (fixed u).2) v (ended.mem_fallen.1 struck)⟩

/-- A group loses the owners that destroyed values held, and the one that was dropped. -/
theorem owners_lost {v : CellId} {s w : Word} (block : m.memory.block? v = some (.strong s w)) :
    ∃ s' w', n.memory.block? v = some (.strong s' w') ∧
      s.toNat = s'.toNat + ∑ u ∈ m.fallen n, m.holds .strong u v + refs .strong v [h] := by
  obtain ⟨s', w', after⟩ := ended.settled.strong_block? block
  refine ⟨s', w', after, ?_⟩
  have before : Task.refs .strong v ((h :: others).map .drop) + m.memory.refs .strong v = s.toNat :=
    Tally.StrongLaw.owners (books.law block)
  have owners : Task.refs .strong v (others.map .drop) + n.memory.refs .strong v = s'.toNat :=
    (ended.law after).owners
  rw [Task.refs_map_drop, refs_cons, ended.refs_split] at before
  rw [Task.refs_map_drop] at owners
  omega

/-- The storage of a destroyed value went back if no observer is left, outside of memory and in
the values that stay. -/
theorem handedBack_iff {v : CellId} (struck : v ∈ m.fallen n) :
    StorageEvent.handedBack v ∈ n.deeds ↔ (∀ g ∈ others, g.refersTo .weak v = false) ∧
      ∀ u ∉ m.fallen n, ∀ value, m.value? u = some value →
        ∀ g ∈ value.handles, g.refersTo .weak v = false := by
  obtain ⟨w, block⟩ := ended.ownerless struck
  have law := ended.law block
  have unharmed := (ended.once books struck).2
  have observers : Task.refs .weak v (others.map .drop) + n.memory.refs .weak v +
      Task.leaving v (others.map .drop) + n.failures v + 0 = w.toNat := law.observers
  have returned : n.deeds.count (.handedBack v) + Task.returning v (others.map .drop) +
      w.sign = 1 := law.returned
  rw [Task.refs_map_drop, Task.leaving_map_drop, unharmed] at observers
  rw [Task.returning_map_drop] at returned
  rw [← ended.refs_eq_zero_iff, ← Custody.refs_eq_zero_iff, ← Nat.add_eq_zero_iff,
    ← List.count_pos_iff]
  by_cases gone : w = 0
  · rw [gone] at observers returned
    have observers : _ = 0 := observers
    have returned : _ + 0 + 0 = 1 := returned
    omega
  · have positive : 0 < w.toNat := by
      refine Nat.pos_of_ne_zero fun zero => gone ?_
      exact UInt64.toNat_inj.1 zero
    rw [Word.sign_of_ne gone] at returned
    omega

end Begun

end Cascade

/-! ## What observers see in between -/

/-- An observer of a value that has no owner is not upgraded. -/
theorem upgrade_refused {h : Handle} {l : Link} (link : h.link = some l) {w : Word}
    (block : m.memory.block? l.cell = some (.strong 0 w)) :
    ∃ n, upgrade h m = .returned none n := by
  obtain ⟨cell, found, state⟩ := Option.bind_eq_some_iff.1 block
  have counted : BlockState.tryUpgrade (.strong 0 w) = (.strong 0 w, .ok false) := rfl
  have refused := recount_ok found state counted
  refine ⟨m.withState l.cell cell (.strong 0 w), ?_⟩
  unfold upgrade
  rw [link]
  show (recount l.cell BlockState.tryUpgrade m).andThen _ = _
  rw [refused]
  rfl

end Machine

/-- A value whose destruction has begun has no owner, at any moment of a destruction. -/
theorem Destruction.Balanced.gone {others : List Task} {d : Destruction}
    (balanced : d.Balanced others) {v : CellId} {s w : Word}
    (block : d.machine.memory.block? v = some (.strong s w))
    (began : .destructionBegan v ∈ d.machine.deeds) : s = 0 := by
  have law : Tally.StrongLaw _ s w := balanced.books.law block
  have once : d.machine.deeds.count (.destructionBegan v) + s.sign = 1 := law.began
  have positive := List.count_pos_iff.2 began
  by_contra alive
  rw [Word.sign_of_ne alive] at once
  omega

/-- What a destruction goes through is balanced. -/
theorem Destruction.Balanced.steps {others : List Task} {d e : Destruction}
    (balanced : d.Balanced others) (steps : Relation.ReflTransGen Destruction.Step d e) :
    e.Balanced others := by
  induction steps with
  | refl => exact balanced
  | tail _ step ih => exact ih.step step

namespace Client

open Machine

/-- Where a client stands that lets go of a handle. -/
def lettingGo (c : Client) (h : Handle) : Destruction := ⟨[.drop h], [], c.machine⟩

/-- The handles outside of memory besides one that is held. -/
def others (c : Client) (h : Handle) : List Handle := c.held.erase h ++ c.forgotten

/-- The books of a client that lets go of a handle balance. -/
theorem lettingGo_books {p : Process} {ops : List Operation} {c : Client} {h : Handle}
    (done : run ops (start p) = .returned () c) (held : h ∈ c.held) :
    c.machine.Books ((h :: c.others h).map .drop) := by
  have reached : Reached (start p) _ := .letGo (.rest done) held
  exact fun v => (reached.balanced (start_balanced p)).fits v

/-- Dropping an owner of a shared value comes to an end. The values that are destroyed are the least
set of values whose owners are the handle that is dropped and those inside values of the set; each
is destroyed once, without a panic. Every other group loses the owners that destroyed values held,
and the handle that is dropped. The storage of a destroyed value goes back if no observer is left
but in destroyed values. At no moment in between does an observer bring a value back whose
destruction has begun. -/
theorem dropHandle_cascade {p : Process} {ops : List Operation} {c : Client} {h : Handle}
    (done : run ops (start p) = .returned () c) (held : h ∈ c.held)
    (strong : h.qualifier = .strong) (peaceful : c.machine.memory.Peaceful) :
    ∃ n, dropHandle h c.machine = .returned () n ∧
      Relation.ReflTransGen Destruction.Step (c.lettingGo h) ⟨[], [], n⟩ ∧
      IsLeast {S : Set CellId | ∀ v, v ∈ S ↔ c.machine.Doomed (c.others h) S v}
        (c.machine.fallen n : Set CellId) ∧
      (∀ v ∈ c.machine.fallen n, n.destructions v = 1 ∧ n.failures v = 0) ∧
      (∀ v ∉ c.machine.fallen n, ∀ s w, c.machine.memory.block? v = some (.strong s w) →
        ∃ s' w', n.memory.block? v = some (.strong s' w') ∧
          s.toNat = s'.toNat + ∑ u ∈ c.machine.fallen n, c.machine.holds .strong u v +
            if h.link.map (·.cell) = some v then 1 else 0) ∧
      (∀ v ∈ c.machine.fallen n, StorageEvent.handedBack v ∈ n.deeds ↔
        (∀ g ∈ c.others h, g.refersTo .weak v = false) ∧
          ∀ u ∉ c.machine.fallen n, ∀ value, c.machine.value? u = some value →
            ∀ g ∈ value.handles, g.refersTo .weak v = false) ∧
      ∀ e, Relation.ReflTransGen Destruction.Step (c.lettingGo h) e →
        ∀ v s w, e.machine.memory.block? v = some (.strong s w) →
          .destructionBegan v ∈ e.machine.deeds →
          ∀ (g : Handle) (l : Link), g.link = some l → l.cell = v →
            ∃ m, upgrade g e.machine = .returned none m := by
  have books := lettingGo_books done held
  have balanced : (c.lettingGo h).Balanced ((c.others h).map .drop) := ⟨books, fun _ _ _ _ => rfl⟩
  have begins : c.machine.Cascade (c.others h) (c.lettingGo h) := {
    first := ⟨[.drop h], books⟩
    balanced := balanced
    calm := peaceful
    tasks := fun t mem => by
      obtain rfl := List.mem_singleton.1 mem
      exact .inl strong
    panics := rfl
    settled := Settled.refl _
    failures := rfl
    values := fun _ => .inl ⟨rfl, rfl⟩
    struck := fun _ more => absurd more (Nat.lt_irrefl _)
    least := fun _ _ _ more => absurd more (Nat.lt_irrefl _) }
  obtain ⟨n, dropped, steps, ended⟩ := begins.ends
  refine ⟨n, dropped, steps, ended.isLeast books, fun v => ended.once books,
    fun v _ s w block => ?_, fun v => ended.handedBack_iff books,
    fun e way v s w block began g l link same => ?_⟩
  · obtain ⟨s', w', after, sum⟩ := ended.owners_lost books block
    refine ⟨s', w', after, ?_⟩
    rw [sum, refs_singleton, Handle.refersTo, strong]
    congr 1
    cases h.link with
    | none => rfl
    | some l => simp
  · subst same
    obtain rfl := (balanced.steps way).gone block began
    exact upgrade_refused link block

/-- A bundle owns one of two values that are observed, and is one of two owners of the other, which
owns itself. It is dropped: the first value goes with it, and the second stays. -/
theorem dropHandle_cascade_looped : ∃ ops c h n, run ops (start {}) = .returned () c ∧
    h ∈ c.held ∧ dropHandle h c.machine = .returned () n ∧
      IsLeast {S : Set CellId | ∀ v, v ∈ S ↔ c.machine.Doomed (c.others h) S v} {0, 2} ∧
      .handedBack 0 ∉ n.deeds ∧ .handedBack 2 ∈ n.deeds := by
  let leaf : Handle := .whole (.block .strong) .bundle 0
  let node : Handle := .whole (.block .strong) .node 1
  let root : Handle := .whole (.block .strong) .bundle 2
  let ops : List Operation :=
    [.create (.block .strong) systemAllocator (.bundle "leaf" []) false, .downgrade leaf,
      .create (.block .strong) systemAllocator (.node "loop" Value.noNext Value.noBack) false,
      .clone node, .exchange 1 (.node "loop" node Value.noBack), .clone node,
      .create (.block .strong) systemAllocator (.bundle "root" [leaf, node]) false]
  have done := Outcome.eq_returned (o := run ops (start {})) (by decide +kernel)
  generalize ended : (run ops (start {})).state = c at done
  have held : root ∈ c.held := by
    rw [← ended]
    decide +kernel
  have peaceful : c.machine.memory.Peaceful := by
    refine Memory.peaceful_of_all ?_
    rw [← ended]
    decide +kernel
  obtain ⟨n, dropped, -, least, -, -, -⟩ := dropHandle_cascade done held rfl peaceful
  have drained : (drained 20 [.drop root] [] c.machine).map (fun o =>
      decide (c.machine.fallen o.state = {0, 2} ∧ .handedBack 0 ∉ o.state.deeds ∧
        .handedBack 2 ∈ o.state.deeds)) = some true := by
    rw [← ended]
    decide +kernel
  obtain ⟨o, settled, found⟩ := Option.map_eq_some_iff.1 drained
  obtain rfl : o = .returned () n := (drain_of_drained settled).symm.trans dropped
  obtain ⟨fallen, observed, unobserved⟩ := of_decide_eq_true found
  refine ⟨ops, c, root, n, done, held, dropped, ?_, observed, unobserved⟩
  have fallen : c.machine.fallen n = {0, 2} := fallen
  rw [fallen, Finset.coe_insert, Finset.coe_singleton] at least
  exact least

end Client

end Custody
