import Custody.Memory.Basic
import Custody.Proofs.Silence

/-!
# The census of handles

Who refers to a cell, and in what way: handles on their own, handles inside values in cells, and
handles that tasks are about to let go of. `refs q c` counts the handles of a qualifier that
refer to a cell, narrowed ones included, over a list of handles; `Task.refs` counts over a list
of tasks and `Memory.refs` over all cells. A handle that somebody keeps is counted as the task of
letting go of it, so that a list of tasks stands for all handles outside of cells.

A `Tally` is all that is known of a cell from outside of it: the references to it, what is still
to be done with it, and what was done with it so far.
-/

namespace Custody

/-- Whether a handle refers to a cell, as what a qualifier says. -/
def Handle.refersTo (q : Qualifier) (c : CellId) (h : Handle) : Bool :=
  h.qualifier == q && h.link.any (·.cell == c)

/-- How many handles refer to a cell as what a qualifier says. -/
def refs (q : Qualifier) (c : CellId) (handles : List Handle) : Nat :=
  handles.countP (Handle.refersTo q c)

section Refs

variable (q : Qualifier) (c : CellId)

@[simp] theorem refs_nil : refs q c [] = 0 := rfl

theorem refs_cons (h : Handle) (rest : List Handle) :
    refs q c (h :: rest) = refs q c [h] + refs q c rest := by
  unfold refs
  rw [← List.singleton_append, List.countP_append]

@[simp] theorem refs_append (first second : List Handle) :
    refs q c (first ++ second) = refs q c first + refs q c second :=
  List.countP_append

theorem refs_singleton (h : Handle) :
    refs q c [h] = if h.refersTo q c then 1 else 0 := by
  unfold refs
  rw [List.countP_singleton]

theorem refs_perm {first second : List Handle} (h : first.Perm second) :
    refs q c first = refs q c second :=
  h.countP_eq _

/-- Nothing refers to a cell if no handle does. -/
theorem refs_eq_zero_iff {q : Qualifier} {c : CellId} {handles : List Handle} :
    refs q c handles = 0 ↔ ∀ h ∈ handles, h.refersTo q c = false := by
  unfold refs
  rw [List.countP_eq_zero]
  exact forall₂_congr fun h _ => Bool.not_eq_true _ ▸ Iff.rfl

/-- An empty handle refers to nothing. -/
theorem refs_of_isEmpty {h : Handle} (empty : h.isEmpty) : refs q c [h] = 0 := by
  have none : h.link = none := by simpa [Handle.isEmpty] using empty
  simp [refs_singleton, Handle.refersTo, none]

@[simp] theorem refs_emptied (h : Handle) : refs q c [h.emptied] = 0 :=
  refs_of_isEmpty q c (Handle.isEmpty_emptied h)

/-- A handle that is not empty refers to its cell as its own qualifier says, and to nothing
else. -/
theorem refs_of_link {h : Handle} {l : Link} (link : h.link = some l) :
    refs q c [h] = if h.qualifier = q ∧ l.cell = c then 1 else 0 := by
  simp [refs_singleton, Handle.refersTo, link]

theorem refs_of_link_self {h : Handle} {l : Link} (link : h.link = some l) :
    refs h.qualifier l.cell [h] = 1 := by
  rw [refs_of_link _ _ link, if_pos ⟨rfl, rfl⟩]

theorem refs_of_ne {h : Handle} {l : Link} (link : h.link = some l) {c : CellId}
    (other : c ≠ l.cell) : refs q c [h] = 0 := by
  rw [refs_of_link _ _ link, if_neg fun both => other both.2.symm]

theorem refs_of_qualifier_ne {h : Handle} {q : Qualifier} (other : q ≠ h.qualifier) :
    refs q c [h] = 0 := by
  simp [refs_singleton, Handle.refersTo, other.symm]

end Refs

/-! ## Handles inside values -/

namespace Value

/-- The handles inside a value. -/
def handles : Value → List Handle
  | node _ next back => [next, back]
  | bundle _ held => held
  | _ => []

/-- What a value leaves behind refers to nothing. -/
@[simp] theorem refs_remains (v : Value) (q : Qualifier) (c : CellId) :
    refs q c v.remains.handles = 0 := by
  cases v with
  | node label next back =>
    show refs q c [next.emptied, back.emptied] = 0
    rw [refs_cons, refs_emptied, refs_emptied]
  | _ => rfl

/-- A field of a value has no handles. -/
theorem handles_field? {v part : Value} {f : Field} (h : v.field? f = some part) :
    part.handles = [] := by
  unfold field? at h
  split at h <;> cases h <;> rfl

/-- A part of a value other than the whole has no handles. -/
theorem handles_part? {v part : Value} {f : Field} {path : List Field}
    (h : v.part? (f :: path) = some part) : part.handles = [] := by
  induction path generalizing v f with
  | nil =>
    obtain ⟨field, found, whole⟩ := Option.bind_eq_some_iff.1 h
    cases whole
    exact handles_field? found
  | cons g path ih =>
    obtain ⟨field, found, inner⟩ := Option.bind_eq_some_iff.1 h
    exact ih inner

/-- To set a value leaves its handles alone. -/
@[simp] theorem handles_setTo (d : Datum) (v : Value) : (v.setTo d).handles = v.handles := by
  cases v <;> rfl

end Value

/-! ## Handles that tasks let go of -/

namespace Task

/-- The handles that a task lets go of. -/
def handles : Task → List Handle
  | drop h => [h]
  | _ => []

/-- How many handles that are to be let go of refer to a cell. -/
def refs (q : Qualifier) (c : CellId) (tasks : List Task) : Nat :=
  Custody.refs q c (tasks.flatMap handles)

@[simp] theorem refs_nil (q : Qualifier) (c : CellId) : refs q c [] = 0 := rfl

@[simp] theorem refs_append (q : Qualifier) (c : CellId) (first second : List Task) :
    refs q c (first ++ second) = refs q c first + refs q c second := by
  unfold refs
  rw [List.flatMap_append, Custody.refs_append]

theorem refs_cons (q : Qualifier) (c : CellId) (t : Task) (rest : List Task) :
    refs q c (t :: rest) = Custody.refs q c t.handles + refs q c rest := by
  unfold refs
  rw [List.flatMap_cons, Custody.refs_append]

/-- A task that lets go of no handle does not count. -/
theorem refs_cons_of_handles_eq_nil (q : Qualifier) (c : CellId) {t : Task} (h : t.handles = [])
    (rest : List Task) : refs q c (t :: rest) = refs q c rest := by
  rw [refs_cons, h, Custody.refs_nil, Nat.zero_add]

theorem refs_perm (q : Qualifier) (c : CellId) {first second : List Task}
    (h : first.Perm second) : refs q c first = refs q c second :=
  Custody.refs_perm q c (h.flatMap_right _)

@[simp] theorem refs_map_drop (q : Qualifier) (c : CellId) (handles : List Handle) :
    refs q c (handles.map drop) = Custody.refs q c handles := by
  unfold refs
  congr 1
  induction handles with
  | nil => rfl
  | cons h rest ih => rw [List.map_cons, List.flatMap_cons, ih]; rfl

/-- To destroy a value is to let go of its handles. -/
@[simp] theorem refs_plan (q : Qualifier) (c : CellId) (v : Value) :
    refs q c v.plan = Custody.refs q c v.handles := by
  cases v with
  | node label next back => rfl
  | bundle label held => exact refs_map_drop q c held
  | _ => rfl

/-- How many times the owners' shared reference to a cell is to be given up. -/
def leaving (c : CellId) (tasks : List Task) : Nat := tasks.count (leaveGroup c)

/-- Whether a task deals with the storage of a cell. -/
def returns (c : CellId) : Task → Bool
  | giveBack _ _ d | retire _ _ d => d == c
  | _ => false

/-- How many times the storage of a cell is to go back to its allocator. -/
def returning (c : CellId) (tasks : List Task) : Nat := tasks.countP (returns c)

/-- To destroy a value gives nothing else up. -/
theorem leaving_plan_append (c : CellId) (v : Value) (rest : List Task) :
    leaving c (v.plan ++ rest) = leaving c rest := by
  unfold leaving
  rw [List.count_append, List.count_eq_zero.2, Nat.zero_add]
  intro member
  exact Bool.noConfusion (Value.isCleanup_of_mem_plan member)

theorem returning_plan_append (c : CellId) (v : Value) (rest : List Task) :
    returning c (v.plan ++ rest) = returning c rest := by
  unfold returning
  rw [List.countP_append, List.countP_eq_zero.2, Nat.zero_add]
  intro t member
  have cleanup := Value.isCleanup_of_mem_plan member
  cases t with
  | drop h => exact Bool.false_ne_true
  | announce label => exact Bool.false_ne_true
  | _ => cases cleanup

/-- To let go of handles gives nothing else up. -/
theorem leaving_map_drop (c : CellId) (handles : List Handle) :
    leaving c (handles.map drop) = 0 := by
  refine List.count_eq_zero.2 fun member => ?_
  obtain ⟨h, -, same⟩ := List.mem_map.1 member
  cases same

theorem returning_map_drop (c : CellId) (handles : List Handle) :
    returning c (handles.map drop) = 0 := by
  refine List.countP_eq_zero.2 fun t member => ?_
  obtain ⟨h, -, rfl⟩ := List.mem_map.1 member
  exact Bool.false_ne_true

theorem leaving_append (c : CellId) (first second : List Task) :
    leaving c (first ++ second) = leaving c first + leaving c second :=
  List.count_append

@[simp] theorem returning_append (c : CellId) (first second : List Task) :
    returning c (first ++ second) = returning c first + returning c second :=
  List.countP_append

theorem returning_tail_le (c : CellId) (tasks : List Task) :
    returning c tasks.tail ≤ returning c tasks :=
  (List.tail_sublist tasks).countP_le

/-! What a panic leaves of tasks are their handles, and nothing that was to follow. -/

theorem refs_cleanup (q : Qualifier) (c : CellId) (tasks : List Task) :
    refs q c (cleanup tasks) = refs q c tasks := by
  induction tasks with
  | nil => rfl
  | cons t rest ih =>
    unfold cleanup at ih ⊢
    rw [List.filter_cons]
    by_cases kept : t.isCleanup = true
    · rw [if_pos kept, refs_cons, ih, ← refs_cons]
    · rw [if_neg kept, ih, refs_cons_of_handles_eq_nil q c]
      cases t with
      | drop h => exact absurd rfl kept
      | _ => rfl

theorem leaving_cleanup (c : CellId) (tasks : List Task) : leaving c (cleanup tasks) = 0 := by
  refine List.count_eq_zero.2 fun member => ?_
  exact Bool.noConfusion (List.mem_filter.1 member).2

theorem returning_cleanup (c : CellId) (tasks : List Task) :
    returning c (cleanup tasks) = 0 := by
  refine List.countP_eq_zero.2 fun t member => ?_
  have kept := (List.mem_filter.1 member).2
  cases t with
  | drop h => exact Bool.false_ne_true
  | announce label => exact Bool.false_ne_true
  | _ => cases kept

/-- What tasks were to follow a destruction is what they were to give up. -/
theorem count_follows (c : CellId) (tasks : List Task) :
    (tasks.filterMap follows?).count c = leaving c tasks + returning c tasks := by
  induction tasks with
  | nil => rfl
  | cons t rest ih =>
    have split : leaving c (t :: rest) + returning c (t :: rest) =
        leaving c [t] + returning c [t] + (leaving c rest + returning c rest) := by
      rw [← List.singleton_append, leaving_append, returning_append]
      omega
    rw [split, ← ih]
    cases t with
    | drop h =>
      rw [List.filterMap_cons_none rfl]
      simp [leaving, returning, returns]
    | announce label =>
      rw [List.filterMap_cons_none rfl]
      simp [leaving, returning, returns]
    | leaveGroup d =>
      have : (Task.leaveGroup d == Task.leaveGroup c) = (d == c) := by
        rw [Bool.eq_iff_iff, beq_iff_eq, beq_iff_eq]
        exact ⟨fun h => by injection h, fun h => by rw [h]⟩
      simp [follows?, leaving, returning, returns, List.count_cons, this]
      omega
    | giveBack a l d =>
      simp [follows?, leaving, returning, returns, List.count_cons, List.countP_cons]
      omega
    | retire a l d =>
      simp [follows?, leaving, returning, returns, List.count_cons, List.countP_cons]
      omega

end Task

/-! ## Handles in memory -/

/-- How many handles in cells refer to a cell. -/
def Memory.refs (q : Qualifier) (c : CellId) (m : Memory) : Nat :=
  m.cells.total fun cell => Custody.refs q c cell.value.handles

namespace Memory

theorem refs_setCell {m : Memory} {c : CellId} {old : Cell} (found : m.cell? c = some old)
    (new : Cell) (q : Qualifier) (d : CellId) :
    (m.setCell c new).refs q d + Custody.refs q d old.value.handles =
      m.refs q d + Custody.refs q d new.value.handles :=
  Slab.total_set _ found

/-- A cell that is replaced by one with the same value refers to the same. -/
theorem refs_setCell_of_value {m : Memory} {c : CellId} {old new : Cell}
    (found : m.cell? c = some old) (same : new.value = old.value) (q : Qualifier) (d : CellId) :
    (m.setCell c new).refs q d = m.refs q d := by
  have := refs_setCell found new q d
  rw [same] at this
  exact Nat.add_right_cancel this

theorem refs_addCell (m : Memory) (cell : Cell) (q : Qualifier) (d : CellId) :
    (m.addCell cell).refs q d = m.refs q d + Custody.refs q d cell.value.handles :=
  Slab.total_push _ _ _

/-- A handle in a cell is counted. -/
theorem refs_pos_of_mem {m : Memory} {c : CellId} {cell : Cell} (found : m.cell? c = some cell)
    {h : Handle} (member : h ∈ cell.value.handles) {l : Link} (link : h.link = some l) :
    0 < m.refs h.qualifier l.cell := by
  refine Nat.lt_of_lt_of_le ?_ (Slab.le_total _ found)
  refine List.countP_pos_iff.2 ⟨h, member, ?_⟩
  simp [Handle.refersTo, link]

/-- A value with handles inside is the whole value of its cell. -/
theorem whole_of_mem_handles {m : Memory} {p : Place} {v : Value} (there : m.read? p = some v)
    {h : Handle} (member : h ∈ v.handles) :
    p.path = [] ∧ ∃ cell, m.cell? p.cell = some cell ∧ cell.value = v := by
  obtain ⟨cell, found, part⟩ := Option.bind_eq_some_iff.1 there
  cases path : p.path with
  | nil =>
    rw [path] at part
    exact ⟨rfl, cell, found, Option.some.inj part⟩
  | cons f rest =>
    rw [path] at part
    rw [Value.handles_part? part] at member
    cases member

/-- A cell that is replaced by itself. -/
theorem setCell_of_cell? {m : Memory} {c : CellId} {cell : Cell} (found : m.cell? c = some cell) :
    m.setCell c cell = m := by
  unfold setCell
  have same : m.cells.set c cell = m.cells := Slab.set_of_get? found
  rw [same]

theorem cell?_setCell_self {m : Memory} {c : CellId} {old : Cell} (found : m.cell? c = some old)
    (new : Cell) : (m.setCell c new).cell? c = some new :=
  Slab.get?_set_self found

theorem cell?_setCell_of_ne (m : Memory) {c d : CellId} (new : Cell) (h : d ≠ c) :
    (m.setCell c new).cell? d = m.cell? d :=
  Slab.get?_set_of_ne new h.symm

theorem cell?_addCell_self (m : Memory) (cell : Cell) :
    (m.addCell cell).cell? m.cells.next = some cell :=
  Slab.get?_push_next m.cells cell

theorem cell?_addCell_of_ne (m : Memory) (cell : Cell) {d : CellId} (h : d ≠ m.cells.next) :
    (m.addCell cell).cell? d = m.cell? d :=
  Slab.get?_push_of_ne m.cells cell h

end Memory

end Custody
