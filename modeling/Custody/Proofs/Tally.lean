import Custody.Block.State
import Custody.Proofs.Census

/-!
# Tallies and what control blocks say of them

A `Tally` is all that is known of a cell from outside of it: how many handles of each qualifier
refer to it, how often its storage or the owners' shared reference is still to be given up, how
often its destruction began, was cut short by a panic, and was followed by the return of its
storage, and how often a value was put there for an owner. `Machine.tally` counts all this over the
memory, the deeds and a list of tasks.

A control block is right if its counts say what the tally says. For each kind of block there is
a law that relates the two, and each law comes with what one operation on the block does to it:

* in a strong group, `StrongLaw`, the owners are counted exactly, and the observers with one
  more reference, which the owners share. The last owner leaves it to a task, which a panic in
  the destruction takes away, and then the reference stays for ever;
* in a local group, `LocalLaw`, the owners are counted exactly, and there are no observers;
* a sole owner, `SoleLaw`, is there or has let go, and in either case once;
* what its allocator collects, `CollectLaw`, has no counts, and one owner at most;
* what has no block, `BareLaw`, has one owner if it was put there for one, and else none.
-/

namespace Custody

/-- What is known of a cell from outside of it. -/
@[ext]
structure Tally where
  /-- The handles that refer to it, by qualifier. -/
  refs : Qualifier → Nat
  /-- How often the owners' shared reference is to be given up. -/
  leaving : Nat
  /-- How often its storage is to go back. -/
  returning : Nat
  /-- How often the destruction of its value began. -/
  began : Nat
  /-- How often a panic kept what was to follow a destruction from being done. -/
  failed : Nat
  /-- How often its storage went back. -/
  returned : Nat
  /-- How often a value was put there for an owner. -/
  placed : Nat

/-- Whether a value is put into a cell for an owner. -/
def StorageEvent.places (c : CellId) : StorageEvent → Bool
  | placed _ d => d == c
  | _ => false

/-- The tally of a cell, given all handles and duties outside of cells. -/
def Machine.tally (m : Machine) (tasks : List Task) (c : CellId) : Tally where
  refs q := Task.refs q c tasks + m.memory.refs q c
  leaving := Task.leaving c tasks
  returning := Task.returning c tasks
  began := m.deeds.count (.destructionBegan c)
  failed := m.deeds.count (.destructionFailed c)
  returned := m.deeds.count (.handedBack c)
  placed := m.deeds.countP (·.places c)

/-- One if a count is positive, and zero otherwise. -/
def Word.sign (w : Word) : Nat := if w = 0 then 0 else 1

@[simp] theorem Word.sign_zero : sign 0 = 0 := rfl

theorem Word.sign_of_ne {w : Word} (h : w ≠ 0) : sign w = 1 := if_neg h

namespace Tally

/-- Nothing refers to a cell, and nothing was or is to be done with it. -/
structure Untouched (t : Tally) : Prop where
  refs : ∀ q, t.refs q = 0
  leaving : t.leaving = 0
  returning : t.returning = 0
  began : t.began = 0
  failed : t.failed = 0
  returned : t.returned = 0
  placed : t.placed = 0

/-- Only handles of the given qualifiers refer to a cell. -/
def OnlyBy (t : Tally) (qualifiers : List Qualifier) : Prop :=
  ∀ q, q ∉ qualifiers → t.refs q = 0

/-- What a strong group with its counts says of its cell. -/
structure StrongLaw (t : Tally) (strong weak : Word) : Prop where
  only : t.OnlyBy [.strong, .weak]
  /-- Every owner is counted, and nothing else is. -/
  owners : t.refs .strong = strong.toNat
  /-- Every observer is counted, with the reference that the owners share. -/
  observers : t.refs .weak + t.leaving + t.failed + strong.sign = weak.toNat
  /-- The owners share one reference. -/
  share : t.leaving + t.failed + strong.sign ≤ 1
  /-- The destruction begins with the end of the last owner. -/
  began : t.began + strong.sign = 1
  /-- The storage goes back with the end of the last reference. -/
  returned : t.returned + t.returning + weak.sign = 1

/-- What a group on one thread with its count says of its cell. -/
structure LocalLaw (t : Tally) (count : Word) : Prop where
  only : t.OnlyBy [.handle]
  leaving : t.leaving = 0
  /-- Every owner is counted, and nothing else is. -/
  owners : t.refs .handle = count.toNat
  /-- The destruction begins with the end of the last owner. -/
  began : t.began + count.sign = 1
  /-- The storage goes back after the destruction, unless a panic left it. -/
  returned : t.returned + t.returning + t.failed + count.sign = 1

/-- What is said of a cell by the block of its sole owner. -/
structure SoleLaw (t : Tally) (q : Qualifier) : Prop where
  only : t.OnlyBy [q]
  leaving : t.leaving = 0
  /-- The owner is there, or it has let go, and is never there again. -/
  once : t.refs q + t.returned + t.returning + t.failed = 1
  /-- A value that is owned is not being destroyed. -/
  began : t.began + t.refs q ≤ 1

/-- What is said of a cell by a block whose value is destroyed with its allocator. -/
structure CollectLaw (t : Tally) : Prop where
  only : t.OnlyBy [.collect]
  /-- There is no second owner. -/
  sole : t.refs .collect ≤ 1
  leaving : t.leaving = 0
  returning : t.returning = 0
  failed : t.failed = 0
  returned : t.returned = 0

/-- What holds of a cell without a block. -/
structure BareLaw (t : Tally) : Prop where
  only : t.OnlyBy [.unique]
  leaving : t.leaving = 0
  /-- The owner is there, or it has let go, and is never there again. -/
  once : t.refs .unique + t.returned + t.returning + t.failed = t.placed
  /-- There is at most one owner ever. -/
  sole : t.placed ≤ 1
  /-- A value that is owned is not being destroyed. -/
  began : t.placed = 0 ∨ t.began + t.refs .unique ≤ 1

/-- What the state of a control block says of its cell. -/
def Law (t : Tally) : Option BlockState → Prop
  | none => t.BareLaw
  | some .own => t.SoleLaw .own
  | some .discard => t.SoleLaw .discard
  | some .collect => t.CollectLaw
  | some (.strong strong weak) => t.StrongLaw strong weak
  | some (.handle count) => t.LocalLaw count

/-- What a cell says of its tally. What has a control block was asked for somewhere. -/
def Fits (t : Tally) : Option Cell → Prop
  | none => t.Untouched
  | some cell => (cell.state.isSome → cell.home.isSome) ∧ t.Law cell.state

end Tally

/-- The qualifiers by which a cell with a state can be referred to. -/
def admitted : Option BlockState → List Qualifier
  | none => [.unique]
  | some (.strong ..) => [.strong, .weak]
  | some state => [state.qualifier]

/-- The states of a cell that a handle of a qualifier refers to. -/
def Governed : Qualifier → Option BlockState → Prop
  | .raw, _ => False
  | .unique, state => state = none
  | .own, state => state = some .own
  | .discard, state => state = some .discard
  | .collect, state => state = some .collect
  | .strong, state | .weak, state => ∃ strong weak, state = some (.strong strong weak)
  | .handle, state => ∃ count, state = some (.handle count)

theorem governed_of_mem_admitted {state : Option BlockState} {q : Qualifier}
    (h : q ∈ admitted state) : Governed q state := by
  match state with
  | none =>
    rw [List.mem_singleton.1 h]
    rfl
  | some .own =>
    rw [List.mem_singleton.1 h]
    rfl
  | some .discard =>
    rw [List.mem_singleton.1 h]
    rfl
  | some .collect =>
    rw [List.mem_singleton.1 h]
    rfl
  | some (.strong s w) =>
    rcases List.mem_cons.1 h with rfl | h
    · exact ⟨s, w, rfl⟩
    · rw [List.mem_singleton.1 h]
      exact ⟨s, w, rfl⟩
  | some (.handle n) =>
    rw [List.mem_singleton.1 h]
    exact ⟨n, rfl⟩

namespace Tally

/-- A cell is referred to only in ways that its block admits. -/
theorem Law.only {t : Tally} {state : Option BlockState} (h : t.Law state) :
    t.OnlyBy (admitted state) := by
  match state, h with
  | none, h => exact BareLaw.only h
  | some .own, h => exact SoleLaw.only h
  | some .discard, h => exact SoleLaw.only h
  | some .collect, h => exact CollectLaw.only h
  | some (.strong _ _), h => exact StrongLaw.only h
  | some (.handle _), h => exact LocalLaw.only h

/-- What a cell that is there says of its tally. -/
theorem Fits.law {t : Tally} {cell? : Option Cell} (h : t.Fits cell?) {cell : Cell}
    (found : cell? = some cell) : t.Law cell.state := by
  subst found
  exact h.2

/-- What refers to a cell finds it there, with a block that admits it. -/
theorem Fits.admits {t : Tally} {cell? : Option Cell} (h : t.Fits cell?) {q : Qualifier}
    (positive : 0 < t.refs q) :
    ∃ cell, cell? = some cell ∧ Governed q cell.state ∧
      (cell.state.isSome → cell.home.isSome) ∧ t.Law cell.state := by
  cases cell? with
  | none =>
    have := Untouched.refs h q
    omega
  | some cell =>
    obtain ⟨homed, law⟩ := h
    refine ⟨cell, rfl, ?_, homed, law⟩
    by_cases member : q ∈ admitted cell.state
    · exact governed_of_mem_admitted member
    · have := law.only q member
      omega

end Tally

end Custody
