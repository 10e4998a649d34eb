import Custody.Handle.Neighbours
import Custody.Proofs.Moving

/-!
# Handles inside values

Writing through a handle leaves the handles inside the value alone, except where a node is given
another neighbour. There a handle from outside changes places with one inside: `IsSlot` says
what the readers and the writers of neighbours have in common, and `Machine.setValue_books` that
the books balance again after such a change. While the old neighbour is let go of the node has
none, and it is still there, or what is left of it, when the new one is put in its place.
-/

namespace Custody

/-- A reader and a writer of one handle inside a value. -/
structure IsSlot (held? : Value → Option Handle) (put : Handle → Value → Value) : Prop where
  /-- The writer exchanges the handle that the reader finds, and leaves the others alone. -/
  exchange : ∀ v old, held? v = some old →
    ∃ others, v.handles.Perm (old :: others) ∧ ∀ h, (put h v).handles.Perm (h :: others)
  /-- The reader finds what was written. -/
  held_put : ∀ v old h, held? v = some old → held? (put h v) = some h
  /-- What is left of a value has the slot, and it is empty. -/
  held_remains : ∀ v old, held? v = some old → held? v.remains = some old.emptied

namespace Value

theorem isSlot_next : IsSlot next? withNext where
  exchange v old held := by
    cases v with
    | node label next back =>
      cases held
      exact ⟨[back], .refl _, fun h => .refl _⟩
    | _ => cases held
  held_put v old h held := by
    cases v with
    | node label next back => rfl
    | _ => cases held
  held_remains v old held := by
    cases v with
    | node label next back =>
      cases held
      rfl
    | _ => cases held

theorem isSlot_back : IsSlot back? withBack where
  exchange v old held := by
    cases v with
    | node label next back =>
      cases held
      exact ⟨[next], .swap _ _ _, fun h => .swap _ _ _⟩
    | _ => cases held
  held_put v old h held := by
    cases v with
    | node label next back => rfl
    | _ => cases held
  held_remains v old held := by
    cases v with
    | node label next back =>
      cases held
      rfl
    | _ => cases held

/-- To replace a field of a value leaves its handles alone. -/
theorem handles_setField (v : Value) (f : Field) (part : Value) :
    (v.setField f part).handles = v.handles := by
  unfold setField
  split <;> rfl

/-- To change a part of a value other than the whole leaves its handles alone. -/
theorem handles_changePart_cons (change : Value → Value) (v : Value) (f : Field)
    (path : List Field) : (v.changePart change (f :: path)).handles = v.handles := by
  rw [changePart]
  cases v.field? f with
  | none => rfl
  | some part => exact handles_setField _ _ _

end Value

namespace IsSlot

variable {held? : Value → Option Handle} {put : Handle → Value → Value}

/-- A value with a slot is the whole value of its cell. -/
theorem whole (slot : IsSlot held? put) {m : Memory} {p : Place} {old : Handle}
    (held : (m.read? p).bind held? = some old) :
    p.path = [] ∧ ∃ cell, m.cell? p.cell = some cell ∧ held? cell.value = some old := by
  obtain ⟨v, there, held⟩ := Option.bind_eq_some_iff.1 held
  obtain ⟨others, handles, -⟩ := slot.exchange v old held
  have member : old ∈ v.handles := handles.mem_iff.2 (List.mem_cons_self ..)
  obtain ⟨whole, cell, found, rfl⟩ := m.whole_of_mem_handles there member
  exact ⟨whole, cell, found, held⟩

end IsSlot

namespace Machine

open Session

variable {m n : Machine} {tasks more : List Task}

/-! ## Other values in a cell -/

/-- A cell is given another value, and handles move between the value and the outside. -/
theorem setValue_books {c : CellId} {cell : Cell} (found : m.memory.cell? c = some cell)
    (v : Value) (books : m.Books tasks)
    (moved : ∀ q d, Task.refs q d more + refs q d v.handles =
      Task.refs q d tasks + refs q d cell.value.handles)
    (leaving : ∀ d, Task.leaving d more = Task.leaving d tasks)
    (returning : ∀ d, Task.returning d more = Task.returning d tasks) :
    ({ m with memory := m.memory.setCell c { cell with value := v } } : Machine).Books more := by
  intro d
  have same : ({ m with memory := m.memory.setCell c { cell with value := v } } :
      Machine).tally more d = m.tally tasks d := by
    ext q
    · have before := Memory.refs_setCell found { cell with value := v } q d
      have after := moved q d
      show Task.refs q d more + (m.memory.setCell c { cell with value := v }).refs q d =
        Task.refs q d tasks + m.memory.refs q d
      dsimp only at before
      omega
    · exact leaving d
    · exact returning d
    all_goals rfl
  have fits := books d
  rw [same]
  by_cases here : d = c
  · subst here
    rw [found] at fits
    show Tally.Fits _ ((m.memory.setCell d { cell with value := v }).cell? d)
    rw [Memory.cell?_setCell_self found]
    exact fits
  · show Tally.Fits _ ((m.memory.setCell c { cell with value := v }).cell? d)
    rw [Memory.cell?_setCell_of_ne _ _ here]
    exact fits

/-! ## A handle for another -/

variable {held? : Value → Option Handle} {put : Handle → Value → Value} {p : Place}

/-- What was written to a slot is read there. -/
theorem read_change (slot : IsSlot held? put) {memory : Memory} {old : Handle}
    (held : (memory.read? p).bind held? = some old) (h : Handle) :
    ((memory.change p (put h)).read? p).bind held? = some h := by
  obtain ⟨path, cell, found, held⟩ := slot.whole held
  have written : (memory.change p (put h)).cell? p.cell =
      some { cell with value := put h cell.value } := by
    unfold Memory.change
    rw [found, path]
    exact Memory.cell?_setCell_self found _
  unfold Memory.read?
  rw [written, path]
  exact slot.held_put cell.value old h held

/-- Settling leaves the handle in a slot, or empties it. -/
theorem read_settled (slot : IsSlot held? put) {old : Handle}
    (held : (m.memory.read? p).bind held? = some old) (settled : m.Settled n) :
    (n.memory.read? p).bind held? = some old ∨
      (n.memory.read? p).bind held? = some old.emptied := by
  obtain ⟨path, cell, found, held⟩ := slot.whole held
  obtain ⟨after, now, aged⟩ := (settled.cells p.cell).exists_right found
  have there : (n.memory.read? p).bind held? = held? after.value := by
    unfold Memory.read?
    rw [now, path]
    rfl
  rw [there]
  rcases aged.value with same | spent
  · rw [same]
    exact .inl held
  · rw [spent]
    exact .inr (slot.held_remains _ _ held)

/-! ## Counting -/

/-- Counting one more handle changes nothing but a count. -/
theorem clone_settled (h : Handle) : (clone h).Keeps Settled :=
  clone_keeps (fun _ _ c _ kept => recount_settled c kept) h

/-- A handle is still in its slot, or what is left of it, after a handle was cloned. -/
theorem isSome_settled (slot : IsSlot held? put)
    (there : ((m.memory.read? p).bind held?).isSome) (settled : m.Settled n) :
    ((n.memory.read? p).bind held?).isSome := by
  obtain ⟨old, held⟩ := Option.isSome_iff_exists.1 there
  rcases read_settled slot held settled with found | found
  · rw [found]
    rfl
  · rw [found]
    rfl

end Machine

end Custody
