import Custody.Proofs.History
import Custody.Proofs.Stored

/-!
# Arenas that agree with their history

A machine is sound, `Machine.Sound`, if its history is lawful and every arena is what the history
says: its list of destructors is what was registered since the list was last taken out, its
chunks are the chunks that are held, whatever it will run lies in one of them, and so does its
cursor, and its counters count what was done. Besides, every subject for which a destructor was
registered is a cell whose value nobody else will destroy, and the heap hands out no address twice.

Most operations do not touch any of this. `Machine.Ordinary m n` says of the machine before and
the machine afterwards that the difference does not matter to soundness: that is so of all that
settles, counts, writes to values, or puts values that nobody collects into storage.
-/

namespace Custody

/-- Whether a destructor may have been registered for a cell: its value was not put there for an
owner, or for one that leaves it to the allocator. -/
def Machine.IsSubject (m : Machine) (c : CellId) : Prop :=
  ∃ cell, m.memory.cell? c = some cell ∧
    (cell.state = none ∧ m.deeds.countP (·.places c) = 0 ∨ cell.state = some .collect)

/-- The chunk that a cursor fills. -/
structure Cursor.Fills (cursor : Cursor) (c : Chunk) : Prop where
  base : cursor.base = c.base
  size : cursor.size.toNat = c.layout.size

/-- An arena is what the history says. -/
structure Arena.Reflects (a : Arena) (id : AllocatorId) (deeds : List StorageEvent) : Prop where
  collected : a.collected = (sinceTaken id deeds).map Booking.registration
  chunks : a.chunks = chunksHeld id deeds
  stored : ∀ b ∈ sinceTaken id deeds, b.LiesIn (chunksHeld id deeds)
  cursor : ∀ cursor, a.cursor = some cursor → ∃ c ∈ chunksHeld id deeds, cursor.Fills c

namespace Machine

/-- All arenas agree with a lawful history. One subject may still be expected: its destructor
was registered, and its value is put into storage next. -/
structure SoundBut (expected : Option CellId) (m : Machine) : Prop where
  lawful : Lawful m.deeds
  /-- What a destructor was registered for is there, and nobody else destroys it. -/
  subjects : ∀ e ∈ m.deeds, ∀ c, e.subject? = some c → m.IsSubject c ∨ expected = some c
  /-- Chunks lie where the heap will not hand out anything again. -/
  bases : ∀ e ∈ m.deeds, ∀ base, e.chunkBase? = some base → base.toNat < m.memory.heap.top
  /-- Chunks do not reach behind the greatest address. -/
  bounded : ∀ id, ∀ c ∈ chunksHeld id m.deeds, c.base.toNat + c.layout.size < Word.sizeLimit
  arenas : ∀ id a, m.memory.arena? id = some a → a.Reflects id m.deeds
  audited : m.Audited
  /-- An allocator that was not made yet has no history. -/
  unborn : ∀ id, m.memory.allocators.next ≤ id →
    sinceTaken id m.deeds = [] ∧ chunksHeld id m.deeds = []

/-- All arenas agree with a lawful history. -/
abbrev Sound (m : Machine) : Prop := SoundBut none m

/-- A cell that stays as it is, and is given to no owner, stays a subject. -/
theorem IsSubject.later {m n : Machine} {c : CellId} {added : List StorageEvent}
    (subject : m.IsSubject c) (cell : n.memory.cell? c = m.memory.cell? c)
    (deeds : n.deeds = added ++ m.deeds) (never : ∀ e ∈ added, e.places c = false) :
    n.IsSubject c := by
  obtain ⟨there, found, unowned⟩ := subject
  refine ⟨there, cell.trans found, ?_⟩
  have none : added.countP (·.places c) = 0 :=
    List.countP_eq_zero.2 fun e member => by simp [never e member]
  rw [deeds, List.countP_append, none, Nat.zero_add]
  exact unowned

/-- What does not matter to soundness. -/
structure Ordinary (m n : Machine) : Prop where
  subjects : ∀ c, m.IsSubject c → n.IsSubject c
  arenas : ∀ id a, n.memory.arena? id = some a →
    ∃ b, m.memory.arena? id = some b ∧ { b with ledger := {} } = { a with ledger := {} }
  born : m.memory.allocators.next ≤ n.memory.allocators.next
  top : m.memory.heap.top ≤ n.memory.heap.top
  deeds : ∃ added, n.deeds = added ++ m.deeds ∧ ∀ e ∈ added, e.isInert
  audited : m.Audited → n.Audited

theorem Ordinary.refl (m : Machine) : m.Ordinary m where
  subjects _ h := h
  arenas _ a h := ⟨a, h, rfl⟩
  born := Nat.le_refl _
  top := Nat.le_refl _
  deeds := ⟨[], rfl, nofun⟩
  audited h := h

theorem Ordinary.trans {m n o : Machine} (first : m.Ordinary n) (second : n.Ordinary o) :
    m.Ordinary o where
  subjects c h := second.subjects c (first.subjects c h)
  arenas id a h := by
    obtain ⟨b, there, same⟩ := second.arenas id a h
    obtain ⟨c, before, same'⟩ := first.arenas id b there
    exact ⟨c, before, same'.trans same⟩
  born := Nat.le_trans first.born second.born
  top := Nat.le_trans first.top second.top
  deeds := by
    obtain ⟨added, same, inert⟩ := first.deeds
    obtain ⟨more, same', inert'⟩ := second.deeds
    refine ⟨more ++ added, by rw [same', same, List.append_assoc], fun e member => ?_⟩
    rcases List.mem_append.1 member with member | member
    · exact inert' e member
    · exact inert e member
  audited h := second.audited (first.audited h)

instance : IsPreorder Machine Ordinary where
  refl := Ordinary.refl
  trans _ _ _ := Ordinary.trans

/-- What does not matter to soundness leaves a machine sound. -/
theorem SoundBut.ordinary {expected : Option CellId} {m n : Machine}
    (sound : SoundBut expected m) (h : m.Ordinary n) : SoundBut expected n := by
  obtain ⟨added, same, inert⟩ := h.deeds
  have old {e : StorageEvent} (member : e ∈ n.deeds) : e ∈ m.deeds ∨ e.isInert := by
    rw [same] at member
    rcases List.mem_append.1 member with member | member
    · exact .inr (inert e member)
    · exact .inl member
  have taken (id : AllocatorId) : sinceTaken id n.deeds = sinceTaken id m.deeds := by
    rw [same, sinceTaken_append id _ fun e member => isAbout_of_isInert (inert e member) id]
  have held (id : AllocatorId) : chunksHeld id n.deeds = chunksHeld id m.deeds := by
    rw [same, chunksHeld_append id _ fun e member => isAbout_of_isInert (inert e member) id]
  constructor
  · rw [same]
    exact sound.lawful.append inert
  · intro e member c subject
    rcases old member with before | inert
    · exact (sound.subjects e before c subject).imp_left (h.subjects c)
    · rw [subject?_of_isInert inert] at subject
      cases subject
  · intro e member base obtained
    rcases old member with before | inert
    · exact Nat.lt_of_lt_of_le (sound.bases e before base obtained) h.top
    · rw [chunkBase?_of_isInert inert] at obtained
      cases obtained
  · intro id c member
    rw [held] at member
    exact sound.bounded id c member
  · intro id a there
    obtain ⟨b, before, like⟩ := h.arenas id a there
    obtain ⟨collected, chunks, stored, cursor⟩ := sound.arenas id b before
    obtain ⟨-, -, -, chunks', cursor', -, -, collected', -⟩ := Arena.mk.inj like
    constructor
    · rw [taken, ← collected', collected]
    · rw [held, ← chunks', chunks]
    · rw [taken, held]
      exact stored
    · rw [held, ← cursor']
      exact cursor
  · exact h.audited sound.audited
  · intro id unborn
    rw [taken, held]
    exact sound.unborn id (Nat.le_trans h.born unborn)

/-- A machine in which one arena and its history moved on together is sound. -/
theorem Sound.moveOn {m n : Machine} {id : AllocatorId} {a b : Arena}
    {added : List StorageEvent} {expected : Option CellId} (sound : m.Sound)
    (there : m.memory.arena? id = some a) (cells : n.memory.cells = m.memory.cells)
    (allocators : n.memory.allocators = m.memory.allocators.set id (.arena b))
    (top : m.memory.heap.top ≤ n.memory.heap.top) (deeds : n.deeds = added ++ m.deeds)
    (lawful : Lawful n.deeds)
    (others : ∀ other, other ≠ id → ∀ e ∈ added,
      e.isAbout other = false ∧ e.isEntered other = false)
    (never : ∀ e ∈ added, ∀ c, e.places c = false)
    (subjects : ∀ e ∈ added, ∀ c, e.subject? = some c → expected = some c)
    (bases : ∀ e ∈ added, ∀ base, e.chunkBase? = some base → base.toNat < n.memory.heap.top)
    (bounded : ∀ c ∈ chunksHeld id n.deeds, c.base.toNat + c.layout.size < Word.sizeLimit)
    (reflects : b.Reflects id n.deeds) (ledger : b.ledger = ledgerOf id n.deeds) :
    SoundBut expected n := by
  obtain ⟨allocator, found, -⟩ := Option.bind_eq_some_iff.1 there
  have elsewhere {other : AllocatorId} (ne : other ≠ id) :
      sinceTaken other n.deeds = sinceTaken other m.deeds ∧
        chunksHeld other n.deeds = chunksHeld other m.deeds := by
    have about : ∀ e ∈ added, e.isAbout other = false := fun e member =>
      (others other ne e member).1
    rw [deeds]
    exact ⟨sinceTaken_append other _ about, chunksHeld_append other _ about⟩
  have audited : n.Audited := sound.audited.moveOn found allocators deeds
    (fun other ne e member => (others other ne e member).2) ledger
  refine ⟨lawful, ?_, ?_, ?_, ?_, audited, ?_⟩
  · intro e member c subject
    rw [deeds] at member
    rcases List.mem_append.1 member with new | old
    · exact .inr (subjects e new c subject)
    · have before := (sound.subjects e old c subject).resolve_right nofun
      refine .inl (before.later ?_ deeds fun e member => never e member c)
      unfold Memory.cell?
      rw [cells]
  · intro e member base obtained
    rw [deeds] at member
    rcases List.mem_append.1 member with new | old
    · exact bases e new base obtained
    · exact Nat.lt_of_lt_of_le (sound.bases e old base obtained) top
  · intro other c member
    by_cases same : other = id
    · subst same
      exact bounded c member
    · rw [(elsewhere same).2] at member
      exact sound.bounded other c member
  · intro other c now
    have now : (n.memory.allocators.get? other).bind Allocator.arena? = some c := now
    rw [allocators] at now
    by_cases same : other = id
    · subst same
      rw [Slab.get?_set_self found] at now
      cases now
      exact reflects
    · rw [Slab.get?_set_of_ne _ (Ne.symm same)] at now
      obtain ⟨collected, chunks, stored, cursor⟩ := sound.arenas other c now
      obtain ⟨taken, held⟩ := elsewhere same
      exact ⟨by rw [taken, collected], by rw [held, chunks], by rw [taken, held]; exact stored,
        by rw [held]; exact cursor⟩
  · intro other unborn
    have next : n.memory.allocators.next = m.memory.allocators.next := by
      rw [allocators, Slab.next_set]
    rw [next] at unborn
    have ne : other ≠ id :=
      Nat.ne_of_gt (Nat.lt_of_lt_of_le (Slab.lt_next_of_get? found) unborn)
    obtain ⟨taken, held⟩ := elsewhere ne
    rw [taken, held]
    exact sound.unborn other unborn

/-- Soundness before is soundness afterwards. -/
def StaysSound (m n : Machine) : Prop := m.Sound → n.Sound

instance : IsPreorder Machine StaysSound where
  refl _ h := h
  trans _ _ _ first second h := second (first h)

theorem Ordinary.staysSound {m n : Machine} (h : m.Ordinary n) : m.StaysSound n :=
  fun sound => sound.ordinary h

/-! ## Ordinary operations -/

theorem isInert_of_isLettingGo {e : StorageEvent} (h : e.isLettingGo) : e.isInert := by
  cases e with
  | granted a base l d => cases h
  | releaseBegan a => cases h
  | collectedRun a base d => cases h
  | chunkObtained a base l => cases h
  | chunkReleased a base l => cases h
  | bulkReleased a leaked => cases h
  | _ => rfl

/-- To let go is to put no value anywhere. -/
theorem places_of_isLettingGo {e : StorageEvent} (h : e.isLettingGo) {c : CellId} :
    e.places c = false := by
  cases e with
  | placed a d => cases h
  | _ => rfl

/-- Allocators that differ in their counters only are arenas together. -/
theorem arena?_of_uncounted {x y : Option Allocator} {a : Arena}
    (same : y.map Allocator.uncounted = x.map Allocator.uncounted)
    (arena : y.bind Allocator.arena? = some a) :
    ∃ b, x.bind Allocator.arena? = some b ∧ { b with ledger := {} } = { a with ledger := {} } := by
  cases y with
  | none => cases arena
  | some y =>
    cases x with
    | none => cases same
    | some x =>
      have same : some y.uncounted = some x.uncounted := same
      have arena : y.arena? = some a := arena
      cases y with
      | heap l => cases arena
      | arena y =>
        cases arena
        cases x with
        | heap l => cases same
        | arena b =>
          refine ⟨b, rfl, ?_⟩
          injection same with same
          injection same with same
          exact same.symm

theorem Settled.ordinary {m n : Machine} (h : m.Settled n) : m.Ordinary n where
  subjects c subject := by
    obtain ⟨cell, found, unowned⟩ := subject
    obtain ⟨added, deeds, letting⟩ := h.deeds
    have same : n.deeds.countP (·.places c) = m.deeds.countP (·.places c) := by
      rw [deeds, List.countP_append, List.countP_eq_zero.2, Nat.zero_add]
      exact fun e member => by simp [places_of_isLettingGo (letting e member)]
    obtain ⟨after, there, aged⟩ := (h.cells c).exists_right found
    refine ⟨after, there, ?_⟩
    have owner := aged.owner
    rcases unowned with ⟨none, never⟩ | collect
    · rw [none] at owner
      exact .inl ⟨Option.map_eq_none_iff.1 owner, same.trans never⟩
    · rw [collect] at owner
      obtain ⟨s, state, owner⟩ := Option.map_eq_some_iff.1 owner
      cases s with
      | collect => exact .inr state
      | _ => cases owner
  arenas id a there := arena?_of_uncounted (h.allocators id) there
  born := Nat.le_of_eq h.allocatorsNext.symm
  top := Nat.le_of_eq h.top.symm
  deeds := by
    obtain ⟨added, same, letting⟩ := h.deeds
    exact ⟨added, same, fun e member => isInert_of_isLettingGo (letting e member)⟩
  audited := h.audited

theorem Undisturbed.ordinary {m n : Machine} (h : m.Undisturbed n) : m.Ordinary n :=
  h.settled.ordinary

open Run

/-- A cell that is replaced by one with the same block. -/
private theorem isSubject_setCell {m : Machine} {c : CellId} {old new : Cell}
    (found : m.memory.cell? c = some old) (same : new.state = old.state) (d : CellId)
    (subject : m.IsSubject d) :
    ({ m with memory := m.memory.setCell c new } : Machine).IsSubject d := by
  obtain ⟨cell, there, unowned⟩ := subject
  by_cases here : d = c
  · subst here
    rw [found] at there
    cases there
    refine ⟨new, Memory.cell?_setCell_self found new, ?_⟩
    rw [same]
    exact unowned
  · refine ⟨cell, ?_, unowned⟩
    show (m.memory.setCell c new).cell? d = _
    rw [Memory.cell?_setCell_of_ne _ _ here]
    exact there

/-- To write to a value does not matter. -/
theorem setValue_ordinary {m : Machine} {c : CellId} {cell : Cell}
    (found : m.memory.cell? c = some cell) (v : Value) :
    m.Ordinary { m with memory := m.memory.setCell c { cell with value := v } } :=
  { Ordinary.refl m with subjects := isSubject_setCell found rfl }

theorem isSubject_addCell {m : Machine} (cell : Cell) {c : CellId} (h : m.IsSubject c) :
    ({ m with memory := m.memory.addCell cell } : Machine).IsSubject c := by
  obtain ⟨old, found, -⟩ := id h
  have other : c ≠ m.memory.cells.next := Nat.ne_of_lt (Slab.lt_next_of_get? found)
  exact h.later (Memory.cell?_addCell_of_ne m.memory cell other) (rfl : _ = [] ++ m.deeds) nofun

/-- To put a value into storage does not matter. -/
theorem settleIn_ordinary (home : AllocatorId) (grant : Grant) (l : Layout) (offset : Nat)
    (state : Option BlockState) (v : Value) :
    (settleIn home grant l offset state v).Keeps Ordinary := fun m =>
  { Ordinary.refl m with
    subjects := fun c subject => by
      obtain ⟨old, found, -⟩ := id subject
      refine (isSubject_addCell _ subject).later rfl (rfl : _ = [_] ++ m.deeds) fun e member => ?_
      rw [List.mem_singleton.1 member]
      exact beq_eq_false_iff_ne.2 (Nat.ne_of_gt (Slab.lt_next_of_get? found))
    deeds := ⟨[_], rfl, fun f member => by rw [List.mem_singleton.1 member]; rfl⟩
    audited := fun audited => audited.note (fun _ => rfl) rfl rfl }

/-- The machine in which it was noted that an allocator is made. -/
def madeNoted (m : Machine) : Machine :=
  { m with process := m.process.after (.storage (.made m.memory.allocators.next)) }

/-- An allocator that is made is not there yet. -/
theorem madeNoted_ordinary (m : Machine) : m.Ordinary m.madeNoted := by
  have deeds : m.madeNoted.deeds = [.made m.memory.allocators.next] ++ m.deeds := rfl
  refine { Ordinary.refl m with
    subjects := fun c subject => subject.later rfl deeds fun f member => by
      rw [List.mem_singleton.1 member]
      rfl
    deeds := ⟨_, deeds, fun f member => by rw [List.mem_singleton.1 member]; rfl⟩
    audited := fun audited => audited.kept (fun id a there => ⟨a, there, rfl⟩) deeds ?_ }
  intro id a there e member
  rw [List.mem_singleton.1 member]
  refine beq_eq_false_iff_ne.2 fun same => ?_
  exact Nat.ne_of_lt (Slab.lt_next_of_get? there) same.symm

theorem makeHeap_ordinary : makeHeap.Keeps Ordinary := by
  intro m
  refine (madeNoted_ordinary m).trans ?_
  have next : m.memory.allocators.next ≤ (m.memory.allocators.push (.heap {})).next := by simp
  have arenas (id : AllocatorId) (a : Arena)
      (there : (makeHeap m).state.memory.arena? id = some a) :
      m.memory.arena? id = some a := by
    have there : ((m.memory.allocators.push (.heap {})).get? id).bind Allocator.arena? = some a :=
      there
    by_cases new : id = m.memory.allocators.next
    · rw [new, Slab.get?_push_next] at there
      cases there
    · rw [Slab.get?_push_of_ne _ _ new] at there
      exact there
  refine { Ordinary.refl m.madeNoted with
    arenas := fun id a there => ⟨a, arenas id a there, rfl⟩
    born := next
    audited := fun audited id a there => ?_ }
  have there : (m.memory.allocators.push (.heap {})).get? id = some a := there
  by_cases new : id = m.memory.allocators.next
  · rw [new, Slab.get?_push_next] at there
    cases there
    exact (if_pos new.symm).symm
  · rw [Slab.get?_push_of_ne _ _ new] at there
    exact audited id a there

theorem forgetAllocator_ordinary (id : AllocatorId) : (forgetAllocator id).Keeps Ordinary := by
  intro m
  have next : m.memory.allocators.next ≤ (m.memory.allocators.erase id).next := by simp
  have arenas (other : AllocatorId) (a : Arena)
      (there : (forgetAllocator id m).state.memory.arena? other = some a) :
      m.memory.arena? other = some a := by
    have there : ((m.memory.allocators.erase id).get? other).bind Allocator.arena? = some a := there
    by_cases same : other = id
    · rw [same, Slab.get?_erase_self] at there
      cases there
    · rw [Slab.get?_erase_of_ne (Ne.symm same)] at there
      exact there
  refine { Ordinary.refl m with
    arenas := fun other a there => ⟨a, arenas other a there, rfl⟩
    born := next
    audited := fun audited other a there => audited other a ?_ }
  have there : (m.memory.allocators.erase id).get? other = some a := there
  by_cases same : other = id
  · rw [same, Slab.get?_erase_self] at there
    cases there
  · rw [Slab.get?_erase_of_ne (Ne.symm same)] at there
    exact there

theorem write_ordinary (level : Log.Level) (target message : String)
    (fields : List (String × Log.FieldValue)) :
    (write level target message fields).Keeps Ordinary :=
  (write_undisturbed _ _ _ _).mono fun _ _ => Undisturbed.ordinary

theorem reportLeak_ordinary (name : String) (policy : LeakPolicy) (leaked : Word) :
    (reportLeak name policy leaked).Keeps Ordinary :=
  (reportLeak_undisturbed _ _ _).mono fun _ _ => Undisturbed.ordinary

end Machine

end Custody
