import Custody.Proofs.Sharing

/-!
# Making and moving values keeps the books

A new cell is right for its first owner, whose value brings its handles along, and a block that
changes hands is right for its new owner. To give storage back by itself, to ask whether a handle
is alone and to log that it is not leave everything else as it is.
-/

namespace Custody

namespace Machine

open Tally Outcome Session

variable {m n : Machine} {tasks : List Task}

/-! ## Blocks that change hands -/

theorem retag_of_some {c : CellId} {cell : Cell} (found : m.memory.cell? c = some cell)
    (owner : BlockOwner) : retag c owner m = .returned () (m.withState c cell (.fresh owner)) := by
  simp only [retag, onMemory, Run.modify, found]
  rfl

theorem retag_of_none {c : CellId} (missing : m.memory.cell? c = none) (owner : BlockOwner) :
    retag c owner m = .returned () m := by
  simp only [retag, onMemory, Run.modify, missing]

/-- A handle becomes one of another kind if the block is right for the new one. -/
theorem retagged_books {h : Handle} {l : Link} (link : h.link = some l) (owner : BlockOwner)
    (books : m.Books (.drop h :: tasks)) {cell : Cell}
    (found : m.memory.cell? l.cell = some cell) (homed : cell.home.isSome)
    (law : ((m.tally tasks l.cell).adding owner.qualifier).Law (some (.fresh owner))) :
    ∃ n, retagged h owner m = .returned (h.held (.block owner)) n ∧
      n.Books (.drop (h.held (.block owner)) :: tasks) := by
  refine ⟨m.withState l.cell cell (.fresh owner), ?_, ?_⟩
  · unfold retagged
    rw [link]
    show (retag l.cell owner >>= fun _ => pure (h.held (.block owner)) : Run Machine Handle) m = _
    rw [Run.bind_apply, retag_of_some found]
    rfl
  · have held : (h.held (.block owner)).link = some l := link
    refine (((books.but.of_drop link).withState found _).drop held).books ?_
    rw [tally_drop_self _ tasks held, tally_withState found, cell?_withState_self found]
    exact ⟨fun _ => homed, law⟩

/-- An empty handle becomes an empty one of another kind. -/
theorem retagged_of_link_none {h : Handle} (empty : h.link = none) (owner : BlockOwner)
    (books : m.Books (.drop h :: tasks)) :
    ∃ n, retagged h owner m = .returned (h.held (.block owner)) n ∧
      n.Books (.drop (h.held (.block owner)) :: tasks) := by
  refine ⟨m, ?_, ?_⟩
  · unfold retagged
    rw [empty]
    rfl
  · have none : (h.held (.block owner)).link = none := empty
    refine Books.drop_of_link_none ((Books.of_drop_isEmpty ?_).1 books) none
    rw [Handle.isEmpty, empty]
    rfl

/-- A sole owner becomes the first of a shared group. -/
theorem share_books {h : Handle} (owns : h.ownership = .block .own) {owner : BlockOwner}
    (shared : owner = .strong ∨ owner = .handle) (books : m.Books (.drop h :: tasks)) :
    ∃ n, retagged h owner m = .returned (h.held (.block owner)) n ∧
      n.Books (.drop (h.held (.block owner)) :: tasks) := by
  cases link : h.link with
  | none => exact retagged_of_link_none link owner books
  | some l =>
    obtain ⟨cell, found, governed, homed, law⟩ := books.found link
    have qualifier : h.qualifier = .own := congrArg Ownership.qualifier owns
    rw [qualifier] at governed law
    have state : cell.state = some .own := governed
    rw [state] at law homed
    have law : ((m.tally tasks l.cell).adding .own).SoleLaw .own := law
    refine retagged_books link owner books found (homed rfl) ?_
    rcases shared with rfl | rfl
    · exact law.toStrong
    · exact law.toLocal

/-- A shared handle that is alone becomes a sole owner. -/
theorem unshare_books {h : Handle}
    (shared : h.ownership = .block .strong ∨ h.ownership = .block .handle)
    (alone : m.Alone h) (books : m.Books (.drop h :: tasks)) :
    ∃ n, retagged h .own m = .returned (h.held (.block .own)) n ∧
      n.Books (.drop (h.held (.block .own)) :: tasks) := by
  cases link : h.link with
  | none => exact retagged_of_link_none link .own books
  | some l =>
    obtain ⟨cell, found, governed, homed, law⟩ := books.found link
    obtain ⟨cell', found', strong, lone⟩ := alone l link
    rw [found] at found'
    cases found'
    rcases shared with owns | owns
    · have qualifier : h.qualifier = .strong := congrArg Ownership.qualifier owns
      have state := strong owns
      rw [qualifier, state] at law
      rw [state] at homed
      have law : ((m.tally tasks l.cell).adding .strong).StrongLaw 1 1 := law
      exact retagged_books link .own books found (homed rfl) law.toSole
    · have qualifier : h.qualifier = .handle := congrArg Ownership.qualifier owns
      have state := lone owns
      rw [qualifier, state] at law
      rw [state] at homed
      have law : ((m.tally tasks l.cell).adding .handle).LocalLaw 1 := law
      exact retagged_books link .own books found (homed rfl) law.toSole

/-! ## New cells -/

/-- The handles inside of a value are counted in its cell as they were outside of it. -/
theorem tally_addCell (m : Machine) (tasks : List Task) (cell : Cell) (d : CellId) :
    ({ m with memory := m.memory.addCell cell } : Machine).tally tasks d =
      m.tally (cell.value.handles.map .drop ++ tasks) d := by
  ext q
  · show Task.refs q d tasks + (m.memory.addCell cell).refs q d = Task.refs q d _ + _
    rw [Memory.refs_addCell, Task.refs_append, Task.refs_map_drop]
    show Task.refs q d tasks + (m.memory.refs q d + refs q d cell.value.handles) = _
    omega
  · show Task.leaving d tasks = Task.leaving d _
    rw [Task.leaving_append, Task.leaving_map_drop, Nat.zero_add]
  · show Task.returning d tasks = Task.returning d _
    rw [Task.returning_append, Task.returning_map_drop, Nat.zero_add]
  all_goals rfl

/-- The machine in which it was noted that a value was put into a cell for an owner. -/
def placeNoted (m : Machine) (home : AllocatorId) (c : CellId) : Machine :=
  { m with process := m.process.after (.storage (.placed home c)) }

theorem tally_placeNoted_self (m : Machine) (tasks : List Task) (home : AllocatorId)
    (c : CellId) : (m.placeNoted home c).tally tasks c = (m.tally tasks c).placing := by
  have counted : (StorageEvent.placed home c :: m.deeds).countP (·.places c) =
      m.deeds.countP (·.places c) + 1 := List.countP_cons_of_pos (beq_self_eq_true c)
  ext q
  case placed => exact counted
  all_goals rfl

theorem tally_placeNoted_of_ne (m : Machine) (tasks : List Task) (home : AllocatorId)
    {c d : CellId} (other : d ≠ c) : (m.placeNoted home c).tally tasks d = m.tally tasks d := by
  have counted : (StorageEvent.placed home c :: m.deeds).countP (·.places d) =
      m.deeds.countP (·.places d) := by
    refine List.countP_cons_of_neg ?_
    show ¬ (c == d) = true
    rw [beq_iff_eq]
    exact other.symm
  ext q
  case placed => exact counted
  all_goals rfl

/-- A value is put into a new cell, and its owner is on the books from then on. -/
theorem settleIn_books (home : AllocatorId) (grant : Grant) (l : Layout) (offset : Nat)
    (state : Option BlockState) (ownership : Ownership) {v : Value}
    (books : m.Books (v.handles.map .drop ++ tasks))
    (lawful : ∀ t : Tally, t.Untouched → (t.placing.adding ownership.qualifier).Law state) :
    (settleIn home grant l offset state v m).Ensures
      (fun c n => n.Books (.drop (.whole ownership v.kind c) :: tasks)) fun _ => False := by
  let c := m.memory.cells.next
  let cell : Cell := ⟨some home, grant.address, l, offset, v.kind, state, v⟩
  let o : Machine := { m with memory := m.memory.addCell cell }
  let n : Machine := o.placeNoted home c
  have moved (d : CellId) : o.tally tasks d = m.tally (v.handles.map .drop ++ tasks) d :=
    tally_addCell m tasks cell d
  let h : Handle := .whole ownership v.kind c
  have link : h.link = some ⟨c, ⟨c, []⟩, false⟩ := rfl
  show n.Books (.drop h :: tasks)
  intro d
  by_cases new : d = c
  · subst new
    have untouched := books c
    have vacant : m.memory.cell? c = none := Slab.get?_eq_none_of_next_le (Nat.le_refl _)
    have there : n.memory.cell? c = some cell := Memory.cell?_addCell_self _ _
    rw [vacant, ← moved] at untouched
    rw [tally_drop_self n tasks link, there, tally_placeNoted_self]
    exact ⟨fun _ => rfl, lawful _ untouched⟩
  · have same : n.memory.cell? d = m.memory.cell? d := Memory.cell?_addCell_of_ne _ _ new
    rw [tally_drop_of_ne n tasks link new, tally_placeNoted_of_ne _ _ _ new, moved, same]
    exact books d

/-! ## Moving out -/

/-- To give storage back is done at once. -/
theorem settle_return {task : AllocatorId → Layout → CellId → Task} (way : Returning task)
    (a : AllocatorId) (l : Layout) (c : CellId) (m : Machine) :
    ∃ n, settle [task a l c] m = .returned () n := by
  rcases way with rfl | rfl
  · have advanced : ∃ n, (Task.giveBack a l c).advance m = .returned [] n := ⟨_, rfl⟩
    obtain ⟨n, advanced⟩ := advanced
    refine ⟨n, ?_⟩
    rw [settle, drain_cons_returned advanced]
    exact drain_nil_nil n
  · have advanced : ∃ n, (Task.retire a l c).advance m = .returned [] n := ⟨_, rfl⟩
    obtain ⟨n, advanced⟩ := advanced
    refine ⟨n, ?_⟩
    rw [settle, drain_cons_returned advanced]
    exact drain_nil_nil n

/-! ## Conversions -/

/-- To ask whether a shared handle can become the sole owner changes nothing. -/
theorem canOwnAlone_books {h : Handle} {l : Link} (books : m.Books tasks)
    (seen : m.Seen tasks h) :
    ∃ alone, canOwnAlone h l m = .returned alone m ∧ (alone = true → m.Alone h) := by
  unfold canOwnAlone
  by_cases projected : l.projected = true
  · rw [if_pos projected]
    exact ⟨false, rfl, nofun⟩
  · rw [if_neg projected]
    exact isExclusive_books books seen

theorem logRefusal_undisturbed (h : Handle) (c : CellId) :
    (logRefusal h c).Keeps Undisturbed := by
  refine Run.Keeps.bind (Run.Keeps.gets _) fun cell? => ?_
  cases cell? with
  | none => exact Run.Keeps.pure ()
  | some cell => exact write_undisturbed _ _ _ _

end Machine

end Custody
