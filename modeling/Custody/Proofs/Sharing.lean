import Custody.Handle.Convert
import Custody.Handle.Narrow
import Custody.Proofs.Settling
import Custody.Session.Handles

/-!
# Sharing keeps the books

Cloning, observing and upgrading count one more handle, or fail and leave the counts as they were.
A handle can be shared if it is itself on the books: its block is there and its count is not zero.
What an operation hands out is on the books after it as a task of letting it go.
-/

namespace Custody

namespace BlockState

/-! A count that cannot be raised is left as it is. -/

variable {s w count : Word} {after : BlockState} {fault : CountFault}

theorem incrementStrong_error (h : (strong s w).incrementStrong = (after, .error fault)) :
    after = strong s w ∧ fault = .overflow ∧ maxRefCount < s := by
  simp only [incrementStrong, raised] at h
  by_cases room : s ≤ maxRefCount
  · rw [if_pos room] at h
    cases h
  · rw [if_neg room] at h
    cases h
    exact ⟨rfl, rfl, UInt64.not_le.1 room⟩

theorem incrementWeak_error (h : (strong s w).incrementWeak = (after, .error fault)) :
    after = strong s w ∧ fault = .overflow ∧ maxRefCount < w := by
  simp only [incrementWeak, raised] at h
  by_cases room : w ≤ maxRefCount
  · rw [if_pos room] at h
    cases h
  · rw [if_neg room] at h
    cases h
    exact ⟨rfl, rfl, UInt64.not_le.1 room⟩

theorem tryUpgrade_error (h : (strong s w).tryUpgrade = (after, .error fault)) :
    after = strong s w ∧ fault = .overflow ∧ maxRefCount < s := by
  simp only [tryUpgrade, raised] at h
  by_cases gone : s = 0
  · rw [if_pos gone] at h
    cases h
  · rw [if_neg gone] at h
    by_cases room : s ≤ maxRefCount
    · rw [if_pos room] at h
      cases h
    · rw [if_neg room] at h
      cases h
      exact ⟨rfl, rfl, UInt64.not_le.1 room⟩

theorem incrementLocal_error (h : (handle count).incrementLocal = (after, .error fault)) :
    after = handle count ∧ fault = .overflow ∧ maxRefCount ≤ count := by
  simp only [incrementLocal] at h
  by_cases room : count < maxRefCount
  · rw [if_pos room] at h
    cases h
  · rw [if_neg room] at h
    cases h
    exact ⟨rfl, rfl, UInt64.not_lt.1 room⟩

end BlockState

/-- The handles inside a value that a handle points at lie in a cell. -/
theorem Handle.exists_cell_of_value? {h g : Handle} {m : Memory} {v : Value}
    (value : h.value? m = some v) (member : g ∈ v.handles) :
    ∃ c cell, m.cell? c = some cell ∧ cell.value = v := by
  have there : ∃ p, m.read? p = some v := by
    unfold Handle.value? at value
    cases owns : h.ownership with
    | weak =>
      rw [owns] at value
      cases value
    | _ =>
      rw [owns] at value
      obtain ⟨p, -, there⟩ := Option.bind_eq_some_iff.1 value
      exact ⟨p, there⟩
  obtain ⟨p, there⟩ := there
  obtain ⟨-, cell, found, whole⟩ := m.whole_of_mem_handles there member
  exact ⟨p.cell, cell, found, whole⟩

namespace Machine

open Tally Outcome Session

variable {m n : Machine} {tasks : List Task}

/-! ## Counting -/

/-- A counting operation that failed found a block, and noted why. -/
theorem recount_failed {α : Type} [Inhabited α] {c : CellId}
    {operation : BlockState → BlockState × Except CountFault α}
    (failed : (recount c operation m).returns = false) :
    ∃ cell s s' fault, m.memory.cell? c = some cell ∧ cell.state = some s ∧
      operation s = (s', .error fault) ∧
      ((m.withState c cell s').miscounted c fault).Undisturbed (recount c operation m).state := by
  unfold recount at failed ⊢
  cases found : m.memory.cell? c with
  | none =>
    rw [found] at failed
    cases failed
  | some cell =>
    rw [found] at failed
    dsimp only at failed ⊢
    cases state : cell.state with
    | none =>
      rw [state] at failed
      cases failed
    | some s =>
      rw [state] at failed
      dsimp only at failed ⊢
      rcases counted : operation s with ⟨s', answer⟩
      rw [counted] at failed
      cases answer with
      | ok a => cases failed
      | error fault =>
        exact ⟨cell, s, s', fault, rfl, state, counted, countFailed_undisturbed cell.kind s fault
          ((m.withState c cell s').miscounted c fault)⟩

/-- That a count failed is of no concern to the books. -/
theorem Books.miscounted (books : m.Books tasks) (c : CellId) (fault : CountFault) :
    (m.miscounted c fault).Books tasks :=
  books.sameCells ⟨rfl, rfl⟩

/-- A counting operation that fails leaves the state as it was, and one that does not leaves
the block right for what it handed out. -/
theorem recount_books {α : Type} [Inhabited α] {c : CellId} {cell : Cell} {s : BlockState}
    {operation : BlockState → BlockState × Except CountFault α} (more : α → List Task)
    (found : m.memory.cell? c = some cell) (state : cell.state = some s) (books : m.Books tasks)
    (counts : ∀ s' answer, operation s = (s', .ok answer) →
      BooksBut c m (more answer) ∧
        (m.tally (more answer) c).Fits (some { cell with state := some s' }))
    (fails : ∀ s' fault, operation s = (s', .error fault) → s' = s) :
    (recount c operation m).Ensures (fun answer n => n.Books (more answer))
      (fun n => n.Books tasks) := by
  rcases counted : operation s with ⟨s', answer⟩
  cases answer with
  | ok answer =>
    obtain ⟨but, fits⟩ := counts s' answer counted
    rw [recount_ok found state counted]
    refine (but.withState found s').books ?_
    rw [tally_withState found, cell?_withState_self found]
    exact fits
  | error fault =>
    have same := fails s' fault counted
    subst same
    have kept : (m.withState c cell s').Books tasks := by
      refine (books.but.withState found s').books ?_
      rw [tally_withState found, cell?_withState_self found, ← state, ← found]
      exact books c
    rw [recount_error found state counted]
    refine (miscount_noted (α := α) c cell.kind s' fault _).mono (fun _ _ => False.elim) ?_
    exact fun n same => (kept.miscounted c fault).undisturbed same

/-- A handle that is on the books, if it refers to anything. -/
def Seen (m : Machine) (tasks : List Task) (h : Handle) : Prop :=
  ∀ l, h.link = some l → 0 < (m.tally tasks l.cell).refs h.qualifier

/-- What a handle on the books refers to is there. -/
theorem Books.found_of_seen (books : m.Books tasks) {h : Handle} (seen : m.Seen tasks h)
    {l : Link} (link : h.link = some l) :
    ∃ cell, m.memory.cell? l.cell = some cell ∧ Governed h.qualifier cell.state ∧
      (cell.state.isSome → cell.home.isSome) ∧ (m.tally tasks l.cell).Law cell.state :=
  (books l.cell).admits (seen l link)

/-- A handle that is about to be let go of is on the books. -/
theorem seen_of_mem {h : Handle} (member : .drop h ∈ tasks) : m.Seen tasks h := by
  intro l link
  obtain ⟨before, after, rfl⟩ := List.append_of_mem member
  show 0 < Task.refs _ _ _ + _
  rw [Task.refs_append, Task.refs_cons]
  have : refs h.qualifier l.cell [h] = 1 := refs_of_link_self link
  show 0 < Task.refs _ _ before + (refs _ _ [h] + Task.refs _ _ after) + _
  omega

/-! ## Cloning and observing -/

section Acquire

variable {h : Handle} {l : Link}

private theorem acquire_of_link (link : h.link = some l) :
    acquire h = match h.ownership with
      | .block .strong => recount l.cell BlockState.incrementStrong
      | .block .handle => recount l.cell BlockState.incrementLocal
      | .weak => recount l.cell BlockState.incrementWeak
      | .unique _ | .block .own | .block .discard | .block .collect => pure () := by
  obtain ⟨ownership, kind, _⟩ := h
  cases link
  rfl

private theorem acquire_strong (link : h.link = some l) (owns : h.ownership = .block .strong)
    (books : m.Books tasks) (seen : m.Seen tasks h) :
    (acquire h m).Ensures (fun _ n => n.Books (.drop h :: tasks)) (fun n => n.Books tasks) := by
  obtain ⟨cell, found, governed, homed, law⟩ := books.found_of_seen seen link
  have qualifier : h.qualifier = .strong := congrArg Ownership.qualifier owns
  have owner := seen l link
  rw [qualifier] at governed owner
  obtain ⟨s, w, state⟩ : ∃ s w, cell.state = some (.strong s w) := governed
  rw [state] at law homed
  have law : (m.tally tasks l.cell).StrongLaw s w := law
  rw [acquire_of_link link, owns]
  refine recount_books (fun _ => .drop h :: tasks) found state books ?_ ?_
  · intro s' answer counted
    refine ⟨books.but.drop link, ?_⟩
    rw [tally_drop_self m tasks link, qualifier]
    simp only [BlockState.incrementStrong] at counted
    cases more : BlockState.raised s with
    | none =>
      rw [more] at counted
      cases counted
    | some s1 =>
      rw [more] at counted
      cases counted
      exact ⟨homed, law.incrementStrong (law.alive owner).1 more⟩
  · exact fun s' fault counted => (BlockState.incrementStrong_error counted).1

private theorem acquire_local (link : h.link = some l) (owns : h.ownership = .block .handle)
    (books : m.Books tasks) (seen : m.Seen tasks h) :
    (acquire h m).Ensures (fun _ n => n.Books (.drop h :: tasks)) (fun n => n.Books tasks) := by
  obtain ⟨cell, found, governed, homed, law⟩ := books.found_of_seen seen link
  have qualifier : h.qualifier = .handle := congrArg Ownership.qualifier owns
  have owner := seen l link
  rw [qualifier] at governed owner
  obtain ⟨count, state⟩ : ∃ count, cell.state = some (.handle count) := governed
  rw [state] at law homed
  have law : (m.tally tasks l.cell).LocalLaw count := law
  rw [acquire_of_link link, owns]
  refine recount_books (fun _ => .drop h :: tasks) found state books ?_ ?_
  · intro s' answer counted
    refine ⟨books.but.drop link, ?_⟩
    rw [tally_drop_self m tasks link, qualifier]
    simp only [BlockState.incrementLocal] at counted
    by_cases room : count < maxRefCount
    · rw [if_pos room] at counted
      cases counted
      refine ⟨homed, law.incrementLocal (law.alive owner) ?_⟩
      rw [UInt64.lt_iff_toNat_lt] at room
      have limit : maxRefCount.toNat = 9223372036854775807 := rfl
      rw [UInt64.toNat_add]
      show (count.toNat + 1) % _ = _
      omega
    · rw [if_neg room] at counted
      cases counted
  · exact fun s' fault counted => (BlockState.incrementLocal_error counted).1

/-- An observer is counted if the block is one of a strong group whose references have not run
out. -/
private theorem acquire_weak (link : h.link = some l) (observes : h.ownership = .weak)
    (books : m.Books tasks) {cell : Cell} {s w : Word} (found : m.memory.cell? l.cell = some cell)
    (state : cell.state = some (.strong s w)) (alive : w ≠ 0) :
    (acquire h m).Ensures (fun _ n => n.Books (.drop h :: tasks)) (fun n => n.Books tasks) := by
  have fits := books l.cell
  rw [found] at fits
  obtain ⟨homed, law⟩ := fits
  rw [state] at law homed
  have law : (m.tally tasks l.cell).StrongLaw s w := law
  have qualifier : h.qualifier = .weak := congrArg Ownership.qualifier observes
  rw [acquire_of_link link, observes]
  refine recount_books (fun _ => .drop h :: tasks) found state books ?_ ?_
  · intro s' answer counted
    refine ⟨books.but.drop link, ?_⟩
    rw [tally_drop_self m tasks link, qualifier]
    simp only [BlockState.incrementWeak] at counted
    cases more : BlockState.raised w with
    | none =>
      rw [more] at counted
      cases counted
    | some w1 =>
      rw [more] at counted
      cases counted
      exact ⟨homed, law.incrementWeak alive more⟩
  · exact fun s' fault counted => (BlockState.incrementWeak_error counted).1

end Acquire

/-- An empty handle is on the books whatever they are. -/
theorem Books.drop_of_link_none {h : Handle} (books : m.Books tasks) (empty : h.link = none) :
    m.Books (.drop h :: tasks) := by
  refine (of_drop_isEmpty ?_).2 books
  rw [Handle.isEmpty, empty]
  rfl

/-- One more handle like a shared one is counted. -/
theorem acquire_books {h : Handle} (clonable : isClonable h = true) (books : m.Books tasks)
    (seen : m.Seen tasks h) :
    (acquire h m).Ensures (fun _ n => n.Books (.drop h :: tasks)) (fun n => n.Books tasks) := by
  cases link : h.link with
  | none =>
    have nothing : acquire h = pure () := by
      unfold acquire
      rw [link]
    rw [nothing]
    exact books.drop_of_link_none link
  | some l =>
    unfold isClonable at clonable
    cases owns : h.ownership with
    | unique home =>
      rw [owns] at clonable
      cases clonable
    | weak =>
      obtain ⟨cell, found, governed, homed, law⟩ := books.found_of_seen seen link
      have qualifier : h.qualifier = .weak := congrArg Ownership.qualifier owns
      have observer := seen l link
      rw [qualifier] at governed observer
      obtain ⟨s, w, state⟩ : ∃ s w, cell.state = some (.strong s w) := governed
      rw [state] at law
      have observers := StrongLaw.observers law
      exact acquire_weak link owns books found state (Word.ne_zero_of_pos (by omega))
    | block owner =>
      rw [owns] at clonable
      cases owner with
      | strong => exact acquire_strong link owns books seen
      | handle => exact acquire_local link owns books seen
      | _ => cases clonable

/-- A clone is the handle itself. -/
theorem eq_of_clone {h g : Handle} (done : clone h m = .returned g n) : g = h := by
  obtain ⟨u, o, -, copied⟩ := Run.returned_of_bind done
  cases copied
  rfl

/-- What an observer is upgraded to is a strong handle. -/
theorem eq_of_upgrade {h g : Handle} (done : upgrade h m = .returned (some g) n) :
    g = h.held (.block .strong) := by
  unfold upgrade at done
  cases link : h.link with
  | none =>
    rw [link] at done
    cases done
  | some l =>
    rw [link] at done
    obtain ⟨owned, o, -, answered⟩ := Run.returned_of_bind done
    cases owned with
    | true =>
      cases answered
      rfl
    | false => cases answered

/-- A clone of a shared handle is counted. -/
theorem clone_books {h : Handle} (clonable : isClonable h = true) (books : m.Books tasks)
    (seen : m.Seen tasks h) :
    (clone h m).Ensures (fun copy n => copy = h ∧ n.Books (.drop h :: tasks))
      (fun n => n.Books tasks) :=
  Run.bind_ensures (acquire_books clonable books seen) fun _ _ balanced => ⟨rfl, balanced⟩

private theorem acquire_observer {h : Handle} (owns : h.ownership = .block .strong)
    (books : m.Books tasks) (seen : m.Seen tasks h) :
    (acquire (h.held .weak) m).Ensures (fun _ n => n.Books (.drop (h.held .weak) :: tasks))
      (fun n => n.Books tasks) := by
  cases link : h.link with
  | none =>
    have empty : (h.held .weak).link = none := link
    have nothing : acquire (h.held .weak) = pure () := by
      unfold acquire
      rw [empty]
    rw [nothing]
    exact books.drop_of_link_none empty
  | some l =>
    obtain ⟨cell, found, governed, homed, law⟩ := books.found_of_seen seen link
    have qualifier : h.qualifier = .strong := congrArg Ownership.qualifier owns
    have owner := seen l link
    rw [qualifier] at governed owner
    obtain ⟨s, w, state⟩ : ∃ s w, cell.state = some (.strong s w) := governed
    rw [state] at law
    have held : (h.held .weak).link = some l := link
    exact acquire_weak held rfl books found state (StrongLaw.alive law owner).2

/-- An observer of the value of a strong handle is counted. -/
theorem downgrade_books {h : Handle} (owns : h.ownership = .block .strong)
    (books : m.Books tasks) (seen : m.Seen tasks h) :
    (downgrade h m).Ensures
      (fun observer n => observer = h.held .weak ∧ n.Books (.drop (h.held .weak) :: tasks))
      (fun n => n.Books tasks) :=
  Run.bind_ensures (acquire_observer owns books seen) fun _ _ balanced => ⟨rfl, balanced⟩

/-- What an observer is upgraded to is counted. -/
theorem upgrade_books {h : Handle} (observes : h.ownership = .weak) (books : m.Books tasks)
    (seen : m.Seen tasks h) :
    (upgrade h m).Ensures (fun owner n => n.Books (owner.toList.map .drop ++ tasks))
      (fun n => n.Books tasks) := by
  unfold upgrade
  cases link : h.link with
  | none => exact books
  | some l =>
    obtain ⟨cell, found, governed, homed, law⟩ := books.found_of_seen seen link
    have qualifier : h.qualifier = .weak := congrArg Ownership.qualifier observes
    rw [qualifier] at governed
    obtain ⟨s, w, state⟩ : ∃ s w, cell.state = some (.strong s w) := governed
    rw [state] at law homed
    have law : (m.tally tasks l.cell).StrongLaw s w := law
    have held : (h.held (.block .strong)).link = some l := link
    refine Run.bind_ensures (recount_books
      (fun owned => if owned then .drop (h.held (.block .strong)) :: tasks else tasks)
      found state books ?_ ?_) fun owned n balanced => ?_
    · intro s' answer counted
      simp only [BlockState.tryUpgrade] at counted
      by_cases gone : s = 0
      · rw [if_pos gone] at counted
        cases counted
        refine ⟨books.but, ?_⟩
        show Fits _ (some { cell with state := some (.strong s w) })
        exact ⟨homed, law⟩
      · rw [if_neg gone] at counted
        cases more : BlockState.raised s with
        | none =>
          rw [more] at counted
          cases counted
        | some s1 =>
          rw [more] at counted
          cases counted
          refine ⟨books.but.drop held, ?_⟩
          show Fits (m.tally (.drop (h.held (.block .strong)) :: tasks) l.cell) _
          rw [tally_drop_self m tasks held]
          exact ⟨homed, law.incrementStrong gone more⟩
    · exact fun s' fault counted => (BlockState.tryUpgrade_error counted).1
    · cases owned with
      | false => exact balanced
      | true => exact balanced

/-! ## Narrowing -/

/-- A handle that refers to the same cell in the same way counts the same. -/
theorem tally_drop_congr (m : Machine) (tasks : List Task) {h k : Handle}
    (qualifier : k.qualifier = h.qualifier)
    (cell : k.link.map (·.cell) = h.link.map (·.cell)) (c : CellId) :
    m.tally (.drop k :: tasks) c = m.tally (.drop h :: tasks) c := by
  cases link : h.link with
  | none =>
    rw [link, Option.map_none, Option.map_eq_none_iff] at cell
    have empty {g : Handle} (none : g.link = .none) : g.isEmpty = true := by
      rw [Handle.isEmpty, none]
      rfl
    rw [tally_drop_of_isEmpty m tasks (empty cell), tally_drop_of_isEmpty m tasks (empty link)]
  | some l =>
    rw [link, Option.map_some, Option.map_eq_some_iff] at cell
    obtain ⟨l', link', same⟩ := cell
    by_cases here : c = l.cell
    · rw [here, tally_drop_self m tasks link, ← same, tally_drop_self m tasks link', qualifier]
    · rw [tally_drop_of_ne m tasks link here, tally_drop_of_ne m tasks link' (same ▸ here)]

theorem Books.drop_congr {h k : Handle} (books : m.Books (.drop h :: tasks))
    (qualifier : k.qualifier = h.qualifier)
    (cell : k.link.map (·.cell) = h.link.map (·.cell)) : m.Books (.drop k :: tasks) := by
  intro c
  rw [tally_drop_congr m tasks qualifier cell]
  exact books c

/-! ## What sharing leaves alone -/

section Keeps

variable {R : Machine → Machine → Prop} [IsPreorder Machine R]
  (counts : ∀ (α : Type) [Inhabited α] (c : CellId)
    (operation : BlockState → BlockState × Except CountFault α),
    (∀ s, (operation s).1.owner = s.owner) → (recount c operation).Keeps R)

include counts

/-- To clone a handle is to count. -/
theorem clone_keeps (h : Handle) : (clone h).Keeps R := by
  refine Run.Keeps.bind ?_ fun _ => Run.Keeps.pure h
  unfold acquire
  cases h.link with
  | none => exact Run.Keeps.pure ()
  | some l =>
    cases h.ownership with
    | unique home => exact Run.Keeps.pure ()
    | weak => exact counts _ _ _ BlockState.owner_incrementWeak
    | block owner =>
      cases owner with
      | strong => exact counts _ _ _ BlockState.owner_incrementStrong
      | handle => exact counts _ _ _ BlockState.owner_incrementLocal
      | _ => exact Run.Keeps.pure ()

/-- To upgrade an observer is to count. -/
theorem upgrade_keeps (h : Handle) : (upgrade h).Keeps R := by
  unfold upgrade
  cases h.link with
  | none => exact Run.Keeps.pure none
  | some l =>
    refine Run.Keeps.bind (counts _ l.cell _ BlockState.owner_tryUpgrade) fun alive => ?_
    cases alive with
    | true => exact Run.Keeps.pure _
    | false => exact Run.Keeps.pure _

end Keeps

/-! ## Copying values -/

/-- The handles in cells are as they were. -/
def SameRefs (m n : Machine) : Prop := ∀ q c, n.memory.refs q c = m.memory.refs q c

instance : IsPreorder Machine SameRefs where
  refl _ _ _ := rfl
  trans _ _ _ first second q c := (second q c).trans (first q c)

theorem Undisturbed.sameRefs (h : m.Undisturbed n) : m.SameRefs n := fun q c => by rw [h.1]

theorem recount_sameRefs {α : Type} [Inhabited α] (c : CellId)
    (operation : BlockState → BlockState × Except CountFault α) :
    (recount c operation).Keeps SameRefs := by
  refine recount_keeps (fun _ _ => Undisturbed.sameRefs) (fun _ _ _ _ _ => rfl) ?_
  intro m cell s found _ q d
  apply Memory.refs_setCell_of_value found
  rfl

theorem clone_sameRefs (h : Handle) : (clone h).Keeps SameRefs :=
  clone_keeps (fun _ _ c operation _ => recount_sameRefs c operation) h

/-- A handle that can be cloned and lies in a cell, or is empty. -/
def Copyable (m : Machine) (h : Handle) : Prop :=
  isClonable h = true ∧ ∀ l, h.link = some l → 0 < m.memory.refs h.qualifier l.cell

theorem Copyable.seen {h : Handle} (copyable : m.Copyable h) (tasks : List Task) :
    m.Seen tasks h := fun l link => by
  have positive := copyable.2 l link
  show 0 < Task.refs _ _ _ + m.memory.refs _ _
  omega

theorem Copyable.sameRefs {h : Handle} (copyable : m.Copyable h) (same : m.SameRefs n) :
    n.Copyable h :=
  ⟨copyable.1, fun l link => by
    rw [same]
    exact copyable.2 l link⟩

/-! ## Sole owners and shared ones -/

/-- A block with the state it has. -/
theorem withState_of_state {c : CellId} {cell : Cell} {s : BlockState}
    (found : m.memory.cell? c = some cell) (state : cell.state = some s) :
    m.withState c cell s = m := by
  unfold withState
  rw [← state]
  have same : m.memory.setCell c cell = m.memory := Memory.setCell_of_cell? found
  exact congrArg (fun memory => { m with memory := memory }) same

/-- The states in which a shared handle is the only reference. -/
def Alone (m : Machine) (h : Handle) : Prop :=
  ∀ l, h.link = some l → ∃ cell, m.memory.cell? l.cell = some cell ∧
    (h.ownership = .block .strong → cell.state = some (.strong 1 1)) ∧
    (h.ownership = .block .handle → cell.state = some (.handle 1))

/-- To ask whether a handle is alone changes nothing, and the answer is about the counts. -/
theorem isExclusive_books {h : Handle} (books : m.Books tasks) (seen : m.Seen tasks h) :
    ∃ alone, isExclusive h m = .returned alone m ∧ (alone = true → m.Alone h) := by
  unfold isExclusive
  cases link : h.link with
  | none =>
    refine ⟨false, ?_, nofun⟩
    cases h.ownership <;> rfl
  | some l =>
    obtain ⟨cell, found, governed, homed, law⟩ := books.found_of_seen seen link
    have there (alone : Bool)
        (strong : alone = true → h.ownership = .block .strong → cell.state = some (.strong 1 1))
        (lone : alone = true → h.ownership = .block .handle → cell.state = some (.handle 1)) :
        alone = true → m.Alone h := by
      intro yes l' link'
      rw [link] at link'
      cases link'
      exact ⟨cell, found, strong yes, lone yes⟩
    cases owns : h.ownership with
    | weak => exact ⟨false, rfl, nofun⟩
    | unique home =>
      refine ⟨true, rfl, there true ?_ ?_⟩
      · rw [owns]
        exact fun _ => nofun
      · rw [owns]
        exact fun _ => nofun
    | block owner =>
      have qualifier : h.qualifier = owner.qualifier := congrArg Ownership.qualifier owns
      rw [qualifier] at governed
      have asked {s : BlockState} {alone : Bool} (state : cell.state = some s)
          (answer : s.isAlone owner = .ok alone) :
          recount l.cell (fun state => (state, state.isAlone owner)) m = .returned alone m := by
        have counted : (fun state : BlockState => (state, state.isAlone owner)) s =
            (s, .ok alone) := by
          show (s, s.isAlone owner) = _
          rw [answer]
        rw [recount_ok found state counted, withState_of_state found state]
      cases owner with
      | own =>
        refine ⟨true, asked governed rfl, there true ?_ ?_⟩
        · rw [owns]
          exact fun _ => nofun
        · rw [owns]
          exact fun _ => nofun
      | discard =>
        refine ⟨true, asked governed rfl, there true ?_ ?_⟩
        · rw [owns]
          exact fun _ => nofun
        · rw [owns]
          exact fun _ => nofun
      | collect =>
        refine ⟨true, asked governed rfl, there true ?_ ?_⟩
        · rw [owns]
          exact fun _ => nofun
        · rw [owns]
          exact fun _ => nofun
      | strong =>
        obtain ⟨s, w, state⟩ : ∃ s w, cell.state = some (.strong s w) := governed
        refine ⟨w == 1 && s == 1, asked state rfl, there _ ?_ ?_⟩
        · intro alone _
          rw [Bool.and_eq_true, beq_iff_eq, beq_iff_eq] at alone
          rw [state, alone.1, alone.2]
        · rw [owns]
          exact fun _ => nofun
      | handle =>
        obtain ⟨count, state⟩ : ∃ count, cell.state = some (.handle count) := governed
        refine ⟨count == 1, asked state rfl, there _ ?_ ?_⟩
        · rw [owns]
          exact fun _ => nofun
        · intro alone _
          rw [state, beq_iff_eq.1 alone]

end Machine

end Custody
