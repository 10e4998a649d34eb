import Custody.Proofs.Tags

/-!
# Handles that are the only ones

A shared handle may be written through, and may become a sole owner, only if it is the only one of
its kind that refers to the value and nobody observes it. Blocks know nothing of this but their
counts, one of which includes a reference that all owners share. `Moment.Has.isExclusive` says that
the counts answer the question all the same: at every moment that the books balance, whatever has
happened to the block before.
-/

namespace Custody

/-- What a shared handle refers to is in a block of its kind. -/
theorem Governed.exists_of_isShared {q : Qualifier} {state : Option BlockState}
    (governed : Governed q state) (shared : q.isShared = true) :
    ∃ s, state = some s ∧ s.qualifier = q := by
  cases q with
  | strong =>
    obtain ⟨s, w, is⟩ := governed
    exact ⟨.strong s w, is, rfl⟩
  | handle =>
    obtain ⟨count, is⟩ := governed
    exact ⟨.handle count, is, rfl⟩
  | _ => cases shared

/-- A block admits handles of its own kind, and observers at most. -/
theorem eq_of_mem_admitted {s : BlockState} {q : Qualifier} (member : q ∈ admitted (some s)) :
    q = s.qualifier ∨ q = .weak := by
  cases s with
  | strong s w => exact (List.mem_cons.1 member).imp_right List.mem_singleton.1
  | _ => exact .inl (List.mem_singleton.1 member)

namespace Tally

/-- One handle of a qualifier refers to a cell, and no observer does. -/
def Lone (t : Tally) (q : Qualifier) : Prop := t.refs q = 1 ∧ t.refs .weak = 0

instance (t : Tally) (q : Qualifier) : Decidable (t.Lone q) :=
  inferInstanceAs (Decidable (t.refs q = 1 ∧ t.refs .weak = 0))

variable {t : Tally}

/-- In a strong group there is one owner and no observer if both counts are one, the second one
for the reference that the owners share. -/
theorem StrongLaw.lone_iff {s w : Word} (law : t.StrongLaw s w) :
    t.Lone .strong ↔ s = 1 ∧ w = 1 := by
  have owners := law.owners
  have observers := law.observers
  have share := law.share
  have one : (1 : Word).toNat = 1 := rfl
  constructor
  · rintro ⟨single, unobserved⟩
    have owned : s = 1 := by
      apply UInt64.toNat_inj.1
      omega
    rw [owned, Word.sign_of_ne (by decide)] at observers share
    refine ⟨owned, UInt64.toNat_inj.1 ?_⟩
    omega
  · rintro ⟨rfl, rfl⟩
    rw [Word.sign_of_ne (by decide)] at observers
    constructor
    · omega
    · omega

/-- In a group on one thread there is one owner if the count is one. Nobody observes. -/
theorem LocalLaw.lone_iff {count : Word} (law : t.LocalLaw count) :
    t.Lone .handle ↔ count = 1 := by
  have owners := law.owners
  have unobserved : t.refs .weak = 0 := law.only .weak (by decide)
  have one : (1 : Word).toNat = 1 := rfl
  constructor
  · intro lone
    apply UInt64.toNat_inj.1
    rw [← owners, lone.1, one]
  · rintro rfl
    exact ⟨owners, unobserved⟩

end Tally

namespace Machine

variable {m : Machine}

/-- Whether a handle is alone is what its block says. -/
theorem isExclusive_of_state {h : Handle} {l : Link} {owner : BlockOwner} {cell : Cell}
    {s : BlockState} {alone : Bool} (owns : h.ownership = .block owner) (link : h.link = some l)
    (found : m.memory.cell? l.cell = some cell) (state : cell.state = some s)
    (answer : s.isAlone owner = .ok alone) : isExclusive h m = .returned alone m := by
  have counted : (fun state : BlockState => (state, state.isAlone owner)) s = (s, .ok alone) := by
    simp only [answer]
  unfold isExclusive
  rw [owns, link]
  dsimp only
  rw [recount_ok found state counted, withState_of_state found state]

/-- A shared handle on the books is alone, by what its block says, exactly if it is the only one
and nobody observes. -/
theorem Books.isExclusive {tasks : List Task} {h : Handle} {l : Link} (books : m.Books tasks)
    (seen : m.Seen tasks h) (shared : h.qualifier.isShared = true) (link : h.link = some l) :
    isExclusive h m = .returned (decide ((m.tally tasks l.cell).Lone h.qualifier)) m := by
  obtain ⟨cell, found, governed, -, law⟩ := books.found_of_seen seen link
  rcases Client.ownership_of_isShared shared with owns | owns
  · have strong : h.qualifier = .strong := congrArg Ownership.qualifier owns
    rw [strong] at governed ⊢
    obtain ⟨s, w, state⟩ : ∃ s w, cell.state = some (.strong s w) := governed
    rw [state] at law
    have law : (m.tally tasks l.cell).StrongLaw s w := law
    have answer : decide ((m.tally tasks l.cell).Lone .strong) = (w == 1 && s == 1) := by
      apply Bool.eq_iff_iff.2
      simp [law.lone_iff, and_comm]
    rw [answer]
    exact isExclusive_of_state owns link found state rfl
  · have handle : h.qualifier = .handle := congrArg Ownership.qualifier owns
    rw [handle] at governed ⊢
    obtain ⟨count, state⟩ : ∃ count, cell.state = some (.handle count) := governed
    rw [state] at law
    have law : (m.tally tasks l.cell).LocalLaw count := law
    have answer : decide ((m.tally tasks l.cell).Lone .handle) = (count == 1) := by
      apply Bool.eq_iff_iff.2
      simp [law.lone_iff]
    rw [answer]
    exact isExclusive_of_state owns link found state rfl

end Machine

namespace Moment

/-- At a moment one handle of a qualifier refers to a cell, and no observer does. -/
def Lone (t : Moment) (q : Qualifier) (c : CellId) : Prop :=
  t.references q c = 1 ∧ t.references .weak c = 0

instance (t : Moment) (q : Qualifier) (c : CellId) : Decidable (t.Lone q c) :=
  inferInstanceAs (Decidable (t.references q c = 1 ∧ t.references .weak c = 0))

variable {t : Moment} {h : Handle} {l : Link}

theorem lone_tally_iff {q : Qualifier} {c : CellId} : (t.tally c).Lone q ↔ t.Lone q c := by
  unfold Tally.Lone Lone
  rw [refs_tally, refs_tally]

/-- A shared block counts its owners, and the destruction of the value began if there are none. -/
theorem Balanced.owners {c : CellId} {cell : Cell} {s : BlockState} (balanced : t.Balanced)
    (found : t.client.machine.memory.cell? c = some cell) (state : cell.state = some s)
    (shared : s.qualifier.isShared = true) :
    s.owners.toNat = t.references s.qualifier c ∧ t.begun c = if s.owners = 0 then 1 else 0 := by
  have block : t.client.machine.memory.block? c = some s :=
    Option.bind_eq_some_iff.2 ⟨cell, found, state⟩
  cases s with
  | strong s w =>
    have account := balanced.strongAccount block
    exact ⟨account.owners.symm, account.destroyed⟩
  | handle count =>
    have account := balanced.localAccount block
    exact ⟨account.owners.symm, account.destroyed⟩
  | _ => cases shared

/-- The block of what a shared handle refers to is of its kind, and counts the handles of it. -/
theorem Has.sharedBlock (has : t.Has h) (balanced : t.Balanced)
    (shared : h.qualifier.isShared = true) (link : h.link = some l) :
    ∃ cell s, t.client.machine.memory.cell? l.cell = some cell ∧ cell.state = some s ∧
      s.qualifier = h.qualifier ∧ s.owners.toNat = t.references h.qualifier l.cell := by
  have books : t.client.machine.Books (t.pending ++ t.client.duties) := balanced.balanced.books
  obtain ⟨cell, found, governed, -⟩ := books.found_of_seen has.seen link
  obtain ⟨s, state, same⟩ := governed.exists_of_isShared shared
  refine ⟨cell, s, found, state, same, ?_⟩
  rw [← same]
  exact (balanced.owners found state (same ▸ shared)).1

/-- A shared handle that is there at a balanced moment is told whether it is the only one of its
kind to refer to its value, with nobody who observes. To ask changes nothing. -/
theorem Has.isExclusive (has : t.Has h) (balanced : t.Balanced)
    (shared : h.qualifier.isShared = true) (link : h.link = some l) :
    Machine.isExclusive h t.client.machine =
      .returned (decide (t.Lone h.qualifier l.cell)) t.client.machine := by
  have books : t.client.machine.Books (t.pending ++ t.client.duties) := balanced.balanced.books
  rw [books.isExclusive has.seen shared link]
  exact congrArg (Outcome.returned · t.client.machine) (decide_eq_decide.2 lone_tally_iff)

end Moment

end Custody
