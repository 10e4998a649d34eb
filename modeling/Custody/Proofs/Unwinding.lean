import Custody.Proofs.Moments

/-!
# What a panic in a destruction leaves behind

The last owner of a value begins its destruction, and only then gives up the reference that the
owners shared, or gives the storage back. A panic that leaves the destruction leaves out the rest.
So the value is not destroyed again, but its storage never goes back, and who asks how many observe
the value is told of one more than there are.

`Client.Reached.settles_iff` says that this is so always and only then: what remains of a value is
as it should be exactly if no panic cut its destruction short.
-/

namespace Custody

/-- What an owner's value comes to: its destruction begins once at most, its storage has gone back
when nothing refers to it any more, and its observers are those that are counted. -/
structure Moment.Settles (t : Moment) (c : CellId) : Prop where
  once : t.begun c ≤ 1
  home : (∀ q, t.references q c = 0) → t.givenBack c = 1
  counted : ∀ strong weak, t.client.machine.memory.block? c = some (.strong strong weak) →
    (BlockState.strong strong weak).observers.toNat = t.references .weak c

namespace Tally

variable {t : Tally} {s w n : Word} {q : Qualifier} {state : Option BlockState}

/-- The observers that are shown are those that there are, and one more from the end of the last
owner until the destruction is over, which it never is if a panic cuts it short. -/
theorem StrongLaw.observers_shown (law : t.StrongLaw s w) :
    (BlockState.strong s w).observers.toNat = t.refs .weak + t.leaving + t.failed := by
  have observers := law.observers
  have share := law.share
  show (if 0 < s then Word.saturatingSub w 1 else w).toNat = _
  by_cases alive : s = 0
  · subst alive
    rw [Word.sign_zero] at observers
    exact observers.symm
  · rw [Word.sign_of_ne alive] at observers share
    rw [if_pos (UInt64.pos_iff_ne_zero.2 alive), Word.toNat_saturatingSub]
    show w.toNat - 1 = _
    omega

/-- The destruction of an owner's value begins once at most. -/
theorem Law.began_le (law : t.Law state) (owned : state ≠ some .collect)
    (placed : state = none → t.placed ≠ 0) : t.began ≤ 1 := by
  match state, law with
  | none, law =>
    have began := BareLaw.began law
    have put := placed rfl
    omega
  | some .own, law =>
    have began := SoleLaw.began law
    omega
  | some .discard, law =>
    have began := SoleLaw.began law
    omega
  | some .collect, law => exact absurd rfl owned
  | some (.strong s w), law =>
    have began := StrongLaw.began law
    omega
  | some (.handle n), law =>
    have began := LocalLaw.began law
    omega

/-- Storage that nothing refers to any more has gone back, or a panic left it. -/
theorem Law.returned_add_failed (law : t.Law state) (owned : state ≠ some .collect)
    (placed : state = none → t.placed ≠ 0) (leaving : t.leaving = 0) (returning : t.returning = 0)
    (gone : ∀ q, t.refs q = 0) : t.returned + t.failed = 1 := by
  match state, law with
  | none, law =>
    have once := BareLaw.once law
    have sole := BareLaw.sole law
    have put := placed rfl
    have owner := gone .unique
    omega
  | some .own, law =>
    have once := SoleLaw.once law
    have owner := gone .own
    omega
  | some .discard, law =>
    have once := SoleLaw.once law
    have owner := gone .discard
    omega
  | some .collect, law => exact absurd rfl owned
  | some (.strong s w), law =>
    have observers := StrongLaw.observers law
    have returned := StrongLaw.returned law
    have observer := gone .weak
    have none : s = 0 := UInt64.toNat_inj.1 ((StrongLaw.owners law).symm.trans (gone .strong))
    rw [none, Word.sign_zero] at observers
    -- what is still counted is the reference that the owners shared, if a panic left it
    by_cases last : w = 0
    · rw [last] at observers returned
      have zero : (0 : Word).toNat = 0 := rfl
      rw [Word.sign_zero] at returned
      omega
    · have share := StrongLaw.share law
      rw [Word.sign_of_ne last] at returned
      have some : w.toNat ≠ 0 := fun zero => last (UInt64.toNat_inj.1 zero)
      omega
  | some (.handle n), law =>
    have returned := LocalLaw.returned law
    have none : n = 0 := UInt64.toNat_inj.1 ((LocalLaw.owners law).symm.trans (gone .handle))
    rw [none, Word.sign_zero] at returned
    omega

/-- Nothing refers to a value whose destruction was cut short, if it could not be observed. -/
theorem Law.unreferenced (law : t.Law state) (owned : state ≠ some .collect)
    (unobserved : ∀ s w, state ≠ some (.strong s w)) (failed : t.failed ≠ 0) (q : Qualifier) :
    t.refs q = 0 := by
  by_cases admits : q ∈ admitted state
  · match state, law with
    | none, law =>
      have same : q = .unique := List.mem_singleton.1 admits
      subst same
      have once := BareLaw.once law
      have sole := BareLaw.sole law
      omega
    | some .own, law =>
      have same : q = .own := List.mem_singleton.1 admits
      subst same
      have once := SoleLaw.once law
      omega
    | some .discard, law =>
      have same : q = .discard := List.mem_singleton.1 admits
      subst same
      have once := SoleLaw.once law
      omega
    | some .collect, law => exact absurd rfl owned
    | some (.strong s w), law => exact absurd rfl (unobserved s w)
    | some (.handle n), law =>
      have same : q = .handle := List.mem_singleton.1 admits
      subst same
      have returned := LocalLaw.returned law
      by_cases last : n = 0
      · have owners := LocalLaw.owners law
        rw [last] at owners
        exact owners
      · rw [Word.sign_of_ne last] at returned
        omega
  · exact law.only q admits

end Tally

namespace Moment

variable {t : Moment} {c : CellId} {cell : Cell}

/-- A value that no destructor can have been registered for was put there for an owner. -/
theorem owned_of_not_isSubject {m : Machine} (found : m.memory.cell? c = some cell)
    (owned : ¬m.IsSubject c) :
    cell.state ≠ some .collect ∧ (cell.state = none → m.deeds.countP (·.places c) ≠ 0) :=
  ⟨fun collect => owned ⟨cell, found, .inr collect⟩,
    fun bare never => owned ⟨cell, found, .inl ⟨bare, never⟩⟩⟩

/-- When nothing is under way any more, a value is settled exactly if no panic cut its destruction
short. -/
theorem Balanced.settled_iff (balanced : t.Balanced)
    (found : t.client.machine.memory.cell? c = some cell) (owned : ¬t.client.machine.IsSubject c)
    (idle : t.underWay c = 0) (settled : t.toGiveBack c = 0) :
    t.Settles c ↔ t.cutShort c = 0 := by
  have law := (balanced.fits c).law found
  obtain ⟨uncollected, placed⟩ := owned_of_not_isSubject found owned
  have leaving : (t.tally c).leaving = 0 := (leaving_tally t c).trans idle
  have returning : (t.tally c).returning = 0 := (returning_tally t c).trans settled
  have shown {s w : Word} (state : cell.state = some (.strong s w)) :
      (BlockState.strong s w).observers.toNat = t.references .weak c + t.cutShort c := by
    rw [state] at law
    have shown := Tally.StrongLaw.observers_shown law
    rw [refs_tally, leaving] at shown
    exact shown
  have gone (none : ∀ q, t.references q c = 0) : t.givenBack c + t.cutShort c = 1 :=
    law.returned_add_failed uncollected placed leaving returning fun q =>
      (refs_tally t q c).trans (none q)
  constructor
  · rintro ⟨-, home, counted⟩
    by_cases strong : ∃ s w, cell.state = some (.strong s w)
    · obtain ⟨s, w, state⟩ := strong
      have right := counted s w (Option.bind_eq_some_iff.2 ⟨cell, found, state⟩)
      have wrong := shown state
      omega
    · by_contra failed
      have none (q : Qualifier) : t.references q c = 0 := by
        rw [← refs_tally]
        exact law.unreferenced uncollected (fun s w state => strong ⟨s, w, state⟩) failed q
      have back := home none
      have left := gone none
      omega
  · intro unharmed
    refine ⟨law.began_le uncollected placed, fun none => ?_, fun s w block => ?_⟩
    · have left := gone none
      omega
    · obtain ⟨cell', found', state⟩ := Option.bind_eq_some_iff.1 block
      rw [found] at found'
      cases found'
      have right := shown state
      omega

end Moment

/-- A panic cuts the destructions short that something was to follow. -/
theorem Machine.cutShort_of_panic {m : Machine} {rest : List Task} {c : CellId}
    (owed : 0 < Task.leaving c rest + Task.returning c rest) :
    (noteFailures rest m).deeds.count (.destructionFailed c) ≠ 0 := by
  have noted := congrArg Tally.failed (tally_noteFailures rest [] m c)
  have more : (noteFailures rest m).deeds.count (.destructionFailed c) =
      m.deeds.count (.destructionFailed c) + (Task.leaving c rest + Task.returning c rest) := noted
  omega

namespace Client

open Machine

/-- At every moment of every run: where a panic is on its way, what is still to be destroyed does
not return; the destruction of an owner's value begins once at most; and when nothing of it is under
way any more, the value is settled exactly if no panic cut its destruction short. A panic does that
whenever it leaves a destruction that something is to follow. -/
theorem Reached.settles_iff {p : Process} {t : Moment} (reached : Reached (start p) t) :
    (t.panics ≠ [] → ∀ n, drain t.tasks t.panics t.client.machine ≠ .returned () n) ∧
    (∀ task rest payload n c, t.tasks = task :: rest →
      task.advance t.client.machine = .unwinding payload n →
        0 < Task.leaving c rest + Task.returning c rest →
          ∃ u, Reached (start p) u ∧ u.client.machine = noteFailures rest n ∧ u.panics ≠ [] ∧
            u.cutShort c ≠ 0) ∧
    ∀ c cell, t.client.machine.memory.cell? c = some cell → ¬t.client.machine.IsSubject c →
      t.begun c ≤ 1 ∧
        (t.underWay c = 0 → t.toGiveBack c = 0 → (t.Settles c ↔ t.cutShort c = 0)) := by
  have balanced := reached.balanced (start_balanced p)
  refine ⟨fun panicking n => drain_ne_returned panicking _ _ n, ?_, fun c cell found owned => ?_⟩
  · intro task rest payload n c tasks panicked owed
    have step : Destruction.Step ⟨t.tasks, t.panics, t.client.machine⟩
        ⟨[], ⟨payload, Task.cleanup rest⟩ :: t.panics, noteFailures rest n⟩ := by
      rw [tasks]
      exact .panic panicked
    exact ⟨_, reached.step step, rfl, List.cons_ne_nil _ _, cutShort_of_panic owed⟩
  · obtain ⟨uncollected, placed⟩ := Moment.owned_of_not_isSubject found owned
    have law := (balanced.fits c).law found
    exact ⟨law.began_le uncollected placed, balanced.settled_iff found owned⟩

/-- The last owner of an observed value is let go of, and the destructor panics. -/
private theorem exists_cutShort : ∃ ops c cell, run ops (start {}) = .returned () c ∧
    c.machine.memory.cell? 0 = some cell ∧ ¬c.machine.IsSubject 0 ∧
      c.machine.memory.block? 0 = some (.strong 0 2) ∧
      ({ client := c } : Moment).references .weak 0 = 1 ∧
      ({ client := c } : Moment).cutShort 0 = 1 := by
  let h : Handle := .whole (.block .strong) .tracked 0
  obtain ⟨c, done, checked⟩ := exists_dropped (p := {}) 20
    [.create (.block .strong) systemAllocator (.tracked "!a") false, .downgrade h] h
    (fun c => decide (c.machine.memory.block? 0 = some (.strong 0 2) ∧
      ({ client := c } : Moment).references .weak 0 = 1 ∧
      ({ client := c } : Moment).cutShort 0 = 1)) (by decide +kernel) (by decide +kernel)
  obtain ⟨block, observers, failed⟩ := of_decide_eq_true checked
  obtain ⟨cell, found, state⟩ := Option.bind_eq_some_iff.1 block
  refine ⟨_, c, cell, done, found, ?_, block, observers, failed⟩
  rintro ⟨there, found', unowned⟩
  rw [found] at found'
  cases found'
  rw [state] at unowned
  rcases unowned with ⟨none, -⟩ | collect
  · cases none
  · cases collect

/-- A value whose destruction a panic cut short is not settled. -/
theorem settles_iff_cutShort : ∃ t, Reached (start {}) t ∧ t.tasks = [] ∧ t.panics = [] ∧
    t.references .weak 0 = 1 ∧ t.cutShort 0 = 1 ∧ ¬t.Settles 0 := by
  obtain ⟨ops, c, cell, done, found, owned, -, observers, failed⟩ := exists_cutShort
  have reached : Reached (start {}) { client := c } := .rest done
  have exact' := ((Reached.settles_iff reached).2.2 0 cell found owned).2 rfl rfl
  refine ⟨_, reached, rfl, rfl, observers, failed, fun settles => ?_⟩
  have none := exact'.1 settles
  rw [failed] at none
  cases none

/-- It is not so that every value is settled between operations: who observes a value whose
destructor panicked is told of one observer more than there is. -/
theorem not_settles : ¬∀ (p : Process) (t : Moment), Reached (start p) t → t.tasks = [] →
    t.panics = [] → ∀ c cell, t.client.machine.memory.cell? c = some cell →
      ¬t.client.machine.IsSubject c → t.Settles c := by
  intro always
  obtain ⟨ops, c, cell, done, found, owned, block, observers, -⟩ := exists_cutShort
  have settles := always {} _ (.rest done) rfl rfl 0 cell found owned
  have told : (BlockState.strong 0 2).observers.toNat = 1 :=
    (settles.counted 0 2 block).trans observers
  have shown : (BlockState.strong 0 2).observers.toNat = 2 := by decide
  rw [shown] at told
  cases told

end Client

end Custody
