import Custody.Proofs.Tags
import Custody.Proofs.Tending

/-!
# Observers and the owners that they are upgraded to

An observer is upgraded exactly if an owner is left, and then to an owner of a value whose
destruction has not begun. When the last owner has gone, the block stays for the observers, and
nothing brings an owner back: neither counting nor a block that changes hands does, since either
takes an owner that is there. `Situation.Ownerless.leads` says so of whatever a program does, and
`Client.Reached.upgrades` puts the two together.
-/

namespace Custody

namespace Machine

variable {m n : Machine} {c : CellId}

/-- The last owner of a strong group has gone. The block may still be there for observers. -/
def Ownerless (m : Machine) (c : CellId) : Prop :=
  ∃ w, m.memory.block? c = some (.strong 0 w)

/-- An observer is not upgraded when the last owner has gone, and nothing changes. -/
theorem Ownerless.upgrade {h : Handle} {l : Link} (gone : m.Ownerless l.cell)
    (link : h.link = some l) : upgrade h m = .returned none m := by
  obtain ⟨w, block⟩ := gone
  obtain ⟨cell, found, state⟩ := Option.bind_eq_some_iff.1 block
  have counted : BlockState.tryUpgrade (.strong 0 w) = (.strong 0 w, .ok false) := rfl
  have asked := recount_ok (m := m) found state counted
  rw [withState_of_state found state] at asked
  unfold Machine.upgrade
  rw [link]
  show (recount l.cell BlockState.tryUpgrade m).andThen _ = _
  rw [asked]
  rfl

/-- An observer is upgraded as long as an owner is left and one more can be counted. -/
theorem upgrade_of_owned {h : Handle} {l : Link} {cell : Cell} {s w : Word}
    (link : h.link = some l) (found : m.memory.cell? l.cell = some cell)
    (state : cell.state = some (.strong s w)) (owned : s ≠ 0) (room : s ≤ maxRefCount) :
    upgrade h m = .returned (some (h.held (.block .strong)))
      (m.withState l.cell cell (.strong (s + 1) w)) := by
  have counted : BlockState.tryUpgrade (.strong s w) = (.strong (s + 1) w, .ok true) := by
    simp [BlockState.tryUpgrade, BlockState.raised, owned, room]
  unfold upgrade
  rw [link]
  show (recount l.cell BlockState.tryUpgrade m).andThen _ = _
  rw [recount_ok found state counted]
  rfl

/-- No owner is made where no more can be counted. -/
theorem upgrade_of_full {h : Handle} {l : Link} {cell : Cell} {s w : Word}
    (link : h.link = some l) (found : m.memory.cell? l.cell = some cell)
    (state : cell.state = some (.strong s w)) (owned : s ≠ 0) (full : maxRefCount < s) :
    (upgrade h m).returns = false := by
  have counted : BlockState.tryUpgrade (.strong s w) = (.strong s w, .error .overflow) := by
    simp [BlockState.tryUpgrade, BlockState.raised, owned, UInt64.not_le.2 full]
  have failed : (recount l.cell BlockState.tryUpgrade m).returns = false := by
    rw [recount_error found state counted]
    exact (miscount_noted l.cell cell.kind (.strong s w) .overflow _).not_returns
  unfold upgrade
  rw [link]
  refine (Bool.not_eq_true _).mp fun returns => ?_
  rw [Outcome.returns_of_andThen returns] at failed
  cases failed

/-- What comes of upgrading an observer, given how many owners are left. -/
inductive Upgrading (m : Machine) (h : Handle) (l : Link) : Prop
  /-- There is none, and the answer says so. -/
  | refused (gone : m.Ownerless l.cell) (answer : upgrade h m = .returned none m)
  /-- There is one, and there is one more then. -/
  | made {cell : Cell} {s w : Word} (found : m.memory.cell? l.cell = some cell)
      (state : cell.state = some (.strong s w)) (owned : s ≠ 0) (room : s ≤ maxRefCount)
      (answer : upgrade h m = .returned (some (h.held (.block .strong)))
        (m.withState l.cell cell (.strong (s + 1) w)))
  /-- There are so many that no more can be counted. -/
  | overflown {s w : Word} (block : m.memory.block? l.cell = some (.strong s w))
      (full : maxRefCount < s) (answer : (upgrade h m).returns = false)

/-- An observer on the books is told how many owners are left. -/
theorem Books.upgrading {tasks : List Task} {h : Handle} {l : Link} (books : m.Books tasks)
    (seen : m.Seen tasks h) (observes : h.ownership = .weak) (link : h.link = some l) :
    Upgrading m h l := by
  obtain ⟨cell, found, governed, -⟩ := books.found_of_seen seen link
  rw [show h.qualifier = .weak from congrArg Ownership.qualifier observes] at governed
  obtain ⟨s, w, state⟩ : ∃ s w, cell.state = some (.strong s w) := governed
  have block : m.memory.block? l.cell = some (.strong s w) :=
    Option.bind_eq_some_iff.2 ⟨cell, found, state⟩
  by_cases none : s = 0
  · have gone : m.Ownerless l.cell := ⟨w, none ▸ block⟩
    exact .refused gone (gone.upgrade link)
  · by_cases room : s ≤ maxRefCount
    · exact .made found state none room (upgrade_of_owned link found state none room)
    · have full := UInt64.not_le.1 room
      exact .overflown block full (upgrade_of_full link found state none full)

/-- A group that stays is a group. -/
theorem Stays.group (h : m.Stays n) {s w : Word}
    (block : m.memory.block? c = some (.strong s w)) :
    ∃ s' w', n.memory.block? c = some (.strong s' w') := by
  obtain ⟨cell, found, state⟩ := Option.bind_eq_some_iff.1 block
  obtain ⟨later, there, stays⟩ := (h c).exists_right found
  have owner : later.state.map BlockState.owner = some .strong := by
    rw [stays.owner, state]
    rfl
  obtain ⟨s', w', is⟩ := strong_of_owner owner
  exact ⟨s', w', Option.bind_eq_some_iff.2 ⟨later, there, is⟩⟩

/-- A block that changes hands has an owner. -/
theorem Retagging.owned {tasks : List Task} {h : Handle} {owner : BlockOwner} {l : Link}
    (way : Retagging m h owner) (books : m.Books tasks) (seen : m.Seen tasks h)
    (link : h.link = some l) : ¬m.Ownerless l.cell := by
  rintro ⟨w, block⟩
  obtain ⟨cell, found, state⟩ := Option.bind_eq_some_iff.1 block
  cases way with
  | share owns shared =>
    obtain ⟨cell', found', governed, -⟩ := books.found_of_seen seen link
    cases found.symm.trans found'
    rw [show h.qualifier = .own from congrArg Ownership.qualifier owns] at governed
    have own : cell.state = some .own := governed
    cases state.symm.trans own
  | unshare shared alone =>
    obtain ⟨cell', found', strong, lone⟩ := alone l link
    cases found.symm.trans found'
    rcases shared with owns | owns
    · cases state.symm.trans (strong owns)
    · cases state.symm.trans (lone owns)

end Machine

namespace Situation

open Machine

variable {may : Licence} {s t : Situation} {c : CellId}

/-- What a step does to the kinds of owner that govern the cells. -/
inductive Tags (s : Situation) (n : Machine) : Prop
  /-- No block changes hands. -/
  | stay (stays : s.machine.Stays n)
  /-- One more cell comes to be. -/
  | added {cell : Cell} (cells : n.memory.cells = s.machine.memory.cells.push cell)
  /-- A block is given to another kind of owner. -/
  | retagged {h g : Handle} {owner : BlockOwner} (way : Retagging s.machine h owner)
      (loose : h ∈ s.loose) (done : retagged h owner s.machine = .returned g n)

private theorem Tags.of_cells {n : Machine} (same : n.memory.cells = s.machine.memory.cells) :
    Tags s n :=
  .stay (.of_cells same)

/-- In a step no block changes hands but one that is given to another kind of owner. -/
theorem Step.tags (step : Step may s t) : Tags s t.machine := by
  cases step with
  | reordered same => exact .of_cells rfl
  | emptyGained empty => exact .of_cells rfl
  | emptyLost empty => exact .of_cells rfl
  | aside same => exact .of_cells same.sameCells.1
  | counted way done => exact .stay (of_returned way.settled done).stays
  | @uncounted m k act way failed => exact .stay (way.settled m).stays
  | redirected clonable owns cell => exact .of_cells rfl
  | @placed m n o k v home l offset state ownership d grant c housing asked put =>
    have cells := (of_returned (allocate_sameCells home l d) asked).1
    cases put
    exact .added (congrArg (Slab.push · _) cells)
  | requested asked => exact .of_cells (of_returned (allocate_sameCells _ _ _) asked).1
  | refused fresh asked => exact .of_cells (of_returned (allocate_sameCells _ _ _) asked).1
  | registered asked =>
    exact .added (congrArg (Slab.push · _) (of_returned (allocate_sameCells _ _ _) asked).1)
  | retagged way done => exact .retagged way (List.mem_cons_self ..) done
  | rewritten found moved => exact .stay (rewritten_stays found _)
  | movedOut refers found returns => exact .stay (rewritten_stays found _)
  | letGo h => exact .of_cells rfl
  | destroyed v => exact .of_cells rfl
  | settling step => exact .stay step.settled.stays
  | left => exact .of_cells rfl
  | heapMade done => exact .of_cells (of_returned makeHeap_sameCells done).1
  | arenaMade done => exact .of_cells (of_returned (makeArena_sameCells _ _) done).1
  | listTaken there => exact .of_cells rfl
  | @destructorRun m n k id r others tasks running next =>
    have began : (m.runNoted id r).Settled n :=
      of_returned (beginDestruction_settled r.destructor.subject) next
    exact .stay began.stays
  | chunksReturned there taken done =>
    exact .of_cells (of_returned (releaseChunks_sameCells _ _) done).1
  | writtenOff there began => exact .of_cells rfl
  | forgotten done => exact .of_cells (of_returned (forgetAllocator_sameCells _) done).1
  | deallocated allowed done => exact .of_cells (of_returned (deallocate_sameCells _ _ _) done).1
  | retired allowed done => exact .of_cells (of_returned (retire_sameCells _ _ _) done).1

/-- A group without owners stays a group. -/
private theorem Tags.group {n : Machine} (tags : Tags s n) (balanced : s.Balanced)
    (gone : s.machine.Ownerless c) : ∃ s' w', n.memory.block? c = some (.strong s' w') := by
  obtain ⟨w, block⟩ := gone
  cases tags with
  | stay stays => exact stays.group block
  | @added cell cells =>
    refine ⟨0, w, ?_⟩
    obtain ⟨old, found, state⟩ := Option.bind_eq_some_iff.1 block
    refine Option.bind_eq_some_iff.2 ⟨old, ?_, state⟩
    show n.memory.cells.get? c = some old
    rw [cells, Slab.get?_push_of_ne _ _ (Nat.ne_of_lt (Slab.lt_next_of_get? found))]
    exact found
  | @retagged h g owner way loose done =>
    have seen : s.machine.Seen s.duties h :=
      seen_of_mem (List.mem_append_right _ (List.mem_map_of_mem loose))
    have books : s.machine.Books s.duties := balanced.balanced.books
    have left : n = (Machine.retagged h owner s.machine).state := (congrArg Outcome.state done).symm
    cases link : h.link with
    | none =>
      unfold Machine.retagged at left
      rw [link] at left
      exact ⟨0, w, left ▸ block⟩
    | some l =>
      have apart : c ≠ l.cell := by
        rintro rfl
        exact way.owned books seen link ⟨w, block⟩
      obtain ⟨cell, found, -⟩ := books.found_of_seen seen link
      rw [state_retagged owner link found] at left
      refine ⟨0, w, ?_⟩
      rw [left]
      unfold Memory.block?
      rw [cell?_withState_of_ne _ _ _ apart]
      exact block

/-- A group whose last owner has gone gets no other in a step. -/
theorem Ownerless.step (gone : s.machine.Ownerless c) (balanced : s.Balanced)
    (step : Step may s t) : t.machine.Ownerless c := by
  obtain ⟨s', w', block⟩ := step.tags.group balanced gone
  obtain ⟨w, before⟩ := gone
  have law : Tally.StrongLaw _ 0 w := balanced.balanced.books.law before
  have law' : Tally.StrongLaw _ s' w' := (balanced.step step).balanced.books.law block
  obtain ⟨-, added, deeds, -⟩ := step.adds balanced
  have began : s.machine.deeds.count (.destructionBegan c) + 0 = 1 := law.began
  have once : t.machine.deeds.count (.destructionBegan c) + s'.sign = 1 := law'.began
  -- The destruction of the value has begun once and does not begin again.
  rw [deeds, List.count_append] at once
  have none : s' = 0 := by
    by_contra owned
    rw [Word.sign_of_ne owned] at once
    omega
  exact ⟨w', none ▸ block⟩

/-- A group whose last owner has gone gets no other, whatever a program does. -/
theorem Ownerless.leads (gone : s.machine.Ownerless c) (balanced : s.Balanced)
    (leads : Leads may s t) : t.machine.Ownerless c := by
  induction leads with
  | refl => exact gone
  | tail leads step ih => exact Ownerless.step ih (balanced.leads leads) step

end Situation

namespace Moment

open Machine

/-- What becomes of an observer at a moment if it is upgraded, and what this says of later
moments. -/
structure Upgrades (t : Moment) (h : Handle) : Prop where
  /-- If there are fewer handles to the value than can be counted there is an answer, and it is an
  owner exactly if the observer refers to a value that has one. -/
  exact : (∀ l, h.link = some l → ¬(t.tally l.cell).Crowded) →
    ∃ answer n, upgrade h t.client.machine = .returned answer n ∧
      (answer.isSome = true ↔ ∃ l, h.link = some l ∧ 0 < t.references .strong l.cell)
  /-- The owner refers to what was observed, which is one owner more then, and whose destruction
  has not begun. -/
  alive : ∀ g n, upgrade h t.client.machine = .returned (some g) n →
    g = h.held (.block .strong) ∧ ∃ l, h.link = some l ∧ t.begun l.cell = 0 ∧
      n.destructions l.cell = 0 ∧ ∃ s w, n.memory.block? l.cell = some (.strong s w) ∧
        s.toNat = t.references .strong l.cell + 1
  /-- When there was none for an observer that refers to something, there is none for any observer
  of that value at any later moment, and its block counts no owner, also when its storage went
  back. -/
  never : ∀ n, upgrade h t.client.machine = .returned none n → ∀ l, h.link = some l →
    ∀ u : Moment, Situation.Leads True t.situation u.situation →
      u.client.machine.Ownerless l.cell ∧ ∀ g k, g.link = some k → k.cell = l.cell →
        upgrade g u.client.machine = .returned none u.client.machine

variable {t : Moment} {h : Handle}

/-- An observer that is there at a balanced moment is upgraded as it should be. -/
theorem Has.upgrades_of_balanced (has : t.Has h) (balanced : t.Balanced)
    (observes : h.ownership = .weak) :
    t.Upgrades h := by
  have books : t.client.machine.Books (t.pending ++ t.client.duties) := balanced.balanced.books
  cases link : h.link with
  | none =>
    have nothing : upgrade h t.client.machine = .returned none t.client.machine := by
      unfold upgrade
      rw [link]
      rfl
    constructor
    · intro _
      refine ⟨none, t.client.machine, nothing, ?_⟩
      simp [link]
    · intro g n made
      cases nothing.symm.trans made
    · intro n _ l refers
      cases link.symm.trans refers
  | some l =>
    have counted {s w : Word}
        (block : t.client.machine.memory.block? l.cell = some (.strong s w)) :=
      balanced.strongAccount block
    cases books.upgrading has.seen observes link with
    | refused gone answer =>
      obtain ⟨w, block⟩ := id gone
      have owners : t.references .strong l.cell = 0 := (counted block).owners
      constructor
      · intro _
        refine ⟨none, _, answer, ?_⟩
        simp [link, owners]
      · intro g n made
        cases answer.symm.trans made
      · intro n _ l' refers u leads
        cases link.symm.trans refers
        have later := Situation.Ownerless.leads gone balanced leads
        exact ⟨later, fun g k refers same => Ownerless.upgrade (same ▸ later) refers⟩
    | @made cell s w found state owned room answer =>
      have account := counted (Option.bind_eq_some_iff.2 ⟨cell, found, state⟩)
      have owners : t.references .strong l.cell = s.toNat := account.owners
      have begun : t.begun l.cell = 0 := by rw [account.destroyed, if_neg owned]
      constructor
      · intro _
        refine ⟨_, _, answer, iff_of_true rfl ⟨l, link, ?_⟩⟩
        rw [owners]
        exact UInt64.lt_iff_toNat_lt.1 (UInt64.pos_iff_ne_zero.2 owned)
      · intro g n made
        cases answer.symm.trans made
        have more : BlockState.raised s = some (s + 1) := if_pos room
        refine ⟨rfl, l, link, begun, begun, s + 1, w, ?_, ?_⟩
        · exact Option.bind_eq_some_iff.2 ⟨_, cell?_withState_self found _, rfl⟩
        · rw [owners, BlockState.raised_eq_some more]
      · intro n refused
        cases answer.symm.trans refused
    | @overflown s w block full answer =>
      have unanswered {a : Option Handle} {n : Machine} :
          upgrade h t.client.machine ≠ .returned a n := by
        intro returned
        rw [returned] at answer
        cases answer
      have law : (t.tally l.cell).StrongLaw s w := balanced.law block
      constructor
      · intro room
        exact absurd (law.crowded (.inl full)) (room l link)
      · intro g n made
        exact absurd made unanswered
      · intro n refused
        exact absurd refused unanswered

end Moment

namespace Client

open Machine

/-- At every moment of every run, an observer is upgraded exactly if an owner is left, to an owner
of a value that is not being destroyed; and when none was left, there is none ever after. -/
theorem Reached.upgrades {p : Process} {t : Moment} {h : Handle} (reached : Reached (start p) t)
    (has : t.Has h) (observes : h.ownership = .weak) : t.Upgrades h :=
  has.upgrades_of_balanced (reached.balanced (start_balanced p)) observes

/-- The destructor of an observed value panicked when the last owner was let go of. The observer is
still there, and so is the block, and there will never be an owner again. -/
theorem exists_reached_upgrades : ∃ t h, Reached (start {}) t ∧ t.Has h ∧ h.ownership = .weak ∧
    t.Upgrades h ∧ t.cutShort 0 = 1 ∧
      upgrade h t.client.machine = .returned none t.client.machine := by
  let owner : Handle := .whole (.block .strong) .tracked 0
  let observer : Handle := .whole .weak .tracked 0
  let ops : List Operation :=
    [.create (.block .strong) systemAllocator (.tracked "!a") false, .downgrade owner]
  have dropped := exists_dropped (p := {}) 4 ops owner
    (fun c => decide (observer ∈ c.held) &&
      (c.machine.memory.block? 0 == some (.strong 0 2) &&
        c.machine.deeds.count (.destructionFailed 0) == 1)) (by decide) (by decide)
  obtain ⟨c, done, checked⟩ := dropped
  rw [Bool.and_eq_true, Bool.and_eq_true, decide_eq_true_iff, beq_iff_eq, beq_iff_eq] at checked
  obtain ⟨held, block, failed⟩ := checked
  have reached : Reached (start {}) { client := c } := .rest done
  have has : ({ client := c } : Moment).Has observer := .inl held
  have gone : c.machine.Ownerless 0 := ⟨2, block⟩
  exact ⟨_, observer, reached, has, rfl, reached.upgrades has rfl, failed,
    gone.upgrade (h := observer) rfl⟩

end Client

end Custody
