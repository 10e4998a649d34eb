import Custody.Proofs.Directions
import Custody.Proofs.Entrusted
import Custody.Proofs.Moments
import Mathlib.Data.List.Nodup

/-!
# Storage goes home once

Storage is given back by whoever lets go of a value for good: by a unique owner through the
allocator and the layout of its type, by all others through what the block says. Storage that is
asked for by itself nobody gives back, unless a client does so on its own, which is not considered
here.

`Situation.Homing.step` says that whatever is done next, only a loan goes back that a cell stands
for: to the allocator that made it, with the layout that it was made with, and not a second time.
`Client.run_bringsHome` draws the conclusions for what a client does. Counters then say how many
loans did not go back, and among these are those of all cells that some handle still refers to, be
it only an observer.
-/

namespace Custody

namespace Situation

open Machine

variable {s t : Situation}

/-- What is known at any time of what was lent and of what went back: the history is honest, and
speaks of no allocator that was not made. -/
structure Homing (s : Situation) : Prop where
  honest : Honest s.machine.deeds
  known : ∀ e ∈ s.machine.deeds, ∀ id, e.isEntered id = true →
    id < s.machine.memory.allocators.next

/-- A cell that was put there for an owner who may have let go of it, but was not handed back,
stands for its loan. -/
theorem entrusted_of_kept {m : Machine} {c : CellId} {cell : Cell} (recorded : m.Recorded c cell)
    (uncollected : cell.state ≠ some .collect)
    (placed : cell.state = none → m.deeds.countP (·.places c) ≠ 0)
    (kept : m.deeds.count (.handedBack c) = 0) :
    ∃ id, cell.home = some id ∧ (c, cell.loan) ∈ entrusted id m.deeds := by
  rcases recorded with ⟨bare, never⟩ | ⟨id, home, -, newer, older, split⟩
  · exact absurd never (placed bare)
  · rw [show cell.destructor c = none from if_neg uncollected] at split
    refine ⟨id, home, mem_entrusted_iff.2 ⟨newer, older, fun member => ?_, split⟩⟩
    exact List.count_eq_zero.1 kept (split ▸ List.mem_append_left _ member)

/-- A cell whose storage is about to go back stands for what goes back. -/
theorem entrusted_of_owed {id : AllocatorId} {l : Layout} {c : CellId} {cell : Cell}
    (balanced : s.Balanced) (recorded : s.Recorded) (directed : s.Directed)
    (found : s.machine.memory.cell? c = some cell)
    (owed : .giveBack id l c ∈ s.duties ∨ .retire id l c ∈ s.duties) :
    l = cell.layout ∧ (c, cell.loan) ∈ entrusted id s.machine.deeds := by
  have law := (balanced.fits c).law found
  have lent : s.machine.Lent c id l ∧ 0 < (s.machine.tally s.duties c).returning := by
    rcases owed with owed | owed
    · exact ⟨directed.duties _ owed, List.countP_pos_iff.2 ⟨_, owed, beq_self_eq_true c⟩⟩
    · exact ⟨directed.duties _ owed, List.countP_pos_iff.2 ⟨_, owed, beq_self_eq_true c⟩⟩
  obtain ⟨⟨there, found', homed, layout⟩, returning⟩ := lent
  rw [found] at found'
  cases found'
  obtain ⟨uncollected, placed⟩ := law.owned (.inl returning)
  have kept : s.machine.deeds.count (.handedBack c) = 0 := by
    have once := law.once
    show (s.machine.tally s.duties c).returned = 0
    omega
  obtain ⟨home, is, stands⟩ := entrusted_of_kept (recorded c cell found) uncollected placed kept
  rw [homed] at is
  cases is
  exact ⟨layout.symm, stands⟩

/-- What makes no loan and ends none makes no allocator and gives nothing back. -/
theorem harmless_of_isNeutral {e : StorageEvent} (h : e.isNeutral = true) (id : AllocatorId) :
    e ≠ .made id ∧ e.repaid? id = none := by
  refine ⟨?_, StorageEvent.repaid?_of_isNeutral h id⟩
  rintro rfl
  cases h

/-- What is added to an honest history has to be honest, and to be about allocators that were
made. -/
theorem Homing.append {added : List StorageEvent} (homing : s.Homing)
    (next : s.machine.memory.allocators.next ≤ t.machine.memory.allocators.next)
    (deeds : t.machine.deeds = added ++ s.machine.deeds)
    (honest : Honest (added ++ s.machine.deeds))
    (known : ∀ e ∈ added, ∀ id, e.isEntered id = true → id < t.machine.memory.allocators.next) :
    t.Homing where
  honest := deeds ▸ honest
  known := by
    intro e member id entered
    rw [deeds] at member
    rcases List.mem_append.1 member with new | old
    · exact known e new id entered
    · exact Nat.lt_of_lt_of_le (homing.known e old id entered) next

/-- Whatever is done next, nothing goes back but the loan of a cell that is handed back. -/
theorem Homing.step (homing : s.Homing) (balanced : s.Balanced) (recorded : s.Recorded)
    (directed : s.Directed) (step : Step False s t) : t.Homing := by
  obtain ⟨next, added, deeds, adds⟩ := step.adds balanced
  cases adds with
  | neutral are =>
    refine homing.append next deeds ?_ fun e member => (are e member).2
    exact homing.honest.append fun e member => harmless_of_isNeutral (are e member).1
  | overflown crowded =>
    refine homing.append next deeds ⟨⟨nofun, nofun⟩, homing.honest⟩ fun e member id entered => ?_
    rw [List.mem_singleton.1 member] at entered
    cases entered
  | made after =>
    refine homing.append next deeds ⟨⟨fun id is e member => ?_, nofun⟩, homing.honest⟩
      fun e member id entered => ?_
    · refine Bool.eq_false_iff.2 fun entered => ?_
      exact Nat.ne_of_lt (homing.known e member id entered) (StorageEvent.made.inj is).symm
    · rw [List.mem_singleton.1 member] at entered
      rw [after, ← beq_iff_eq.1 entered]
      exact Nat.lt_succ_self _
  | @lent id address l d chunks placed made obtained put =>
    have filled : ∀ e ∈ placed, ∀ a,
        (e ≠ .made a ∧ e.repaid? a = none) ∧ e.isEntered a = false := by
      intro e member a
      rcases put with rfl | rfl
      · cases member
      · rw [List.mem_singleton.1 member]
        exact ⟨⟨nofun, rfl⟩, rfl⟩
    refine homing.append next deeds ?_ fun e member other entered => ?_
    · refine homing.honest.append fun e member a => ?_
      rcases List.mem_append.1 member with member | member
      · exact (filled e member a).1
      · rcases List.mem_cons.1 member with rfl | member
        · exact ⟨nofun, rfl⟩
        · exact harmless_of_isNeutral (obtained e member).1 a
    · rcases List.mem_append.1 member with member | member
      · rw [(filled e member other).2] at entered
        cases entered
      · rcases List.mem_cons.1 member with rfl | member
        · rw [← beq_iff_eq.1 entered]
          exact made
        · rw [(obtained e member).2 other] at entered
          cases entered
  | @returned id l c cell e owed found freed =>
    obtain ⟨rfl, stands⟩ := entrusted_of_owed balanced recorded directed found owed
    have repaid : e.repaid? id = some cell.loan := StorageEvent.repaid?_eq_some_iff.2 freed
    refine homing.append next deeds (homing.honest.returned stands repaid)
      fun f member other entered => ?_
    obtain ⟨f, before, asked⟩ := exists_isEntered_of_entrusted stands
    have there := Nat.lt_of_lt_of_le (homing.known f before id asked) next
    rcases List.mem_cons.1 member with rfl | member
    · rcases freed with rfl | rfl <;> exact beq_iff_eq.1 entered ▸ there
    · rw [List.mem_singleton.1 member] at entered
      cases entered
  | unowned allowed freed => exact allowed.elim

theorem Homing.leads (leads : Leads False s t) (balanced : s.Balanced) (recorded : s.Recorded)
    (directed : s.Directed) (homing : s.Homing) : t.Homing := by
  induction leads with
  | refl => exact homing
  | tail leads step ih =>
    exact ih.step (balanced.leads leads) (recorded.leads leads balanced)
      (directed.leads leads balanced) step

end Situation

/-! ## What clients do -/

/-- What was lent goes back to where it came from, and the counters say how much did not. -/
structure Machine.BringsHome (m : Machine) : Prop where
  /-- Whatever goes back is what the same allocator lent with the same layout for the value in a
  cell. It goes back when the cell is handed back, which happens once. -/
  returns : ∀ newer e older id loan, m.deeds = newer ++ e :: older → e.repaid? id = some loan →
    ∃ c between before, m.deeds.count (.handedBack c) = 1 ∧
      older = .handedBack c :: (between ++ .placed id c ::
        .granted id loan.address loan.layout none :: before)
  /-- Whatever was handed out went back, is destroyed with its allocator, or is unreturned. -/
  conserved : ∀ id, m.deeds.countP (·.grants id) = m.deeds.countP (·.frees id) +
    m.deeds.countP (·.retires id) + m.deeds.countP (·.registers id) +
      (unreturned id m.deeds).length
  /-- The counters of an allocator count all this, as far as words can count. -/
  counted : ∀ id a, m.memory.allocator? id = some a → a.ledger.Counts id m.deeds
  /-- Until its first release an allocator knows how many of its loans are unreturned. -/
  exact : ∀ id a, m.memory.allocator? id = some a →
    (∀ leaked, .bulkReleased id leaked ∉ m.deeds) →
      m.deeds.countP (·.grants id) < Word.modulus →
        a.ledger.allocations.toNat = a.ledger.deallocations.toNat + a.ledger.retirements.toNat +
          a.ledger.collected.toNat + (unreturned id m.deeds).length ∧
        a.ledger.live.toNat = (unreturned id m.deeds).length

/-- The storage of whatever handles refer to is unreturned, even if all of them are observers. Only
what is left to an allocator is not to be returned. -/
def Client.KeepsStorage (c : Client) : Prop :=
  ∀ id (cells : List (CellId × Cell)), (cells.map (·.1)).Nodup →
    (∀ x ∈ cells, c.machine.memory.cell? x.1 = some x.2 ∧ x.2.home = some id ∧
      ∃ q, q ≠ .collect ∧ 0 < ({ client := c } : Moment).references q x.1) →
    (cells.map (·.2.loan)).Subperm (unreturned id c.machine.deeds)

namespace Situation

open Machine

variable {s : Situation}

theorem Homing.bringsHome (homing : s.Homing) (balanced : s.Balanced) : s.machine.BringsHome where
  returns := by
    intro newer e older id loan split repaid
    have honest : Honest (e :: older) := by
      have all := homing.honest
      rw [split] at all
      exact all.of_append
    obtain ⟨c, rest, rfl, stands⟩ := honest.1.owed id loan repaid
    obtain ⟨between, before, -, rfl⟩ := mem_entrusted_iff.1 stands
    refine ⟨c, between, before, ?_, rfl⟩
    have once : s.machine.deeds.count (.handedBack c) ≤ 1 := (balanced.fits c).returned_le
    have there : 0 < s.machine.deeds.count (.handedBack c) := by
      rw [split]
      exact List.count_pos_iff.2
        (List.mem_append_right _ (List.mem_cons_of_mem _ (List.mem_cons_self ..)))
    omega
  conserved id := homing.honest.conserved id
  counted id a there := by
    rw [balanced.sound.audited id a there]
    exact homing.honest.counts id
  exact := by
    intro id a there never few
    have counts := homing.honest.counts id
    have ledger := balanced.sound.audited id a there
    have balances := counts.balances homing.honest never few
    have written := counts.abandoned never
    rw [← ledger] at balances written
    refine ⟨?_, balances.toNat_live⟩
    unfold Ledger.Balances at balances
    rw [written] at balances
    exact balances

end Situation

namespace Client

open Situation

/-- What a handle refers to that does not leave it to an allocator stands for a loan. -/
theorem entrusted_of_references {c : Client} {q : Qualifier} {d : CellId} {cell : Cell}
    (balanced : c.Balanced) (recorded : c.situation.Recorded)
    (found : c.machine.memory.cell? d = some cell) (uncollected : q ≠ .collect)
    (refers : 0 < ({ client := c } : Moment).references q d) :
    ∃ id, cell.home = some id ∧ (d, cell.loan) ∈ entrusted id c.machine.deeds := by
  let t : Moment := { client := c }
  have moment : t.Balanced := balanced
  have law := (moment.fits d).law found
  rw [← Moment.refs_tally] at refers
  obtain ⟨left, placed⟩ := law.owned (.inr ⟨q, uncollected, refers⟩)
  exact entrusted_of_kept (recorded d cell found) left placed (law.kept refers).1

theorem keepsStorage {c : Client} (balanced : c.Balanced) (recorded : c.situation.Recorded)
    (homing : c.situation.Homing) : c.KeepsStorage := by
  intro id cells apart referred
  let standing : List (CellId × Loan) := cells.map fun x => (x.1, x.2.loan)
  have stand : standing ⊆ entrusted id c.machine.deeds := by
    intro y member
    obtain ⟨x, there, rfl⟩ := List.mem_map.1 member
    obtain ⟨found, home, q, uncollected, refers⟩ := referred x there
    obtain ⟨a, is, stands⟩ := entrusted_of_references balanced recorded found uncollected refers
    rw [home] at is
    cases is
    exact stands
  have nodup : standing.Nodup := by
    refine List.Nodup.of_map (·.1) ?_
    rw [List.map_map]
    exact apart
  obtain ⟨some, same, sub⟩ := List.subperm_of_subset nodup stand
  have loans : (standing.map (·.2)).Subperm ((entrusted id c.machine.deeds).map (·.2)) :=
    ⟨some.map (·.2), same.map _, sub.map _⟩
  rw [List.map_map] at loans
  exact loans.trans (homing.honest.entrusted_subperm id)

/-- Whatever a client does that gives nothing back on its own: storage goes back to where it came
from, once, and not before the last handle is gone. -/
theorem run_bringsHome (p : Process) (ops : List Operation) (owned : ∀ op ∈ ops, op.isRaw = false) :
    (run ops (start p)).state.machine.BringsHome ∧
      ∀ c, run ops (start p) = .returned () c → c.KeepsStorage := by
  have balanced := start_balanced p
  have recorded : (start p).situation.Recorded := recorded_of_vacant (start_vacant p)
  have directed : (start p).situation.Directed := directed_of_vacant (start_vacant p)
  have homing : (start p).situation.Homing := ⟨trivial, nofun⟩
  have led : Leads False (start p).situation (run ops (start p)) :=
    run_leads ops (fun op member raw => absurd raw (by simp [owned op member])) balanced
  constructor
  · obtain ⟨t, leads, is⟩ := led.exists_state
    rw [← is]
    exact (Homing.leads leads balanced recorded directed homing).bringsHome (balanced.leads leads)
  · intro c done
    rw [done] at led
    exact keepsStorage (balanced.leads led) (Recorded.leads led balanced recorded)
      (Homing.leads led balanced recorded directed homing)

/-- The storage of a value that has no owner any more, but is observed, has not gone home. -/
theorem run_bringsHome_observed : ∃ ops c, run ops (start {}) = .returned () c ∧
    c.machine.BringsHome ∧ c.KeepsStorage ∧
      ({ client := c } : Moment).references .strong 0 = 0 ∧
      ({ client := c } : Moment).references .weak 0 = 1 ∧
      (unreturned systemAllocator c.machine.deeds).length = 1 := by
  let h : Handle := .whole (.block .strong) .tracked 0
  let ops : List Operation :=
    [.create (.block .strong) systemAllocator (.tracked "a") false, .downgrade h]
  obtain ⟨c, done, checked⟩ := exists_dropped (p := {}) 20 ops h (fun c => decide (
    ({ client := c } : Moment).references .strong 0 = 0 ∧
    ({ client := c } : Moment).references .weak 0 = 1 ∧
    (unreturned systemAllocator c.machine.deeds).length = 1)) (by decide +kernel)
    (by decide +kernel)
  obtain ⟨owners, observers, loans⟩ := of_decide_eq_true checked
  obtain ⟨home, kept⟩ := run_bringsHome {} (ops ++ [.drop h]) (by decide)
  rw [done] at home
  exact ⟨_, c, done, home, kept c done, owners, observers, loans⟩

end Client

end Custody
