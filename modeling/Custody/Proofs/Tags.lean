import Custody.Proofs.Continuity
import Custody.Proofs.Moments

/-!
# Handles and blocks agree

A control block is told which kind of owner governs it, and is told so again when an owner turns
into one of another kind: then the block stays where it is and its counts start anew, with another
meaning. Nobody checks that the handles which are there agree with it. A handle that does not would
count where there is nothing to be counted, or more than there is.

`Client.run_agrees` says that this does not happen: at every moment the cell of every handle is
there, its storage was not given back, and its block is governed by an owner of the handle's kind.
Whatever becomes of a block, its storage, the place of the value and the type stay as they were.
Counts therefore never fail, except when there are as many handles to one value as can be counted.
-/

namespace Custody

namespace Situation

open Machine

variable {raw : Prop} {s t : Situation}

/-- A count that fails in a step fails because there are too many handles. -/
theorem Adds.miscounted {m n : Machine} {tasks : List Task} {added : List StorageEvent} {c : CellId}
    {fault : CountFault} (adds : Adds raw m tasks n added) (member : .miscounted c fault ∈ added) :
    fault = .overflow ∧ (m.tally tasks c).Crowded := by
  cases adds with
  | neutral are => cases (are _ member).1
  | overflown crowded =>
    cases List.mem_singleton.1 member
    exact ⟨rfl, crowded⟩
  | made next => cases List.mem_singleton.1 member
  | lent made obtained put =>
    rcases List.mem_append.1 member with member | member
    · rcases put with rfl | rfl
      · cases member
      · cases List.mem_singleton.1 member
    · rcases List.mem_cons.1 member with is | member
      · cases is
      · cases (obtained _ member).1
  | returned owed found freed =>
    rcases List.mem_cons.1 member with rfl | member
    · rcases freed with freed | freed <;> cases freed
    · cases List.mem_singleton.1 member
  | unowned allowed freed =>
    rw [← List.mem_singleton.1 member] at freed
    rcases freed with freed | freed <;> cases freed

/-- A count that failed on the way failed where there were too many handles. -/
theorem Leads.miscounted (leads : Leads raw s t) (balanced : s.Balanced) {c : CellId}
    {fault : CountFault} (member : .miscounted c fault ∈ t.machine.deeds) :
    .miscounted c fault ∈ s.machine.deeds ∨ fault = .overflow ∧
      ∃ u, Leads raw s u ∧ Leads raw u t ∧ (u.machine.tally u.duties c).Crowded := by
  induction leads with
  | refl => exact .inl member
  | @tail u t leads step ih =>
    obtain ⟨-, added, deeds, adds⟩ := step.adds (balanced.leads leads)
    rw [deeds] at member
    rcases List.mem_append.1 member with new | old
    · obtain ⟨overflow, crowded⟩ := adds.miscounted new
      exact .inr ⟨overflow, u, leads, .single step, crowded⟩
    · rcases ih old with before | ⟨overflow, v, first, later, crowded⟩
      · exact .inl before
      · exact .inr ⟨overflow, v, first, later.tail step, crowded⟩

end Situation

namespace Moment

/-- The handles that there are at a moment: those that the client holds or forgot, those inside
values, and those that are still to be let go of. -/
def Has (t : Moment) (h : Handle) : Prop :=
  h ∈ t.client.held ∨ h ∈ t.client.forgotten ∨
    (∃ c cell, t.client.machine.memory.cell? c = some cell ∧ h ∈ cell.value.handles) ∨
      .drop h ∈ t.pending

/-- A handle and the cell that it refers to agree. -/
structure Agrees (t : Moment) (h : Handle) (c : CellId) (cell : Cell) : Prop where
  found : t.client.machine.memory.cell? c = some cell
  /-- An owner of the handle's kind governs the block; an observer's block is that of a strong
  group. -/
  tag : Governed h.qualifier cell.state
  /-- The storage did not go back, and is not about to. -/
  kept : t.givenBack c = 0 ∧ t.toGiveBack c = 0
  /-- The storage is what the allocator lent right before the value was put there. -/
  lent : ∃ id, cell.home = some id ∧
    Machine.PlacedAt t.client.machine.deeds c id cell.loan (cell.destructor c)
  shaped : cell.Shaped

variable {t : Moment} {h : Handle}

/-- A handle that is there is on the books. -/
theorem Has.seen (has : t.Has h) :
    t.client.machine.Seen (t.pending ++ t.client.duties) h := by
  rcases has with held | forgotten | ⟨d, cell, found, member⟩ | pending
  · refine Machine.seen_of_mem (List.mem_append_right _ (List.mem_map_of_mem ?_))
    exact List.mem_append_left _ held
  · refine Machine.seen_of_mem (List.mem_append_right _ (List.mem_map_of_mem ?_))
    exact List.mem_append_right _ forgotten
  · intro l link
    have counted := Memory.refs_pos_of_mem found member link
    show 0 < Task.refs _ _ _ + _
    omega
  · exact Machine.seen_of_mem (List.mem_append_left _ pending)

/-- Every handle that there is at a balanced moment agrees with its cell. -/
theorem Has.agrees (has : t.Has h) (balanced : t.Balanced) (recorded : t.situation.Recorded)
    {l : Link} (link : h.link = some l) : ∃ cell, t.Agrees h l.cell cell := by
  have refers : 0 < (t.tally l.cell).refs h.qualifier := has.seen l link
  obtain ⟨cell, found, governed, -, law⟩ := (balanced.fits l.cell).admits refers
  obtain ⟨returned, returning⟩ := law.kept refers
  rw [returning_tally] at returning
  rcases recorded l.cell cell found with ⟨bare, never⟩ | ⟨id, home, shaped, placed⟩
  · have owner : h.qualifier ≠ .collect := by
      intro collect
      rw [collect, bare] at governed
      cases governed
    exact absurd never ((law.owned (.inr ⟨_, owner, refers⟩)).2 bare)
  · exact ⟨cell, found, governed, ⟨returned, returning⟩, ⟨id, home, placed⟩, shaped⟩

end Moment

namespace Client

open Machine Situation

/-- A count that failed in an operation failed where there were too many handles. -/
theorem Leads.miscounted {α : Type} {raw : Prop} {s : Situation} {o : Outcome Client α}
    (led : Leads raw s o) (balanced : s.Balanced) {c : CellId} {fault : CountFault}
    (member : .miscounted c fault ∈ o.state.machine.deeds) :
    .miscounted c fault ∈ s.machine.deeds ∨ fault = .overflow ∧
      ∃ u, Situation.Leads raw s u ∧ Leads raw u o ∧ (u.machine.tally u.duties c).Crowded := by
  cases o with
  | returned a d => exact Situation.Leads.miscounted led balanced member
  | unwinding payload d => exact Situation.Leads.miscounted led balanced member
  | aborted cause d =>
    obtain ⟨t, leads, is⟩ := led
    have member : .miscounted c fault ∈ t.machine.deeds := is ▸ member
    rcases leads.miscounted balanced member with before | ⟨overflow, u, first, later, crowded⟩
    · exact .inl before
    · exact .inr ⟨overflow, u, first, ⟨t, later, is⟩, crowded⟩

/-- In every run: at every moment the cell of every handle is there, with storage that was not given
back and a block that agrees with the handle. From then on a cell keeps its storage, and the place
and the type of its value. And no count ever fails, unless so many handles refer to the value that
no more can be counted. -/
theorem run_agrees (p : Process) (ops : List Operation) :
    (∀ t, Reached (start p) t → ∀ h l, t.Has h → h.link = some l →
      ∃ cell, t.Agrees h l.cell cell) ∧
    (∀ c, run ops (start p) = .returned () c → ∀ t, Reached c t →
      c.machine.Persists t.client.machine) ∧
    ∀ c fault, .miscounted c fault ∈ (run ops (start p)).state.machine.deeds →
      fault = .overflow ∧ ∃ s, Situation.Leads True (start p).situation s ∧
        Leads True s (run ops (start p)) ∧ (s.machine.tally s.duties c).Crowded := by
  have balanced := start_balanced p
  have recorded : (start p).situation.Recorded := recorded_of_vacant (start_vacant p)
  have led : Leads True (start p).situation (run ops (start p)) :=
    run_leads ops (fun _ _ _ => trivial) balanced
  refine ⟨?_, ?_, ?_⟩
  · intro t reached h l has link
    exact has.agrees (reached.balanced balanced)
      (recorded.leads (reached.leads balanced) balanced) link
  · intro c done t reached
    rw [done] at led
    exact (reached.leads (balanced.leads led)).persists (balanced.leads led)
  · intro c fault member
    exact (led.miscounted balanced member).resolve_left nofun

/-- A value changes hands three times, and its block agrees with the last handle. -/
theorem run_agrees_retagged : ∃ ops c h l cell, run ops (start {}) = .returned () c ∧
    c.held = [h] ∧ h.link = some l ∧ ({ client := c } : Moment).Agrees h l.cell cell ∧
      cell.state = some (.handle 1) := by
  let ops : List Operation :=
    [.create (.block .own) systemAllocator (.num 7) false,
      .convert (.whole (.block .own) .num 0) (.block .strong),
      .convert (.whole (.block .strong) .num 0) (.block .own),
      .convert (.whole (.block .own) .num 0) (.block .handle)]
  have done := Outcome.eq_returned (o := run ops (start {})) (by decide +kernel)
  generalize ended : (run ops (start {})).state = c at done
  have facts : c.held = [.whole (.block .handle) .num 0] ∧
      (c.machine.memory.cell? 0).map (·.state) = some (some (.handle 1)) := by
    rw [← ended]
    decide +kernel
  obtain ⟨held, state⟩ := facts
  obtain ⟨cell, agrees⟩ := (run_agrees {} ops).1 { client := c } (.rest done)
    (.whole (.block .handle) .num 0) _ (.inl (held ▸ List.mem_cons_self ..)) rfl
  refine ⟨ops, c, _, _, cell, done, held, rfl, agrees, ?_⟩
  have found : c.machine.memory.cell? 0 = some cell := agrees.found
  rw [found] at state
  exact Option.some.inj state

end Client

end Custody
