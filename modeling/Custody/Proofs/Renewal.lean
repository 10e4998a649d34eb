import Custody.Proofs.Counting
import Custody.Proofs.WriteOffs

/-!
# An arena that was reset is as good as new

After a reset nothing is left of an arena but its name, its configuration, its number and its
counters. `Arena.outcomes` is what comes of calls that are made of an arena one after another, each
in surroundings of its own: whatever else the program does in between, and whatever the heap is
like by then. `Arena.outcomes_withPast` compares an arena with one that has a past in which all was
accounted for: in the same surroundings all calls end alike, and what is left is the same but for
the past. It goes by induction on the calls, and what it carries along is how far the counters can
have got; they must not overflow.

By `Client.reset_renewed` a reset leaves such an arena, after any orderly history, and even if it is
left by the panic of a fatal leak report or of a sink.
-/

namespace Custody

/-- What can be asked of an arena. -/
inductive Call
  | allocate (l : Layout) (destructor : Option Destructor)
  | deallocate (address : Address) (l : Layout)
  | retire (address : Address) (l : Layout)
  | reset
  | tearDown

/-- What an arena answers. -/
inductive Reply
  | answered (answer : Except AllocError Grant)
  | taken
  | released (report : ReleaseReport)

/-- Make a call of the arena of a number. -/
def Call.perform (id : AllocatorId) : Call → Run Machine Reply
  | allocate l destructor => do return .answered (← Machine.allocate id l destructor)
  | deallocate address l => do
    Machine.deallocate id address l
    return .taken
  | retire address l => do
    Machine.retire id address l
    return .taken
  | reset => do return .released (← Machine.releaseArena id)
  | tearDown => do return .released (← Machine.tearDown id)

/-- The machine with this arena in the place of a number. -/
def Machine.holding (m : Machine) (id : AllocatorId) (a : Arena) : Machine :=
  { m with memory := m.memory.setAllocator id (.arena a) }

/-- The arena that is there after a call, unless the process has ended. -/
def Outcome.arena? {α : Type} (id : AllocatorId) (o : Outcome Machine α) : Option Arena :=
  o.survivor?.bind (·.memory.arena? id)

namespace Arena

/-- How calls end that are made of an arena one after another. Each is made in surroundings of its
own, into which only the arena is carried over. -/
def outcomes (id : AllocatorId) : Arena → List (Machine × Call) → List (Outcome Machine Reply)
  | _, [] => []
  | a, (m, call) :: rest =>
    call.perform id (m.holding id a) ::
      match (call.perform id (m.holding id a)).arena? id with
      | some b => outcomes id b rest
      | none => []

/-- How much is done in these calls. -/
def effort (id : AllocatorId) : Arena → List (Machine × Call) → Nat
  | _, [] => 0
  | a, (m, call) :: rest =>
    ((call.perform id (m.holding id a)).state.deeds.length - m.deeds.length) +
      match (call.perform id (m.holding id a)).arena? id with
      | some b => effort id b rest
      | none => 0

/-- What is seen of two arenas is the same, only that the counters of the second one go on from a
past. -/
structure Resembles (past : Ledger) (a b : Arena) : Prop where
  name : b.name = a.name
  config : b.config = a.config
  used : b.used = a.used
  reserved : b.reserved = a.reserved
  chunks : b.chunks = a.chunks
  cursor : b.cursor = a.cursor
  collected : b.collected = a.collected
  live : b.live = a.live
  ledger : b.ledger = past.plus a.ledger

end Arena

/-- Two calls ended alike: with the same reply, panic or end of the process, in machines that are
the same but for the past of an arena, which resembles itself without it. -/
structure Reply.Agrees (id : AllocatorId) (number : Nat) (past : Ledger)
    (o o' : Outcome Machine Reply) : Prop where
  same : o' = o.mapState (Machine.withPast id number past)
  arenas : Option.Rel (Arena.Resembles past) (o.state.memory.arena? id)
    (o'.state.memory.arena? id)

namespace Call

open Machine Run

variable {id : AllocatorId} (number : Nat) {most : Nat} {past : Ledger} {m : Machine}

theorem perform_grows (id : AllocatorId) (call : Call) : (call.perform id).Keeps (Grows id) := by
  cases call with
  | allocate l destructor =>
    exact Keeps.bind (allocate_grows id l destructor) fun _ => Keeps.pure _
  | deallocate address l =>
    refine Keeps.bind ?_ fun _ => Keeps.pure _
    exact (deallocate_repays id address l).mono fun _ _ => Repays.grows
  | retire address l =>
    refine Keeps.bind ?_ fun _ => Keeps.pure _
    exact (retire_repays id address l).mono fun _ _ => Repays.grows
  | reset => exact Keeps.bind (releaseArena_grows id) fun _ => Keeps.pure _
  | tearDown => exact Keeps.bind (tearDown_grows id) fun _ => Keeps.pure _

/-- What is live is the same with a past, where it is known how far the counters have got. -/
theorem live_withPast (settled : past.Balances 0) (within : (m.counters id).Within most)
    (room : past.allocations.toNat + most < Word.modulus) (a : Arena)
    (there : m.memory.arena? id = some a) : (a.withPast number past).live = a.live := by
  rw [counters_of_some there] at within
  exact Ledger.live_plus settled within room

/-- A call ends as it would without the past. -/
theorem perform_withPast (call : Call) (settled : past.Balances 0)
    (within : (m.counters id).Within most)
    (room : past.allocations.toNat + most +
      ((call.perform id m).state.deeds.length - m.deeds.length) < Word.modulus) :
    call.perform id (m.withPast id number past) =
      (call.perform id m).mapState (withPast id number past) := by
  have began := live_withPast number settled within (by omega)
  cases call with
  | allocate l destructor =>
    exact Commutes.bind (allocate_commutes id number past l destructor) (fun _ => .pure _) m
  | deallocate address l =>
    exact Commutes.bind (deallocate_commutes id number past id address l) (fun _ => .pure _) m
  | retire address l =>
    exact Commutes.bind (retire_commutes id number past id address l) (fun _ => .pure _) m
  | reset => exact bind_mapState (releaseArena_withPast id number past began) fun _ _ _ => rfl
  | tearDown =>
    -- The second release begins where the first one ended, which is before the end of the call.
    refine bind_mapState (tearDown_withPast id number past began ?_) fun _ _ _ => rfl
    have ended : (Call.tearDown.perform id m).state = (Machine.tearDown id m).state :=
      state_bind_pure (Machine.tearDown id) Reply.released m
    have earlier : (releaseArena id m).state.deeds.length ≤
        (Machine.tearDown id m).state.deeds.length := by
      rcases state_atEnd (releaseArena id) (dropArena id) m with dropped | left
      · exact Nat.le_trans (dropArena_grows id _).deeds (Nat.le_of_eq (by rw [← dropped]; rfl))
      · exact Nat.le_of_eq (congrArg (fun n : Machine => n.deeds.length) left.symm)
    rw [ended] at room
    have grows := releaseArena_grows id m
    exact live_withPast number settled (grows.within within (by omega)) (by omega)

end Call

namespace Arena

open Machine

variable {id : AllocatorId} {number most : Nat} {past : Ledger}

/-- A machine counts for an arena that it holds what the arena has counted. -/
theorem within_holding {a : Arena} (m : Machine) (within : a.ledger.Within most) :
    ((m.holding id a).counters id).Within most := by
  cases there : (m.holding id a).memory.arena? id with
  | none =>
    unfold counters
    rw [there]
    exact .new most
  | some b =>
    obtain ⟨allocator, found, is⟩ := Option.bind_eq_some_iff.1 there
    have same := Slab.eq_of_get?_set_self _ found
    subst same
    cases is
    rw [counters_of_some there]
    exact within

theorem holding_withPast (a : Arena) (m : Machine) :
    (m.holding id a).withPast id number past = m.holding id (a.withPast number past) := by
  unfold Machine.withPast holding Memory.withPast Memory.setAllocator
  rw [Slab.adjust_set_self]
  rfl

theorem arena?_mapState {α : Type} (o : Outcome Machine α) :
    (o.mapState (Machine.withPast id number past)).arena? id =
      (o.arena? id).map (Arena.withPast number past) := by
  cases o with
  | returned r m => exact m.memory.arena?_withPast id number past
  | unwinding payload m => exact m.memory.arena?_withPast id number past
  | aborted cause m => rfl

/-- What there is after a call resembles itself without a past. -/
theorem resembles_withPast {m : Machine} (settled : past.Balances 0)
    (within : (m.counters id).Within most)
    (room : past.allocations.toNat + most < Word.modulus) :
    Option.Rel (Resembles past) (m.memory.arena? id)
      ((m.withPast id number past).memory.arena? id) := by
  have found : (m.withPast id number past).memory.arena? id = _ :=
    m.memory.arena?_withPast id number past
  rw [found]
  cases there : m.memory.arena? id with
  | none => exact .none
  | some a =>
    have live := Call.live_withPast number settled within room a there
    exact .some ⟨rfl, rfl, rfl, rfl, rfl, rfl, rfl, live, rfl⟩

/-- Calls that are made of an arena with a past, in which all was accounted for, end like those that
are made of it without. -/
theorem outcomes_withPast (settled : past.Balances 0) {a : Arena} (within : a.ledger.Within most)
    {course : List (Machine × Call)}
    (room : past.allocations.toNat + most + a.effort id course < Word.modulus) :
    List.Forall₂ (Reply.Agrees id number past) (a.outcomes id course)
      ((a.withPast number past).outcomes id course) := by
  induction course generalizing a most with
  | nil => exact .nil
  | cons step rest ih =>
    obtain ⟨m, call⟩ := step
    have held : ((m.holding id a).counters id).Within most := within_holding m within
    have room' : past.allocations.toNat + most +
        ((call.perform id (m.holding id a)).state.deeds.length - m.deeds.length) <
          Word.modulus := by
      unfold effort at room
      omega
    have within' := (Call.perform_grows id call (m.holding id a)).within held (by
      show most + (_ - m.deeds.length) < _
      omega)
    have same := call.perform_withPast number settled held room'
    rw [holding_withPast] at same
    unfold outcomes
    rw [same, arena?_mapState]
    refine .cons ⟨rfl, ?_⟩ ?_
    · rw [Outcome.state_mapState]
      exact resembles_withPast settled within' (by rw [← Nat.add_assoc]; exact room')
    · cases found : (call.perform id (m.holding id a)).arena? id with
      | none => exact .nil
      | some b =>
        obtain ⟨n, survived, there⟩ := Option.bind_eq_some_iff.1 found
        rw [Outcome.eq_state_of_survivor? survived] at there
        rw [counters_of_some there] at within'
        refine ih within' ?_
        unfold effort at room
        rw [found] at room
        have : (m.holding id a).deeds = m.deeds := rfl
        rw [this]
        dsimp only at room
        omega

/-- An arena that has only kept its name, its configuration and counters by which all is accounted
for is as good as a new one. -/
theorem outcomes_of_settled {l : Ledger} (settled : l.Balances 0) (a : Arena) (number : Nat)
    {course : List (Machine × Call)}
    (room : l.allocations.toNat +
      ({ id := number, name := a.name, config := a.config } : Arena).effort id course <
        Word.modulus) :
    Resembles l { id := number, name := a.name, config := a.config }
        { id := a.id, name := a.name, config := a.config, ledger := l } ∧
      List.Forall₂ (Reply.Agrees id a.id l)
        (({ id := number, name := a.name, config := a.config } : Arena).outcomes id course)
        (({ id := a.id, name := a.name, config := a.config, ledger := l } : Arena).outcomes id
          course) := by
  let new : Arena := { id := number, name := a.name, config := a.config }
  have live : l.live = ({} : Ledger).live :=
    UInt64.toNat_inj.1 (settled.toNat_live.trans (by decide))
  have kept : l.plus {} = l := by
    unfold Ledger.plus
    simp
  have past : new.withPast a.id l =
      { id := a.id, name := a.name, config := a.config, ledger := l } := by
    unfold withPast
    rw [kept]
  have alike : List.Forall₂ (Reply.Agrees id a.id l) (new.outcomes id course)
      ((new.withPast a.id l).outcomes id course) := outcomes_withPast settled (.new 0) room
  rw [past] at alike
  exact ⟨⟨rfl, rfl, rfl, rfl, rfl, rfl, rfl, live, kept.symm⟩, alike⟩

end Arena

/-- After a release all is accounted for, if the history was orderly. -/
theorem Machine.settled_of_released {m n : Machine} {id : AllocatorId} {a : Arena}
    (sound : m.Sound) (there : m.memory.arena? id = some a)
    (returned : Run.forAll (runDestructor id) a.collected (m.listTaken id a) = .returned () n)
    (orderly : Custody.Orderly id (releaseArena id m).state.deeds)
    (few : (releaseArena id m).state.deeds.length < Word.modulus) :
    (ledgerOf id (releaseArena id m).state.deeds).Balances 0 := by
  have sound' := releaseArena_staysSound id m sound
  obtain ⟨l, left⟩ := arena?_of_released there returned
  have ledger : l = ledgerOf id (releaseArena id m).state.deeds := sound'.audited.arena left
  have shorter : n.deeds.length ≤ (releaseArena id m).state.deeds.length := by
    obtain ⟨b, mid, wentOn⟩ := wentOn_of_returned there returned
    rw [wentOn.rest, deeds_closeRelease wentOn.arena, List.length_append]
    exact Nat.le_add_left _ _
  obtain ⟨-, -, live⟩ := releaseArena_spent sound there returned (by omega) left
  have live : l.live = 0 := live
  have balances := sound'.lawful.balances orderly few
  have outstanding := balances.toNat_live
  rw [← ledger, live] at outstanding
  rw [← outstanding] at balances
  exact balances

namespace Client

open Machine

variable {c : Client} {id : AllocatorId} {a : Arena} {n : Machine}

/-- An arena that is reset after an orderly history is as good as a new one with its name and its
configuration, if its destructors return, and whatever else ends the reset: all calls that are made
of it end like those that are made, in the same surroundings, of the new one. Only its counters go
on from those of its past; in all this time they must not overflow. -/
theorem reset_renewed {p : Process} {ops : List Operation}
    (done : run ops (start p) = .returned () c) (there : c.machine.memory.arena? id = some a)
    (returned : Run.forAll (runDestructor id) a.collected (c.machine.listTaken id a) =
      .returned () n)
    (orderly : Orderly id (releaseArena id c.machine).state.deeds) (number : Nat)
    (course : List (Machine × Call))
    (few : (releaseArena id c.machine).state.deeds.length +
      ({ id := number, name := a.name, config := a.config } : Arena).effort id course <
        Word.modulus) :
    ∃ e, (releaseArena id c.machine).state.memory.arena? id = some e ∧
      Arena.Resembles e.ledger { id := number, name := a.name, config := a.config } e ∧
      List.Forall₂ (Reply.Agrees id e.id e.ledger)
        (({ id := number, name := a.name, config := a.config } : Arena).outcomes id course)
        (e.outcomes id course) := by
  have sound := sound_of_run done
  have settled := settled_of_released sound there returned orderly (by omega)
  obtain ⟨l, left⟩ := arena?_of_released there returned
  have ledger : l = ledgerOf id (releaseArena id c.machine).state.deeds :=
    (releaseArena_staysSound id c.machine sound).audited.arena left
  have counted := (counters_le id (releaseArena id c.machine).state.deeds).1
  rw [← ledger] at settled counted
  obtain ⟨resembles, alike⟩ := Arena.outcomes_of_settled settled a number
    (Nat.lt_of_le_of_lt (Nat.add_le_add_right counted _) few)
  exact ⟨_, left, resembles, alike⟩

/-- An arena under a fatal policy lends storage and gets it back, comes to collect a value, and
lends storage that nobody gives back. -/
def lendingTwice : List Operation :=
  [.makeArena none { leakPolicy := .fatal }, .allocate 1 (.small 8 3),
    .deallocate 1 65536 (.small 8 3), .create (.block .collect) 1 (.tag 3) false,
    .allocate 1 (.small 8 3)]

/-- Calls of an arena, each in the surroundings of a machine that has just made one. -/
def fewCalls : List (Machine × Call) :=
  let m := (run [.makeArena none {}] (start {})).state.machine
  [(m, .allocate (.small 40 4) none), (m, .allocate (.small 0 0) none),
    (m, .deallocate 65536 (.small 40 4)), (m, .reset), (m, .allocate (.small 40 3) none),
    (m, .tearDown)]

theorem reset_renewed_lendingTwice :
    ∃ c a n e, run lendingTwice (start {}) = .returned () c ∧
      c.machine.memory.arena? 1 = some a ∧
      Run.forAll (runDestructor 1) a.collected (c.machine.listTaken 1 a) = .returned () n ∧
      a.collected.length = 1 ∧ a.live = 1 ∧ a.config.leakPolicy = .fatal ∧
      Orderly 1 (releaseArena 1 c.machine).state.deeds ∧
      (releaseArena 1 c.machine).state.memory.arena? 1 = some e ∧
      (({ id := 7, name := a.name, config := a.config } : Arena).outcomes 1 fewCalls).length = 6 ∧
      List.Forall₂ (Reply.Agrees 1 e.id e.ledger)
        (({ id := 7, name := a.name, config := a.config } : Arena).outcomes 1 fewCalls)
        (e.outcomes 1 fewCalls) := by
  obtain ⟨c, a, n, done, there, returned, checked⟩ := exists_released lendingTwice
    (fun _ a n => (n.memory.arena? 1).any fun b =>
      let deeds := wrapUpEvents 1 b (reportOf a b) ++ n.deeds
      let new : Arena := { id := 7, name := a.name, config := a.config }
      decide (a.collected.length = 1 ∧ a.live = 1 ∧ a.config.leakPolicy = .fatal ∧
        isOrderly 1 deeds = true ∧ (new.outcomes 1 fewCalls).length = 6 ∧
        deeds.length + new.effort 1 fewCalls < Word.modulus))
    (by decide +kernel) (by decide +kernel)
  obtain ⟨b, mid, wentOn⟩ := wentOn_of_returned there returned
  rw [wentOn.arena] at checked
  obtain ⟨one, live, fatal, orderly, six, few⟩ := of_decide_eq_true checked
  have deeds : (releaseArena 1 c.machine).state.deeds =
      wrapUpEvents 1 b (reportOf a b) ++ n.deeds := by
    rw [wentOn.rest, deeds_closeRelease wentOn.arena]
  rw [← deeds] at orderly few
  have orderly := orderly_of_isOrderly orderly
  obtain ⟨e, left, -, alike⟩ := reset_renewed done there returned orderly 7 fewCalls few
  exact ⟨c, a, n, e, done, there, returned, one, live, fatal, orderly, left, six, alike⟩

end Client

end Custody
