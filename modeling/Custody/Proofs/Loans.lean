import Custody.Proofs.History

/-!
# Loans and the counters that count them

The counters of an allocator are words and know of no loans, so that they balance is a fact about
histories. `Lawful.balances` says that they do in an orderly one: whatever is given back is
outstanding, and nothing is given back from the beginning of a release to its end.

A release takes the number of live allocations when it begins, and writes that number off when its
destructors have run. `Ledger.Repaid.exact_iff` says what comes of that: the number is the number
of loans that are outstanding in the end, and the counters add up afterwards, exactly if they
balanced before and nothing was given back in between.
-/

namespace Custody

/-- How often something was given back to an allocator. -/
def repayments (id : AllocatorId) (deeds : List StorageEvent) : Nat :=
  deeds.countP fun e => (e.repaid? id).isSome

/-! ## Counters of a release -/

namespace Ledger

/-- Counters after something was given back so many times, and nothing else was counted. -/
structure Repaid (before after : Ledger) (times : Nat) : Prop where
  allocations : after.allocations = before.allocations
  collected : after.collected = before.collected
  abandoned : after.abandoned = before.abandoned
  back : after.deallocations.toNat + after.retirements.toNat =
    before.deallocations.toNat + before.retirements.toNat + times

variable {before after : Ledger} {times : Nat}

/-- What was live before can be written off without a carry. -/
theorem Repaid.toNat_abandoned (repaid : before.Repaid after times) :
    (after.abandoned + before.live).toNat = before.abandoned.toNat + before.live.toNat := by
  have live := before.toNat_live
  have bound := before.allocations.toNat_lt
  rw [UInt64.toNat_add, repaid.abandoned]
  have := before.abandoned.toNat_lt
  omega

/-- A release is right about its loans, and leaves counters that add up, exactly if the counters
balanced when it began and nothing was given back since. -/
theorem Repaid.exact_iff {lent left : Nat} (repaid : before.Repaid after times)
    (kept : times = 0 → left = lent) :
    before.live.toNat = left ∧ (after.writeOff before.live).Balances 0 ↔
      before.Balances lent ∧ times = 0 := by
  obtain ⟨allocations, collected, -, back⟩ := id repaid
  have live := before.toNat_live
  have abandoned := repaid.toNat_abandoned
  unfold Balances writeOff
  dsimp only
  rw [allocations, collected, abandoned]
  constructor
  · rintro ⟨right, balanced⟩
    have never : times = 0 := by omega
    have := kept never
    omega
  · rintro ⟨balanced, never⟩
    have := kept never
    omega

/-- If something was given back in a release, the next leak is not noticed. -/
theorem Repaid.live_allocate (repaid : before.Repaid after times) (some : 0 < times) (size : Nat) :
    ((after.writeOff before.live).allocate size false).live = 0 := by
  obtain ⟨allocations, collected, -, back⟩ := id repaid
  have live := before.toNat_live
  have abandoned := repaid.toNat_abandoned
  refine UInt64.toNat_inj.1 ?_
  rw [toNat_live]
  show (after.allocations + 1).toNat - (after.deallocations.toNat + after.retirements.toNat +
    after.collected.toNat + (after.abandoned + before.live).toNat) = 0
  have succ := Word.toNat_succ_le after.allocations
  rw [allocations] at succ ⊢
  rw [collected, abandoned]
  omega

/-- What is live stays live while nothing is given back. -/
theorem Repaid.live_eq (repaid : before.Repaid after 0) : after.live = before.live := by
  obtain ⟨allocations, collected, abandoned, back⟩ := repaid
  refine UInt64.toNat_inj.1 ?_
  rw [toNat_live, toNat_live, allocations, collected, abandoned, back, Nat.add_zero]

/-- Nothing is live when a release has written off what was. -/
theorem Repaid.live_eq_zero (repaid : before.Repaid after times) :
    (after.writeOff before.live).live = 0 := by
  obtain ⟨allocations, collected, -, back⟩ := id repaid
  have live := before.toNat_live
  have abandoned := repaid.toNat_abandoned
  refine UInt64.toNat_inj.1 ?_
  rw [toNat_live]
  unfold writeOff
  dsimp only
  rw [allocations, collected, abandoned]
  have zero : (0 : Word).toNat = 0 := rfl
  omega

end Ledger

section Counting

variable {id : AllocatorId}

/-- No event raises a counter by more than one, except that of what is written off. -/
private theorem entered_le (id : AllocatorId) (e : StorageEvent) (l : Ledger) :
    (e.entered id l).allocations.toNat ≤ l.allocations.toNat + 1 ∧
      (e.entered id l).deallocations.toNat ≤ l.deallocations.toNat + 1 ∧
      (e.entered id l).retirements.toNat ≤ l.retirements.toNat + 1 := by
  have succ := Word.toNat_succ_le
  cases entered : e.isEntered id with
  | false =>
    rw [StorageEvent.entered_of_isEntered entered]
    exact ⟨Nat.le_succ _, Nat.le_succ _, Nat.le_succ _⟩
  | true =>
    cases e with
    | made a =>
      rw [beq_iff_eq.1 entered, StorageEvent.entered_made]
      exact ⟨Nat.zero_le _, Nat.zero_le _, Nat.zero_le _⟩
    | granted a base layout d =>
      rw [beq_iff_eq.1 entered, StorageEvent.entered_granted]
      exact ⟨succ _, Nat.le_succ _, Nat.le_succ _⟩
    | deallocated a base layout =>
      rw [beq_iff_eq.1 entered, StorageEvent.entered_deallocated]
      exact ⟨Nat.le_succ _, succ _, Nat.le_succ _⟩
    | retired a base layout =>
      rw [beq_iff_eq.1 entered, StorageEvent.entered_retired]
      exact ⟨Nat.le_succ _, Nat.le_succ _, succ _⟩
    | bulkReleased a leaked =>
      rw [beq_iff_eq.1 entered, StorageEvent.entered_bulkReleased]
      exact ⟨Nat.le_succ _, Nat.le_succ _, Nat.le_succ _⟩
    | _ => cases entered

/-- A counter counts no more than there were events. -/
theorem counters_le (id : AllocatorId) (deeds : List StorageEvent) :
    (ledgerOf id deeds).allocations.toNat ≤ deeds.length ∧
      (ledgerOf id deeds).deallocations.toNat ≤ deeds.length ∧
      (ledgerOf id deeds).retirements.toNat ≤ deeds.length := by
  induction deeds with
  | nil => exact ⟨Nat.le_refl _, Nat.le_refl _, Nat.le_refl _⟩
  | cons e older ih =>
    obtain ⟨more, back, retired⟩ := entered_le id e (ledgerOf id older)
    rw [List.length_cons]
    show (e.entered id (ledgerOf id older)).allocations.toNat ≤ _ ∧
      (e.entered id (ledgerOf id older)).deallocations.toNat ≤ _ ∧
      (e.entered id (ledgerOf id older)).retirements.toNat ≤ _
    omega

/-- Of what happens in a release until it is counted, only what is given back is counted. -/
theorem repaid_of_release {mid older : List StorageEvent} (proceed : ∀ e ∈ mid, e.isOfRelease)
    (few : (mid ++ older).length < Word.modulus) :
    (ledgerOf id older).Repaid (ledgerOf id (mid ++ older)) (repayments id mid) := by
  induction mid with
  | nil => exact ⟨rfl, rfl, rfl, rfl⟩
  | cons e rest ih =>
    have few : (rest ++ older).length + 1 < Word.modulus := few
    obtain ⟨allocations, collected, abandoned, back⟩ :=
      ih (fun f member => proceed f (List.mem_cons_of_mem _ member)) (Nat.lt_of_succ_lt few)
    have first := proceed e (List.mem_cons_self ..)
    obtain ⟨-, deallocations, retirements⟩ := counters_le id (rest ++ older)
    unfold Word.modulus at few
    have step : repayments id (e :: rest) =
        repayments id rest + if (e.repaid? id).isSome then 1 else 0 := List.countP_cons
    show (ledgerOf id older).Repaid (e.entered id (ledgerOf id (rest ++ older))) _
    rw [step]
    generalize ledgerOf id (rest ++ older) = l at *
    cases entered : e.isEntered id with
    | false =>
      rw [StorageEvent.entered_of_isEntered entered, StorageEvent.repaid?_of_isEntered entered]
      exact ⟨allocations, collected, abandoned, back⟩
    | true =>
      have one : (1 : Word).toNat = 1 := rfl
      cases e with
      | deallocated a base layout =>
        rw [beq_iff_eq.1 entered, StorageEvent.entered_deallocated,
          StorageEvent.repaid?_deallocated]
        refine ⟨allocations, collected, abandoned, ?_⟩
        show (l.deallocations + 1).toNat + l.retirements.toNat = _
        rw [UInt64.toNat_add, one, Option.isSome_some, if_pos rfl]
        omega
      | retired a base layout =>
        rw [beq_iff_eq.1 entered, StorageEvent.entered_retired, StorageEvent.repaid?_retired]
        refine ⟨allocations, collected, abandoned, ?_⟩
        show l.deallocations.toNat + (l.retirements + 1).toNat = _
        rw [UInt64.toNat_add, one, Option.isSome_some, if_pos rfl]
        omega
      | destructionBegan c => cases entered
      | destructionFailed c => cases entered
      | handedBack c => cases entered
      | miscounted c fault => cases entered
      | collectedRun a base d => cases entered
      | chunkReleased a base layout => cases entered
      | _ => cases first

/-- The loans of a release stay outstanding unless they are given back. -/
theorem outstanding_of_release {mid older : List StorageEvent}
    (proceed : ∀ e ∈ mid, e.isOfRelease) (never : ∀ e ∈ mid, e.repaid? id = none) :
    outstanding id (mid ++ older) = outstanding id older := by
  induction mid with
  | nil => rfl
  | cons e rest ih =>
    have first := proceed e (List.mem_cons_self ..)
    have lent : e.lent? id = none ∧ e.settles id = false := by
      cases e with
      | deallocated a base layout => exact ⟨rfl, rfl⟩
      | retired a base layout => exact ⟨rfl, rfl⟩
      | destructionBegan c => exact ⟨rfl, rfl⟩
      | destructionFailed c => exact ⟨rfl, rfl⟩
      | handedBack c => exact ⟨rfl, rfl⟩
      | miscounted c fault => exact ⟨rfl, rfl⟩
      | collectedRun a base d => exact ⟨rfl, rfl⟩
      | chunkReleased a base layout => exact ⟨rfl, rfl⟩
      | _ => cases first
    rw [List.cons_append, outstanding_cons lent.2 (never e (List.mem_cons_self ..)), lent.1]
    exact ih (fun f member => proceed f (List.mem_cons_of_mem _ member))
      fun f member => never f (List.mem_cons_of_mem _ member)

theorem repayments_eq_zero_iff {deeds : List StorageEvent} :
    repayments id deeds = 0 ↔ ∀ e ∈ deeds, e.repaid? id = none := by
  unfold repayments
  rw [List.countP_eq_zero]
  simp

end Counting

namespace Ledger.Balances

variable {l : Ledger} {k : Nat}

theorem lend (h : l.Balances k) (size : Nat) (room : l.allocations.toNat + 1 < Word.modulus) :
    (l.allocate size false).Balances (k + 1) := by
  unfold Balances at *
  unfold Word.modulus at room
  show (l.allocations + 1).toNat = _ + _ + l.collected.toNat + _ + _
  have one : (1 : Word).toNat = 1 := rfl
  rw [UInt64.toNat_add, one]
  show _ = l.deallocations.toNat + l.retirements.toNat + _ + l.abandoned.toNat + _
  omega

theorem collect (h : l.Balances k) (size : Nat) (room : l.allocations.toNat + 1 < Word.modulus) :
    (l.allocate size true).Balances k := by
  unfold Balances at *
  unfold Word.modulus at room
  show (l.allocations + 1).toNat = _ + _ + (l.collected + 1).toNat + _ + _
  have one : (1 : Word).toNat = 1 := rfl
  rw [UInt64.toNat_add, UInt64.toNat_add, one]
  show _ = l.deallocations.toNat + l.retirements.toNat + _ + l.abandoned.toNat + _
  omega

theorem deallocate (h : l.Balances (k + 1)) : l.deallocate.Balances k := by
  unfold Balances at *
  have bound := l.allocations.toNat_lt
  show _ = (l.deallocations + 1).toNat + _ + _ + _ + _
  have one : (1 : Word).toNat = 1 := rfl
  rw [UInt64.toNat_add, one]
  show l.allocations.toNat = _ + l.retirements.toNat + l.collected.toNat + l.abandoned.toNat + _
  omega

theorem retire (h : l.Balances (k + 1)) : l.retire.Balances k := by
  unfold Balances at *
  have bound := l.allocations.toNat_lt
  show _ = _ + (l.retirements + 1).toNat + _ + _ + _
  have one : (1 : Word).toNat = 1 := rfl
  rw [UInt64.toNat_add, one]
  show l.allocations.toNat = l.deallocations.toNat + _ + l.collected.toNat + l.abandoned.toNat + _
  omega

/-- One loan less is outstanding when it is given back. -/
theorem erase {loans : List Loan} {loan : Loan} (h : l.Balances loans.length)
    (member : loan ∈ loans) : l.Balances ((loans.erase loan).length + 1) := by
  have some := List.length_pos_of_mem member
  rw [List.length_erase_of_mem member, Nat.sub_add_cancel some]
  exact h

/-- Counters that balance know how many loans are outstanding. -/
theorem toNat_live (h : l.Balances k) : l.live.toNat = k := by
  have live := l.toNat_live
  unfold Balances at h
  omega

/-- Nothing is left to be accounted for when all that is live is written off. -/
theorem writeOff (h : l.Balances k) : (l.writeOff l.live).Balances 0 := by
  have live := h.toNat_live
  have bound := l.allocations.toNat_lt
  unfold Balances at *
  show l.allocations.toNat = _ + _ + _ + (l.abandoned + l.live).toNat + 0
  rw [UInt64.toNat_add]
  show _ = l.deallocations.toNat + l.retirements.toNat + l.collected.toNat + _ + 0
  omega

end Ledger.Balances

/-! ## Orderly histories -/

/-- An allocator gets back what it lent, and while it is released it gets nothing back. -/
structure Orderly (id : AllocatorId) (deeds : List StorageEvent) : Prop where
  /-- What is given back is outstanding. -/
  matched : ∀ newer e older loan, deeds = newer ++ e :: older → e.repaid? id = some loan →
    loan ∈ outstanding id older
  /-- From the beginning of a release until it is counted nothing is given back. -/
  undisturbed : ∀ newer leaked mid older,
    deeds = newer ++ .bulkReleased id leaked :: (mid ++ .releaseBegan id :: older) →
    (∀ e ∈ mid, e.isOfRelease) → ∀ e ∈ mid, e.repaid? id = none

section Orderly

variable {id : AllocatorId} {e : StorageEvent} {older deeds : List StorageEvent}

/-- A history was orderly at every earlier time. -/
theorem Orderly.of_cons (h : Orderly id (e :: older)) : Orderly id older where
  matched newer f before loan split := h.matched (e :: newer) f before loan (by rw [split]; rfl)
  undisturbed newer leaked mid before split :=
    h.undisturbed (e :: newer) leaked mid before (by rw [split]; rfl)

/-- Whether an event is in order after what happened before. -/
def StorageEvent.isInOrder (id : AllocatorId) (older : List StorageEvent) : StorageEvent → Bool
  | bulkReleased a _ =>
    a != id || (older.takeWhile (·.isOfRelease)).all fun e => (e.repaid? id).isNone
  | e => (e.repaid? id).all fun loan => decide (loan ∈ outstanding id older)

/-- Whether a history is orderly, event by event. -/
def isOrderly (id : AllocatorId) : List StorageEvent → Bool
  | [] => true
  | e :: older => e.isInOrder id older && isOrderly id older

theorem isInOrder_of_repaid {loan : Loan} (repaid : e.repaid? id = some loan) :
    e.isInOrder id older = decide (loan ∈ outstanding id older) := by
  have whole : (e.repaid? id).all (fun loan => decide (loan ∈ outstanding id older)) =
      decide (loan ∈ outstanding id older) := by
    rw [repaid]
    rfl
  cases e with
  | bulkReleased a leaked => cases repaid
  | _ => exact whole

/-- A history in which each event is in order is orderly. -/
theorem orderly_of_isOrderly (h : isOrderly id deeds = true) : Orderly id deeds := by
  induction deeds with
  | nil =>
    exact ⟨fun newer _ _ _ split => absurd split.symm (List.append_ne_nil_of_right_ne_nil _ nofun),
      fun newer _ _ _ split => absurd split.symm (List.append_ne_nil_of_right_ne_nil _ nofun)⟩
  | cons e older ih =>
    obtain ⟨first, before⟩ := Bool.and_eq_true_iff.1 h
    obtain ⟨matched, undisturbed⟩ := ih before
    constructor
    · intro newer f begun loan split repaid
      rcases List.cons_eq_append_iff.1 split with ⟨rfl, whole⟩ | ⟨later, rfl, rest⟩
      · cases whole
        rw [isInOrder_of_repaid repaid] at first
        exact of_decide_eq_true first
      · exact matched later f begun loan rest repaid
    · intro newer leaked mid begun split proceed
      rcases List.cons_eq_append_iff.1 split with ⟨rfl, whole⟩ | ⟨later, rfl, rest⟩
      · cases whole
        have taken : (mid ++ .releaseBegan id :: begun).takeWhile (·.isOfRelease) = mid := by
          rw [List.takeWhile_append_of_pos proceed, List.takeWhile_cons_of_neg Bool.false_ne_true,
            List.append_nil]
        unfold StorageEvent.isInOrder at first
        dsimp only at first
        rw [taken, bne_self_eq_false, Bool.false_or, List.all_eq_true] at first
        exact fun e member => Option.isNone_iff_eq_none.1 (first e member)
      · exact undisturbed later leaked mid begun rest proceed

/-- What was lent out and not given back is all that is not accounted for otherwise. -/
theorem Lawful.balances (lawful : Lawful deeds) (orderly : Orderly id deeds)
    (few : deeds.length < Word.modulus) :
    (ledgerOf id deeds).Balances (outstanding id deeds).length := by
  induction deeds with
  | nil => rfl
  | cons e older ih =>
    have few : older.length + 1 < Word.modulus := few
    have before := ih lawful.2 orderly.of_cons (Nat.lt_of_succ_lt few)
    have room : (ledgerOf id older).allocations.toNat + 1 < Word.modulus :=
      Nat.lt_of_le_of_lt (Nat.succ_le_succ (counters_le id older).1) few
    show (e.entered id (ledgerOf id older)).Balances _
    cases entered : e.isEntered id with
    | false =>
      rw [StorageEvent.entered_of_isEntered entered,
        outstanding_cons (StorageEvent.settles_of_isEntered entered)
          (StorageEvent.repaid?_of_isEntered entered), StorageEvent.lent?_of_isEntered entered]
      exact before
    | true =>
      cases e with
      | made a =>
        have settles : (StorageEvent.made a).settles id = true := entered
        rw [outstanding_cons_of_settles settles, beq_iff_eq.1 entered, StorageEvent.entered_made]
        rfl
      | granted a base layout d =>
        rw [beq_iff_eq.1 entered, StorageEvent.entered_granted, outstanding_cons rfl rfl]
        cases d with
        | none =>
          rw [StorageEvent.lent?_granted]
          exact before.lend layout.size room
        | some d => exact before.collect layout.size room
      | deallocated a base layout =>
        have same : a = id := beq_iff_eq.1 entered
        subst same
        have repaid := StorageEvent.repaid?_deallocated a base layout
        have member := orderly.matched [] _ older _ rfl repaid
        rw [StorageEvent.entered_deallocated, outstanding_cons_of_repaid rfl repaid]
        exact Ledger.Balances.deallocate (before.erase member)
      | retired a base layout =>
        have same : a = id := beq_iff_eq.1 entered
        subst same
        have repaid := StorageEvent.repaid?_retired a base layout
        have member := orderly.matched [] _ older _ rfl repaid
        rw [StorageEvent.entered_retired, outstanding_cons_of_repaid rfl repaid]
        exact Ledger.Balances.retire (before.erase member)
      | bulkReleased a leaked =>
        have same : a = id := beq_iff_eq.1 entered
        subst same
        obtain ⟨mid, begun, rfl, proceed, rfl⟩ := lawful.1
        have never := orderly.undisturbed [] _ mid begun rfl proceed
        have settles (leaked : Word) : (StorageEvent.bulkReleased a leaked).settles a = true :=
          beq_self_eq_true a
        have repaid : (ledgerOf a begun).Repaid
            (ledgerOf a (mid ++ .releaseBegan a :: begun)) 0 := by
          rw [← repayments_eq_zero_iff.2 never]
          exact repaid_of_release proceed (Nat.lt_of_succ_lt few)
        rw [outstanding_cons_of_settles (settles _), StorageEvent.entered_bulkReleased,
          ← repaid.live_eq]
        exact before.writeOff
      | _ => cases entered

end Orderly

end Custody
