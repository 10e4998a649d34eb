import Custody.Proofs.Loans
import Mathlib.Data.List.Perm.Subperm

/-!
# Loans that cells stand for

A loan is made for a value, which is put into a cell right then. From then on the cell stands for
the loan, until its storage is handed back. `entrusted id` lists the cells that stand for loans of
an allocator, each with its loan, and `unreturned id` the loans that did not go back, whether or
not a release wrote them off.

`Honest` says of a history that nothing goes back but the loan of a cell, which the cell is handed
back for, and that an allocator is made before anything is asked of it. In an honest history cells
stand for different loans, none of which went back (`Honest.entrusted_subperm`), what was lent went
back or is unreturned (`Honest.conserved`), and counters count what happened (`Honest.counts`).
Before an allocator is released they are therefore exact (`Ledger.Counts.balances`), as far as words
can count.
-/

namespace Custody

namespace StorageEvent

variable (id : AllocatorId)

/-- Whether an event hands out storage of an allocator. -/
@[simp] def grants : StorageEvent → Bool
  | granted a _ _ _ => a == id
  | _ => false

/-- Whether an event hands out storage of an allocator for a value that it is to destroy. -/
@[simp] def registers : StorageEvent → Bool
  | granted a _ _ (some _) => a == id
  | _ => false

/-- Whether an event gives storage back to an allocator. -/
@[simp] def frees : StorageEvent → Bool
  | deallocated a _ _ => a == id
  | _ => false

/-- Whether an event gives storage back to an allocator that is not freed. -/
@[simp] def retires : StorageEvent → Bool
  | retired a _ _ => a == id
  | _ => false

end StorageEvent

section Histories

variable (id : AllocatorId)

/-- The loans that did not go back, newest first. -/
def unreturned : List StorageEvent → List Loan
  | [] => []
  | e :: older =>
    match e.repaid? id with
    | some loan => (unreturned older).erase loan
    | none => (e.lent? id).toList ++ unreturned older

/-- The cells that stand for loans of an allocator, each with its loan, newest first. A cell stands
for the loan that was made right before a value was put there. -/
def entrusted : List StorageEvent → List (CellId × Loan)
  | [] => []
  | .placed a c :: older =>
    (if a = id then (older.head?.bind (·.lent? id)).toList.map (c, ·) else []) ++ entrusted older
  | .handedBack c :: older => (entrusted older).filter (·.1 != c)
  | _ :: older => entrusted older

end Histories

/-- Whether an event may come after older ones: an allocator is made before it does anything, and
what goes back is the loan of the cell that was handed back just before. -/
structure Rightful (older : List StorageEvent) (e : StorageEvent) : Prop where
  first : ∀ id, e = .made id → ∀ f ∈ older, f.isEntered id = false
  owed : ∀ id loan, e.repaid? id = some loan →
    ∃ c before, older = .handedBack c :: before ∧ (c, loan) ∈ entrusted id before

/-- Every event might come when it came. -/
def Honest : List StorageEvent → Prop
  | [] => True
  | e :: older => Rightful older e ∧ Honest older

variable {id : AllocatorId} {e : StorageEvent} {older deeds : List StorageEvent} {c : CellId}
  {loan : Loan}

theorem StorageEvent.lent?_eq_some_iff :
    e.lent? id = some loan ↔ e = .granted id loan.address loan.layout none := by
  constructor
  · intro lent
    cases e with
    | granted a base l d =>
      cases d with
      | none =>
        obtain ⟨rfl, is⟩ := Option.ite_none_right_eq_some.1 lent
        rw [← Option.some.inj is]
      | some d => cases lent
    | _ => cases lent
  · rintro rfl
    exact lent?_granted id _ _

theorem StorageEvent.repaid?_eq_some_iff :
    e.repaid? id = some loan ↔
      e = .deallocated id loan.address loan.layout ∨ e = .retired id loan.address loan.layout := by
  constructor
  · intro repaid
    cases e with
    | deallocated a base l =>
      obtain ⟨rfl, is⟩ := Option.ite_none_right_eq_some.1 repaid
      rw [← Option.some.inj is]
      exact .inl rfl
    | retired a base l =>
      obtain ⟨rfl, is⟩ := Option.ite_none_right_eq_some.1 repaid
      rw [← Option.some.inj is]
      exact .inr rfl
    | _ => cases repaid
  · rintro (rfl | rfl)
    · exact repaid?_deallocated id _ _
    · exact repaid?_retired id _ _

/-- What goes back goes back to one allocator. -/
theorem StorageEvent.repaid?_unique {a b : AllocatorId} {x y : Loan} (first : e.repaid? a = some x)
    (second : e.repaid? b = some y) : a = b ∧ x = y := by
  obtain ⟨address, layout⟩ := x
  obtain ⟨address', layout'⟩ := y
  rcases repaid?_eq_some_iff.1 first with rfl | rfl
  · rcases repaid?_eq_some_iff.1 second with same | same <;> cases same
    exact ⟨rfl, rfl⟩
  · rcases repaid?_eq_some_iff.1 second with same | same <;> cases same
    exact ⟨rfl, rfl⟩

/-! ## Cells that stand for loans -/

theorem head?_lent_iff :
    older.head?.bind (·.lent? id) = some loan ↔
      older.head? = some (.granted id loan.address loan.layout none) := by
  rw [Option.bind_eq_some_iff]
  constructor
  · rintro ⟨e, head, lent⟩
    rw [head, StorageEvent.lent?_eq_some_iff.1 lent]
  · exact fun head => ⟨_, head, StorageEvent.lent?_eq_some_iff.2 rfl⟩

/-- A cell stands for the loan that was made right before it was filled, and for one that it stood
for before unless it was just handed back. -/
theorem mem_entrusted_cons :
    (c, loan) ∈ entrusted id (e :: older) ↔
      e = .placed id c ∧ older.head? = some (.granted id loan.address loan.layout none) ∨
        e ≠ .handedBack c ∧ (c, loan) ∈ entrusted id older := by
  cases e with
  | placed a d =>
    simp only [entrusted, List.mem_append, StorageEvent.placed.injEq, ne_eq, reduceCtorEq,
      not_false_eq_true, true_and]
    refine or_congr_left ?_
    constructor
    · intro member
      by_cases same : a = id
      · rw [if_pos same] at member
        obtain ⟨lent, there, is⟩ := List.mem_map.1 member
        cases is
        exact ⟨⟨same, rfl⟩, head?_lent_iff.1 (Option.mem_toList.1 there)⟩
      · rw [if_neg same] at member
        cases member
    · rintro ⟨⟨rfl, rfl⟩, before⟩
      rw [if_pos rfl]
      exact List.mem_map_of_mem (Option.mem_toList.2 (head?_lent_iff.2 before))
  | handedBack d =>
    simp only [entrusted, List.mem_filter, bne_iff_ne, ne_eq, StorageEvent.handedBack.injEq,
      reduceCtorEq, false_and, false_or]
    rw [and_comm, eq_comm]
  | _ => simp [entrusted]

/-- A cell stands for a loan from when a value is put there until it is handed back. -/
theorem mem_entrusted_iff :
    (c, loan) ∈ entrusted id deeds ↔ ∃ newer older, .handedBack c ∉ newer ∧
      deeds = newer ++ .placed id c :: .granted id loan.address loan.layout none :: older := by
  induction deeds with
  | nil => simp [entrusted]
  | cons e rest ih =>
    rw [mem_entrusted_cons, ih]
    constructor
    · rintro (⟨rfl, before⟩ | ⟨other, newer, older, never, rfl⟩)
      · obtain ⟨older, rfl⟩ := List.head?_eq_some_iff.1 before
        exact ⟨[], older, List.not_mem_nil, rfl⟩
      · exact ⟨e :: newer, older, List.not_mem_cons_of_ne_of_not_mem other.symm never, rfl⟩
    · rintro ⟨newer, older, never, split⟩
      cases newer with
      | nil =>
        cases split
        exact .inl ⟨rfl, rfl⟩
      | cons f newer =>
        cases split
        exact .inr ⟨(List.ne_of_not_mem_cons never).symm, newer, older,
          List.not_mem_of_not_mem_cons never, rfl⟩

/-- A cell that stands for a loan was filled when its allocator was there. -/
theorem exists_isEntered_of_entrusted (stands : (c, loan) ∈ entrusted id deeds) :
    ∃ e ∈ deeds, e.isEntered id = true := by
  obtain ⟨newer, older, -, rfl⟩ := mem_entrusted_iff.1 stands
  exact ⟨.granted id loan.address loan.layout none,
    List.mem_append_right _ (List.mem_cons_of_mem _ (List.mem_cons_self ..)), beq_self_eq_true id⟩

/-! ## Loans that did not go back -/

theorem unreturned_cons_of_repaid (repaid : e.repaid? id = some loan) :
    unreturned id (e :: older) = (unreturned id older).erase loan := by
  rw [unreturned, repaid]

theorem unreturned_cons (repaid : e.repaid? id = none) :
    unreturned id (e :: older) = (e.lent? id).toList ++ unreturned id older := by
  rw [unreturned, repaid]

/-- What makes no allocator and gives nothing back may come at any time. -/
theorem Honest.append {added : List StorageEvent} (honest : Honest older)
    (harmless : ∀ e ∈ added, ∀ id, e ≠ .made id ∧ e.repaid? id = none) :
    Honest (added ++ older) := by
  induction added with
  | nil => exact honest
  | cons e added ih =>
    have first := harmless e (List.mem_cons_self ..)
    refine ⟨⟨fun id is => absurd is (first id).1, fun id loan repaid => ?_⟩,
      ih fun f member => harmless f (List.mem_cons_of_mem _ member)⟩
    rw [(first id).2] at repaid
    cases repaid

/-- A history was honest at every earlier time. -/
theorem Honest.of_append {newer : List StorageEvent} (honest : Honest (newer ++ older)) :
    Honest older := by
  induction newer with
  | nil => exact honest
  | cons e newer ih => exact ih honest.2

/-- One cell less stands for a loan when one is handed back whose loan goes back. -/
private theorem subperm_erase {cells : List (CellId × Loan)} {loans : List Loan}
    (stand : (cells.map (·.2)).Subperm loans) (member : (c, loan) ∈ cells) :
    ((cells.filter (·.1 != c)).map (·.2)).Subperm (loans.erase loan) := by
  have first : cells.Perm ((c, loan) :: cells.erase (c, loan)) := List.perm_cons_erase member
  have others : (cells.filter (·.1 != c)).Perm ((cells.erase (c, loan)).filter (·.1 != c)) := by
    have same := first.filter (·.1 != c)
    rwa [List.filter_cons_of_neg (by simp)] at same
  have left : ((cells.erase (c, loan)).map (·.2)).Subperm (loans.erase loan) := by
    have more := ((first.map (·.2)).symm.subperm.trans stand).erase loan
    rwa [List.map_cons, List.erase_cons_head] at more
  exact (others.map _).subperm.trans ((List.filter_sublist.map _).subperm.trans left)

/-- Cells stand for different loans, and none of these went back. -/
theorem Honest.entrusted_subperm (id : AllocatorId) : {deeds : List StorageEvent} →
    Honest deeds → ((entrusted id deeds).map (·.2)).Subperm (unreturned id deeds)
  | [], _ => List.nil_subperm
  | e :: older, honest => by
    cases repaid : e.repaid? id with
    | some loan =>
      obtain ⟨c, before, rfl, member⟩ := honest.1.owed id loan repaid
      have cells : entrusted id (e :: .handedBack c :: before) =
          (entrusted id before).filter (·.1 != c) := by
        rcases StorageEvent.repaid?_eq_some_iff.1 repaid with rfl | rfl <;> rfl
      rw [unreturned_cons_of_repaid repaid, cells]
      exact subperm_erase (honest.2.2.entrusted_subperm id) member
    | none =>
      have stand := honest.2.entrusted_subperm id
      have kept : (unreturned id older).Subperm (unreturned id (e :: older)) := by
        rw [unreturned_cons repaid]
        exact (List.sublist_append_right _ _).subperm
      cases e with
      | placed a c =>
        rcases filled : older.head?.bind (·.lent? id) with _ | loan
        · have cells : entrusted id (.placed a c :: older) = entrusted id older := by
            simp [entrusted, filled]
          rw [cells]
          exact stand.trans kept
        · obtain ⟨before, rfl⟩ := List.head?_eq_some_iff.1 (head?_lent_iff.1 filled)
          have first := honest.2.2.entrusted_subperm id
          have lent : unreturned id
              (.placed a c :: .granted id loan.address loan.layout none :: before) =
              loan :: unreturned id before := by
            rw [unreturned_cons rfl, unreturned_cons rfl, StorageEvent.lent?_granted]
            rfl
          rw [lent]
          by_cases same : a = id
          · have cells : entrusted id (.placed a c ::
                .granted id loan.address loan.layout none :: before) =
                  (c, loan) :: entrusted id before := by
              simp [entrusted, same]
            rw [cells]
            exact (List.subperm_cons loan).2 first
          · have cells : entrusted id (.placed a c ::
                .granted id loan.address loan.layout none :: before) = entrusted id before := by
              simp [entrusted, same]
            rw [cells]
            exact first.trans (List.sublist_cons_self ..).subperm
      | handedBack c => exact ((List.filter_sublist.map _).subperm.trans stand).trans kept
      | _ => exact stand.trans kept
termination_by deeds => deeds.length

/-- The loan of a cell goes back when the cell is handed back. -/
theorem Honest.returned (honest : Honest older) (stands : (c, loan) ∈ entrusted id older)
    (repaid : e.repaid? id = some loan) : Honest (e :: .handedBack c :: older) := by
  refine ⟨⟨fun a made => ?_, fun a other repaid' => ⟨c, older, rfl, ?_⟩⟩, ⟨nofun, nofun⟩, honest⟩
  · rcases StorageEvent.repaid?_eq_some_iff.1 repaid with rfl | rfl <;> cases made
  · obtain ⟨rfl, rfl⟩ := StorageEvent.repaid?_unique repaid repaid'
    exact stands

/-- What goes back did not go back before. -/
theorem Honest.mem_unreturned (honest : Honest (e :: older)) (repaid : e.repaid? id = some loan) :
    loan ∈ unreturned id older := by
  obtain ⟨c, before, rfl, member⟩ := honest.1.owed id loan repaid
  exact (honest.2.2.entrusted_subperm id).subset (List.mem_map_of_mem member)

/-- What was lent went back, or it did not. -/
theorem Honest.loans (id : AllocatorId) (honest : Honest deeds) :
    deeds.countP (fun e => (e.lent? id).isSome) =
      repayments id deeds + (unreturned id deeds).length := by
  induction deeds with
  | nil => rfl
  | cons e older ih =>
    have before := ih honest.2
    unfold repayments at before ⊢
    rw [List.countP_cons, List.countP_cons, before]
    cases repaid : e.repaid? id with
    | some loan =>
      have member := honest.mem_unreturned repaid
      have positive := List.length_pos_of_mem member
      have lent : e.lent? id = none := by
        rcases StorageEvent.repaid?_eq_some_iff.1 repaid with rfl | rfl <;> rfl
      rw [unreturned_cons_of_repaid repaid, lent, List.length_erase_of_mem member]
      simp only [Option.isSome_none, Option.isSome_some, if_pos, Bool.false_eq_true, if_false]
      omega
    | none =>
      rw [unreturned_cons repaid, List.length_append]
      cases e.lent? id with
      | some loan =>
        simp only [Option.isSome_none, Option.isSome_some, if_pos, Bool.false_eq_true, if_false,
          Option.toList_some, List.length_singleton]
        omega
      | none =>
        simp only [Option.isSome_none, Bool.false_eq_true, if_false, Option.toList_none,
          List.length_nil]
        omega

/-- Events of two kinds are counted kind by kind. -/
private theorem countP_split {p q r : StorageEvent → Bool}
    (split : ∀ e, (if p e then 1 else 0) = (if q e then 1 else 0) + if r e then 1 else 0)
    (deeds : List StorageEvent) : deeds.countP p = deeds.countP q + deeds.countP r := by
  induction deeds with
  | nil => rfl
  | cons e older ih =>
    rw [List.countP_cons, List.countP_cons, List.countP_cons, ih, split e]
    omega

/-- Whatever an allocator handed out was given back, is destroyed with it, or is unreturned. -/
theorem Honest.conserved (id : AllocatorId) (honest : Honest deeds) :
    deeds.countP (·.grants id) = deeds.countP (·.frees id) + deeds.countP (·.retires id) +
      deeds.countP (·.registers id) + (unreturned id deeds).length := by
  have lent := countP_split (p := (·.grants id)) (q := fun e => (e.lent? id).isSome)
    (r := (·.registers id)) (fun e => by
      cases e with
      | granted a base l d =>
        cases d <;> by_cases same : a = id <;>
          simp [StorageEvent.grants, StorageEvent.lent?, StorageEvent.registers, same]
      | _ => rfl) deeds
  have back := countP_split (p := fun e => (e.repaid? id).isSome) (q := (·.frees id))
    (r := (·.retires id)) (fun e => by
      cases e with
      | deallocated a base l =>
        by_cases same : a = id <;>
          simp [StorageEvent.repaid?, StorageEvent.frees, StorageEvent.retires, same]
      | retired a base l =>
        by_cases same : a = id <;>
          simp [StorageEvent.repaid?, StorageEvent.frees, StorageEvent.retires, same]
      | _ => rfl) deeds
  rw [lent, honest.loans id]
  unfold repayments
  rw [back]
  omega

/-! ## Counters -/

/-- The counters of an allocator count what happened, as far as words can count, and nothing was
written off if the allocator was never released. -/
structure Ledger.Counts (l : Ledger) (id : AllocatorId) (deeds : List StorageEvent) : Prop where
  allocations : l.allocations = .ofNat (deeds.countP (·.grants id))
  deallocations : l.deallocations = .ofNat (deeds.countP (·.frees id))
  retirements : l.retirements = .ofNat (deeds.countP (·.retires id))
  collected : l.collected = .ofNat (deeds.countP (·.registers id))
  abandoned : (∀ leaked, .bulkReleased id leaked ∉ deeds) → l.abandoned = 0

/-- What an event does to each counter, if it does not make the allocator. -/
private theorem entered_counters (l : Ledger) (unmade : e ≠ .made id) :
    (e.entered id l).allocations = l.allocations + (if e.grants id then 1 else 0) ∧
      (e.entered id l).deallocations = l.deallocations + (if e.frees id then 1 else 0) ∧
      (e.entered id l).retirements = l.retirements + (if e.retires id then 1 else 0) ∧
      (e.entered id l).collected = l.collected + (if e.registers id then 1 else 0) ∧
      ((∀ leaked, e ≠ .bulkReleased id leaked) → (e.entered id l).abandoned = l.abandoned) := by
  cases e with
  | made a =>
    have other : a ≠ id := fun same => unmade (same ▸ rfl)
    simp [StorageEvent.entered, other]
  | granted a base layout d =>
    cases d <;> by_cases same : a = id <;> simp [StorageEvent.entered, Ledger.allocate, same]
  | deallocated a base layout =>
    by_cases same : a = id <;> simp [StorageEvent.entered, Ledger.deallocate, same]
  | retired a base layout =>
    by_cases same : a = id <;> simp [StorageEvent.entered, Ledger.retire, same]
  | bulkReleased a leaked =>
    by_cases same : a = id <;> simp [StorageEvent.entered, Ledger.writeOff, same]
  | _ => simp [StorageEvent.entered]

/-- One more event is counted. -/
private theorem ofNat_countP_cons (p : StorageEvent → Bool) (e : StorageEvent) :
    (.ofNat ((e :: older).countP p) : Word) = .ofNat (older.countP p) + if p e then 1 else 0 := by
  rw [List.countP_cons, UInt64.ofNat_add]
  by_cases counted : p e = true
  · rw [if_pos counted, if_pos counted]
    rfl
  · rw [if_neg counted, if_neg counted]
    rfl

/-- Only what is entered is counted. -/
private theorem isEntered_of_counted
    (counted : e.grants id = true ∨ e.frees id = true ∨ e.retires id = true ∨
      e.registers id = true) : e.isEntered id = true := by
  cases e with
  | granted a base layout d =>
    cases d <;> simpa [StorageEvent.isEntered] using counted
  | deallocated a base layout => simpa [StorageEvent.isEntered] using counted
  | retired a base layout => simpa [StorageEvent.isEntered] using counted
  | _ => simp at counted

/-- Counters start with their allocator, and before that there was nothing to be counted. -/
theorem Ledger.Counts.start (unentered : ∀ e ∈ older, e.isEntered id = false) :
    Ledger.Counts {} id older := by
  have never {p : StorageEvent → Bool} (only : ∀ e, p e = true → e.isEntered id = true) :
      (.ofNat (older.countP p) : Word) = 0 := by
    rw [List.countP_eq_zero.2 fun e member counted => ?_]
    · rfl
    · exact Bool.false_ne_true ((unentered e member).symm.trans (only e counted))
  exact ⟨(never fun _ h => isEntered_of_counted (.inl h)).symm,
    (never fun _ h => isEntered_of_counted (.inr (.inl h))).symm,
    (never fun _ h => isEntered_of_counted (.inr (.inr (.inl h)))).symm,
    (never fun _ h => isEntered_of_counted (.inr (.inr (.inr h)))).symm, fun _ => rfl⟩

theorem Honest.counts (id : AllocatorId) (honest : Honest deeds) :
    (ledgerOf id deeds).Counts id deeds := by
  induction deeds with
  | nil => exact .start nofun
  | cons e older ih =>
    obtain ⟨allocations, deallocations, retirements, collected, abandoned⟩ := ih honest.2
    by_cases makes : e = .made id
    · subst makes
      have none := Ledger.Counts.start (honest.1.first id rfl)
      show (StorageEvent.entered id (.made id) (ledgerOf id older)).Counts _ _
      rw [StorageEvent.entered_made]
      exact ⟨none.allocations, none.deallocations, none.retirements, none.collected, fun _ => rfl⟩
    · obtain ⟨granted, freed, retired, registered, written⟩ :=
        entered_counters (ledgerOf id older) makes
      refine ⟨?_, ?_, ?_, ?_, fun never => ?_⟩
      · rw [ofNat_countP_cons, ← allocations]
        exact granted
      · rw [ofNat_countP_cons, ← deallocations]
        exact freed
      · rw [ofNat_countP_cons, ← retirements]
        exact retired
      · rw [ofNat_countP_cons, ← collected]
        exact registered
      · have others (leaked : Word) : e ≠ .bulkReleased id leaked :=
          fun is => never leaked (is ▸ List.mem_cons_self ..)
        exact (written others).trans
          (abandoned fun leaked member => never leaked (List.mem_cons_of_mem _ member))

/-- Before an allocator is released its counters balance, as long as words can count what it handed
out. -/
theorem Ledger.Counts.balances {l : Ledger} (counts : l.Counts id deeds) (honest : Honest deeds)
    (never : ∀ leaked, .bulkReleased id leaked ∉ deeds)
    (few : deeds.countP (·.grants id) < Word.modulus) :
    l.Balances (unreturned id deeds).length := by
  have conserved := honest.conserved id
  have counted {k : Nat} (le : k ≤ deeds.countP (·.grants id)) : (.ofNat k : Word).toNat = k :=
    UInt64.toNat_ofNat_of_lt' (Nat.lt_of_le_of_lt le few)
  unfold Ledger.Balances
  rw [counts.allocations, counts.deallocations, counts.retirements, counts.collected,
    counts.abandoned never, counted (Nat.le_refl _), counted (by omega), counted (by omega),
    counted (by omega), conserved]
  rfl

end Custody
