import Custody.Proofs.Tally

/-!
# What operations on a control block do to its law

One lemma for each operation that counts, on the level of tallies. Where a handle is let go of,
the tally before is the one without the handle and `adding` it. An owner or an observer that is
there keeps its count from being zero, so no operation on the counts of a block that is right
finds the count spent: a double release is not among the cases.
-/

namespace Custody

namespace Word

theorem toNat_pred {w : Word} (h : w ≠ 0) : (w - 1).toNat + 1 = w.toNat := by
  have positive : w.toNat ≠ 0 := fun zero => h (UInt64.toNat_inj.1 zero)
  have le : (1 : Word) ≤ w := by
    rw [UInt64.le_iff_toNat_le]
    show 1 ≤ w.toNat
    omega
  rw [UInt64.toNat_sub_of_le _ _ le]
  show w.toNat - 1 + 1 = w.toNat
  omega

theorem ne_zero_of_pos {w : Word} (h : 0 < w.toNat) : w ≠ 0 := by
  rintro rfl
  cases h

theorem pred_ne_zero {w : Word} (h : w ≠ 0) (more : w ≠ 1) : w - 1 ≠ 0 := by
  intro zero
  have := toNat_pred h
  rw [zero] at this
  exact more (UInt64.toNat_inj.1 this.symm)

end Word

namespace BlockState

/-- A count that is raised is one more, and does not wrap. -/
theorem raised_eq_some {count more : Word} (h : raised count = some more) :
    more.toNat = count.toNat + 1 := by
  unfold raised at h
  split at h
  next le =>
    cases h
    rw [UInt64.le_iff_toNat_le] at le
    have : maxRefCount.toNat = 9223372036854775807 := rfl
    rw [UInt64.toNat_add]
    show (count.toNat + 1) % _ = _
    omega
  next => cases h

end BlockState

namespace Tally

open Word

/-- The tally with one more handle. -/
def adding (q : Qualifier) (t : Tally) : Tally :=
  { t with refs := fun p => if p = q then t.refs p + 1 else t.refs p }

@[simp] theorem adding_refs_self (q : Qualifier) (t : Tally) :
    (t.adding q).refs q = t.refs q + 1 := if_pos rfl

theorem adding_refs_of_ne {q p : Qualifier} (t : Tally) (h : p ≠ q) :
    (t.adding q).refs p = t.refs p := if_neg h

@[simp] theorem adding_leaving (q : Qualifier) (t : Tally) : (t.adding q).leaving = t.leaving := rfl
@[simp] theorem adding_returning (q : Qualifier) (t : Tally) :
    (t.adding q).returning = t.returning := rfl
@[simp] theorem adding_began (q : Qualifier) (t : Tally) : (t.adding q).began = t.began := rfl
@[simp] theorem adding_failed (q : Qualifier) (t : Tally) : (t.adding q).failed = t.failed := rfl
@[simp] theorem adding_returned (q : Qualifier) (t : Tally) :
    (t.adding q).returned = t.returned := rfl
@[simp] theorem adding_placed (q : Qualifier) (t : Tally) : (t.adding q).placed = t.placed := rfl

theorem OnlyBy.adding {t : Tally} {qualifiers : List Qualifier} (h : t.OnlyBy qualifiers)
    {q : Qualifier} (member : q ∈ qualifiers) : (t.adding q).OnlyBy qualifiers := by
  intro p other
  have ne : p ≠ q := by
    rintro rfl
    exact other member
  rw [adding_refs_of_ne t ne]
  exact h p other

theorem OnlyBy.of_adding {t : Tally} {qualifiers : List Qualifier} {q : Qualifier}
    (h : (t.adding q).OnlyBy qualifiers) : t.OnlyBy qualifiers := by
  intro p other
  have := h p other
  unfold Tally.adding at this
  dsimp only at this
  split at this <;> omega

theorem Untouched.onlyBy {t : Tally} (h : t.Untouched) (qualifiers : List Qualifier) :
    t.OnlyBy qualifiers :=
  fun q _ => h.refs q

/-- The tally when a destruction begins, with what is to follow it. -/
def beginning (t : Tally) : Tally := { t with began := t.began + 1 }

/-- The tally with the owners' reference to be given up. -/
def toLeave (t : Tally) : Tally := { t with leaving := t.leaving + 1 }

/-- The tally with the storage to go back. -/
def toReturn (t : Tally) : Tally := { t with returning := t.returning + 1 }

/-- The tally when the storage went back. -/
def afterReturn (t : Tally) : Tally := { t with returned := t.returned + 1 }

/-- The tally when a value was put into the cell for an owner. -/
def placing (t : Tally) : Tally := { t with placed := t.placed + 1 }

/-- Nothing refers to a cell yet when a value is put there. -/
theorem Untouched.onlyBy_placing {t : Tally} (h : t.Untouched) (qualifiers : List Qualifier) :
    t.placing.OnlyBy qualifiers :=
  h.onlyBy qualifiers

/-! ## Strong groups -/

section Strong

variable {t : Tally} {s w : Word}

/-- While there is an owner, the destruction has not begun. -/
theorem StrongLaw.alive (h : t.StrongLaw s w) (owner : 0 < t.refs .strong) :
    s ≠ 0 ∧ w ≠ 0 := by
  have positive : s ≠ 0 := ne_zero_of_pos (h.owners ▸ owner)
  have shared := h.observers
  rw [sign_of_ne positive] at shared
  exact ⟨positive, ne_zero_of_pos (by omega)⟩

theorem StrongLaw.incrementStrong (h : t.StrongLaw s w) (positive : s ≠ 0) {s' : Word}
    (more : BlockState.raised s = some s') : (t.adding .strong).StrongLaw s' w := by
  have sum := BlockState.raised_eq_some more
  have signs : sign s' = sign s := by
    rw [sign_of_ne positive, sign_of_ne (ne_zero_of_pos (by omega))]
  have owners := h.owners
  refine ⟨h.only.adding (by decide), ?_, ?_, ?_, ?_, h.returned⟩
  · rw [adding_refs_self]
    omega
  · rw [signs]
    exact h.observers
  · rw [signs]
    exact h.share
  · rw [signs]
    exact h.began

theorem StrongLaw.incrementWeak (h : t.StrongLaw s w) (positive : w ≠ 0) {w' : Word}
    (more : BlockState.raised w = some w') : (t.adding .weak).StrongLaw s w' := by
  have sum := BlockState.raised_eq_some more
  have signs : sign w' = sign w := by
    rw [sign_of_ne positive, sign_of_ne (ne_zero_of_pos (by omega))]
  have observers := h.observers
  refine ⟨h.only.adding (by decide), h.owners, ?_, h.share, h.began, ?_⟩
  · simp only [adding_refs_self, adding_leaving, adding_failed]
    omega
  · rw [signs]
    exact h.returned

/-- An owner that is not the last one goes. -/
theorem StrongLaw.decrementStrong (h : (t.adding .strong).StrongLaw s w) (more : s ≠ 1) :
    t.StrongLaw (s - 1) w := by
  have owners := h.owners
  rw [adding_refs_self] at owners
  have positive : s ≠ 0 := ne_zero_of_pos (by omega)
  have pred := toNat_pred positive
  have signs : sign (s - 1) = sign s := by
    rw [sign_of_ne positive, sign_of_ne (pred_ne_zero positive more)]
  refine ⟨h.only.of_adding, by omega, ?_, ?_, ?_, h.returned⟩
  · rw [signs]
    exact h.observers
  · rw [signs]
    exact h.share
  · rw [signs]
    exact h.began

/-- With the last owner the destruction begins, and the reference that the owners shared is left
to be given up. -/
theorem StrongLaw.decrementStrong_last (h : (t.adding .strong).StrongLaw 1 w) :
    t.toLeave.beginning.StrongLaw 0 w := by
  have owners := h.owners
  rw [adding_refs_self] at owners
  have owners : t.refs .strong + 1 = 1 := owners
  have observers := h.observers
  have share := h.share
  have began := h.began
  rw [sign_of_ne (by decide)] at observers share began
  refine ⟨h.only.of_adding, ?_, ?_, ?_, ?_, h.returned⟩
  · show t.refs .strong = 0
    omega
  · show t.refs .weak + (t.leaving + 1) + t.failed + 0 = w.toNat
    rw [adding_refs_of_ne t (by decide)] at observers
    simp only [adding_leaving, adding_failed] at observers
    omega
  · show t.leaving + 1 + t.failed + 0 ≤ 1
    simp only [adding_leaving, adding_failed] at share
    omega
  · show t.began + 1 + 0 = 1
    simp only [adding_began] at began
    omega

/-- A reference that is not the last one goes, if the law admits the tally without it. -/
private theorem StrongLaw.withoutWeak {u : Tally} (h : u.StrongLaw s w)
    (only : t.OnlyBy [.strong, .weak]) (owners : t.refs .strong = u.refs .strong)
    (fewer : t.refs .weak + t.leaving + 1 = u.refs .weak + u.leaving)
    (less : t.leaving ≤ u.leaving) (failed : t.failed = u.failed) (began : t.began = u.began)
    (returned : t.returned = u.returned) (returning : t.returning = u.returning) :
    w ≠ 0 ∧ (w ≠ 1 → t.StrongLaw s (w - 1)) ∧ (w = 1 → t.toReturn.StrongLaw s 0) := by
  have observers := h.observers
  have share := h.share
  have back := h.returned
  have positive : w ≠ 0 := ne_zero_of_pos (by omega)
  have pred := toNat_pred positive
  rw [sign_of_ne positive] at back
  refine ⟨positive, fun more => ?_, fun last => ?_⟩
  · refine ⟨only, owners.trans h.owners, by omega, by omega, ?_, ?_⟩
    · rw [began]
      exact h.began
    · rw [sign_of_ne (pred_ne_zero positive more)]
      omega
  · have one : w.toNat = 1 := by
      rw [last]
      rfl
    refine ⟨only, owners.trans h.owners, ?_, ?_, ?_, ?_⟩
    · show t.refs .weak + t.leaving + t.failed + sign s = 0
      omega
    · show t.leaving + t.failed + sign s ≤ 1
      omega
    · show t.began + sign s = 1
      rw [began]
      exact h.began
    · show t.returned + (t.returning + 1) + 0 = 1
      omega

/-- An observer goes: with the last reference, the storage is to go back. -/
theorem StrongLaw.decrementWeak (h : (t.adding .weak).StrongLaw s w) :
    w ≠ 0 ∧ (w ≠ 1 → t.StrongLaw s (w - 1)) ∧ (w = 1 → t.toReturn.StrongLaw s 0) := by
  refine h.withoutWeak h.only.of_adding (adding_refs_of_ne t (by decide)).symm ?_
    (Nat.le_refl _) rfl rfl rfl rfl
  rw [adding_refs_self, adding_leaving]
  omega

/-- The owners' reference is given up: with the last reference, the storage is to go back. -/
theorem StrongLaw.leave (h : t.toLeave.StrongLaw s w) :
    w ≠ 0 ∧ (w ≠ 1 → t.StrongLaw s (w - 1)) ∧ (w = 1 → t.toReturn.StrongLaw s 0) :=
  h.withoutWeak h.only rfl (Nat.add_assoc _ _ _) (Nat.le_succ _) rfl rfl rfl rfl

end Strong

/-! ## Groups on one thread -/

section Local

variable {t : Tally} {n : Word}

theorem LocalLaw.incrementLocal (h : t.LocalLaw n) (positive : n ≠ 0) {n' : Word}
    (more : n'.toNat = n.toNat + 1) : (t.adding .handle).LocalLaw n' := by
  have signs : sign n' = sign n := by
    rw [sign_of_ne positive, sign_of_ne (ne_zero_of_pos (by omega))]
  have owners := h.owners
  refine ⟨h.only.adding (by decide), h.leaving, ?_, ?_, ?_⟩
  · rw [adding_refs_self]
    omega
  · rw [signs]
    exact h.began
  · rw [signs]
    exact h.returned

theorem LocalLaw.alive (h : t.LocalLaw n) (owner : 0 < t.refs .handle) : n ≠ 0 :=
  ne_zero_of_pos (h.owners ▸ owner)

/-- An owner that is not the last one goes. -/
theorem LocalLaw.decrementLocal (h : (t.adding .handle).LocalLaw n) (more : n ≠ 1) :
    t.LocalLaw (n - 1) := by
  have owners := h.owners
  rw [adding_refs_self] at owners
  have positive : n ≠ 0 := ne_zero_of_pos (by omega)
  have pred := toNat_pred positive
  have signs : sign (n - 1) = sign n := by
    rw [sign_of_ne positive, sign_of_ne (pred_ne_zero positive more)]
  refine ⟨h.only.of_adding, h.leaving, by omega, ?_, ?_⟩
  · rw [signs]
    exact h.began
  · rw [signs]
    exact h.returned

/-- With the last owner the destruction begins, and the storage is to go back after it. -/
theorem LocalLaw.decrementLocal_last (h : (t.adding .handle).LocalLaw 1) :
    t.toReturn.beginning.LocalLaw 0 := by
  have owners := h.owners
  rw [adding_refs_self] at owners
  have owners : t.refs .handle + 1 = 1 := owners
  have began := h.began
  have returned := h.returned
  rw [sign_of_ne (by decide)] at began returned
  simp only [adding_began, adding_returned, adding_returning, adding_failed] at began returned
  refine ⟨h.only.of_adding, h.leaving, ?_, ?_, ?_⟩
  · show t.refs .handle = 0
    omega
  · show t.began + 1 + 0 = 1
    omega
  · show t.returned + (t.returning + 1) + t.failed + 0 = 1
    omega

end Local

/-! ## Sole owners -/

section Sole

variable {t : Tally}

/-- A sole owner lets go: the destruction begins, and the storage is to go back after it. -/
theorem SoleLaw.letGo {q : Qualifier} (h : (t.adding q).SoleLaw q) :
    t.toReturn.beginning.SoleLaw q := by
  have once := h.once
  have began := h.began
  simp only [adding_refs_self, adding_returned, adding_returning, adding_failed,
    adding_began] at once began
  refine ⟨h.only.of_adding, h.leaving, ?_, ?_⟩
  · show t.refs q + t.returned + (t.returning + 1) + t.failed = 1
    omega
  · show t.began + 1 + t.refs q ≤ 1
    omega

/-- The value is moved out of its cell, and the storage is to go back. -/
theorem SoleLaw.moveOut {q : Qualifier} (h : (t.adding q).SoleLaw q) : t.toReturn.SoleLaw q := by
  have once := h.once
  have began := h.began
  simp only [adding_refs_self, adding_returned, adding_returning, adding_failed,
    adding_began] at once began
  refine ⟨h.only.of_adding, h.leaving, ?_, ?_⟩
  · show t.refs q + t.returned + (t.returning + 1) + t.failed = 1
    omega
  · show t.began + t.refs q ≤ 1
    omega

theorem BareLaw.letGo (h : (t.adding .unique).BareLaw) : t.toReturn.beginning.BareLaw := by
  have once := h.once
  have began := h.began
  simp only [adding_refs_self, adding_returned, adding_returning, adding_failed, adding_began,
    adding_placed] at once began
  refine ⟨h.only.of_adding, h.leaving, ?_, h.sole, ?_⟩
  · show t.refs .unique + t.returned + (t.returning + 1) + t.failed = t.placed
    omega
  · show t.placed = 0 ∨ t.began + 1 + t.refs .unique ≤ 1
    omega

theorem BareLaw.moveOut (h : (t.adding .unique).BareLaw) : t.toReturn.BareLaw := by
  have once := h.once
  have began := h.began
  simp only [adding_refs_self, adding_returned, adding_returning, adding_failed, adding_began,
    adding_placed] at once began
  refine ⟨h.only.of_adding, h.leaving, ?_, h.sole, ?_⟩
  · show t.refs .unique + t.returned + (t.returning + 1) + t.failed = t.placed
    omega
  · show t.placed = 0 ∨ t.began + t.refs .unique ≤ 1
    omega

theorem CollectLaw.letGo (h : (t.adding .collect).CollectLaw) : t.CollectLaw := by
  have sole := h.sole
  rw [adding_refs_self] at sole
  exact ⟨h.only.of_adding, Nat.le_of_succ_le sole, h.leaving, h.returning, h.failed, h.returned⟩

end Sole

/-! ## Blocks that change hands -/

section Retag

variable {t : Tally}

/-- The qualifiers of a block may change if only the one that changes is there. -/
private theorem OnlyBy.retag {p q : Qualifier} {qualifiers more : List Qualifier}
    (h : (t.adding p).OnlyBy qualifiers) (spent : ∀ r ∈ qualifiers, t.refs r = 0)
    (member : q ∈ more) : (t.adding q).OnlyBy more := by
  refine OnlyBy.adding (fun r _ => ?_) member
  by_cases old : r ∈ qualifiers
  · exact spent r old
  · exact h.of_adding r old

/-- A sole owner becomes the first of a strong group. -/
theorem SoleLaw.toStrong (h : (t.adding .own).SoleLaw .own) : (t.adding .strong).StrongLaw 1 1 := by
  have once := h.once
  have began := h.began
  have leaving := h.leaving
  have others := h.only.of_adding
  have noWeak : t.refs .weak = 0 := others .weak (by decide)
  have noStrong : t.refs .strong = 0 := others .strong (by decide)
  simp only [adding_refs_self, adding_returned, adding_returning, adding_failed, adding_began,
    adding_leaving] at once began leaving
  refine ⟨h.only.retag (fun r mem => ?_) (by decide), ?_, ?_, ?_, ?_, ?_⟩
  · rw [List.mem_singleton.1 mem]
    omega
  · rw [adding_refs_self]
    show t.refs .strong + 1 = 1
    omega
  · rw [adding_refs_of_ne t (by decide)]
    show t.refs .weak + t.leaving + t.failed + 1 = 1
    omega
  · show t.leaving + t.failed + 1 ≤ 1
    omega
  · show t.began + 1 = 1
    omega
  · show t.returned + t.returning + 1 = 1
    omega

/-- A sole owner becomes the first of a group on one thread. -/
theorem SoleLaw.toLocal (h : (t.adding .own).SoleLaw .own) : (t.adding .handle).LocalLaw 1 := by
  have once := h.once
  have began := h.began
  have noHandle : t.refs .handle = 0 := h.only.of_adding .handle (by decide)
  simp only [adding_refs_self, adding_returned, adding_returning, adding_failed,
    adding_began] at once began
  refine ⟨h.only.retag (fun r mem => ?_) (by decide), h.leaving, ?_, ?_, ?_⟩
  · rw [List.mem_singleton.1 mem]
    omega
  · rw [adding_refs_self]
    show t.refs .handle + 1 = 1
    omega
  · show t.began + 1 = 1
    omega
  · show t.returned + t.returning + t.failed + 1 = 1
    omega

/-- The only reference to a strong group becomes a sole owner. -/
theorem StrongLaw.toSole (h : (t.adding .strong).StrongLaw 1 1) : (t.adding .own).SoleLaw .own := by
  have owners : t.refs .strong + 1 = 1 := (adding_refs_self .strong t).symm.trans h.owners
  have observers := h.observers
  have began := h.began
  have returned := h.returned
  have noOwn : t.refs .own = 0 := h.only.of_adding .own (by decide)
  rw [sign_of_ne (by decide)] at observers began returned
  rw [adding_refs_of_ne t (by decide)] at observers
  have observers : t.refs .weak + t.leaving + t.failed + 1 = 1 := observers
  have began : t.began + 1 = 1 := began
  have returned : t.returned + t.returning + 1 = 1 := returned
  refine ⟨h.only.retag (fun r mem => ?_) (by decide), ?_, ?_, ?_⟩
  · rcases List.mem_cons.1 mem with rfl | mem
    · omega
    · rw [List.mem_singleton.1 mem]
      omega
  · show t.leaving = 0
    omega
  · rw [adding_refs_self]
    show t.refs .own + 1 + t.returned + t.returning + t.failed = 1
    omega
  · rw [adding_refs_self]
    show t.began + (t.refs .own + 1) ≤ 1
    omega

/-- The only reference to a group on one thread becomes a sole owner. -/
theorem LocalLaw.toSole (h : (t.adding .handle).LocalLaw 1) : (t.adding .own).SoleLaw .own := by
  have owners : t.refs .handle + 1 = 1 := (adding_refs_self .handle t).symm.trans h.owners
  have began := h.began
  have returned := h.returned
  have noOwn : t.refs .own = 0 := h.only.of_adding .own (by decide)
  rw [sign_of_ne (by decide)] at began returned
  have began : t.began + 1 = 1 := began
  have returned : t.returned + t.returning + t.failed + 1 = 1 := returned
  refine ⟨h.only.retag (fun r mem => ?_) (by decide), h.leaving, ?_, ?_⟩
  · rw [List.mem_singleton.1 mem]
    omega
  · rw [adding_refs_self]
    show t.refs .own + 1 + t.returned + t.returning + t.failed = 1
    omega
  · rw [adding_refs_self]
    show t.began + (t.refs .own + 1) ≤ 1
    omega

/-- A fresh block is right for its first owner. -/
theorem Untouched.fresh (h : t.Untouched) (o : BlockOwner) :
    (t.placing.adding o.qualifier).Law (some (.fresh o)) := by
  have refs := h.refs
  have leaving := h.leaving
  have returning := h.returning
  have began := h.began
  have failed := h.failed
  have returned := h.returned
  cases o with
  | own | discard =>
    refine ⟨(h.onlyBy_placing _).adding (by decide), leaving, ?_, ?_⟩ <;>
      simp [placing, refs, returning, began, failed, returned, BlockOwner.qualifier]
  | collect =>
    refine ⟨(h.onlyBy_placing _).adding (by decide), ?_, leaving, returning, failed, returned⟩
    simp [placing, refs, BlockOwner.qualifier]
  | strong =>
    refine ⟨(h.onlyBy_placing _).adding (by decide), ?_, ?_, ?_, ?_, ?_⟩ <;>
      simp [placing, refs, leaving, returning, began, failed, returned, BlockOwner.qualifier,
        adding, sign]
  | handle =>
    refine ⟨(h.onlyBy_placing _).adding (by decide), leaving, ?_, ?_, ?_⟩ <;>
      simp [placing, refs, returning, began, failed, returned, BlockOwner.qualifier, sign]

theorem Untouched.bare (h : t.Untouched) : (t.placing.adding .unique).BareLaw := by
  refine ⟨(h.onlyBy_placing _).adding (by decide), h.leaving, ?_, ?_, .inr ?_⟩ <;>
    simp [placing, h.refs, h.returning, h.began, h.failed, h.returned, h.placed]

end Retag

/-! ## Whatever the block -/

section Any

variable {t : Tally} {state : Option BlockState}

/-- The storage that was to go back went back. -/
theorem Law.afterReturn (h : t.toReturn.Law state) : t.afterReturn.Law state := by
  have shift : t.returned + 1 + t.returning = t.returned + (t.returning + 1) := by omega
  match state, h with
  | some .collect, h => exact absurd h.returning (Nat.succ_ne_zero t.returning)
  | none, h =>
    have h : t.toReturn.BareLaw := h
    have once : t.refs .unique + t.returned + (t.returning + 1) + t.failed = t.placed := h.once
    refine ⟨h.only, h.leaving, ?_, h.sole, h.began⟩
    show t.refs .unique + (t.returned + 1) + t.returning + t.failed = t.placed
    omega
  | some .own, h => exact sole h
  | some .discard, h => exact sole h
  | some (.strong s w), h =>
    have h : t.toReturn.StrongLaw s w := h
    refine ⟨h.only, h.owners, h.observers, h.share, h.began, ?_⟩
    show t.returned + 1 + t.returning + sign w = 1
    rw [shift]
    exact h.returned
  | some (.handle n), h =>
    have h : t.toReturn.LocalLaw n := h
    refine ⟨h.only, h.leaving, h.owners, h.began, ?_⟩
    show t.returned + 1 + t.returning + t.failed + sign n = 1
    rw [shift]
    exact h.returned
where
  sole {q : Qualifier} (h : t.toReturn.SoleLaw q) : t.afterReturn.SoleLaw q := by
    have once : t.refs q + t.returned + (t.returning + 1) + t.failed = 1 := h.once
    refine ⟨h.only, h.leaving, ?_, h.began⟩
    show t.refs q + (t.returned + 1) + t.returning + t.failed = 1
    omega

/-- The tally in which duties that were owed will never be done. -/
def failing (duties : Nat) (t : Tally) : Tally := { t with failed := t.failed + duties }

/-- The tally with duties: references to be given up, and storage to go back. -/
def owing (leaves returns : Nat) (t : Tally) : Tally :=
  { t with leaving := t.leaving + leaves, returning := t.returning + returns }

/-- A panic takes duties away. The storage of a strong group is not among them, as nothing comes
between the last reference and the return. -/
theorem Law.failing {leaves returns : Nat} (h : (t.owing leaves returns).Law state)
    (atOnce : ∀ s w, state = some (.strong s w) → returns = 0) :
    (t.failing (leaves + returns)).Law state := by
  match state, h with
  | some .collect, h =>
    have h : (t.owing leaves returns).CollectLaw := h
    have leaving : t.leaving + leaves = 0 := h.leaving
    have returning : t.returning + returns = 0 := h.returning
    have failed : t.failed = 0 := h.failed
    refine ⟨h.only, h.sole, ?_, ?_, ?_, h.returned⟩
    · show t.leaving = 0
      omega
    · show t.returning = 0
      omega
    · show t.failed + (leaves + returns) = 0
      omega
  | none, h =>
    have h : (t.owing leaves returns).BareLaw := h
    have leaving : t.leaving + leaves = 0 := h.leaving
    have once : t.refs .unique + t.returned + (t.returning + returns) + t.failed = t.placed :=
      h.once
    refine ⟨h.only, ?_, ?_, h.sole, h.began⟩
    · show t.leaving = 0
      omega
    · show t.refs .unique + t.returned + t.returning + (t.failed + (leaves + returns)) = t.placed
      omega
  | some .own, h => exact sole h
  | some .discard, h => exact sole h
  | some (.strong s w), h =>
    have h : (t.owing leaves returns).StrongLaw s w := h
    have none : returns = 0 := atOnce s w rfl
    have observers : t.refs .weak + (t.leaving + leaves) + t.failed + sign s = w.toNat :=
      h.observers
    have share : t.leaving + leaves + t.failed + sign s ≤ 1 := h.share
    have returned : t.returned + (t.returning + returns) + sign w = 1 := h.returned
    refine ⟨h.only, h.owners, ?_, ?_, h.began, ?_⟩
    · show t.refs .weak + t.leaving + (t.failed + (leaves + returns)) + sign s = w.toNat
      omega
    · show t.leaving + (t.failed + (leaves + returns)) + sign s ≤ 1
      omega
    · show t.returned + t.returning + sign w = 1
      omega
  | some (.handle n), h =>
    have h : (t.owing leaves returns).LocalLaw n := h
    have leaving : t.leaving + leaves = 0 := h.leaving
    have returned : t.returned + (t.returning + returns) + t.failed + sign n = 1 := h.returned
    refine ⟨h.only, ?_, h.owners, h.began, ?_⟩
    · show t.leaving = 0
      omega
    · show t.returned + t.returning + (t.failed + (leaves + returns)) + sign n = 1
      omega
where
  sole {q : Qualifier} (h : (t.owing leaves returns).SoleLaw q) :
      (t.failing (leaves + returns)).SoleLaw q := by
    have leaving : t.leaving + leaves = 0 := h.leaving
    have once : t.refs q + t.returned + (t.returning + returns) + t.failed = 1 := h.once
    refine ⟨h.only, ?_, ?_, h.began⟩
    · show t.leaving = 0
      omega
    · show t.refs q + t.returned + t.returning + (t.failed + (leaves + returns)) = 1
      omega

/-- A value that no counted owner has may be destroyed. -/
theorem Law.beginning (h : t.Law state)
    (free : state = none ∧ t.placed = 0 ∨ state = some .collect) : t.beginning.Law state := by
  rcases free with ⟨rfl, never⟩ | rfl
  · have h : t.BareLaw := h
    exact ⟨h.only, h.leaving, h.once, h.sole, .inl never⟩
  · have h : t.CollectLaw := h
    exact ⟨h.only, h.sole, h.leaving, h.returning, h.failed, h.returned⟩

/-! ## What every law says of storage -/

/-- Storage goes back at most once. -/
theorem Law.once (h : t.Law state) : t.returned + t.returning ≤ 1 := by
  match state, h with
  | none, h =>
    have once := BareLaw.once h
    have sole := BareLaw.sole h
    omega
  | some .own, h =>
    have once := SoleLaw.once h
    omega
  | some .discard, h =>
    have once := SoleLaw.once h
    omega
  | some .collect, h =>
    have returned := CollectLaw.returned h
    have returning := CollectLaw.returning h
    omega
  | some (.strong s w), h =>
    have returned := StrongLaw.returned h
    omega
  | some (.handle n), h =>
    have returned := LocalLaw.returned h
    omega

/-- What a handle refers to did not go back, and is not about to. -/
theorem Law.kept (h : t.Law state) {q : Qualifier} (refers : 0 < t.refs q) :
    t.returned = 0 ∧ t.returning = 0 := by
  have admits : q ∈ admitted state :=
    Decidable.byContradiction fun other => Nat.ne_of_gt refers (h.only q other)
  match state, h with
  | none, h =>
    have once := BareLaw.once h
    have sole := BareLaw.sole h
    have same : q = .unique := List.mem_singleton.1 admits
    subst same
    omega
  | some .own, h =>
    have once := SoleLaw.once h
    have same : q = .own := List.mem_singleton.1 admits
    subst same
    omega
  | some .discard, h =>
    have once := SoleLaw.once h
    have same : q = .discard := List.mem_singleton.1 admits
    subst same
    omega
  | some .collect, h => exact ⟨CollectLaw.returned h, CollectLaw.returning h⟩
  | some (.strong s w), h =>
    have observers := StrongLaw.observers h
    have returned := StrongLaw.returned h
    have counted : 0 < w.toNat := by
      rcases List.mem_cons.1 admits with rfl | observes
      · exact (UInt64.lt_iff_toNat_lt).1 (UInt64.pos_iff_ne_zero.2 (StrongLaw.alive h refers).2)
      · have same : q = .weak := List.mem_singleton.1 observes
        subst same
        omega
    rw [sign_of_ne (ne_zero_of_pos counted)] at returned
    omega
  | some (.handle n), h =>
    have returned := LocalLaw.returned h
    have same : q = .handle := List.mem_singleton.1 admits
    subst same
    rw [sign_of_ne (LocalLaw.alive h refers)] at returned
    omega

/-- What is about to go back was put where it is for an owner, and is not left to its allocator. So
is what a handle refers to, if that does not leave it to its allocator. -/
theorem Law.owned (h : t.Law state)
    (owed : 0 < t.returning ∨ ∃ q, q ≠ .collect ∧ 0 < t.refs q) :
    state ≠ some .collect ∧ (state = none → t.placed ≠ 0) := by
  match state, h with
  | none, h =>
    have once := BareLaw.once h
    refine ⟨nofun, fun _ => ?_⟩
    rcases owed with returning | ⟨q, -, refers⟩
    · omega
    · have admits : q ∈ [.unique] :=
        Decidable.byContradiction fun other => Nat.ne_of_gt refers (BareLaw.only h q other)
      have same : q = .unique := List.mem_singleton.1 admits
      subst same
      omega
  | some .collect, h =>
    rcases owed with returning | ⟨q, other, refers⟩
    · exact absurd (CollectLaw.returning h) (Nat.ne_of_gt returning)
    · refine absurd (CollectLaw.only h q fun collect => ?_) (Nat.ne_of_gt refers)
      exact other (List.mem_singleton.1 collect)
  | some .own, _ => exact ⟨nofun, nofun⟩
  | some .discard, _ => exact ⟨nofun, nofun⟩
  | some (.strong s w), _ => exact ⟨nofun, nofun⟩
  | some (.handle n), _ => exact ⟨nofun, nofun⟩

end Any

/-- Storage goes back at most once, whether or not there is a cell. -/
theorem Fits.returned_le {t : Tally} {cell? : Option Cell} (h : t.Fits cell?) :
    t.returned ≤ 1 := by
  cases cell? with
  | none =>
    have none := Untouched.returned h
    omega
  | some cell =>
    have once := Law.once h.2
    omega

end Tally

end Custody
