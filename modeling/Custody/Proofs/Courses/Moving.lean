import Custody.Proofs.Courses.Basic

/-!
# Where creating, moving and linking lead

Every operation that puts values into storage, moves them or exchanges what is inside of them goes
from situation to situation. Creating a handle uses up the handles inside its value and yields one;
moving a value out yields them again; a conversion yields one handle for another; and to give a
node another neighbour yields and uses up nothing, since the handle in question is shared first.
-/

namespace Custody

open Situation

namespace Machine

open Session

variable {α : Type} {may : Licence} {m n : Machine} {k : List Handle} {h : Handle}

/-! ## Creating -/

variable {v : Value}

/-- A value is placed where storage is found for it, or stays where it was. -/
theorem placeUnique_leads (home : AllocatorId) {unwinds : List Handle} :
    (placeUnique home v m).Leads may (rest m (v.handles ++ k))
      (fun | .ok h => h :: k | .error _ => v.handles ++ k) unwinds := by
  obtain ⟨answer, n, asked⟩ := allocate_returns home v.kind.layout none m
  have housing : Housing v home m.memory.cells.next v.kind.layout 0 none (.unique home) none :=
    .bare
  show ((allocate home v.kind.layout none m).andThen _).Leads may _ _ _
  rw [asked]
  cases answer with
  | error e => exact .single (.refused (fun _ is => by cases is) asked)
  | ok grant => exact .single (.placed housing asked rfl)

/-- A value is placed behind a block, or destroyed. -/
theorem tryCreateBlock_leads (owner : BlockOwner) (home : AllocatorId)
    (balanced : (rest m (v.handles ++ k)).Balanced) :
    (tryCreateBlock owner home v m).Leads may (rest m (v.handles ++ k))
      (fun answer => answer.toOption.toList ++ k) k := by
  unfold tryCreateBlock
  cases found : v.kind.layout.block? with
  | none => exact Run.bind_leads balanced (dropValue_leads v balanced) fun _ _ _ _ => .refl
  | some l =>
    have housing : Housing v home m.memory.cells.next l _ _ _ _ := .block owner found
    obtain ⟨answer, n, asked⟩ := allocate_returns home l
      (blockDestructor owner v.kind.layout.valueOffset m.memory.cells.next) m
    show ((allocate home l (blockDestructor owner v.kind.layout.valueOffset m.memory.cells.next)
      m).andThen _).Leads may _ _ _
    rw [asked]
    cases answer with
    | ok grant => exact .single (.placed housing asked rfl)
    | error e =>
      have fresh : ∀ d, blockDestructor owner v.kind.layout.valueOffset m.memory.cells.next =
          some d → d.subject = m.memory.cells.next := by
        rintro d is
        rcases housing.fresh with none | ⟨some, -⟩
        · rw [none] at is
          cases is
        · rw [some] at is
          cases is
          rfl
      have step : Situation.Step may (rest m (v.handles ++ k)) (rest n (v.handles ++ k)) :=
        .refused fresh asked
      have balanced := balanced.step step
      refine Outcome.Leads.after ?_ (.single step)
      exact Run.bind_leads balanced (dropValue_leads v balanced) fun _ _ _ _ => .refl

theorem tryCreate_leads (owner : Owner) (home : AllocatorId)
    (balanced : (rest m (v.handles ++ k)).Balanced) :
    (tryCreate owner home v m).Leads may (rest m (v.handles ++ k))
      (fun answer => answer.toOption.toList ++ k) k := by
  cases owner with
  | block o => exact tryCreateBlock_leads o home balanced
  | unique =>
    refine Run.bind_leads balanced (placeUnique_leads home) fun answer n _ balanced => ?_
    cases answer with
    | ok h => exact .refl
    | error e => exact Run.bind_leads balanced (dropValue_leads v balanced) fun _ _ _ _ => .refl

/-- A failure for want of storage does not come back. -/
theorem failAllocation_leads (home : AllocatorId) (e : AllocError) {returns : α → List Handle} :
    (failAllocation home e m : Outcome Machine α).Leads may (rest m k) returns k := by
  have failed := fail_ensures (α := α) (e.toFault (m.memory.allocatorName home)) m
  have leads : (fail (e.toFault (m.memory.allocatorName home)) m : Outcome Machine α).Leads may
      (rest m k) (fun _ => k) k := aside_leads (fail_undisturbed _)
  show (fail (e.toFault (m.memory.allocatorName home)) m : Outcome Machine α).Leads may _ _ _
  cases ended : (fail (e.toFault (m.memory.allocatorName home)) m : Outcome Machine α) with
  | returned a n =>
    rw [ended] at failed
    cases failed
  | unwinding p n =>
    rw [ended] at leads
    exact leads
  | aborted cause n =>
    rw [ended] at leads
    exact leads

/-- To create a handle is to have it and its value no more, which is destroyed if there is no
storage. -/
theorem create_leads (owner : Owner) (home : AllocatorId)
    (balanced : (rest m (v.handles ++ k)).Balanced) :
    (create owner home v m).Leads may (rest m (v.handles ++ k)) (fun h => h :: k) k := by
  cases owner with
  | block o =>
    refine Run.bind_leads balanced (tryCreateBlock_leads o home balanced) fun answer n _ _ => ?_
    cases answer with
    | ok h => exact .refl
    | error e => exact failAllocation_leads home e
  | unique =>
    refine Run.bind_leads balanced (placeUnique_leads home) fun answer n _ balanced => ?_
    cases answer with
    | ok h => exact .refl
    | error e =>
      exact Run.onUnwind_leads balanced (failAllocation_leads home e) fun _ balanced =>
        dropValue_leads v balanced

/-! ## Moving out -/

/-- The value of a sole owner is moved out once its storage has gone back. -/
theorem moveOut_of_returns {cell : Cell} {home : AllocatorId} {l : Layout} {link : Link}
    (refers : h.link = some link) (found : m.memory.cell? link.cell = some cell)
    (returns : Returns h cell home l)
    (settled : settle [.giveBack home l link.cell] (m.vacated link.cell cell) = .returned () n) :
    moveOut h m = .returned (some cell.value) n := by
  have value : (m.memory.cell? link.cell).map (·.value) = some cell.value := by
    rw [found]
    rfl
  have vacate : { m with memory := m.memory.change ⟨link.cell, []⟩ Value.remains } =
      m.vacated link.cell cell := by
    unfold Memory.change
    rw [found]
    rfl
  cases returns with
  | bare owns =>
    simp only [moveOut, refers, owns, ofMemory, onMemory, Run.bind_apply, Run.gets, Run.modify,
      Outcome.andThen, value, vacate, settled]
    rfl
  | block owns homes =>
    have task : storageTask .giveBack link.cell (m.vacated link.cell cell) =
        .returned [.giveBack home cell.layout link.cell] (m.vacated link.cell cell) :=
      storageTask_of_found (cell?_vacated_self found) .giveBack homes
    simp only [moveOut, refers, owns, ofMemory, onMemory, Run.bind_apply, Run.gets, Run.modify,
      Outcome.andThen, value, vacate, task, settled]
    rfl

/-- The value of a sole owner is moved out, and its storage goes back at once. -/
theorem moveOut_eq (sole : (∃ home, h.ownership = .unique home) ∨ h.ownership = .block .own)
    {link : Link} (refers : h.link = some link) (balanced : (rest m (h :: k)).Balanced) :
    ∃ cell home l n, m.memory.cell? link.cell = some cell ∧ Returns h cell home l ∧
      settle [.giveBack home l link.cell] (m.vacated link.cell cell) = .returned () n ∧
      moveOut h m = .returned (some cell.value) n := by
  obtain ⟨there, found, governed, homed, -⟩ := Books.found balanced.books refers
  obtain ⟨home, l, returns⟩ : ∃ home l, Returns h there home l := by
    rcases sole with ⟨home, owns⟩ | owns
    · exact ⟨home, _, .bare owns⟩
    · rw [show h.qualifier = .own from congrArg Ownership.qualifier owns] at governed
      have state : there.state = some .own := governed
      obtain ⟨home, homes⟩ := Option.isSome_iff_exists.1 (homed (by rw [state]; rfl))
      exact ⟨home, _, .block owns homes⟩
  obtain ⟨n, settled⟩ := settle_return (.inl rfl) home l link.cell (m.vacated link.cell there)
  exact ⟨there, home, l, n, found, returns, settled,
    moveOut_of_returns refers found returns settled⟩

section Converting

variable (allowed : may.transfer)

include allowed

/-- To move a value out is to have its handles. -/
theorem moveOut_leads (sole : (∃ home, h.ownership = .unique home) ∨ h.ownership = .block .own)
    {unwinds : List Handle} (balanced : (rest m (h :: k)).Balanced) :
    (moveOut h m).Leads may (rest m (h :: k)) (fun v? => v?.elim [] Value.handles ++ k)
      unwinds := by
  cases refers : h.link with
  | none =>
    have nothing : moveOut h m = .returned none m := by
      unfold moveOut
      rw [refers]
      rfl
    rw [nothing]
    refine .single (.emptyLost ?_)
    rw [Handle.isEmpty, refers]
    rfl
  | some link =>
    obtain ⟨cell, home, l, n, found, returns, settled, moved⟩ := moveOut_eq sole refers balanced
    have step : Situation.Step may (rest m (h :: k)) _ := .movedOut refers found returns allowed
    have leads : (settle [.giveBack home l link.cell] (m.vacated link.cell cell)).Leads may _ _ _ :=
      drain_leads [.giveBack home l link.cell] [] (m.vacated link.cell cell) (balanced.step step)
    rw [settled] at leads
    rw [moved]
    exact leads.head step

/-! ## Conversions -/

theorem fromUnique_leads {home : AllocatorId} (owns : h.ownership = .unique home)
    (owner : BlockOwner) (balanced : (rest m (h :: k)).Balanced) :
    (fromUnique owner h m).Leads may (rest m (h :: k)) (fun g => g :: k) k := by
  show ((moveOut h >>= fun v? => _) m).Leads may _ _ _
  refine Run.bind_leads balanced (moveOut_leads allowed (.inl ⟨home, owns⟩) balanced)
    fun v? n _ balanced => ?_
  cases v? with
  | none => exact .single (.emptyGained rfl)
  | some v => exact create_leads (.block owner) _ balanced

omit allowed in
/-- The block of a sole owner tells its allocator. -/
private theorem home_of_own (owns : h.ownership = .block .own) (full : h.isEmpty = false)
    (balanced : (rest m (h :: k)).Balanced) : ∃ home, h.home? m.memory = some home := by
  cases refers : h.link with
  | none =>
    rw [Handle.isEmpty, refers] at full
    cases full
  | some link =>
    obtain ⟨cell, found, governed, homed, -⟩ := Books.found balanced.books refers
    rw [show h.qualifier = .own from congrArg Ownership.qualifier owns] at governed
    have state : cell.state = some .own := governed
    obtain ⟨home, homes⟩ := Option.isSome_iff_exists.1 (homed (by rw [state]; rfl))
    refine ⟨home, ?_⟩
    unfold Handle.home?
    rw [owns, refers]
    show (m.memory.cell? link.cell).bind (·.home) = some home
    rw [found]
    exact homes

theorem intoUnique_leads (owns : h.ownership = .block .own)
    (balanced : (rest m (h :: k)).Balanced) :
    (intoUnique h m).Leads may (rest m (h :: k)) (fun g => g :: k) k := by
  unfold intoUnique
  rw [Run.bind_apply]
  dsimp only [Run.get, Outcome.andThen]
  cases there : h.home? m.memory with
  | none =>
    have empty : h.isEmpty = true := by
      by_contra full
      obtain ⟨home, is⟩ := home_of_own owns (Bool.eq_false_iff.2 full) balanced
      rw [there] at is
      cases is
    exact (Relation.ReflTransGen.single (.emptyLost empty)).tail (.emptyGained rfl)
  | some home =>
    refine Run.bind_leads balanced (moveOut_leads allowed (.inr owns) balanced)
      fun v? n _ balanced => ?_
    cases v? with
    | none => exact .single (.emptyGained rfl)
    | some v => exact create_leads .unique home balanced

/-- A block that changes hands does so at once. -/
theorem retagged_leads {owner : BlockOwner} {unwinds : List Handle} (way : Retagging m h owner) :
    (retagged h owner m).Leads may (rest m (h :: k)) (fun g => g :: k) unwinds := by
  obtain ⟨g, n, done⟩ : ∃ g n, retagged h owner m = .returned g n := by
    unfold retagged
    cases h.link with
    | none => exact ⟨_, _, rfl⟩
    | some l => exact ⟨_, _, rfl⟩
  rw [done]
  exact .single (.retagged way done allowed)

end Converting

/-- A copy in depth is one more handle. -/
theorem deepCopy_of_some {owner : Owner} {v : Value} {home : AllocatorId}
    (owns : h.owner? = some owner) (holds : h.value? m.memory = some v)
    (lies : h.home? m.memory = some home) :
    deepCopy h m = (copyValue v >>= create owner home) m := by
  unfold deepCopy
  rw [Run.bind_apply]
  dsimp only [Run.get, Outcome.andThen]
  rw [owns, holds, lies]

theorem deepCopy_of_none
    (nothing : h.owner? = none ∨ h.value? m.memory = none ∨ h.home? m.memory = none) :
    deepCopy h m = .returned h.emptied m := by
  unfold deepCopy
  rw [Run.bind_apply]
  dsimp only [Run.get, Outcome.andThen]
  rcases nothing with none | none | none
  · rw [none]
    rfl
  · rw [none]
    cases h.owner? <;> rfl
  · rw [none]
    cases h.owner? <;> cases h.value? m.memory <;> rfl

theorem deepCopy_leads
    (copyable : ∀ v, h.value? m.memory = some v → ∀ g ∈ v.handles, m.Copyable g)
    (balanced : (rest m k).Balanced) :
    (deepCopy h m).Leads may (rest m k) (fun g => g :: k) k := by
  have nothing (missing : h.owner? = none ∨ h.value? m.memory = none ∨ h.home? m.memory = none) :
      (deepCopy h m).Leads may (rest m k) (fun g => g :: k) k := by
    rw [deepCopy_of_none missing]
    exact .single (.emptyGained (Handle.isEmpty_emptied h))
  cases owns : h.owner? with
  | none => exact nothing (.inl owns)
  | some owner =>
    cases value : h.value? m.memory with
    | none => exact nothing (.inr (.inl value))
    | some v =>
      cases lies : h.home? m.memory with
      | none => exact nothing (.inr (.inr lies))
      | some home =>
        rw [deepCopy_of_some owns value lies]
        exact Run.bind_leads balanced (copyValue_leads (copyable v value) balanced)
          fun copy n _ balanced => create_leads owner home balanced

/-! ## Handles inside values -/

variable {held? : Value → Option Handle} {put : Handle → Value → Value} {p : Place}

/-- A handle changes places with one inside a value. -/
theorem swap_leads (slot : IsSlot held? put) {old : Handle}
    (held : (m.memory.read? p).bind held? = some old) :
    Situation.Leads may (rest m (h :: k))
      (rest { m with memory := m.memory.change p (put h) } (old :: k)) := by
  obtain ⟨path, cell, found, held⟩ := slot.whole held
  obtain ⟨others, before, after⟩ := slot.exchange cell.value old held
  have changed : m.memory.change p (put h) =
      m.memory.setCell p.cell { cell with value := put h cell.value } := by
    unfold Memory.change
    rw [found, path]
    rfl
  rw [changed]
  refine .single (.rewritten found ?_)
  refine (before.append_right _).trans (List.Perm.trans ?_ ((after h).append_right _).symm)
  show (old :: (others ++ h :: k)).Perm (h :: (others ++ old :: k))
  refine (List.perm_middle.cons old).trans ((List.Perm.swap _ _ _).trans ?_)
  exact (List.perm_middle : (others ++ old :: k).Perm (old :: (others ++ k))).symm.cons h

/-- To empty a slot of a value is to let go of the handle that it held. -/
theorem resetHandle_leads (slot : IsSlot held? put) (balanced : (rest m k).Balanced) :
    (resetHandle p held? put m).Leads may (rest m k) (fun _ => k) k := by
  unfold resetHandle
  rw [Run.bind_apply]
  show ((Outcome.returned ((m.memory.read? p).bind held?) m).andThen _).Leads may _ _ _
  cases held : (m.memory.read? p).bind held? with
  | none => exact .refl
  | some old =>
    have taken : Situation.Leads may (rest m k)
        (rest { m with memory := m.memory.change p (put old.emptied) } (old :: k)) :=
      (swap_leads slot held).head (.emptyGained (Handle.isEmpty_emptied old))
    exact (dropHandle_leads old (balanced.leads taken)).after taken

/-- A slot of a value is given another handle, and the old one is let go of. -/
theorem replaceHandle_leads (slot : IsSlot held? put)
    (there : ((m.memory.read? p).bind held?).isSome) (balanced : (rest m (h :: k)).Balanced) :
    (replaceHandle p held? put h m).Leads may (rest m (h :: k)) (fun _ => k) k := by
  obtain ⟨old, held⟩ := Option.isSome_iff_exists.1 there
  let vacant : Machine := { m with memory := m.memory.change p (put old.emptied) }
  have reset : resetHandle p held? put m = dropHandle old vacant := by
    unfold resetHandle
    rw [Run.bind_apply]
    show (Outcome.returned ((m.memory.read? p).bind held?) m).andThen _ = _
    rw [held]
    rfl
  have settled := dropHandle_settled old vacant
  rw [← reset] at settled
  have filled (n : Machine) (settled : vacant.Settled n) :
      Situation.Leads may (rest n (h :: k))
        (rest { n with memory := n.memory.change p (put h) } k) := by
    -- The slot was emptied before, so that whatever it held since, nothing is lost by writing.
    rcases read_settled slot (read_change slot held old.emptied) settled with found | found
    · exact (swap_leads slot found).tail (.emptyLost rfl)
    · exact (swap_leads slot found).tail (.emptyLost rfl)
  have emptied : (resetHandle p held? put m).Leads may _ _ _ := resetHandle_leads slot balanced
  refine Run.atEnd_leads balanced emptied (fun u n done _ => ?_) fun p n done _ => ?_
  · rw [done] at settled
    exact filled n settled
  · rw [done] at settled
    exact filled n settled

/-- A clone is put into a slot of a value. -/
private theorem share_into_leads (slot : IsSlot held? put) (clonable : isClonable h = true)
    (seen : m.Seen (k.map .drop) h) (there : ((m.memory.read? p).bind held?).isSome)
    (balanced : (rest m k).Balanced) :
    ((clone h >>= fun shared => replaceHandle p held? put shared) m).Leads may (rest m k)
      (fun _ => k) k := by
  refine Run.bind_leads balanced (clone_leads clonable seen) fun g n done balanced => ?_
  have settled := clone_settled h m
  rw [done] at settled
  exact replaceHandle_leads slot (isSome_settled slot there settled) balanced

/-- A node comes to own a neighbour. -/
theorem linkNext_leads (owns : h.ownership = .block .strong) (seen : m.Seen (k.map .drop) h)
    (there : ((m.memory.read? p).bind Value.next?).isSome) (balanced : (rest m k).Balanced) :
    (linkNext p h m).Leads may (rest m k) (fun _ => k) k := by
  refine share_into_leads Value.isSlot_next ?_ seen there balanced
  unfold isClonable
  rw [owns]

/-- A node comes to observe a neighbour. -/
theorem linkBack_leads (owns : h.ownership = .block .strong) (seen : m.Seen (k.map .drop) h)
    (there : ((m.memory.read? p).bind Value.back?).isSome) (balanced : (rest m k).Balanced) :
    (linkBack p h m).Leads may (rest m k) (fun _ => k) k := by
  refine Run.bind_leads balanced (downgrade_leads owns seen) fun g n done balanced => ?_
  have settled := clone_settled (h.held .weak) m
  rw [show clone (h.held .weak) m = .returned g n from done] at settled
  have is : g = h.held .weak := eq_of_clone done
  have shared : ((clone g >>= fun shared => replaceHandle p Value.back? Value.withBack shared)
      n).Leads may (rest n (g :: k)) (fun _ => g :: k) (g :: k) := by
    refine share_into_leads Value.isSlot_back ?_ (seen_of_mem (List.mem_cons_self ..))
      (isSome_settled Value.isSlot_back there settled) balanced
    rw [is]
    rfl
  exact Run.atEnd_leads balanced shared (fun _ n _ balanced => dropHandle_leads g balanced)
    fun _ n _ balanced => dropHandle_leads g balanced

/-- A value is set through a handle that admits it. -/
theorem changeIfExclusive_leads (d : Datum) (seen : m.Seen (k.map .drop) h)
    (balanced : (rest m k).Balanced) :
    (changeIfExclusive h (·.setTo d) m).Leads may (rest m k) (fun _ => k) k := by
  unfold changeIfExclusive
  cases h.target? with
  | none => exact .refl
  | some place =>
    obtain ⟨alone, asked, -⟩ := isExclusive_books balanced.books seen
    show ((isExclusive h m).andThen _).Leads may _ _ _
    rw [asked]
    cases alone with
    | false => exact .refl
    | true =>
      show Situation.Leads may (rest m k)
        (rest { m with memory := m.memory.change place (·.setTo d) } k)
      unfold Memory.change
      cases found : m.memory.cell? place.cell with
      | none => exact .refl
      | some cell =>
        refine .single (.rewritten found (.of_eq ?_))
        congr 1
        cases place.path with
        | nil => exact (Value.handles_setTo _ _).symm
        | cons field path => exact (Value.handles_changePart_cons _ _ _ _).symm

end Machine

end Custody
