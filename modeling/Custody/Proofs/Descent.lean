import Custody.Proofs.Lineage
import Custody.Proofs.Moments

/-!
# Whom the handles of a client come from

A client can only use handles that it holds or that lie inside values, and `Client.perform` makes no
others but from them. So at every moment that a client goes through, the handles that it holds,
those inside values, and those that are still to be let go of descend from what it could see at
first, and so do those that it forgot since: `Client.Reached.raised`. What it had forgotten before
is out of its reach for good.
-/

namespace Custody

namespace Client

open Machine Session

/-- The handles of a client descend from those of a client before, and what that one had forgotten
is forgotten. -/
structure Raised (first c : Client) : Prop where
  machine : Bred first c.machine
  held : ∀ h ∈ c.held, Descends first c.machine h
  forgotten : ∃ more, c.forgotten = more ++ first.forgotten ∧
    ∀ h ∈ more, Descends first c.machine h

variable {first c : Client} {given : List Handle} {α : Type} {act : Run Machine α}
  {yields : α → List Handle}

theorem raised_self (first : Client) : Raised first first :=
  ⟨bred_self first, fun _ member => .root (.held member), [], rfl, List.forall_mem_nil _⟩

theorem Raised.upheld (raised : Raised first c) {n : Machine}
    (upheld : Upheld first c.machine n) : Raised first { c with machine := n } := by
  obtain ⟨-, held, more, forgotten, descend⟩ := raised
  refine ⟨upheld.bred, fun h member => Descends.later (held h member) upheld.remembers, more,
    forgotten, fun h member => Descends.later (descend h member) upheld.remembers⟩

/-- A client that comes to hold handles that descend. -/
theorem Raised.hold (raised : Raised first c) {handles : List Handle}
    (descend : ∀ h ∈ handles, Descends first c.machine h) :
    Raised first { c with held := handles ++ c.held } := by
  refine ⟨raised.machine, fun h member => ?_, raised.forgotten⟩
  rcases List.mem_append.1 member with member | member
  · exact descend h member
  · exact raised.held h member

/-- A client that forgets handles that descend. -/
theorem Raised.lose (raised : Raised first c) {handles : List Handle}
    (descend : ∀ h ∈ handles, Descends first c.machine h) :
    Raised first { c with forgotten := handles ++ c.forgotten } := by
  obtain ⟨machine, held, more, forgotten, others⟩ := raised
  refine ⟨machine, held, handles ++ more, ?_, fun h member => ?_⟩
  · show handles ++ c.forgotten = _
    rw [forgotten, List.append_assoc]
  · rcases List.mem_append.1 member with member | member
    · exact descend h member
    · exact others h member

/-- A client with fewer handles. -/
theorem Raised.fewer (raised : Raised first c) {left : List Handle}
    (sub : ∀ h ∈ left, h ∈ c.held) : Raised first { c with held := left } :=
  ⟨raised.machine, fun h member => raised.held h (sub h member), raised.forgotten⟩

/-- A handle that a client can look at descends. -/
theorem Raised.knows (raised : Raised first c) {h : Handle} (known : c.knows h = true) :
    Descends first c.machine h := by
  rcases Bool.or_eq_true _ _ ▸ known with held | stored
  · exact raised.held h (of_decide_eq_true held)
  · obtain ⟨d, cell, found, member⟩ := Memory.exists_of_stores stored
    exact raised.machine.stocked h ⟨d, cell, found, member⟩

/-- Handles that are taken away were held or are empty, and what is left was held. -/
theorem mem_of_takeAll {handles held left : List Handle}
    (taken : takeAll handles held = some left) :
    (∀ h ∈ handles, h.link = none ∨ h ∈ held) ∧ ∀ h ∈ left, h ∈ held := by
  induction handles generalizing held with
  | nil =>
    cases taken
    exact ⟨List.forall_mem_nil _, fun _ member => member⟩
  | cons g rest ih =>
    unfold takeAll at taken
    by_cases empty : g.isEmpty = true
    · rw [if_pos empty] at taken
      obtain ⟨found, sub⟩ := ih taken
      refine ⟨fun h member => ?_, sub⟩
      rcases List.mem_cons.1 member with rfl | member
      · exact .inl (Option.isNone_iff_eq_none.1 empty)
      · exact found h member
    · rw [if_neg empty] at taken
      by_cases member : g ∈ held
      · rw [if_pos member] at taken
        obtain ⟨found, sub⟩ := ih taken
        refine ⟨fun h inside => ?_, fun h inside => List.mem_of_mem_erase (sub h inside)⟩
        rcases List.mem_cons.1 inside with rfl | inside
        · exact .inr member
        · exact (found h inside).imp_right List.mem_of_mem_erase
      · rw [if_neg member] at taken
        cases taken

/-! ## Operations -/

/-- What the machine does with given handles keeps the client's, and these are still given. -/
theorem onMachine_raises (breeds : Breeds first given act yields) (raised : Raised first c)
    (descend : ∀ h ∈ given, Descends first c.machine h) :
    (onMachine act c).Ensures
      (fun a d => Raised first d ∧ ∀ h ∈ yields a ++ given, Descends first d.machine h)
      fun d => Raised first d ∧ ∀ h ∈ given, Descends first d.machine h := by
  have later {n : Machine} (upheld : Upheld first c.machine n) :
      ∀ h ∈ given, Descends first n h :=
    fun h member => Descends.later (descend h member) upheld.remembers
  refine Outcome.ensures_mapState ((breeds c.machine raised.machine descend).mono ?_ ?_)
  · rintro a n ⟨upheld, yielded⟩
    refine ⟨raised.upheld upheld, fun h member => ?_⟩
    rcases List.mem_append.1 member with member | member
    · exact yielded h member
    · exact later upheld h member
  · intro n upheld
    exact ⟨raised.upheld upheld, later upheld⟩

/-- To do something with what the machine yields. -/
theorem onMachine_bind_raises {next : α → Run Client Unit} (breeds : Breeds first given act yields)
    (raised : Raised first c) (descend : ∀ h ∈ given, Descends first c.machine h)
    (further : ∀ a d, Raised first d → (∀ h ∈ yields a ++ given, Descends first d.machine h) →
      (next a d).Ensures (fun _ e => Raised first e) (Raised first)) :
    ((onMachine act >>= next) c).Ensures (fun _ d => Raised first d) (Raised first) := by
  refine Run.bind_ensures ((onMachine_raises breeds raised descend).mono (fun _ _ both => both)
    fun _ both => both.1) ?_
  rintro a d ⟨raised, descend⟩
  exact further a d raised descend

/-- To hold what the machine yields. -/
theorem yielding_raises (breeds : Breeds first given act yields) (raised : Raised first c)
    (descend : ∀ h ∈ given, Descends first c.machine h) {handles : α → List Handle}
    (sources : ∀ a, ∀ h ∈ handles a, h.link = none ∨ h ∈ yields a) :
    (yielding act handles c).Ensures (fun _ d => Raised first d) (Raised first) := by
  refine onMachine_bind_raises breeds raised descend fun a d raised yielded => ?_
  refine raised.hold fun h member => ?_
  rcases sources a h member with none | member
  · exact .empty none
  · exact yielded h (List.mem_append_left _ member)

/-- To do what yields nothing, and hold at most empty handles. -/
theorem yielding_nothing_raises (kept : act.Keeps (Sustains first)) (raised : Raised first c)
    {handles : α → List Handle} (empties : ∀ a, ∀ h ∈ handles a, h.link = none) :
    (yielding act handles c).Ensures (fun _ d => Raised first d) (Raised first) :=
  have breeds : Breeds first [] act fun _ => [] := .of_sustains kept
  yielding_raises breeds raised (List.forall_mem_nil _) fun a h member => .inl (empties a h member)

/-- To do what yields nothing, and hold nothing more. -/
theorem yielding_none_raises (kept : act.Keeps (Sustains first)) (raised : Raised first c) :
    (yielding act (fun _ => []) c).Ensures (fun _ d => Raised first d) (Raised first) :=
  yielding_nothing_raises kept raised fun _ => List.forall_mem_nil _

theorem spending_raises {handles : List Handle} {act : Run Client Unit} (raised : Raised first c)
    (spent : ∀ d, Raised first d → (∀ h ∈ handles, Descends first d.machine h) →
      (act d).Ensures (fun _ d => Raised first d) (Raised first)) :
    (spending handles act c).Ensures (fun _ d => Raised first d) (Raised first) := by
  unfold spending
  cases taken : takeAll handles c.held with
  | none => exact raised
  | some left =>
    obtain ⟨found, sub⟩ := mem_of_takeAll taken
    refine spent _ (raised.fewer sub) fun h member => ?_
    rcases found h member with none | held
    · exact .empty none
    · exact raised.held h held

theorem provided_raises {condition : Client → Bool} {act : Run Client Unit}
    (raised : Raised first c)
    (met : condition c = true → (act c).Ensures (fun _ d => Raised first d) (Raised first)) :
    (provided condition act c).Ensures (fun _ d => Raised first d) (Raised first) := by
  unfold provided
  by_cases holds : condition c = true
  · rw [if_pos holds]
    exact met holds
  · rw [if_neg holds]
    exact raised

/-- To do something with a handle that is known if a condition is met. -/
theorem knowing_raises {h : Handle} {condition : Client → Bool} (raised : Raised first c)
    (known : condition c = true → c.knows h = true) (breeds : Breeds first [h] act yields)
    {handles : α → List Handle} (sources : ∀ a, ∀ g ∈ handles a, g ∈ yields a) :
    (provided condition (yielding act handles) c).Ensures (fun _ d => Raised first d)
      (Raised first) := by
  refine provided_raises raised fun met => ?_
  have descends := raised.knows (known met)
  exact yielding_raises breeds raised (List.forall_mem_singleton.2 descends) fun a g member =>
    .inr (sources a g member)

theorem intoOwn_raises (h : Handle) (raised : Raised first c)
    (descends : Descends first c.machine h) :
    (intoOwn h c).Ensures (fun _ d => Raised first d) (Raised first) := by
  have given : ∀ g ∈ [h], Descends first c.machine g := List.forall_mem_singleton.2 descends
  have still {d : Client} {more : List Handle}
      (yielded : ∀ g ∈ more ++ [h], Descends first d.machine g) :
      ∀ g ∈ [h], Descends first d.machine g :=
    fun g member => yielded g (List.mem_append_right _ member)
  unfold intoOwn
  cases h.link with
  | none =>
    refine raised.hold fun g member => ?_
    rw [List.mem_singleton.1 member]
    exact .empty rfl
  | some l =>
    have asks : (canOwnAlone h l).Keeps (Sustains first) := by
      unfold canOwnAlone
      by_cases projected : l.projected = true
      · rw [if_pos projected]
        exact Run.Keeps.pure _
      · rw [if_neg projected]
        exact isExclusive_sustains h
    refine onMachine_bind_raises (.of_sustains asks) raised given fun alone d raised yielded => ?_
    have given := still yielded
    cases alone with
    | true =>
      exact yielding_raises (retagged_breeds h .own (List.mem_cons_self ..)) raised
        given fun _ g member => .inr member
    | false =>
      have logs : (logRefusal h l.cell).Keeps (Sustains first) :=
        keeps_of_undisturbed (logRefusal_undisturbed h l.cell)
      have told := onMachine_raises (.of_sustains logs) raised given
      have lost : (Run.onUnwind (onMachine (logRefusal h l.cell)) (lose [h]) d).Ensures
          (fun _ e => Raised first e) (Raised first) := by
        unfold Run.onUnwind
        cases ended : onMachine (logRefusal h l.cell) d with
        | returned u e =>
          rw [ended] at told
          exact told.1
        | unwinding payload e =>
          rw [ended] at told
          exact told.1.lose told.2
        | aborted cause e => trivial
      refine Run.bind_ensures lost fun _ e raised => ?_
      refine yielding_nothing_raises (dropHandle_sustains h) raised fun _ g member => ?_
      rw [List.mem_singleton.1 member]
      rfl

theorem convert_raises (h : Handle) (owner : Owner) (raised : Raised first c)
    (descends : Descends first c.machine h) :
    (convert h owner c).Ensures (fun _ d => Raised first d) (Raised first) := by
  have given : ∀ g ∈ [h], Descends first c.machine g := List.forall_mem_singleton.2 descends
  unfold convert
  by_cases alone : mustBeAlone h owner = true
  · rw [if_pos alone]
    exact intoOwn_raises h raised descends
  · rw [if_neg alone]
    cases is : Machine.convert h owner with
    | none => exact raised.hold given
    | some conversion =>
      have yields (breeds : Breeds first [h] conversion fun g => [g]) :
          (yielding conversion ([·]) c).Ensures (fun _ d => Raised first d) (Raised first) :=
        yielding_raises breeds raised given fun _ g member => .inr member
      rcases convert_cases is with ⟨home, o, -, rfl, rfl⟩ | ⟨-, rfl, rfl⟩ | ⟨-, o, -, rfl, rfl⟩ |
        ⟨shared, rfl⟩
      · exact yields (fromUnique_breeds o h)
      · exact yields (intoUnique_breeds h)
      · exact yields (retagged_breeds h o (List.mem_cons_self ..))
      · refine absurd ?_ alone
        rw [mustBeAlone, shared]
        rfl

theorem allocateFor_raises (v : Value) (a : AllocatorId) (l : Layout) (offset : Nat)
    (raised : Raised first c) (descend : ∀ h ∈ v.handles, Descends first c.machine h) :
    (allocateFor v a l offset c).Ensures (fun _ d => Raised first d) (Raised first) := by
  have looked : (onMachine (ofMemory (·.cells.next)) c).Ensures (fun _ d => d = c)
      (Raised first) := rfl
  refine Run.bind_ensures looked ?_
  rintro subject d rfl
  have asks : Breeds first v.handles (allocate a l (some ⟨offset, subject⟩)) fun _ => [] :=
    .of_sustains (allocate_sustains a l _)
  refine onMachine_bind_raises asks raised descend fun answer d raised descend => ?_
  cases answer with
  | error e => exact raised.hold descend
  | ok grant =>
    let tagged : Cell := StorageStep.taggedCell a l offset grant v
    have added := addCell_breeds (m := d.machine)
      (n := { d.machine with memory := d.machine.memory.addCell tagged })
      rfl raised.machine rfl descend
    exact raised.upheld added.1

theorem exchange_raises (cell : CellId) (v : Value) (raised : Raised first c)
    (descend : ∀ h ∈ v.handles, Descends first c.machine h) :
    (exchange cell v c).Ensures (fun _ d => Raised first d) (Raised first) := by
  have looks : (onMachine (ofMemory fun m => (m.cell? cell).map (·.value)) c).Ensures
      (fun old? d => d = c ∧ old? = (c.machine.memory.cell? cell).map (·.value))
      (Raised first) := ⟨rfl, rfl⟩
  refine Run.bind_ensures looks ?_
  rintro old? d ⟨rfl, looked⟩
  cases found : d.machine.memory.cell? cell with
  | none =>
    rw [looked, found]
    exact raised.hold descend
  | some there =>
    rw [looked, found]
    dsimp only [Option.map_some]
    by_cases same : there.value.kind = v.kind
    · rw [if_pos same]
      have kept (old : Cell) (is : d.machine.memory.cell? cell = some old) :
          v.kind = old.value.kind := by
        cases found.symm.trans is
        exact same.symm
      have upheld : Upheld first d.machine
          { d.machine with memory := d.machine.memory.change ⟨cell, []⟩ fun _ => v } :=
        sustains_change ⟨cell, []⟩ (fun _ => v) kept (fun _ h member => .inr (descend h member))
          raised.machine
      refine (raised.upheld upheld).hold fun h member => ?_
      exact Descends.later (raised.machine.stocked h ⟨cell, there, found, member⟩) upheld.remembers
    · rw [if_neg same]
      exact raised.hold descend

/-- Every operation makes handles from those that it can use. -/
theorem perform_raises (op : Operation) (raised : Raised first c) :
    (perform op c).Ensures (fun _ d => Raised first d) (Raised first) := by
  have given {d : Client} {h : Handle} (all : ∀ g ∈ [h], Descends first d.machine g) :
      Descends first d.machine h := all h (List.mem_cons_self ..)
  have knows {a b : Bool} (met : (a && b) = true) : a = true := (Bool.and_eq_true _ _ ▸ met).1
  cases op with
  | create owner home v fallible =>
    refine spending_raises raised fun d raised descend => ?_
    cases fallible with
    | true =>
      exact yielding_raises (tryCreate_breeds owner home v fun _ member => member) raised descend
        fun _ _ member => .inr member
    | false =>
      exact yielding_raises (create_breeds owner home v fun _ member => member) raised descend
        fun _ _ member => .inr member
  | destroy v =>
    refine spending_raises raised fun d raised _ => ?_
    exact yielding_none_raises (dropValue_sustains v) raised
  | clone h =>
    unfold perform
    exact knowing_raises raised knows (clone_breeds h (List.mem_cons_self ..)) fun _ _ is => is
  | downgrade h =>
    unfold perform
    exact knowing_raises raised knows (downgrade_breeds h (List.mem_cons_self ..)) fun _ _ is => is
  | upgrade h =>
    unfold perform
    exact knowing_raises raised knows (upgrade_breeds h (List.mem_cons_self ..)) fun _ _ is => is
  | narrow h kind place checked =>
    unfold perform
    cases checked with
    | true =>
      exact knowing_raises raised knows (narrow_breeds h kind place (List.mem_cons_self ..))
        fun _ _ is => is
    | false =>
      exact knowing_raises raised knows
        (narrowTo_breeds h kind (some place) (List.mem_cons_self ..)) fun _ _ is => is
  | deepCopy h =>
    unfold perform
    exact knowing_raises raised knows (deepCopy_breeds h) fun _ _ is => is
  | take h =>
    refine spending_raises raised fun d raised descend => raised.hold fun g member => ?_
    rcases List.mem_cons.1 member with rfl | member
    · exact given descend
    · rw [List.mem_singleton.1 member]
      exact .empty rfl
  | reset h =>
    refine spending_raises raised fun d raised _ => ?_
    refine yielding_nothing_raises (dropHandle_sustains h) raised fun _ g member => ?_
    rw [List.mem_singleton.1 member]
    rfl
  | assign old new =>
    refine spending_raises raised fun d raised descend => ?_
    have breeds : Breeds first [old, new] (dropHandle old) fun _ => [] :=
      .of_sustains (dropHandle_sustains old)
    have gone := onMachine_raises breeds raised descend
    have holds {e : Client} (all : ∀ h ∈ [old, new], Descends first e.machine h) :
        ∀ h ∈ [new], Descends first e.machine h :=
      fun h member => all h (List.mem_cons_of_mem _ member)
    show (Run.atEnd (onMachine (dropHandle old)) (hold [new]) d).Ensures _ _
    unfold Run.atEnd
    cases ended : onMachine (dropHandle old) d with
    | returned u e =>
      rw [ended] at gone
      exact gone.1.hold (holds gone.2)
    | unwinding payload e =>
      rw [ended] at gone
      exact gone.1.hold (holds gone.2)
    | aborted cause e => trivial
  | drop h =>
    refine spending_raises raised fun d raised _ => ?_
    exact yielding_none_raises (dropHandle_sustains h) raised
  | forget h => exact spending_raises raised fun d raised descend => raised.lose descend
  | convert h owner =>
    exact spending_raises raised fun d raised descend =>
      convert_raises h owner raised (given descend)
  | moveOut h =>
    unfold perform
    refine provided_raises raised fun _ => spending_raises raised fun d raised descend => ?_
    exact yielding_raises (moveOut_breeds h) raised descend fun _ _ member => .inr member
  | set h d =>
    unfold perform
    refine provided_raises raised fun _ => ?_
    exact yielding_none_raises (changeIfExclusive_sustains h d) raised
  | exchange cell v =>
    exact spending_raises raised fun d raised descend => exchange_raises cell v raised descend
  | linkNext p h =>
    unfold perform
    exact knowing_raises raised (fun met => knows (knows met))
      (linkNext_breeds p h (List.mem_cons_self ..)) fun _ => List.forall_mem_nil _
  | linkBack p h =>
    unfold perform
    exact knowing_raises raised (fun met => knows (knows met))
      (linkBack_breeds p h (List.mem_cons_self ..)) fun _ => List.forall_mem_nil _
  | unlinkNext p =>
    exact yielding_none_raises (resetHandle_sustains puts_withNext p _) raised
  | allocateFor v a l offset =>
    exact spending_raises raised fun d raised descend =>
      allocateFor_raises v a l offset raised descend
  | allocate a l => exact yielding_none_raises (allocate_sustains a l none) raised
  | deallocate a address l =>
    exact yielding_none_raises (keeps_of_sameCells (deallocate_sameCells a address l)) raised
  | retire a address l =>
    exact yielding_none_raises (keeps_of_sameCells (retire_sameCells a address l)) raised
  | makeHeap =>
    exact yielding_none_raises (keeps_of_sameCells makeHeap_sameCells) raised
  | makeArena name config =>
    exact yielding_none_raises (keeps_of_sameCells (makeArena_sameCells name config)) raised
  | release a exit =>
    cases exit with
    | reset => exact yielding_none_raises (releaseArena_sustains a) raised
    | tearDown => exact yielding_none_raises (tearDown_sustains a) raised
    | drop => exact yielding_none_raises (dropArena_sustains a) raised
  | act actions =>
    exact yielding_none_raises
      (keeps_of_undisturbed (onProcess_undisturbed (Process.perform_silent _ _))) raised
  | caught =>
    exact yielding_none_raises (fun _ => sustains_of_cells rfl) raised

theorem attempt_raises {d : Client} {op : Operation} (raised : Raised first c)
    (done : attempt op c = .returned () d) : Raised first d := by
  have performed := perform_raises op raised
  obtain ⟨answer, e, caught, left⟩ := Run.returned_of_bind done
  cases left
  unfold Run.catchingWith at caught
  cases ended : perform op c with
  | returned u e =>
    rw [ended] at caught performed
    cases caught
    exact performed
  | unwinding payload e =>
    rw [ended] at caught performed
    cases caught
    exact performed
  | aborted cause e =>
    rw [ended] at caught
    cases caught

theorem run_raises {ops : List Operation} {d : Client} (raised : Raised first c)
    (done : run ops c = .returned () d) : Raised first d := by
  induction ops generalizing c with
  | nil =>
    cases done
    exact raised
  | cons op rest ih =>
    obtain ⟨u, e, one, others⟩ := Run.returned_of_bind done
    exact ih (attempt_raises raised one) others

end Client

namespace Moment

open Machine

/-- At a moment all handles descend that somebody can still use: those of the client, those inside
values, and those that are about to be let go of. -/
structure Raised (first : Client) (t : Moment) : Prop where
  client : first.Raised t.client
  pending : ∀ h, .drop h ∈ t.pending → Descends first t.client.machine h

variable {first : Client} {t : Moment}

theorem mem_pending {u : Task} :
    u ∈ t.pending ↔ u ∈ t.tasks ∨ ∃ p ∈ t.panics, u ∈ p.cleanup := by
  unfold pending
  rw [List.mem_append, List.mem_flatMap]

/-- A step of a destruction lets go of handles that lay inside values. -/
theorem Raised.step (raised : t.Raised first) {e : Destruction}
    (step : Destruction.Step ⟨t.tasks, t.panics, t.client.machine⟩ e) :
    Moment.Raised first ⟨{ t.client with machine := e.machine }, e.tasks, e.panics⟩ := by
  obtain ⟨client, pending⟩ := raised
  generalize before : (⟨t.tasks, t.panics, t.client.machine⟩ : Destruction) = d at step
  cases step with
  | @task u rest more panics m n advanced =>
    obtain ⟨tasks, sames, machine⟩ := Destruction.mk.inj before
    subst machine
    have breeds : Breeds first [] u.advance dropped := advance_breeds u
    have bred := breeds t.client.machine client.machine (List.forall_mem_nil _)
    rw [advanced] at bred
    obtain ⟨upheld, dropped⟩ := bred
    refine ⟨client.upheld upheld, fun h member => ?_⟩
    have later (still : .drop h ∈ t.pending) : Descends first n h :=
      Descends.later (pending h still) upheld.remembers
    rcases mem_pending.1 member with member | ⟨p, among, member⟩
    · rcases List.mem_append.1 member with member | member
      · exact dropped h (mem_dropped.2 member)
      · refine later (mem_pending.2 (.inl ?_))
        rw [tasks]
        exact List.mem_cons_of_mem _ member
    · exact later (mem_pending.2 (.inr ⟨p, sames ▸ among, member⟩))
  | @panic u rest panics payload m n panicked =>
    obtain ⟨tasks, sames, machine⟩ := Destruction.mk.inj before
    subst machine
    have breeds : Breeds first [] u.advance dropped := advance_breeds u
    have bred := breeds t.client.machine client.machine (List.forall_mem_nil _)
    rw [panicked] at bred
    have bred : Upheld first t.client.machine n := bred
    have upheld : Upheld first t.client.machine (noteFailures rest n) :=
      bred.trans (sustains_of_cells rfl bred.bred)
    refine ⟨client.upheld upheld, fun h member => ?_⟩
    refine Descends.later (pending h (mem_pending.2 ?_)) upheld.remembers
    rcases mem_pending.1 member with member | ⟨p, among, member⟩
    · cases member
    · rcases List.mem_cons.1 among with rfl | among
      · refine .inl ?_
        rw [tasks]
        exact List.mem_cons_of_mem _ (List.mem_of_mem_filter member)
      · exact .inr ⟨p, sames ▸ among, member⟩
  | @cleanup payload u rest others m =>
    obtain ⟨tasks, sames, machine⟩ := Destruction.mk.inj before
    subst machine
    refine ⟨client, fun h member => pending h (mem_pending.2 (.inr ?_))⟩
    rw [sames]
    rcases mem_pending.1 member with member | ⟨p, among, member⟩
    · refine ⟨_, List.mem_cons_self .., ?_⟩
      rw [List.mem_singleton.1 member]
      exact List.mem_cons_self ..
    · rcases List.mem_cons.1 among with rfl | among
      · exact ⟨_, List.mem_cons_self .., List.mem_cons_of_mem _ member⟩
      · exact ⟨p, List.mem_cons_of_mem _ among, member⟩

end Moment

namespace Client

open Machine

/-- At every moment that a client goes through, the handles that somebody can use descend from those
that the client could see at first. -/
theorem Reached.raised {first : Client} {t : Moment} (reached : Reached first t) :
    t.Raised first := by
  induction reached with
  | rest done => exact ⟨run_raises (raised_self first) done, nofun⟩
  | @letGo c h before held ih =>
    refine ⟨ih.client.fewer fun g member => List.mem_of_mem_erase member, fun g member => ?_⟩
    cases List.mem_singleton.1 member
    exact ih.client.held h held
  | @destroy c v left before taken ih =>
    obtain ⟨found, sub⟩ := mem_of_takeAll taken
    refine ⟨ih.client.fewer sub, fun g member => ?_⟩
    rcases Moment.mem_pending.1 member with member | ⟨p, among, member⟩
    · rcases Value.mem_plan member with ⟨label, is⟩ | ⟨h, inside, is⟩
      · cases is
      · cases is
        rcases found g inside with none | held
        · exact .empty none
        · exact ih.client.held g held
    · cases among
  | @release c id a ran left r m n tasks before there list passed next ih =>
    have taken : Upheld first c.machine (c.machine.listTaken id a) :=
      sustains_of_cells rfl ih.client.machine
    have looped : (Run.forAll (runDestructor id) ran).Keeps (Sustains first) :=
      Run.Keeps.forAll fun r _ => runDestructor_sustains id r
    have ranSome := looped _ taken.bred
    rw [passed] at ranSome
    have noted : Upheld first m (m.runNoted id r) := sustains_of_cells rfl ranSome.bred
    have breeds : Breeds first [] (beginDestruction r.destructor.subject) dropped :=
      beginDestruction_breeds _
    have began := breeds _ noted.bred (List.forall_mem_nil _)
    rw [next] at began
    obtain ⟨upheld, dropped⟩ := began
    have all : Upheld first c.machine n :=
      ((taken.trans ranSome).trans noted).trans upheld
    refine ⟨ih.client.upheld all, fun h member => ?_⟩
    rcases Moment.mem_pending.1 member with member | ⟨p, among, member⟩
    · exact dropped h (mem_dropped.2 member)
    · cases among
  | step before step ih => exact ih.step step

end Client

end Custody
