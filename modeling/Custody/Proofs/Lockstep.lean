import Custody.Proofs.Directions
import Custody.Proofs.Twins

/-!
# Destructions of twins

Machines that are twins let go of handles that are twins in lockstep. The last strong owner destroys
the value and gives up the reference that its owners share, and gives the storage back as that was
the last one; the last local owner destroys the value and gives the storage back. So the first run
takes one step more, and after it the runs are at the same point again: `Machine.leave_twin`.

That a strong group has no observers when its last owner goes, and that a handle which is the same
in both runs refers to a cell which is the same, both follow from the books of the two runs.
-/

namespace Custody

/-- Tasks that are carried out in lockstep. -/
inductive Task.Alike : Task → Task → Prop
  | same (t : Task) : Alike t t
  | drop {h h' : Handle} (twin : h.Twin h') : Alike (.drop h) (.drop h')

/-- Tasks that come to the same: to give up the reference that strong owners share is to give the
storage back. -/
inductive Task.Twin : Task → Task → Prop
  | alike {t t' : Task} (alike : t.Alike t') : Twin t t'
  | leave (c : CellId) (a : AllocatorId) (l : Layout) : Twin (.leaveGroup c) (.giveBack a l c)

namespace Task

variable {t t' : Task} {l l' : List Task}

theorem Twin.isCleanup (twin : t.Twin t') : t'.isCleanup = t.isCleanup := by
  cases twin with
  | alike alike => cases alike <;> rfl
  | leave c a l => rfl

theorem Twin.follows? (twin : t.Twin t') : t'.follows? = t.follows? := by
  cases twin with
  | alike alike => cases alike <;> rfl
  | leave c a l => rfl

theorem twins_refl (l : List Task) : List.Forall₂ Twin l l :=
  List.forall₂_same.2 fun t _ => .alike (.same t)

theorem cleanup_twins (twins : List.Forall₂ Twin l l') :
    List.Forall₂ Twin (cleanup l) (cleanup l') :=
  List.rel_filter (fun t t' twin => by simp only [twin.isCleanup]) twins

theorem follows_twins (twins : List.Forall₂ Twin l l') :
    l'.filterMap Task.follows? = l.filterMap Task.follows? := by
  induction twins with
  | nil => rfl
  | cons head _ ih => rw [List.filterMap_cons, List.filterMap_cons, head.follows?, ih]

end Task

/-- Panics with the same payload that let go of twins before they leave. -/
structure Passage.Twin (p p' : Passage) : Prop where
  payload : p'.payload = p.payload
  cleanup : List.Forall₂ Task.Twin p.cleanup p'.cleanup

namespace Machine

open Tally

variable {m n : Machine} {tasks tasks' : List Task} {h h' : Handle} {c : CellId} {l : Link}

/-- A cell cannot be governed by a strong group and by a local one. -/
private theorem not_governed_twice {q : Qualifier} {s w s' : Word}
    (governed : Governed q (some (.strong s w))) (governed' : Governed q (some (.handle s'))) :
    False := by
  cases q with
  | raw => exact governed
  | handle =>
    obtain ⟨count, is⟩ := governed
    cases is
  | strong =>
    obtain ⟨s, w, is⟩ := governed'
    cases is
  | weak =>
    obtain ⟨s, w, is⟩ := governed'
    cases is
  | _ => cases governed

/-- A handle that is the same in both runs refers to a cell that is the same. -/
theorem Twins.cell_same (twins : m.Twins n) (books : m.Books tasks) (seen : m.Seen tasks h)
    (books' : n.Books tasks') (seen' : n.Seen tasks' h) (link : h.link = some l) :
    n.memory.cell? l.cell = m.memory.cell? l.cell := by
  obtain ⟨cell, found, governed, -, -⟩ := books.found_of_seen seen link
  obtain ⟨cell', found', governed', -, -⟩ := books'.found_of_seen seen' link
  obtain ⟨there, is, cells⟩ := twins.memory.found found
  obtain rfl : cell' = there := Option.some.inj (found'.symm.trans is)
  cases cells with
  | same => rw [found, found']
  | shared state few =>
    rw [state] at governed
    exact (not_governed_twice governed governed').elim

/-- What is true of cells whose handles are twins: they are the same if the handles are, and else
the owners of the strong one are all that it counts. -/
inductive CellsOf (m n : Machine) (l : Link) : Handle → Handle → Prop
  | same {h : Handle} (same : n.memory.cell? l.cell = m.memory.cell? l.cell) : CellsOf m n l h h
  | shared {h : Handle} {cell : Cell} {s : Word} (owns : h.ownership = .block .strong)
      (found : m.memory.cell? l.cell = some cell) (state : cell.state = some (.strong s 1))
      (homed : cell.home.isSome) (alive : s ≠ 0)
      (found' : n.memory.cell? l.cell = some { cell with state := some (.handle s) }) :
      CellsOf m n l h (h.held (.block .handle))

theorem Twins.cellsOf (twins : m.Twins n) (twin : h.Twin h') (books : m.Books tasks)
    (seen : m.Seen tasks h) (books' : n.Books tasks') (seen' : n.Seen tasks' h')
    (link : h.link = some l) : CellsOf m n l h h' := by
  cases twin with
  | same => exact .same (twins.cell_same books seen books' seen' link)
  | shared owns =>
    obtain ⟨cell, found, governed, homed, law⟩ := books.found_of_seen seen link
    obtain ⟨cell', found', governed', -, -⟩ := books'.found_of_seen seen' link
    obtain ⟨there, is, cells⟩ := twins.memory.found found
    obtain rfl : cell' = there := Option.some.inj (found'.symm.trans is)
    have strong : h.qualifier = .strong := congrArg Ownership.qualifier owns
    rw [strong] at governed
    obtain ⟨s, w, state⟩ : ∃ s w, cell.state = some (.strong s w) := governed
    cases cells with
    | same =>
      obtain ⟨count, is⟩ : ∃ count, cell.state = some (.handle count) := governed'
      rw [state] at is
      cases is
    | shared state few =>
      rw [state] at law homed
      have owner := seen l link
      rw [strong] at owner
      obtain ⟨alive, observed⟩ := StrongLaw.alive law owner
      obtain rfl := few.resolve_left observed
      exact .shared owns found state (homed rfl) alive found'

/-! ## One task -/

/-- To let go of the same handle to the same cell. -/
private theorem letGo_same (twins : m.Twins n) (kind : Kind) (o : Ownership)
    (same : n.memory.cell? c = m.memory.cell? c) :
    (letGo kind c o m).Paired Eq Twins (letGo kind c o n) := by
  have counted {operation : BlockState → BlockState × Except CountFault Bool}
      {last : Run Machine (List Task)} (ends : Pairs last last) :
      ((do if ← recount c operation then last else return []) m).Paired Eq Twins
        ((do if ← recount c operation then last else return []) n) := by
    refine Run.bind_paired (recount_paired operation twins same) fun a b u v _ _ is twins => ?_
    cases is
    cases a with
    | true => exact ends u v twins
    | false => exact .returned rfl twins
  cases o with
  | unique home =>
    exact Pairs.bind (beginDestruction_pairs c) (fun _ => .pure _) m n twins
  | weak => exact counted (storageTask_pairs _ c)
  | block owner =>
    cases owner with
    | own => exact destroyWith_pairs _ c m n twins
    | discard => exact destroyWith_pairs _ c m n twins
    | collect => exact .returned rfl twins
    | strong => exact counted (.bind (beginDestruction_pairs c) fun _ => .pure _)
    | handle => exact counted (destroyWith_pairs _ c)

section Shared

variable {cell : Cell} {s : Word} (found : m.memory.cell? c = some cell)
  (found' : n.memory.cell? c = some { cell with state := some (.handle s) })

include found found'

/-- The counts after both runs have counted. -/
private theorem withState_twins (twins : m.Twins n) {r w : Word} (few : w = 0 ∨ w = 1) :
    (m.withState c cell (.strong r w)).Twins
      (n.withState c { cell with state := some (.handle s) } (.handle r)) :=
  ⟨twins.process, twins.memory.setCell found found'
    (.shared (c := { cell with state := some (.strong r w) }) rfl few)⟩

/-- To let go of a strong owner that nobody observes, and of a local one. -/
private theorem letGo_shared (twins : m.Twins n) (kind : Kind)
    (state : cell.state = some (.strong s 1)) (homed : cell.home.isSome) (alive : s ≠ 0) :
    (letGo kind c (.block .strong) m).Paired (List.Forall₂ Task.Twin) Twins
      (letGo kind c (.block .handle) n) := by
  have counted : BlockState.decrementLocal (.handle s) = (.handle (s - 1), .ok (s == 1)) := by
    simp only [BlockState.decrementLocal, if_neg alive]
  have went : letGo kind c (.block .handle) n =
      (recount c BlockState.decrementLocal n).andThen fun last o =>
        (if last then destroyWith .giveBack c else return []) o := rfl
  rw [went, recount_ok found' rfl counted]
  have after := withState_twins found found' twins (r := s - 1) (.inr rfl)
  by_cases last : s = 1
  · subst last
    obtain ⟨a, home⟩ := Option.isSome_iff_exists.1 homed
    have there := cell?_withState_self found' (.handle 0)
    have began := (beginDestruction_pairs c _ _ after).state
    rw [beginDestruction_of_found (cell?_withState_self found _),
      beginDestruction_of_found (cell?_withState_self found' _)] at began
    rw [letGo_strong_last found state]
    show Outcome.Paired _ _ _ (destroyWith .giveBack c (n.withState c _ (.handle 0)))
    rw [destroyWith_of_found there .giveBack home]
    exact .returned (List.rel_append (Task.twins_refl _) (.cons (.leave c a _) .nil)) began
  · rw [letGo_strong_more found state alive last, beq_false_of_ne last]
    exact .returned .nil after

end Shared

/-- Tasks that are carried out in lockstep lead to tasks that come to the same. -/
theorem advance_paired {t t' : Task} (twins : m.Twins n) (alike : t.Alike t')
    (books : m.Books (t :: tasks)) (books' : n.Books (t' :: tasks')) :
    (t.advance m).Paired (List.Forall₂ Task.Twin) Twins (t'.advance n) := by
  have pairs {act act' : Run Machine (List Task)} (pairs : Pairs act act') :
      (act m).Paired (List.Forall₂ Task.Twin) Twins (act' n) :=
    (pairs m n twins).mono fun a b same => same ▸ Task.twins_refl a
  have dropped {h h' : Handle} (twin : h.Twin h') (books : m.Books (.drop h :: tasks))
      (books' : n.Books (.drop h' :: tasks')) :
      ((Task.drop h).advance m).Paired (List.Forall₂ Task.Twin) Twins
        ((Task.drop h').advance n) := by
    cases link : h.link with
    | none =>
      rw [Task.advance_drop_of_none link, Task.advance_drop_of_none (twin.link.trans link)]
      exact .returned .nil twins
    | some l =>
      rw [Task.advance_drop_of_some link, Task.advance_drop_of_some (twin.link.trans link)]
      cases twins.cellsOf twin books (seen_of_mem (List.mem_cons_self ..)) books'
        (seen_of_mem (List.mem_cons_self ..)) link with
      | same same =>
        exact (letGo_same twins h.kind h.ownership same).mono
          fun a b same => same ▸ Task.twins_refl a
      | shared owns found state homed alive found' =>
        rw [owns]
        exact letGo_shared found found' twins h.kind state homed alive
  cases alike with
  | drop twin => exact dropped twin books books'
  | same =>
    cases t with
    | drop h => exact dropped (.same h) books books'
    | announce label => exact pairs (.bind (announce_pairs label) fun _ => .pure [])
    | giveBack a l c =>
      exact pairs (.bind (noteStorage_pairs _) fun _ => .bind (base_pairs c) fun _ =>
        .bind (deallocate_pairs a _ l) fun _ => .pure [])
    | retire a l c =>
      exact pairs (.bind (noteStorage_pairs _) fun _ => .bind (base_pairs c) fun _ =>
        .bind (retire_pairs a _ l) fun _ => .pure [])
    | leaveGroup c =>
      obtain ⟨cell, s, w, found, state, -, -⟩ := found_of_leaveGroup books
      obtain ⟨cell', s', w', found', state', -, -⟩ := found_of_leaveGroup books'
      obtain ⟨there, is, cells⟩ := twins.memory.found found
      obtain rfl : cell' = there := Option.some.inj (found'.symm.trans is)
      cases cells with
      | shared => cases state'
      | same =>
        have counted := recount_paired BlockState.decrementWeak twins (found'.trans found.symm)
        refine Run.bind_paired counted fun a b u v _ _ is twins => ?_
        cases is
        cases a with
        | true =>
          exact (storageTask_pairs .giveBack c u v twins).mono
            fun a b same => same ▸ Task.twins_refl a
        | false => exact .returned .nil twins

/-- The step that the first run takes by itself: the owners give up the reference that they share,
which is the last one. -/
theorem leave_twin {a : AllocatorId} {l : Layout} (twins : m.Twins n)
    (books : m.Books (.leaveGroup c :: tasks)) (books' : n.Books (.giveBack a l c :: tasks'))
    (lent : n.Lent c a l) : ∃ m', (Task.leaveGroup c).advance m = .returned [.giveBack a l c] m' ∧
      m'.Twins n := by
  obtain ⟨cell, s, w, found, state, homed, law⟩ := found_of_leaveGroup books
  obtain ⟨cell', found', home, layout⟩ := lent
  obtain ⟨there, is, cells⟩ := twins.memory.found found
  obtain rfl : cell' = there := Option.some.inj (found'.symm.trans is)
  have observed : w ≠ 0 := by
    have observers : _ + (_ + 1) + _ + _ = w.toNat := law.observers
    exact Word.ne_zero_of_pos (by omega)
  cases cells with
  | same =>
    -- The books of the second run have the storage of such a group go back only after this.
    have fits := books' c
    rw [tally_return_self n tasks' (.inl rfl), found'] at fits
    have law := fits.2
    rw [state] at law
    have returned : _ + (_ + 1) + w.sign = 1 := StrongLaw.returned law
    rw [Word.sign_of_ne observed] at returned
    omega
  | shared state' few =>
    rw [state] at state'
    cases state'
    obtain rfl := few.resolve_left observed
    have counted : BlockState.decrementWeak (.strong s 1) = (.strong s 0, .ok true) := rfl
    have there := cell?_withState_self found (.strong s 0)
    refine ⟨m.withState c cell (.strong s 0), ?_, ?_⟩
    · show (recount c BlockState.decrementWeak m).andThen _ = _
      rw [recount_ok found state counted]
      show storageTask .giveBack c (m.withState c cell (.strong s 0)) = _
      rw [storageTask_of_found there .giveBack home, ← layout]
    · have unchanged : n.withState c { cell with state := some (.handle s) } (.handle s) = n :=
        congrArg (fun memory => { n with memory := memory }) (Memory.setCell_of_cell? found')
      rw [← unchanged]
      exact withState_twins found found' twins (.inl rfl)

/-! ## Destructions -/

variable {panics panics' : List Passage} {k k' : List Handle}

theorem noteFailures_twins (twins : m.Twins n) (same : List.Forall₂ Task.Twin tasks tasks') :
    (noteFailures tasks m).Twins (noteFailures tasks' n) := by
  unfold noteFailures
  rw [Task.follows_twins same]
  refine ⟨{ twins.process with trace := ?_ }, twins.memory⟩
  exact List.rel_append (List.forall₂_same.2 fun e _ => .same e) twins.process.trace

end Machine

namespace Destruction

open Machine

/-- What remains to be settled after some steps ends as all of it does. -/
theorem drain_of_steps {d e : Destruction} (steps : Relation.ReflTransGen Step d e) :
    drain d.tasks d.panics d.machine = drain e.tasks e.panics e.machine := by
  induction steps with
  | refl => rfl
  | tail _ step ih =>
    rw [ih]
    cases step with
    | task advanced => exact drain_cons_returned advanced _ _
    | panic panicked => exact drain_cons_unwinding panicked _ _
    | cleanup => exact drain_nil_cleanup ..

/-- Where two runs stand that settle twins. The books of both balance with the handles that are
outside of cells, and the second gives back only storage that was lent out. -/
structure Lockstep (k : List Handle) (d : Destruction) (k' : List Handle) (e : Destruction) :
    Prop where
  twins : d.machine.Twins e.machine
  tasks : List.Forall₂ Task.Twin d.tasks e.tasks
  panics : List.Forall₂ Passage.Twin d.panics e.panics
  first : Situation.Balanced ⟨d.machine, k, d.tasks, d.panics⟩
  second : Situation.Balanced ⟨e.machine, k', e.tasks, e.panics⟩
  directed : Situation.Directed ⟨e.machine, k', e.tasks, e.panics⟩

namespace Lockstep

variable {m n : Machine} {t t' : Task} {rest rest' : List Task} {panics panics' : List Passage}
  {k k' : List Handle} {d d' e e' : Destruction}

/-- Both runs have taken a step. -/
private theorem moved (lockstep : Lockstep k d k' e) (step : Step d d') (step' : Step e e')
    (twins : d'.machine.Twins e'.machine) (tasks : List.Forall₂ Task.Twin d'.tasks e'.tasks)
    (panics : List.Forall₂ Passage.Twin d'.panics e'.panics) : Lockstep k d' k' e' := by
  have step : Situation.Step True ⟨d.machine, k, d.tasks, d.panics⟩ _ := .settling step
  have step' : Situation.Step True ⟨e.machine, k', e.tasks, e.panics⟩ _ := .settling step'
  exact ⟨twins, tasks, panics, lockstep.first.step step, lockstep.second.step step',
    lockstep.directed.step lockstep.second step'⟩

/-- The first run catches up, so that the tasks which come next are carried out in lockstep. -/
private theorem caughtUp
    (lockstep : Lockstep k ⟨t :: rest, panics, m⟩ k' ⟨t' :: rest', panics', n⟩) :
    ∃ u o, Relation.ReflTransGen Step ⟨t :: rest, panics, m⟩ ⟨u :: rest, panics, o⟩ ∧
      u.Alike t' ∧ Lockstep k ⟨u :: rest, panics, o⟩ k' ⟨t' :: rest', panics', n⟩ := by
  obtain ⟨twins, tasks, passages, first, second, directed⟩ := lockstep
  cases tasks with
  | cons twin others =>
    cases twin with
    | alike alike =>
      exact ⟨t, m, .refl, alike, twins, .cons (.alike alike) others, passages, first, second,
        directed⟩
    | leave c a l =>
      have lent : n.Lent c a l :=
        directed.duties _ (List.mem_append_left _ (List.mem_cons_self ..))
      obtain ⟨o, advanced, twins⟩ :=
        leave_twin twins first.balanced.books second.balanced.books lent
      have step : Step ⟨.leaveGroup c :: rest, panics, m⟩ ⟨[.giveBack a l c] ++ rest, panics, o⟩ :=
        .task advanced
      have led : Situation.Step True ⟨m, k, .leaveGroup c :: rest, panics⟩ _ := .settling step
      exact ⟨_, o, .single step, .same _, twins, .cons (.alike (.same _)) others, passages,
        first.step led, second, directed⟩

/-- When the second run takes a step, the first gets to where the runs are in lockstep again. -/
theorem step (lockstep : Lockstep k d k' e) (step' : Step e e') :
    ∃ d', Relation.ReflTransGen Step d d' ∧ Lockstep k d' k' e' := by
  obtain ⟨tasks, panics, m⟩ := d
  have same := lockstep.tasks
  have passages := lockstep.panics
  cases step' with
  | task advanced' =>
    cases same with
    | cons _ others =>
      obtain ⟨u, o, before, alike, lockstep⟩ := lockstep.caughtUp
      have paired := advance_paired lockstep.twins alike lockstep.first.balanced.books
        lockstep.second.balanced.books
      rw [advanced'] at paired
      generalize advanced : u.advance o = ended at paired
      cases paired with
      | returned leads twins =>
        exact ⟨_, before.tail (.task advanced), lockstep.moved (.task advanced) (.task advanced')
          twins (List.rel_append leads others) passages⟩
  | panic panicked' =>
    cases same with
    | cons _ others =>
      obtain ⟨u, o, before, alike, lockstep⟩ := lockstep.caughtUp
      have paired := advance_paired lockstep.twins alike lockstep.first.balanced.books
        lockstep.second.balanced.books
      rw [panicked'] at paired
      generalize panicked : u.advance o = ended at paired
      cases paired with
      | unwinding twins =>
        exact ⟨_, before.tail (.panic panicked), lockstep.moved (.panic panicked)
          (.panic panicked') (noteFailures_twins twins others) .nil
          (.cons ⟨rfl, Task.cleanup_twins others⟩ passages)⟩
  | cleanup =>
    cases same
    cases passages with
    | @cons p _ others _ twin later =>
      obtain ⟨_, cleanup⟩ := p
      obtain ⟨rfl, cleanups⟩ := twin
      cases cleanups with
      | cons head tail =>
        exact ⟨_, .single .cleanup, lockstep.moved .cleanup .cleanup lockstep.twins
          (.cons head .nil) (.cons ⟨rfl, tail⟩ later)⟩

end Lockstep

end Destruction

namespace Machine

open Destruction

variable {m n : Machine} {tasks tasks' : List Task} {panics panics' : List Passage}
  {k k' : List Handle}

/-- Twins settle twins in lockstep. -/
theorem drain_paired (lockstep : Lockstep k ⟨tasks, panics, m⟩ k' ⟨tasks', panics', n⟩) :
    (drain tasks panics m).Paired Eq Twins (drain tasks' panics' n) := by
  have onwards {d e e' : Destruction} (lockstep : Lockstep k d k' e) (step' : Step e e')
      (later : ∀ d', Lockstep k d' k' e' →
        (drain d'.tasks d'.panics d'.machine).Paired Eq Twins
          (drain e'.tasks e'.panics e'.machine)) :
      (drain d.tasks d.panics d.machine).Paired Eq Twins (drain e.tasks e.panics e.machine) := by
    obtain ⟨d', steps, lockstep⟩ := lockstep.step step'
    rw [drain_of_steps steps, drain_of_steps (.single step')]
    exact later d' lockstep
  induction tasks', panics', n using drain.induct generalizing tasks panics m with
  | case1 n t' rest' panics' more' n' advanced' ih =>
    exact onwards lockstep (.task advanced') fun _ lockstep => ih lockstep
  | case2 n t' rest' panics' payload n' panicked' ih =>
    exact onwards lockstep (.panic panicked') fun _ lockstep => ih lockstep
  | case3 n t' rest' panics' cause n' aborted' =>
    exact absurd aborted' (advance_ne_aborted t' lockstep.second.balanced.books cause n')
  | case4 n payload t' rest' others' ih =>
    exact onwards lockstep .cleanup fun _ lockstep => ih lockstep
  | case5 n =>
    obtain ⟨twins, same, passages, -⟩ := lockstep
    cases same
    cases passages
    rw [drain_nil_nil, drain_nil_nil]
    exact .returned rfl twins
  | case6 n payload =>
    obtain ⟨twins, same, passages, -⟩ := lockstep
    cases same
    cases passages with
    | @cons p _ others _ twin later =>
      obtain ⟨_, cleanup⟩ := p
      obtain ⟨rfl, cleanups⟩ := twin
      cases later
      cases cleanups
      rw [drain_nil_singleton, drain_nil_singleton]
      exact .unwinding twins
  | case7 n payload head' tail' =>
    obtain ⟨twins, same, passages, -⟩ := lockstep
    cases same
    cases passages with
    | @cons p _ others _ twin later =>
      obtain ⟨_, cleanup⟩ := p
      obtain ⟨rfl, cleanups⟩ := twin
      cases later
      cases cleanups
      rw [drain_nil_cons_cons, drain_nil_cons_cons]
      exact .aborted twins

end Machine

end Custody
