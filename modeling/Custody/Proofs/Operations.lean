import Custody.Proofs.Client
import Custody.Proofs.Courses.Moving
import Custody.Proofs.Courses.Releasing

/-!
# What every operation of a client leads to

Whatever a client does goes from situation to situation. `Client.perform_leads` says it of every
operation, whether it returns, panics or ends the process, and `Client.run_leads` of a run. The
proof is one case for each operation, in which the statement about the operation of the machine is
what it is about; what the client's handles have to do with it is said once by `yielding_leads` and
`spending_leads`. That every run keeps the books balanced and the machine sound follows.
-/

namespace Custody

/-- Whether an operation gives storage back that no handle stands for. -/
def Operation.isRaw : Operation → Bool
  | .deallocate .. | .retire .. => true
  | _ => false

namespace Client

open Session Machine Situation

/-- Where a client stands between two operations. -/
abbrev situation (c : Client) : Situation := .rest c.machine (c.held ++ c.forgotten)

/-- The books of the machine balance with the client's handles, and the machine is sound. -/
abbrev Balanced (c : Client) : Prop := c.situation.Balanced

/-- Where an operation of a client led: to where the client then stands, or anywhere if it ended
the process. -/
def Leads {α : Type} (raw : Prop) (s : Situation) : Outcome Client α → Prop
  | .returned _ d | .unwinding _ d => Situation.Leads raw s d.situation
  | .aborted _ d => ∃ t, Situation.Leads raw s t ∧ t.machine = d.machine

variable {α : Type} {raw : Prop} {s t : Situation} {c : Client}

/-- What led there before leads there. -/
theorem Leads.after {o : Outcome Client α} (later : Leads raw t o)
    (before : Situation.Leads raw s t) : Leads raw s o := by
  cases o with
  | returned a d => exact before.trans later
  | unwinding p d => exact before.trans later
  | aborted cause d =>
    obtain ⟨u, later, is⟩ := later
    exact ⟨u, before.trans later, is⟩

/-- One outcome after another. -/
theorem Leads.andThen {β : Type} {o : Outcome Client α} {next : α → Client → Outcome Client β}
    (first : Leads raw s o)
    (second : ∀ a d, Situation.Leads raw s d.situation → Leads raw s (next a d)) :
    Leads raw s (o.andThen next) := by
  cases o with
  | returned a d => exact second a d first
  | unwinding p d => exact first
  | aborted cause d => exact first

/-- The machine that was left is one that was led to. -/
theorem Leads.exists_state {o : Outcome Client α} (leads : Leads raw s o) :
    ∃ t, Situation.Leads raw s t ∧ t.machine = o.state.machine := by
  cases o with
  | returned a d => exact ⟨_, leads, rfl⟩
  | unwinding p d => exact ⟨_, leads, rfl⟩
  | aborted cause d => exact leads

/-- What holds of all clients that were led to, an operation ensures. -/
theorem Leads.ensures {o : Outcome Client α} (leads : Leads raw s o) {P : Client → Prop}
    (led : ∀ d, Situation.Leads raw s d.situation → P d) : o.Ensures (fun _ d => P d) P := by
  cases o with
  | returned a d => exact led d leads
  | unwinding p d => exact led d leads
  | aborted cause d => trivial

/-! ## Holding handles -/

/-- Handles that are taken away are there besides the others. -/
theorem takeAll_leads {may : Licence} {m : Machine} {handles held others left : List Handle}
    (taken : takeAll handles held = some left) :
    Situation.Leads may (rest m (held ++ others)) (rest m (handles ++ (left ++ others))) := by
  induction handles generalizing held others with
  | nil =>
    cases taken
    exact .refl
  | cons h handles ih =>
    unfold takeAll at taken
    by_cases empty : h.isEmpty = true
    · rw [if_pos empty] at taken
      exact (ih taken).tail (.emptyGained empty)
    · rw [if_neg empty] at taken
      by_cases member : h ∈ held
      · rw [if_pos member] at taken
        have first : (held ++ others).Perm (held.erase h ++ h :: others) :=
          ((List.perm_cons_erase member).append_right others).trans List.perm_middle.symm
        have last : (handles ++ (left ++ h :: others)).Perm (h :: (handles ++ (left ++ others))) :=
          (List.perm_middle.append_left handles).trans List.perm_middle
        exact ((ih taken).tail (.reordered last)).head (.reordered first)
      · rw [if_neg member] at taken
        cases taken

/-- To hold handles is to have them. -/
theorem hold_leads {handles : List Handle}
    (leads : Situation.Leads raw s (rest c.machine (handles ++ (c.held ++ c.forgotten)))) :
    Leads raw s (hold handles c) := by
  show Situation.Leads raw s (rest c.machine ((handles ++ c.held) ++ c.forgotten))
  rw [List.append_assoc]
  exact leads

/-- To lose handles is to have them still, though nobody will let go of them. -/
theorem lose_leads {handles : List Handle}
    (leads : Situation.Leads raw s (rest c.machine (handles ++ (c.held ++ c.forgotten)))) :
    Leads raw s (lose handles c) := by
  refine leads.tail (.reordered ?_)
  show (handles ++ (c.held ++ c.forgotten)).Perm (c.held ++ (handles ++ c.forgotten))
  rw [← List.append_assoc, ← List.append_assoc]
  exact List.perm_append_comm.append_right _

@[simp] theorem machine_onMachine (act : Run Machine α) (c : Client) :
    (onMachine act c).state.machine = (act c.machine).state := by
  unfold onMachine Run.within
  rw [Outcome.state_mapState]

/-- To hold what an operation yields does nothing to the machine. -/
theorem machine_yielding (act : Run Machine α) (handles : α → List Handle) (c : Client) :
    (yielding act handles c).state.machine = (act c.machine).state := by
  show ((onMachine act c).andThen fun a d =>
    .returned () ({ d with held := handles a ++ d.held } : Client)).state.machine = _
  rw [← machine_onMachine]
  cases onMachine act c <;> rfl

/-- What an operation of the machine yields is held. -/
theorem yielding_leads {act : Run Machine α} {handles : α → List Handle}
    (leads : (act c.machine).Leads raw s (fun a => handles a ++ (c.held ++ c.forgotten))
      (c.held ++ c.forgotten)) : Leads raw s (yielding act handles c) := by
  show Leads raw s (((act c.machine).mapState fun m => { c with machine := m }).andThen fun a d =>
    hold (handles a) d)
  cases ended : act c.machine with
  | returned a n =>
    rw [ended] at leads
    exact hold_leads leads
  | unwinding p n =>
    rw [ended] at leads
    exact leads
  | aborted cause n =>
    rw [ended] at leads
    exact leads

/-- What is done with handles that are used up. -/
theorem spending_leads {handles : List Handle} {act : Run Client Unit} (balanced : c.Balanced)
    (spent : ∀ d : Client, (rest d.machine (handles ++ (d.held ++ d.forgotten))).Balanced →
      Leads raw (rest d.machine (handles ++ (d.held ++ d.forgotten))) (act d)) :
    Leads raw c.situation (spending handles act c) := by
  unfold spending
  cases taken : takeAll handles c.held with
  | none => exact .refl
  | some left =>
    have leads : Situation.Leads raw c.situation
        (rest c.machine (handles ++ (left ++ c.forgotten))) := takeAll_leads taken
    exact (spent { c with held := left } (balanced.leads leads)).after leads

theorem provided_leads {condition : Client → Bool} {act : Run Client Unit}
    (met : condition c = true → Leads raw c.situation (act c)) :
    Leads raw c.situation (provided condition act c) := by
  unfold provided
  by_cases holds : condition c = true
  · rw [if_pos holds]
    exact met holds
  · rw [if_neg holds]
    exact .refl

/-- A handle that the client can look at is on the books. -/
theorem seen_of_knows {h : Handle} (known : c.knows h = true) : c.machine.Seen c.duties h := by
  rcases Bool.or_eq_true _ _ ▸ known with held | stored
  · refine seen_of_mem (List.mem_map_of_mem (List.mem_append_left _ ?_))
    exact of_decide_eq_true held
  · intro l link
    obtain ⟨d, cell, found, member⟩ := Memory.exists_of_stores stored
    have counted := Memory.refs_pos_of_mem found member link
    show 0 < Task.refs _ _ _ + _
    omega

/-- The qualifier of a handle tells how it refers to its value. -/
theorem ownership_of_strong {h : Handle} (is : h.qualifier = .strong) :
    h.ownership = .block .strong := by
  obtain ⟨ownership, kind, link⟩ := h
  cases ownership with
  | unique home => cases is
  | weak => cases is
  | block owner =>
    cases owner with
    | strong => rfl
    | _ => cases is

theorem ownership_of_weak {h : Handle} (is : h.qualifier = .weak) : h.ownership = .weak := by
  obtain ⟨ownership, kind, link⟩ := h
  cases ownership with
  | weak => rfl
  | unique home => cases is
  | block owner =>
    cases owner with
    | _ => cases is

/-! ## Creating, sharing and copying -/

theorem create_leads (owner : Owner) (home : AllocatorId) (v : Value) (fallible : Bool)
    (balanced : c.Balanced) :
    Leads raw c.situation (perform (.create owner home v fallible) c) := by
  refine spending_leads balanced fun d balanced => ?_
  cases fallible with
  | true => exact yielding_leads (tryCreate_leads owner home balanced)
  | false => exact yielding_leads (Machine.create_leads owner home balanced)

theorem clone_leads (h : Handle) : Leads raw c.situation (perform (.clone h) c) := by
  unfold perform
  refine provided_leads fun met => ?_
  rw [Bool.and_eq_true] at met
  exact yielding_leads (Machine.clone_leads met.2 (seen_of_knows met.1))

theorem downgrade_leads (h : Handle) : Leads raw c.situation (perform (.downgrade h) c) := by
  unfold perform
  refine provided_leads fun met => ?_
  rw [Bool.and_eq_true, decide_eq_true_iff] at met
  exact yielding_leads (Machine.downgrade_leads (ownership_of_strong met.2) (seen_of_knows met.1))

theorem upgrade_leads (h : Handle) : Leads raw c.situation (perform (.upgrade h) c) := by
  unfold perform
  refine provided_leads fun met => ?_
  rw [Bool.and_eq_true, decide_eq_true_iff] at met
  exact yielding_leads (Machine.upgrade_leads (ownership_of_weak met.2) (seen_of_knows met.1))

/-- What can be narrowed can be cloned. -/
theorem isClonable_of_isNarrowable {h : Handle} (narrowable : isNarrowable h = true) :
    isClonable h = true := by
  unfold isNarrowable at narrowable
  unfold isClonable
  cases owns : h.ownership with
  | unique home =>
    rw [owns] at narrowable
    cases narrowable
  | weak => rfl
  | block owner =>
    rw [owns] at narrowable
    cases owner with
    | _ => exact narrowable

theorem narrow_leads (h : Handle) (kind : Kind) (place : Place) (checked : Bool)
    (balanced : c.Balanced) :
    Leads raw c.situation (perform (.narrow h kind place checked) c) := by
  unfold perform
  refine provided_leads fun met => ?_
  rw [Bool.and_eq_true] at met
  have clonable := isClonable_of_isNarrowable met.2
  have seen := seen_of_knows met.1
  cases checked with
  | true => exact yielding_leads (Machine.narrow_leads clonable kind place balanced seen)
  | false => exact yielding_leads (narrowTo_leads clonable kind (some place) balanced seen)

/-- The handles inside a value that may be copied can be cloned, and lie in a cell. -/
theorem copyable_of_isCopyable {h : Handle} (copyable : isCopyable h c = true) (v : Value)
    (value : h.value? c.machine.memory = some v) : ∀ k ∈ v.handles, c.machine.Copyable k := by
  intro k member
  unfold isCopyable at copyable
  rw [value] at copyable
  obtain ⟨_, cell, found, rfl⟩ := Handle.exists_cell_of_value? value member
  exact ⟨List.all_eq_true.1 copyable k member, fun l => Memory.refs_pos_of_mem found member⟩

theorem deepCopy_leads (h : Handle) (balanced : c.Balanced) :
    Leads raw c.situation (perform (.deepCopy h) c) := by
  unfold perform
  refine provided_leads fun met => ?_
  rw [Bool.and_eq_true] at met
  exact yielding_leads (Machine.deepCopy_leads (copyable_of_isCopyable met.2) balanced)

/-! ## Moving and letting go -/

theorem take_leads (h : Handle) (balanced : c.Balanced) :
    Leads raw c.situation (perform (.take h) c) := by
  refine spending_leads balanced fun d _ => hold_leads ?_
  have gained : Situation.Leads raw (rest d.machine ([h] ++ (d.held ++ d.forgotten))) _ :=
    .single (.emptyGained (Handle.isEmpty_emptied h))
  exact gained.tail (.reordered (List.Perm.swap _ _ _))

theorem reset_leads (h : Handle) (balanced : c.Balanced) :
    Leads raw c.situation (perform (.reset h) c) := by
  refine spending_leads balanced fun d balanced => yielding_leads ?_
  have gone : (dropHandle h d.machine).Leads raw _ _ _ := dropHandle_leads h balanced
  exact gone.onwards fun _ _ => .single (.emptyGained (Handle.isEmpty_emptied h))

/-- The new handle is in its place however letting go of the old one ends. -/
theorem assign_leads (old new : Handle) (balanced : c.Balanced) :
    Leads raw c.situation (perform (.assign old new) c) := by
  refine spending_leads balanced fun d balanced => ?_
  have gone : (dropHandle old d.machine).Leads raw _ _ _ := dropHandle_leads old balanced
  show Leads raw _ (Run.atEnd (onMachine (dropHandle old)) (hold [new]) d)
  unfold Run.atEnd onMachine Run.within
  cases ended : dropHandle old d.machine with
  | returned u n =>
    rw [ended] at gone
    exact gone
  | unwinding p n =>
    rw [ended] at gone
    exact gone
  | aborted cause n =>
    rw [ended] at gone
    exact gone

/-- What can give its value away is the sole owner of it. -/
theorem sole_of_isSole {h : Handle} (sole : isSole h = true) :
    (∃ home, h.ownership = .unique home) ∨ h.ownership = .block .own := by
  obtain ⟨ownership, kind, link⟩ := h
  cases ownership with
  | unique home => exact .inl ⟨home, rfl⟩
  | weak => cases sole
  | block owner =>
    cases owner with
    | own => exact .inr rfl
    | _ => cases sole

theorem moveOut_leads (h : Handle) (balanced : c.Balanced) :
    Leads raw c.situation (perform (.moveOut h) c) := by
  unfold perform
  refine provided_leads fun sole => spending_leads balanced fun d balanced => yielding_leads ?_
  exact Machine.moveOut_leads trivial (sole_of_isSole sole) balanced

/-! ## Converting -/

/-- The conversions there are. -/
theorem convert_cases {h : Handle} {owner : Owner} {conversion : Run Machine Handle}
    (is : Machine.convert h owner = some conversion) :
    (∃ home o, h.ownership = .unique home ∧ owner = .block o ∧ conversion = fromUnique o h) ∨
      (h.ownership = .block .own ∧ owner = .unique ∧ conversion = intoUnique h) ∨
      (h.ownership = .block .own ∧ ∃ o, (o = .strong ∨ o = .handle) ∧ owner = .block o ∧
        conversion = retagged h o) ∨
      (h.qualifier.isShared = true ∧ owner = .block .own) := by
  unfold Machine.convert at is
  split at is
  next home owns =>
    cases is
    exact .inl ⟨home, .own, owns, rfl, rfl⟩
  next home owns =>
    cases is
    exact .inl ⟨home, .discard, owns, rfl, rfl⟩
  next home owns =>
    cases is
    exact .inl ⟨home, .collect, owns, rfl, rfl⟩
  next owns =>
    cases is
    exact .inr (.inl ⟨owns, rfl, rfl⟩)
  next owns =>
    cases is
    exact .inr (.inr (.inl ⟨owns, .strong, .inl rfl, rfl, rfl⟩))
  next owns =>
    cases is
    exact .inr (.inr (.inl ⟨owns, .handle, .inr rfl, rfl, rfl⟩))
  next owns =>
    refine .inr (.inr (.inr ⟨?_, rfl⟩))
    rw [Handle.qualifier, owns]
    rfl
  next owns =>
    refine .inr (.inr (.inr ⟨?_, rfl⟩))
    rw [Handle.qualifier, owns]
    rfl
  next => cases is

theorem ownership_of_isShared {h : Handle} (shared : h.qualifier.isShared = true) :
    h.ownership = .block .strong ∨ h.ownership = .block .handle := by
  obtain ⟨ownership, kind, link⟩ := h
  cases ownership with
  | unique home => cases shared
  | weak => cases shared
  | block owner =>
    cases owner with
    | strong => exact .inl rfl
    | handle => exact .inr rfl
    | _ => cases shared

/-- A shared handle becomes the sole owner, or it is let go of, or lost in a panic. -/
theorem intoOwn_leads {h : Handle} (shared : h.qualifier.isShared = true)
    (balanced : (rest c.machine (h :: (c.held ++ c.forgotten))).Balanced) :
    Leads raw (rest c.machine (h :: (c.held ++ c.forgotten))) (intoOwn h c) := by
  have owns := ownership_of_isShared shared
  unfold intoOwn
  cases link : h.link with
  | none =>
    have empty : h.isEmpty = true := by
      rw [Handle.isEmpty, link]
      rfl
    exact hold_leads ((Relation.ReflTransGen.single (.emptyLost empty)).tail (.emptyGained rfl))
  | some l =>
    obtain ⟨alone, asked, told⟩ :=
      canOwnAlone_books (l := l) balanced.books (seen_of_mem (List.mem_cons_self ..))
    show Leads raw _ (((canOwnAlone h l c.machine).mapState
        fun m => { c with machine := m }).andThen
      fun alone d => (if alone then yielding (retagged h .own) ([·])
        else do
          Run.onUnwind (onMachine (logRefusal h l.cell)) (lose [h])
          yielding (dropHandle h) fun _ => [.empty (.block .own) h.kind] : Run Client Unit) d)
    rw [asked]
    cases alone with
    | true => exact yielding_leads (retagged_leads trivial (.unshare owns (told rfl)))
    | false =>
      have said : (logRefusal h l.cell c.machine).Leads raw
          (rest c.machine (h :: (c.held ++ c.forgotten))) _ _ :=
        aside_leads (logRefusal_undisturbed h l.cell)
      show Leads raw _ ((Run.onUnwind (onMachine (logRefusal h l.cell)) (lose [h]) c).andThen
        fun _ => yielding (dropHandle h) fun _ => [.empty (.block .own) h.kind])
      unfold Run.onUnwind onMachine Run.within
      cases ended : logRefusal h l.cell c.machine with
      | returned u n =>
        rw [ended] at said
        refine Leads.after ?_ said
        have gone : (dropHandle h n).Leads raw _ _ _ := dropHandle_leads h (balanced.leads said)
        exact yielding_leads (gone.onwards fun _ _ => .single (.emptyGained rfl))
      | unwinding p n =>
        rw [ended] at said
        exact lose_leads said
      | aborted cause n =>
        rw [ended] at said
        exact said

theorem convert_leads (h : Handle) (owner : Owner) (balanced : c.Balanced) :
    Leads raw c.situation (perform (.convert h owner) c) := by
  refine spending_leads balanced fun d balanced => ?_
  show Leads raw _ (convert h owner d)
  unfold convert
  by_cases alone : mustBeAlone h owner = true
  · rw [if_pos alone]
    unfold mustBeAlone at alone
    rw [Bool.and_eq_true] at alone
    exact intoOwn_leads alone.1 balanced
  · rw [if_neg alone]
    cases is : Machine.convert h owner with
    | none => exact hold_leads .refl
    | some conversion =>
      rcases convert_cases is with ⟨home, o, owns, rfl, rfl⟩ | ⟨owns, rfl, rfl⟩ |
        ⟨owns, o, shared, rfl, rfl⟩ | ⟨shared, rfl⟩
      · exact yielding_leads (fromUnique_leads trivial owns o balanced)
      · exact yielding_leads (intoUnique_leads trivial owns balanced)
      · exact yielding_leads (retagged_leads trivial (.share owns shared))
      · refine absurd ?_ alone
        rw [mustBeAlone, shared]
        rfl

/-! ## Values and neighbours -/

theorem exchange_leads (cell : CellId) (v : Value) (balanced : c.Balanced) :
    Leads raw c.situation (perform (.exchange cell v) c) := by
  refine spending_leads balanced fun d balanced => ?_
  unfold exchange
  rw [Run.bind_apply]
  show Leads raw _ ((Outcome.returned ((d.machine.memory.cell? cell).map (·.value)) d).andThen _)
  cases found : d.machine.memory.cell? cell with
  | none => exact hold_leads .refl
  | some old =>
    show Leads raw _ ((if old.value.kind = v.kind then _ else _ : Run Client Unit) d)
    by_cases same : old.value.kind = v.kind
    · rw [if_pos same]
      have changed : d.machine.memory.change ⟨cell, []⟩ (fun _ => v) =
          d.machine.memory.setCell cell { old with value := v } := by
        unfold Memory.change
        rw [found]
        rfl
      show Leads raw _ (hold old.value.handles
        { d with machine := { d.machine with memory := d.machine.memory.change ⟨cell, []⟩ _ } })
      rw [changed]
      exact hold_leads (.single (.rewritten found (List.perm_append_comm_assoc _ _ _)))
    · rw [if_neg same]
      exact hold_leads .refl

/-- A place where a node is has both of its neighbours. -/
theorem isSome_back_of_isNodeAt {p : Place} (node : isNodeAt p c = true) :
    ((c.machine.memory.read? p).bind Value.back?).isSome := by
  obtain ⟨next, there⟩ := Option.isSome_iff_exists.1 node
  obtain ⟨v, read, held⟩ := Option.bind_eq_some_iff.1 there
  rw [read]
  cases v with
  | node label next back => rfl
  | _ => cases held

theorem linkNext_leads (p : Place) (h : Handle) (balanced : c.Balanced) :
    Leads raw c.situation (perform (.linkNext p h) c) := by
  unfold perform
  refine provided_leads fun met => ?_
  rw [Bool.and_eq_true, Bool.and_eq_true, decide_eq_true_iff] at met
  obtain ⟨⟨known, strong⟩, node⟩ := met
  exact yielding_leads
    (Machine.linkNext_leads (ownership_of_strong strong) (seen_of_knows known) node balanced)

theorem linkBack_leads (p : Place) (h : Handle) (balanced : c.Balanced) :
    Leads raw c.situation (perform (.linkBack p h) c) := by
  unfold perform
  refine provided_leads fun met => ?_
  rw [Bool.and_eq_true, Bool.and_eq_true, decide_eq_true_iff] at met
  obtain ⟨⟨known, strong⟩, node⟩ := met
  exact yielding_leads (Machine.linkBack_leads (ownership_of_strong strong) (seen_of_knows known)
    (isSome_back_of_isNodeAt node) balanced)

/-! ## Storage and allocators -/

theorem allocateFor_leads (v : Value) (a : AllocatorId) (l : Layout) (offset : Nat)
    (balanced : c.Balanced) : Leads raw c.situation (perform (.allocateFor v a l offset) c) := by
  refine spending_leads balanced fun d _ => ?_
  let destructor : Destructor := ⟨offset, d.machine.memory.cells.next⟩
  obtain ⟨answer, n, asked⟩ := allocate_returns a l (some destructor) d.machine
  show Leads raw _ (((Machine.allocate a l (some destructor) d.machine).mapState fun m =>
    { d with machine := m }).andThen _)
  rw [asked]
  cases answer with
  | error e => exact hold_leads (.single (.refused (by rintro _ ⟨⟩; rfl) asked))
  | ok grant => exact Relation.ReflTransGen.single (.registered asked trivial)

theorem allocate_leads (a : AllocatorId) (l : Layout) :
    Leads raw c.situation (perform (.allocate a l) c) := by
  obtain ⟨answer, n, asked⟩ := allocate_returns a l none c.machine
  refine yielding_leads ?_
  rw [asked]
  cases answer with
  | error e => exact .single (.refused (fun _ is => by cases is) asked)
  | ok grant => exact .single (.requested asked)

theorem release_leads (a : AllocatorId) (exit : Exit) (balanced : c.Balanced) :
    Leads raw c.situation (perform (.release a exit) c) := by
  cases exit with
  | reset => exact yielding_leads (releaseArena_leads a balanced)
  | tearDown => exact yielding_leads (tearDown_leads a balanced)
  | drop => exact yielding_leads (dropArena_leads a balanced)

/-! ## Any operation -/

/-- Every operation goes from situation to situation. -/
theorem perform_leads (op : Operation) (allowed : op.isRaw = true → raw) (balanced : c.Balanced) :
    Leads raw c.situation (perform op c) := by
  cases op with
  | create owner home v fallible => exact create_leads owner home v fallible balanced
  | destroy v =>
    exact spending_leads balanced fun d balanced => yielding_leads (dropValue_leads v balanced)
  | clone h => exact clone_leads h
  | downgrade h => exact downgrade_leads h
  | upgrade h => exact upgrade_leads h
  | narrow h kind place checked => exact narrow_leads h kind place checked balanced
  | deepCopy h => exact deepCopy_leads h balanced
  | take h => exact take_leads h balanced
  | reset h => exact reset_leads h balanced
  | assign old new => exact assign_leads old new balanced
  | drop h =>
    exact spending_leads balanced fun d balanced => yielding_leads (dropHandle_leads h balanced)
  | forget h => exact spending_leads balanced fun d _ => lose_leads .refl
  | convert h owner => exact convert_leads h owner balanced
  | moveOut h => exact moveOut_leads h balanced
  | set h d =>
    unfold perform
    exact provided_leads fun known =>
      yielding_leads (changeIfExclusive_leads d (seen_of_knows known) balanced)
  | exchange cell v => exact exchange_leads cell v balanced
  | linkNext p h => exact linkNext_leads p h balanced
  | linkBack p h => exact linkBack_leads p h balanced
  | unlinkNext p => exact yielding_leads (resetHandle_leads Value.isSlot_next balanced)
  | allocateFor v a l offset => exact allocateFor_leads v a l offset balanced
  | allocate a l => exact allocate_leads a l
  | deallocate a address l => exact yielding_leads (.single (.deallocated (allowed rfl) rfl))
  | retire a address l => exact yielding_leads (.single (.retired (allowed rfl) rfl))
  | makeHeap => exact yielding_leads (.single (.heapMade rfl))
  | makeArena name config => exact yielding_leads (.single (.arenaMade rfl))
  | release a exit => exact release_leads a exit balanced
  | act actions =>
    exact yielding_leads (aside_leads (onProcess_undisturbed (Process.perform_silent _ _)))
  | caught => exact yielding_leads (aside_leads fun _ => ⟨rfl, rfl⟩)

/-! ## Runs -/

/-- An attempt leads where the operation does. -/
theorem attempt_leads (op : Operation) (allowed : op.isRaw = true → raw) (balanced : c.Balanced) :
    Leads raw c.situation (attempt op c) := by
  have leads := perform_leads op allowed balanced
  show Leads raw _ ((Run.catchingWith id (perform op) c).andThen fun _ d => .returned () d)
  unfold Run.catchingWith
  cases ended : perform op c with
  | returned u d =>
    rw [ended] at leads
    exact leads
  | unwinding p d =>
    rw [ended] at leads
    exact leads
  | aborted cause d =>
    rw [ended] at leads
    exact leads

/-- A run goes from situation to situation. -/
theorem run_leads (ops : List Operation) (allowed : ∀ op ∈ ops, op.isRaw = true → raw)
    (balanced : c.Balanced) : Leads raw c.situation (run ops c) := by
  induction ops generalizing c with
  | nil => exact Relation.ReflTransGen.refl
  | cons op ops ih =>
    have first := attempt_leads op (allowed op (List.mem_cons_self ..)) balanced
    show Leads raw _ ((attempt op c).andThen fun _ d => run ops d)
    have allowed := fun op member => allowed op (List.mem_cons_of_mem _ member)
    exact first.andThen fun _ d led => (ih allowed (balanced.leads led)).after led

/-- A run leaves a balanced client, unless it ends the process. -/
theorem run_balanced (ops : List Operation) (balanced : c.Balanced) :
    (run ops c).Ensures (fun _ d => d.Balanced) Balanced := by
  have leads : Leads True c.situation (run ops c) := run_leads ops (fun _ _ _ => trivial) balanced
  exact leads.ensures fun _ led => balanced.leads led

/-- However a run ends, it leaves a sound machine. -/
theorem run_sound (ops : List Operation) (balanced : c.Balanced) :
    (run ops c).state.machine.Sound := by
  have led : Leads True c.situation (run ops c) := run_leads ops (fun _ _ _ => trivial) balanced
  obtain ⟨t, leads, is⟩ := led.exists_state
  rw [← is]
  exact (balanced.leads leads).sound

/-- In a fresh memory there is no cell. -/
theorem start_vacant (p : Process) (c : CellId) : (start p).machine.memory.cell? c = none := rfl

/-- A client on a fresh memory is balanced. -/
theorem start_balanced (p : Process) : (start p).Balanced :=
  balanced_of_books (fun _ => ⟨fun _ => rfl, rfl, rfl, rfl, rfl, rfl, rfl⟩)
    { lawful := trivial
      subjects := nofun
      bases := nofun
      bounded := nofun
      arenas := by
        intro id a there
        cases id with
        | zero => cases there
        | succ id => cases there
      audited := by
        intro id a there
        cases id with
        | zero =>
          cases there
          rfl
        | succ id => cases there
      unborn := fun _ _ => ⟨rfl, rfl⟩ }

/-! ## Operations that are followed by letting go -/

/-- A client that lets go of a handle goes on without it, whether or not a destructor panics. -/
theorem attempt_drop {steps : Nat} {h : Handle} {left : List Handle} {o : Outcome Machine Unit}
    (taken : takeAll [h] c.held = some left)
    (ended : drained steps [.drop h] [] c.machine = some o)
    (alive : ∀ cause n, o ≠ .aborted cause n) :
    attempt (.drop h) c = .returned () { c with machine := o.state, held := left } := by
  have gone : dropHandle h c.machine = o := drain_of_drained ended
  have performed : perform (.drop h) c =
      (onMachine (dropHandle h) { c with held := left }).andThen fun _ d => .returned () d := by
    show spending [h] (yielding (dropHandle h) fun _ => []) c = _
    unfold spending
    rw [taken]
    rfl
  show (Run.catchingWith id (perform (.drop h)) c).andThen _ = _
  unfold Run.catchingWith
  rw [performed]
  unfold onMachine Run.within
  dsimp only
  rw [gone]
  cases o with
  | returned u n => rfl
  | unwinding payload n => rfl
  | aborted cause n => exact absurd rfl (alive cause n)

/-- One more operation after others. -/
theorem run_append {ops : List Operation} {op : Operation} {d : Client}
    (done : run ops c = .returned () d) : run (ops ++ [op]) c = attempt op d := by
  unfold run at done ⊢
  rw [Run.forAll_append, done]
  show (attempt op d).andThen (fun _ e => .returned () e) = _
  cases attempt op d <;> rfl

/-- What a client is like that lets go of a handle after other operations can be computed. -/
theorem exists_dropped {p : Process} (steps : Nat) (ops : List Operation) (h : Handle)
    (check : Client → Bool) (returns : (run ops (start p)).returns = true)
    (checked : let c := (run ops (start p)).state
      ((takeAll [h] c.held).bind fun left =>
        (drained steps [.drop h] [] c.machine).map fun o =>
          (match o with
            | .aborted .. => false
            | _ => check { c with machine := o.state, held := left })) = some true) :
    ∃ d, run (ops ++ [.drop h]) (start p) = .returned () d ∧ check d = true := by
  obtain ⟨left, taken, checked⟩ := Option.bind_eq_some_iff.1 checked
  obtain ⟨o, ended, checked⟩ := Option.map_eq_some_iff.1 checked
  have alive : ∀ cause n, o ≠ .aborted cause n := by
    rintro cause n rfl
    cases checked
  refine ⟨_, (run_append (Outcome.eq_returned returns)).trans (attempt_drop taken ended alive), ?_⟩
  cases o with
  | returned u n => exact checked
  | unwinding payload n => exact checked
  | aborted cause n => cases checked

end Client

end Custody
