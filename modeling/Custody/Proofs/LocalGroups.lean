import Custody.Proofs.Abreast
import Custody.Proofs.Moves

/-!
# Local groups in place of strong ones

A program that shares values among strong owners and never observes them can share them among local
owners instead: `Statement.asLocal` is the statement that it carries out then. Nobody can tell the
difference: `Scope.run_corresponds`. Each statement has the same answer or panics with the same
payload in both runs, and after it the variables are empty or have values alike, the counts are the
same, the same values were destroyed in the same order, and the allocators are as they were.
-/

namespace Custody

namespace Statement

/-- Whether a statement is one that strong and local owners have in common, in a program that has
no local owners yet. -/
def isCommon : Statement → Bool
  | create owner .. => owner != .block .handle
  | share _ owner => owner != .handle
  | release .. => false
  | _ => true

/-- The statement with local owners in place of strong ones. -/
def asLocal : Statement → Statement
  | create owner home v fallible => create owner.asLocal home v fallible
  | share i owner => share i owner.asLocal
  | other => other

end Statement

namespace Handle

theorem isClonable_asLocal (h : Handle) : Session.isClonable h.asLocal = Session.isClonable h :=
  h.twin_asLocal.isClonable

theorem isNarrowable_asLocal (h : Handle) :
    Session.isNarrowable h.asLocal = Session.isNarrowable h := by
  obtain ⟨ownership, kind, link⟩ := h
  cases ownership with
  | block owner => cases owner <;> rfl
  | _ => rfl

theorem isShared_asLocal (h : Handle) : h.asLocal.qualifier.isShared = h.qualifier.isShared := by
  obtain ⟨ownership, kind, link⟩ := h
  cases ownership with
  | block owner => cases owner <;> rfl
  | _ => rfl

/-- A handle that is not shared stands for itself. -/
theorem asLocal_of_exclusive (h : Handle) (exclusive : Session.isClonable h = false) :
    h.asLocal = h := by
  obtain ⟨ownership, kind, link⟩ := h
  cases ownership with
  | block owner =>
    cases owner with
    | strong => cases exclusive
    | _ => rfl
  | _ => rfl

/-- Among handles that are not local, those that are alike have alike counterparts. -/
theorem isAlike_asLocal {a b : Handle} (first : a.ownership ≠ .block .handle)
    (second : b.ownership ≠ .block .handle) :
    Session.isAlike a.asLocal b.asLocal = Session.isAlike a b := by
  obtain ⟨ownership, kind, link⟩ := a
  obtain ⟨ownership', kind', link'⟩ := b
  have same : (ownership.asLocal.qualifier == ownership'.asLocal.qualifier) =
      (ownership.qualifier == ownership'.qualifier) := by
    have apart {o : Ownership} {owner : BlockOwner} (is : o = .block owner)
        (other : o ≠ .block .handle) : owner ≠ .handle := fun same => other (same ▸ is)
    cases ownership with
    | block owner =>
      have first := apart rfl first
      cases ownership' with
      | block owner' =>
        have second := apart rfl second
        cases owner <;> cases owner' <;> first | rfl | contradiction
      | _ => cases owner <;> rfl
    | _ =>
      cases ownership' with
      | block owner' => cases owner' <;> rfl
      | _ => rfl
  exact congrArg (· && kind == kind') same

end Handle

/-! ## Allocators that are made -/

namespace Machine

variable {m n : Machine}

theorem makeHeap_paired (twins : m.Twins n) : (makeHeap m).Paired Eq Twins (makeHeap n) := by
  unfold makeHeap
  rw [twins.memory.allocators]
  exact .returned rfl ⟨twins.process.after (.same _),
    { twins.memory with allocators := rfl }⟩

theorem makeArena_paired (name : Option String) (config : ArenaConfig) (twins : m.Twins n) :
    (makeArena name config m).Paired Eq Twins (makeArena name config n) := by
  unfold makeArena
  rw [twins.memory.allocators, twins.memory.nextArena]
  exact .returned rfl ⟨twins.process.after (.same _),
    { twins.memory with allocators := rfl, nextArena := rfl }⟩

end Machine

/-! ## Who owns what is made -/

namespace Machine

variable {m n : Machine} {h g : Handle} {kind : Kind}

theorem ownership_of_narrowTo {target : Option Place}
    (done : narrowTo h kind target m = .returned g n) : g.ownership = h.ownership := by
  unfold narrowTo at done
  generalize h.link = link at done
  cases link with
  | none =>
    cases done
    rfl
  | some l =>
    cases target with
    | none =>
      cases done
      rfl
    | some place =>
      obtain ⟨_, o, -, rest⟩ := Run.returned_of_bind done
      cases rest
      rfl

theorem ownership_of_narrow {place : Place} (done : narrow h kind place m = .returned g n) :
    g.ownership = h.ownership := by
  have done : (if surrounds h kind place m.memory then narrowTo h kind (some place)
    else pure (.empty h.ownership kind) : Run Machine Handle) m = .returned g n := done
  split at done
  · exact ownership_of_narrowTo done
  · cases done
    rfl

theorem ownership_ne_of_owner {owner : Owner} (owns : h.ownership ≠ .block .handle)
    (isOwner : h.owner? = some owner) (home : AllocatorId) :
    owner.ownership home ≠ .block .handle := by
  obtain ⟨ownership, kind, link⟩ := h
  cases ownership with
  | weak => cases isOwner
  | unique _ =>
    cases isOwner
    exact nofun
  | block owner =>
    cases isOwner
    exact owns

/-- A copy has no local owner if the original has none. -/
theorem ownership_of_deepCopy (owns : h.ownership ≠ .block .handle)
    (done : deepCopy h m = .returned g n) : g.ownership ≠ .block .handle := by
  have emptied (missing : h.owner? = none ∨ h.value? m.memory = none ∨ h.home? m.memory = none) :
      g.ownership ≠ .block .handle := by
    rw [deepCopy_of_none missing] at done
    cases done
    exact owns
  cases isOwner : h.owner? with
  | none => exact emptied (.inl isOwner)
  | some owner =>
    cases value : h.value? m.memory with
    | none => exact emptied (.inr (.inl value))
    | some v =>
      cases lies : h.home? m.memory with
      | none => exact emptied (.inr (.inr lies))
      | some home =>
        rw [deepCopy_of_some isOwner value lies] at done
        obtain ⟨w, o, -, made⟩ := Run.returned_of_bind done
        rw [(houses_create made).handle]
        exact ownership_ne_of_owner owns isOwner home

/-- To ask whether a handle is alone changes nothing. -/
theorem canOwnAlone_leads {k : List Handle} (l : Link) (balanced : (Situation.rest m k).Balanced)
    (member : h ∈ k) :
    (canOwnAlone h l m).Leads True (.rest m k) (fun _ => k) k := by
  obtain ⟨alone, asked, -⟩ := canOwnAlone_books (l := l) balanced.books
    (seen_of_mem (List.mem_map_of_mem member))
  rw [asked]
  exact .refl

theorem retagged_ends (h : Handle) (owner : BlockOwner) (m : Machine) :
    ∃ n, retagged h owner m = .returned (h.held (.block owner)) n := by
  unfold retagged
  cases h.link with
  | none => exact ⟨_, rfl⟩
  | some l => exact ⟨_, rfl⟩

end Machine

namespace Scope

open Session Situation

/-- Scopes of two runs whose machines are twins. The variables of the second have local owners
where those of the first have strong ones. -/
structure Twins (s t : Scope) : Prop where
  machine : s.machine.Twins t.machine
  locals : t.locals = s.locals.map Handle.asLocal
  held : t.held = s.held
  /-- The first run has no local owners. -/
  strong : ∀ h ∈ s.locals, h.ownership ≠ .block .handle

/-- Two runs between two statements. -/
structure Abreast (s t : Scope) : Prop where
  twins : s.Twins t
  first : s.Balanced
  second : t.Balanced
  directed : t.situation.Directed

variable {α α' β β' : Type} {s t : Scope} {i : Nat} {h g : Handle}

/-- Where both runs have got on to. -/
theorem Abreast.after {l l' : List Handle} (abreast : s.Abreast t)
    (leads : Situation.Leads True s.situation (rest s.machine l))
    (leads' : Situation.Leads True t.situation (rest t.machine l')) :
    s.machine.Abreast l t.machine l' :=
  ⟨abreast.twins.machine, abreast.first.leads leads, abreast.second.leads leads',
    abreast.directed.leads leads' abreast.second⟩

theorem Twins.local? (twins : s.Twins t) (there : s.locals[i]? = some h) :
    t.locals[i]? = some h.asLocal := by
  rw [twins.locals, List.getElem?_map, there]
  rfl

/-- The handles of a variable are on the books. -/
theorem Abreast.booked (abreast : s.Abreast t) (there : s.locals[i]? = some h) :
    s.machine.Booked h t.machine h.asLocal := by
  have machines : s.machine.Abreast s.outside t.machine t.outside :=
    abreast.after .refl .refl
  refine machines.booked h.twin_asLocal ?_ ?_
  · exact List.mem_append_left _ (List.mem_of_getElem? there)
  · exact List.mem_append_left _ (List.mem_of_getElem? (abreast.twins.local? there))

theorem Twins.strong_of_local (twins : s.Twins t) (there : s.locals[i]? = some h) :
    h.ownership ≠ .block .handle :=
  twins.strong h (List.mem_of_getElem? there)

/-- Another handle in a variable. -/
theorem Twins.set (twins : s.Twins t) (owns : g.ownership ≠ .block .handle) :
    Twins { s with locals := s.locals.set i g } { t with locals := t.locals.set i g.asLocal } := by
  refine { twins with locals := ?_, strong := fun h member => ?_ }
  · show t.locals.set i g.asLocal = (s.locals.set i g).map Handle.asLocal
    rw [List.map_set, twins.locals]
  · rcases List.mem_or_eq_of_mem_set member with member | rfl
    · exact twins.strong h member
    · exact owns

/-- One variable fewer. -/
theorem Twins.erase (twins : s.Twins t) (i : Nat) :
    Twins { s with locals := s.locals.eraseIdx i } { t with locals := t.locals.eraseIdx i } := by
  refine { twins with locals := ?_, strong := fun h member => ?_ }
  · show t.locals.eraseIdx i = (s.locals.eraseIdx i).map Handle.asLocal
    rw [← List.eraseIdx_map, twins.locals]
  · exact twins.strong h (List.mem_of_mem_eraseIdx member)

/-- One variable more. -/
theorem Twins.declare (twins : s.Twins t) (owns : g.ownership ≠ .block .handle) :
    Twins { s with locals := g :: s.locals } { t with locals := g.asLocal :: t.locals } := by
  refine { twins with locals := ?_, strong := fun h member => ?_ }
  · show g.asLocal :: t.locals = (g :: s.locals).map Handle.asLocal
    rw [List.map_cons, twins.locals]
  · rcases List.mem_cons.1 member with rfl | member
    · exact owns
    · exact twins.strong h member

/-- What may be given to shared owners may be given to their local counterparts. -/
theorem isSharable_asLocal (h : Handle) (owner : BlockOwner) :
    isSharable h.asLocal owner.asLocal = isSharable h owner := by
  obtain ⟨ownership, kind, link⟩ := h
  unfold isSharable
  cases ownership with
  | block o => cases o <;> cases owner <;> rfl
  | _ => rfl

/-! ## What statements are made of -/

theorem onMachine_paired {V : α → β → Prop} {act : Run Machine α} {act' : Run Machine β}
    (twins : s.Twins t) (paired : (act s.machine).Paired V Machine.Twins (act' t.machine)) :
    (onMachine act s).Paired V Twins (onMachine act' t) :=
  paired.mapState fun _ _ machine => { twins with machine := machine }

theorem withVariable_paired {act act' : Handle → Run Scope Answer} (twins : s.Twins t)
    (paired : ∀ h, s.locals[i]? = some h → (act h s).Paired Eq Twins (act' h.asLocal t)) :
    (withVariable i act s).Paired Eq Twins (withVariable i act' t) := by
  unfold withVariable
  rw [twins.locals, List.getElem?_map]
  cases there : s.locals[i]? with
  | none => exact .returned rfl twins
  | some h => exact paired h there

theorem provided_paired {condition : Bool} {act act' : Run Scope Answer} (twins : s.Twins t)
    (paired : condition = true → (act s).Paired Eq Twins (act' t)) :
    (provided condition act s).Paired Eq Twins (provided condition act' t) := by
  unfold provided
  cases condition with
  | false => exact .returned rfl twins
  | true => exact paired rfl

theorem declaring_paired {act act' : Run Machine Handle} (twins : s.Twins t)
    (paired : (act s.machine).Paired (fun g g' => g' = g.asLocal) Machine.Twins (act' t.machine))
    (owns : ∀ g n, act s.machine = .returned g n → g.ownership ≠ .block .handle) :
    (declaring act s).Paired Eq Twins (declaring act' t) := by
  refine Run.bind_paired (onMachine_paired twins paired) ?_
  rintro g _ u v ended - rfl twins
  obtain ⟨n, returned, rfl⟩ := returned_of_onMachine ended
  exact .returned rfl (twins.declare (owns g n returned))

theorem letGo_paired {k k' : List Handle} (twins : s.Twins t)
    (abreast : s.machine.Abreast (h :: k) t.machine (h.asLocal :: k')) :
    (letGo h s).Paired Eq Twins (letGo h.asLocal t) := by
  refine Run.bind_paired
    (onMachine_paired twins (Machine.dropHandle_paired h.twin_asLocal abreast)) ?_
  exact fun _ _ _ _ _ _ _ twins => .returned rfl twins

/-! ## Statements -/

theorem create_paired {owner : Owner} (home : AllocatorId) (v : Value) (fallible : Bool)
    (common : owner ≠ .block .handle) (abreast : s.Abreast t) :
    (perform (.create owner home v fallible) s).Paired Eq Twins
      (perform (.create owner.asLocal home v fallible) t) := by
  show (spending v.handles (create owner home v fallible) s).Paired Eq Twins
    (spending v.handles (create owner.asLocal home v fallible) t)
  have twins := abreast.twins
  unfold spending
  rw [twins.held]
  cases taken : Client.takeAll v.handles s.held with
  | none => exact .returned rfl twins
  | some left =>
    have machines := abreast.after (spent_leads taken)
      (spent_leads (twins.held ▸ taken))
    have twins : Twins { s with held := left } { t with held := left } := { twins with held := rfl }
    have owns : owner.ownership home ≠ .block .handle := by
      cases owner with
      | unique => exact nofun
      | block o => exact fun is => common (congrArg Owner.block (Ownership.block.inj is))
    cases fallible with
    | false =>
      refine declaring_paired twins (Machine.create_paired owner home machines) fun g n made => ?_
      rw [(Machine.houses_create made).handle]
      exact owns
    | true =>
      have machines := Machine.tryCreate_paired owner home machines
      refine Run.bind_paired (onMachine_paired twins machines) ?_
      rintro answer _ u w ended - rfl twins
      cases answer with
      | error e => exact .returned rfl twins
      | ok g =>
        obtain ⟨n, made, rfl⟩ := returned_of_onMachine ended
        refine .returned rfl (twins.declare ?_)
        rw [(Machine.houses_tryCreate made).handle]
        exact owns

/-- An operation of the machine, and what follows where both runs have got on to. -/
theorem onMachine_abreast {V : α → β → Prop} {W : α' → β' → Prop} {act : Run Machine α}
    {act' : Run Machine β} {next : α → Run Scope α'} {next' : β → Run Scope β'}
    {returns : α → List Handle} {returns' : β → List Handle} {k k' : List Handle}
    (twins : s.Twins t) (abreast : s.machine.Abreast k t.machine k')
    (first : (act s.machine).Paired V Machine.Twins (act' t.machine))
    (leads : (act s.machine).Leads True (rest s.machine k) returns k)
    (leads' : (act' t.machine).Leads True (rest t.machine k') returns' k')
    (second : ∀ a b u w, V a b → Twins { s with machine := u } { t with machine := w } →
      u.Abreast (returns a) w (returns' b) →
      (next a { s with machine := u }).Paired W Twins (next' b { t with machine := w })) :
    ((onMachine act >>= next) s).Paired W Twins ((onMachine act' >>= next') t) := by
  refine Run.bind_paired (onMachine_paired twins first) fun a b _ _ ended ended' answers twins => ?_
  obtain ⟨u, returned, rfl⟩ := returned_of_onMachine ended
  obtain ⟨w, returned', rfl⟩ := returned_of_onMachine ended'
  rw [returned] at leads
  rw [returned'] at leads'
  exact second a b u w answers twins (abreast.after leads leads' twins.machine)

theorem deepCopy_paired (i : Nat) (abreast : s.Abreast t) :
    (perform (.deepCopy i) s).Paired Eq Twins (perform (.deepCopy i) t) := by
  have twins := abreast.twins
  refine withVariable_paired twins fun h there => ?_
  show Outcome.Paired _ _
    (provided (Client.isCopyable h s.toClient) (declaring (Machine.deepCopy h)) s)
    (provided (Client.isCopyable h.asLocal t.toClient) (declaring (Machine.deepCopy h.asLocal)) t)
  have same : Client.isCopyable h.asLocal t.toClient = Client.isCopyable h s.toClient := by
    unfold Client.isCopyable
    rw [Machine.value?_asLocal twins.machine]
  rw [same]
  refine provided_paired twins fun copyable => declaring_paired twins ?_ fun g n => ?_
  · have machines : s.machine.Abreast s.outside t.machine t.outside := abreast.after .refl .refl
    exact Machine.deepCopy_paired (Client.copyable_of_isCopyable copyable)
      (Client.copyable_of_isCopyable (same.trans copyable)) machines
  · exact Machine.ownership_of_deepCopy (twins.strong_of_local there)

theorem clone_paired (i : Nat) (abreast : s.Abreast t) (countable : s.machine.Countable) :
    (perform (.clone i) s).Paired Eq Twins (perform (.clone i) t) := by
  have twins := abreast.twins
  refine withVariable_paired twins fun h there => ?_
  rw [h.isClonable_asLocal]
  refine provided_paired twins fun _ => declaring_paired twins ?_ fun g n made => ?_
  · exact (Machine.clone_paired (abreast.booked there) countable).mono fun _ _ is => by
      rw [is.1, is.2]
  · obtain ⟨_, _, -, rest⟩ := Run.returned_of_bind made
    cases rest
    exact twins.strong_of_local there

theorem narrow_paired (i : Nat) (kind : Kind) (place : Place) (checked : Bool)
    (abreast : s.Abreast t) (countable : s.machine.Countable) :
    (perform (.narrow i kind place checked) s).Paired Eq Twins
      (perform (.narrow i kind place checked) t) := by
  have twins := abreast.twins
  refine withVariable_paired twins fun h there => ?_
  rw [h.isNarrowable_asLocal]
  have booked := abreast.booked there
  have strong := twins.strong_of_local there
  refine provided_paired twins fun _ => ?_
  cases checked with
  | true =>
    refine declaring_paired twins (Machine.narrow_paired kind place booked countable) ?_
    intro g n made
    rw [Machine.ownership_of_narrow made]
    exact strong
  | false =>
    refine declaring_paired twins (Machine.narrowTo_paired kind (some place) booked countable) ?_
    intro g n made
    rw [Machine.ownership_of_narrowTo made]
    exact strong

theorem take_paired (i : Nat) (twins : s.Twins t) :
    (perform (.take i) s).Paired Eq Twins (perform (.take i) t) := by
  refine withVariable_paired twins fun h there => ?_
  have strong := twins.strong_of_local there
  have emptied : h.emptied.ownership ≠ .block .handle := strong
  exact .returned rfl ((twins.set emptied).declare strong)

theorem reset_paired (i : Nat) (abreast : s.Abreast t) :
    (perform (.reset i) s).Paired Eq Twins (perform (.reset i) t) := by
  refine withVariable_paired abreast.twins fun h there => ?_
  have strong := abreast.twins.strong_of_local there
  exact letGo_paired (abreast.twins.set (g := h.emptied) strong)
    (abreast.after (emptied_leads there) (emptied_leads (abreast.twins.local? there)))

theorem drop_paired (i : Nat) (abreast : s.Abreast t) :
    (perform (.drop i) s).Paired Eq Twins (perform (.drop i) t) := by
  refine withVariable_paired abreast.twins fun h there => ?_
  exact letGo_paired (abreast.twins.erase i)
    (abreast.after (removed_leads there) (removed_leads (abreast.twins.local? there)))

theorem forget_paired (i : Nat) (twins : s.Twins t) :
    (perform (.forget i) s).Paired Eq Twins (perform (.forget i) t) :=
  withVariable_paired twins fun _ _ => .returned rfl { twins.erase i with }

theorem stow_paired (i : Nat) (twins : s.Twins t) :
    (perform (.stow i) s).Paired Eq Twins (perform (.stow i) t) := by
  refine withVariable_paired twins fun h there => ?_
  rw [h.isClonable_asLocal]
  refine provided_paired twins fun exclusive => ?_
  have same : h.asLocal = h := h.asLocal_of_exclusive (by simpa using exclusive)
  refine .returned rfl { twins.erase i with held := ?_ }
  show h.asLocal :: t.held = h :: s.held
  rw [same, twins.held]

theorem share_paired (i : Nat) {owner : BlockOwner} (common : owner ≠ .handle)
    (abreast : s.Abreast t) :
    (perform (.share i owner) s).Paired Eq Twins (perform (.share i owner.asLocal) t) := by
  have twins := abreast.twins
  refine withVariable_paired twins fun h there => ?_
  rw [isSharable_asLocal h owner]
  refine provided_paired twins fun _ => ?_
  have retagged := Machine.retagged_paired h owner twins.machine
  refine declaring_paired (twins.erase i) retagged fun g n made => ?_
  obtain ⟨n', ended⟩ := Machine.retagged_ends h owner s.machine
  cases ended.symm.trans made
  exact fun is => common (Ownership.block.inj is)

theorem get_paired (i : Nat) (twins : s.Twins t) :
    (perform (.get i) s).Paired Eq Twins (perform (.get i) t) :=
  withVariable_paired twins fun h _ =>
    .returned (congrArg Answer.value (Machine.value?_asLocal twins.machine h).symm) twins

theorem count_paired (i : Nat) (twins : s.Twins t) :
    (perform (.count i) s).Paired Eq Twins (perform (.count i) t) :=
  withVariable_paired twins fun h _ =>
    .returned (congrArg Answer.count (Machine.owners_asLocal twins.machine h).symm) twins

theorem deref_paired (i : Nat) (twins : s.Twins t) :
    (perform (.deref i) s).Paired Eq Twins (perform (.deref i) t) := by
  refine withVariable_paired twins fun h _ => ?_
  refine Run.bind_paired (onMachine_paired twins (Machine.target_paired h twins.machine)) ?_
  rintro place _ u w - - rfl twins
  exact .returned (congrArg Answer.value (twins.machine.memory.read? place).symm) twins

theorem set_paired (i : Nat) (d : Datum) (abreast : s.Abreast t) :
    (perform (.set i d) s).Paired Eq Twins (perform (.set i d) t) := by
  refine withVariable_paired abreast.twins fun h there => ?_
  refine Run.bind_paired (onMachine_paired abreast.twins
    (Machine.changeIfExclusive_paired (·.setTo d) (abreast.booked there))) ?_
  rintro changed _ u w - - rfl twins
  exact .returned rfl twins

theorem assign_paired (i j : Nat) (abreast : s.Abreast t) (countable : s.machine.Countable) :
    (perform (.assign i j) s).Paired Eq Twins (perform (.assign i j) t) := by
  have twins := abreast.twins
  refine withVariable_paired twins fun a first => withVariable_paired twins fun b second => ?_
  have first' := twins.local? first
  have second' := twins.local? second
  have strong := twins.strong_of_local second
  rw [Handle.isAlike_asLocal (twins.strong_of_local first) strong]
  refine provided_paired twins fun met => ?_
  rw [Bool.and_eq_true, bne_iff_ne] at met
  unfold assign
  rw [b.isClonable_asLocal]
  by_cases clonable : isClonable b = true
  · rw [if_pos clonable, if_pos clonable]
    have clonable' := b.isClonable_asLocal.trans clonable
    refine onMachine_abreast twins (abreast.after .refl .refl)
      (Machine.clone_paired (abreast.booked second) countable)
      (Machine.clone_leads clonable (seen_of_local second))
      (Machine.clone_leads clonable' (seen_of_local second')) ?_
    rintro g g' u w ⟨rfl, rfl⟩ twins machines
    exact letGo_paired (twins.set strong)
      (machines.after (replaced_leads first _) (replaced_leads first' _) twins.machine)
  · rw [if_neg clonable, if_neg clonable]
    have emptied := twins.set (i := j) (g := b.emptied) strong
    exact letGo_paired (emptied.set strong)
      (abreast.after (moved_leads first second met.1) (moved_leads first' second' met.1))

/-- A shared handle becomes the sole owner in both runs, or in neither. -/
theorem madeOwn_paired (twins : s.Twins t)
    (abreast : s.machine.Abreast (h :: s.outside) t.machine (h.asLocal :: t.outside)) :
    (intoOwn h s).Paired Eq Twins (intoOwn h.asLocal t) := by
  unfold intoOwn
  rw [Handle.link_asLocal]
  cases link : h.link with
  | none => exact .returned rfl (twins.declare nofun)
  | some l =>
    have first := List.mem_cons_self (a := h) (l := s.outside)
    have second := List.mem_cons_self (a := h.asLocal) (l := t.outside)
    refine onMachine_abreast twins abreast
      (Machine.canOwnAlone_paired l (abreast.booked h.twin_asLocal first second))
      (Machine.canOwnAlone_leads l abreast.first first)
      (Machine.canOwnAlone_leads l abreast.second second) ?_
    rintro alone _ u w rfl twins machines
    cases alone with
    | true =>
      have retagged := Machine.retagged_paired h .own twins.machine
      refine Run.bind_paired (onMachine_paired twins retagged) ?_
      rintro g _ v x ended - rfl twins
      obtain ⟨n, returned, rfl⟩ := returned_of_onMachine ended
      obtain ⟨n', is⟩ := Machine.retagged_ends h .own u
      cases is.symm.trans returned
      exact .returned rfl (twins.declare nofun)
    | false =>
      -- A panic of the sink loses the handle in both runs; what is lost need not correspond.
      refine Run.bind_paired (Run.onUnwind_paired
        (onMachine_paired twins (Machine.logRefusal_paired h l.cell twins.machine))
        fun _ _ _ _ _ twins => .returned trivial { twins with }) ?_
      rintro _ _ v x said said' - twins
      obtain ⟨n, returned, rfl⟩ := returned_of_onMachine (Run.returned_of_onUnwind said)
      obtain ⟨n', returned', rfl⟩ := returned_of_onMachine (Run.returned_of_onUnwind said')
      have leads : (Machine.logRefusal h l.cell u).Leads True (rest u (h :: s.outside)) _ _ :=
        Machine.aside_leads (Machine.logRefusal_undisturbed h l.cell)
      have leads' : (Machine.logRefusal h.asLocal l.cell w).Leads True
          (rest w (h.asLocal :: t.outside)) _ _ :=
        Machine.aside_leads (Machine.logRefusal_undisturbed h.asLocal l.cell)
      rw [returned] at leads
      rw [returned'] at leads'
      have gone := Machine.dropHandle_paired h.twin_asLocal
        (machines.after leads leads' twins.machine)
      refine Run.bind_paired (onMachine_paired twins gone) fun _ _ _ _ _ _ _ twins => ?_
      exact .returned rfl (twins.declare nofun)

theorem intoOwn_paired (i : Nat) (abreast : s.Abreast t) :
    (perform (.intoOwn i) s).Paired Eq Twins (perform (.intoOwn i) t) := by
  refine withVariable_paired abreast.twins fun h there => ?_
  rw [h.isShared_asLocal]
  refine provided_paired abreast.twins fun _ => ?_
  exact madeOwn_paired (abreast.twins.erase i)
    (abreast.after (removed_leads there) (removed_leads (abreast.twins.local? there)))

/-- An allocator is made in both runs. -/
theorem made_paired {act act' : Run Machine AllocatorId} (twins : s.Twins t)
    (paired : (act s.machine).Paired Eq Machine.Twins (act' t.machine)) :
    ((do let _ ← onMachine act; return .done : Run Scope Answer) s).Paired Eq Twins
      ((do let _ ← onMachine act'; return .done : Run Scope Answer) t) :=
  Run.bind_paired (onMachine_paired twins paired) fun _ _ _ _ _ _ _ twins => .returned rfl twins

/-- Every statement that strong and local owners have in common ends in the same way for both. -/
theorem perform_paired (st : Statement) (common : st.isCommon = true) (abreast : s.Abreast t)
    (countable : s.machine.Countable) :
    (perform st s).Paired Eq Twins (perform st.asLocal t) := by
  have twins := abreast.twins
  cases st with
  | create owner home v fallible =>
    exact create_paired home v fallible (bne_iff_ne.1 common) abreast
  | deepCopy i => exact deepCopy_paired i abreast
  | clone i => exact clone_paired i abreast countable
  | narrow i kind place checked => exact narrow_paired i kind place checked abreast countable
  | take i => exact take_paired i twins
  | assign i j => exact assign_paired i j abreast countable
  | reset i => exact reset_paired i abreast
  | drop i => exact drop_paired i abreast
  | forget i => exact forget_paired i twins
  | stow i => exact stow_paired i twins
  | share i owner => exact share_paired i (bne_iff_ne.1 common) abreast
  | intoOwn i => exact intoOwn_paired i abreast
  | get i => exact get_paired i twins
  | deref i => exact deref_paired i twins
  | set i d => exact set_paired i d abreast
  | count i => exact count_paired i twins
  | makeHeap => exact made_paired twins (Machine.makeHeap_paired twins.machine)
  | makeArena name config =>
    exact made_paired twins (Machine.makeArena_paired name config twins.machine)
  | release a exit => cases common
  | caught =>
    exact .returned rfl
      { twins with machine := ⟨twins.machine.process.panicCaught, twins.machine.memory⟩ }

/-! ## Programs -/

theorem attempt_paired (st : Statement) (common : st.isCommon = true) (abreast : s.Abreast t)
    (countable : s.machine.Countable) :
    (attempt st s).Paired Eq Twins (attempt st.asLocal t) :=
  Run.catchingWith_paired (perform_paired st common abreast countable) fun _ _ twins => twins

/-- Two runs are abreast after a statement if they were before it. -/
theorem Abreast.attempted {st st' : Statement} {answer answer' : Except Payload Answer}
    {d e : Scope} (abreast : s.Abreast t) (done : attempt st s = .returned answer d)
    (done' : attempt st' t = .returned answer' e) (twins : d.Twins e) : d.Abreast e := by
  have leads : Leads True s.situation (attempt st s) :=
    attempt_leads st (fun _ => trivial) abreast.first
  have leads' : Leads True t.situation (attempt st' t) :=
    attempt_leads st' (fun _ => trivial) abreast.second
  rw [done] at leads
  rw [done'] at leads'
  exact ⟨twins, abreast.first.leads leads, abreast.second.leads leads',
    abreast.directed.leads leads' abreast.second⟩

/-- What a program has counted before each of its statements. -/
theorem returned_cons {st : Statement} {sts : List Statement} {answer : Except Payload Answer}
    {answers : List (Except Payload Answer)} {d e : Scope} (k : Nat)
    (done : attempt st s = .returned answer d) (rest : run (sts.take k) d = .returned answers e) :
    run ((st :: sts).take (k + 1)) s = .returned (answer :: answers) e := by
  show (attempt st s).andThen (fun answer d =>
    (run (sts.take k) d).andThen fun answers e => .returned (answer :: answers) e) = _
  rw [done]
  show (run (sts.take k) d).andThen (fun answers e => .returned (answer :: answers) e) = _
  rw [rest]
  rfl

/-- Programs that are abreast stay so, as long as no count reaches the limit. -/
theorem run_paired (sts : List Statement) (common : ∀ st ∈ sts, st.isCommon = true)
    (abreast : s.Abreast t)
    (countable : ∀ k < sts.length, ∀ answers d, run (sts.take k) s = .returned answers d →
      d.machine.Countable) :
    (run sts s).Paired Eq Twins (run (sts.map Statement.asLocal) t) := by
  -- What carries the induction is that the books of both runs balance, also after a panic.
  induction sts generalizing s t with
  | nil => exact .returned rfl abreast.twins
  | cons st sts ih =>
    have first := attempt_paired st (common st (List.mem_cons_self ..)) abreast
      (countable 0 (Nat.succ_pos _) [] s rfl)
    refine Run.bind_paired first ?_
    rintro answer _ d e done done' rfl twins
    have rest := ih (fun st member => common st (List.mem_cons_of_mem _ member))
      (abreast.attempted done done' twins)
      fun k less answers f ran =>
        countable (k + 1) (Nat.succ_lt_succ less) _ f (returned_cons k done ran)
    refine Run.bind_paired rest ?_
    rintro answers _ f g - - rfl twins
    exact .returned rfl twins

/-- What a program that shares values among strong owners and one that shares them among local
owners have in common. -/
structure Corresponds (s t : Scope) : Prop where
  /-- The handles in the variables own alike, but for strong ones that have local ones in their
  place. They are empty alike, show values alike, and as many owners are counted. -/
  locals : List.Forall₂ (fun h g => g = h.asLocal ∧ g.isEmpty = h.isEmpty ∧
    g.value? t.machine.memory = h.value? s.machine.memory ∧
    g.owners t.machine.memory = h.owners s.machine.memory) s.locals t.locals
  /-- Destructors announced the same, in the same order. -/
  announced : t.machine.process.trace.filterMap Event.announced? =
    s.machine.process.trace.filterMap Event.announced?
  /-- The same was done with storage, in the same order. -/
  deeds : t.machine.deeds = s.machine.deeds
  /-- The allocators and the heap have the same accounts. -/
  allocators : t.machine.memory.allocators = s.machine.memory.allocators
  heap : t.machine.memory.heap = s.machine.memory.heap
  /-- As many panics are under way, and as many faults were reported. -/
  thread : t.machine.process.thread = s.machine.process.thread
  faults : t.machine.process.faults = s.machine.process.faults

theorem Twins.corresponds (twins : s.Twins t) : s.Corresponds t where
  locals := by
    rw [twins.locals, List.forall₂_map_right_iff, List.forall₂_same]
    intro h _
    exact ⟨rfl, rfl, Machine.value?_asLocal twins.machine h,
      Machine.owners_asLocal twins.machine h⟩
  announced := twins.machine.process.filterMap_trace fun _ _ events => by cases events <;> rfl
  deeds := twins.machine.process.filterMap_trace fun _ _ events => by cases events <;> rfl
  allocators := twins.machine.memory.allocators
  heap := twins.machine.memory.heap
  thread := twins.machine.process.thread
  faults := twins.machine.process.faults

/-- Programs begin abreast if the process is impartial. -/
theorem abreast_opened {p : Process} {ops : List Operation} {c : Client}
    (before : Client.run ops (Client.start p) = .returned () c)
    (impartial : c.machine.process.Impartial) : (opened c).Abreast (opened c) := by
  have start := Client.start_balanced p
  have leads : Client.Leads True (Client.start p).situation (Client.run ops (Client.start p)) :=
    Client.run_leads ops (fun _ _ _ => trivial) start
  rw [before] at leads
  have balanced : (opened c).Balanced := start.leads leads
  refine ⟨⟨⟨impartial, .refl _⟩, rfl, rfl, nofun⟩, balanced, balanced, ?_⟩
  exact (directed_of_vacant (Client.start_vacant p)).leads leads start

/-- Local owners in place of strong ones that nobody observes make no difference. Whatever a client
did before, a program whose destructors may panic carries out statements that both kinds of owners
have in common, and each strong group has room for one more owner before each statement. Then after
any number of statements the program with local groups has ended in the same way, with the same
answers and the same panics, and what it has corresponds to what the other has. The log tells of a
handle that could not become the sole owner which kind of handle it was; sinks and hooks do not act
on that. -/
theorem run_corresponds {p : Process} {ops : List Operation} {c : Client} {sts : List Statement}
    (before : Client.run ops (Client.start p) = .returned () c)
    (impartial : c.machine.process.Impartial) (common : ∀ st ∈ sts, st.isCommon = true)
    (countable : ∀ k < sts.length, ∀ answers s,
      run (sts.take k) (opened c) = .returned answers s → s.machine.Countable) (k : Nat) :
    (run (sts.take k) (opened c)).Paired Eq Corresponds
      (run ((sts.take k).map Statement.asLocal) (opened c)) := by
  have paired := run_paired (sts.take k) (fun st member => common st (List.mem_of_mem_take member))
    (abreast_opened before impartial) fun j less answers s ran => ?_
  · exact paired.monoState fun s t twins => twins.corresponds
  · rw [List.length_take, Nat.lt_min] at less
    rw [List.take_take, Nat.min_eq_left (Nat.le_of_lt less.1)] at ran
    exact countable j less.2 answers s ran

/-- A value with two owners: one of them cannot become the sole owner, and the log calls it by
another name. -/
theorem run_corresponds_refused : ∃ sts answers s t,
    run (sts.take 5) (opened (Client.start (({} : Process).listening .debug))) =
      .returned answers s ∧
    run ((sts.take 5).map Statement.asLocal)
      (opened (Client.start (({} : Process).listening .debug))) = .returned answers t ∧
    s.locals.map (·.qualifier) = [.strong, .strong] ∧
    t.locals.map (·.qualifier) = [.handle, .handle] ∧ s.Corresponds t ∧
    sts[5]? = some (.intoOwn 0) ∧
    (run sts (opened (Client.start (({} : Process).listening .debug)))).Paired Eq Corresponds
      (run (sts.map Statement.asLocal)
        (opened (Client.start (({} : Process).listening .debug)))) := by
  let c : Client := Client.start (({} : Process).listening .debug)
  let sts : List Statement :=
    [.create (.block .own) systemAllocator (.tracked "!kept") true, .share 0 .strong, .clone 0,
      .count 0, .set 1 (.text "changed"), .intoOwn 0]
  have before : Client.run [] c = .returned () c := rfl
  have impartial : c.machine.process.Impartial := by
    refine Process.impartial_of_alike (fun sink is => ?_) nofun
    obtain rfl : Process.recordingSink "log" = sink := Option.some.inj is
    exact Process.recordingSink_alike "log"
  have few : ∀ k < 6, ∀ place ∈ (run (sts.take k) (opened c)).state.machine.memory.cells.places,
      ∀ cell ∈ place, ∀ state ∈ cell.state, state.owners < maxRefCount := by
    decide +kernel
  have common : ∀ st ∈ sts, st.isCommon = true := by decide
  have countable : ∀ k < sts.length, ∀ answers s,
      run (sts.take k) (opened c) = .returned answers s → s.machine.Countable := by
    intro k less answers s ran
    have few := few k less
    rw [ran] at few
    exact Machine.countable_of_all few
  have corresponds := run_corresponds before impartial common countable
  obtain ⟨answers, done⟩ := Outcome.exists_returned (o := run (sts.take 5) (opened c))
    (by decide +kernel)
  have paired := corresponds 5
  rw [done] at paired
  generalize ended : run ((sts.take 5).map Statement.asLocal) (opened c) = o at paired
  have locals : o.state.locals.map (·.qualifier) = [.handle, .handle] := by
    rw [← ended]
    decide +kernel
  cases paired with
  | returned same states =>
    subst same
    exact ⟨sts, answers, _, _, done, ended, by decide +kernel, locals, states, rfl, corresponds 6⟩

end Scope

end Custody
