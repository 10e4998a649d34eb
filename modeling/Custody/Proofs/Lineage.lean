import Custody.Proofs.Directions
import Custody.Proofs.Operations

/-!
# Where handles come from

Nobody makes handles out of nothing. A handle is created for a new cell, or it is had from another
one: it is the same reference once more, held in the same way or in another, or narrowed, or it is
left empty. `Handle.Stems` is had-from, and `Descends` says of a handle that it stems from one that
a client could see at first or from the handle that a later cell was created with.

`Breeds` says of an operation that it makes no others: given handles that descend it yields handles
that descend, and those inside values go on to do so. It is carried through the combinators of
`Run`, and holds of all operations on handles. Blocks have no part in this, so it holds whether or
not the books balance; and of handles that are on no book nothing is needed.
-/

namespace Custody

/-- A handle is had from others. -/
inductive Handle.Stems (root : Handle → Prop) : Handle → Prop
  | root {h : Handle} (is : root h) : Stems root h
  | empty {h : Handle} (none : h.link = none) : Stems root h
  | held {h : Handle} (o : Ownership) (stems : Stems root h) : Stems root (h.held o)
  | narrowed {h : Handle} (kind : Kind) (target : Place) (stems : Stems root h) :
      Stems root (h.narrowed kind target)

namespace Handle.Stems

variable {root other : Handle → Prop} {h : Handle}

/-- What stems from handles that stem from others stems from those. -/
theorem bind (stems : h.Stems root) (roots : ∀ g, root g → g.Stems other) : h.Stems other := by
  induction stems with
  | root is => exact roots _ is
  | empty none => exact .empty none
  | held o stems ih => exact ih.held o
  | narrowed kind target stems ih => exact ih.narrowed kind target

/-- A handle refers to the cell of the handle that it stems from. -/
theorem cell (stems : h.Stems root) {l : Link} (link : h.link = some l) :
    ∃ g k, root g ∧ g.link = some k ∧ k.cell = l.cell := by
  induction stems generalizing l with
  | @root h is => exact ⟨h, l, is, link, rfl⟩
  | empty none => cases none.symm.trans link
  | held o stems ih => exact ih link
  | @narrowed h kind target stems ih =>
    obtain ⟨k, refers, rfl⟩ := Option.map_eq_some_iff.1 link
    obtain ⟨g, k', is, origin, same⟩ := ih refers
    exact ⟨g, k', is, origin, same⟩

/-- A handle that was not narrowed refers to what the handle refers to that it stems from. -/
theorem whole (stems : h.Stems root) {l : Link} (link : h.link = some l)
    (whole : l.projected = false) : ∃ g, root g ∧ g.link = some l ∧ g.kind = h.kind := by
  induction stems with
  | @root h is => exact ⟨h, is, link, rfl⟩
  | empty none => cases none.symm.trans link
  | held o stems ih => exact ih link
  | narrowed kind target stems ih =>
    obtain ⟨k, refers, rfl⟩ := Option.map_eq_some_iff.1 link
    cases whole

end Handle.Stems

namespace Machine

/-- Every cell that was there is there, with a value of the same type. -/
def Remembers (m n : Machine) : Prop :=
  ∀ c cell, m.memory.cell? c = some cell →
    ∃ later, n.memory.cell? c = some later ∧ later.kind = cell.kind

instance : IsPreorder Machine Remembers where
  refl _ _ cell found := ⟨cell, found, rfl⟩
  trans m n o first second := by
    intro c cell found
    obtain ⟨between, there, same⟩ := first c cell found
    obtain ⟨later, there, same'⟩ := second c between there
    exact ⟨later, there, same'.trans same⟩

variable {m n : Machine}

theorem Persists.remembers (h : m.Persists n) : m.Remembers n := by
  intro c cell found
  obtain ⟨later, there, endures⟩ := h c cell found
  exact ⟨later, there, endures.kind⟩

/-- Every value has the type that its cell was made with. -/
def Typed (m : Machine) : Prop :=
  ∀ c cell, m.memory.cell? c = some cell → cell.value.kind = cell.kind

/-- A handle lies inside some value. -/
def Stocks (m : Machine) (h : Handle) : Prop :=
  ∃ c cell, m.memory.cell? c = some cell ∧ h ∈ cell.value.handles

end Machine

open Machine

/-- What handles stem from: those that a client can see at first, and the handles that later cells
are created with. -/
inductive Root (first : Client) (m : Machine) : Handle → Prop
  | held {h : Handle} (is : h ∈ first.held) : Root first m h
  | stocked {h : Handle} (is : first.machine.Stocks h) : Root first m h
  | born {c : CellId} {cell : Cell} (o : Ownership) (found : m.memory.cell? c = some cell)
      (new : first.machine.memory.cell? c = none) : Root first m (.whole o cell.kind c)

/-- A handle descends from what a client could see at first, or from the handle that a later cell
was created with. -/
abbrev Descends (first : Client) (m : Machine) : Handle → Prop := Handle.Stems (Root first m)

/-- The cells that there were at first are there, with values of their types if that was so at
first, and the handles inside values descend. -/
structure Bred (first : Client) (m : Machine) : Prop where
  remembers : first.machine.Remembers m
  typed : first.machine.Typed → m.Typed
  stocked : ∀ h, m.Stocks h → Descends first m h

variable {first : Client} {m n : Machine} {h : Handle}

/-- What descends goes on to do so. -/
theorem Descends.later (descends : Descends first m h) (remembers : m.Remembers n) :
    Descends first n h := by
  refine descends.bind fun g root => ?_
  cases root with
  | held is => exact .root (.held is)
  | stocked is => exact .root (.stocked is)
  | @born c cell o found new =>
    obtain ⟨later, there, same⟩ := remembers c cell found
    rw [← same]
    exact .root (.born o there new)

/-- At first all handles inside values descend. -/
theorem bred_self (first : Client) : Bred first first.machine :=
  ⟨refl_of Remembers _, fun typed => typed, fun _ kept => .root (.stocked kept)⟩

/-! ## What goes on -/

/-- The cells are still there, and the handles inside values descend. -/
structure Upheld (first : Client) (m n : Machine) : Prop where
  bred : Bred first n
  remembers : m.Remembers n

theorem Upheld.trans {o : Machine} (one : Upheld first m n) (two : Upheld first n o) :
    Upheld first m o :=
  ⟨two.bred, trans_of Remembers one.remembers two.remembers⟩

/-- The cells are still there, and if the handles inside values descended, they still do. -/
def Sustains (first : Client) (m n : Machine) : Prop := Bred first m → Upheld first m n

instance (first : Client) : IsPreorder Machine (Sustains first) where
  refl m bred := ⟨bred, refl_of Remembers m⟩
  trans _ _ _ one two bred := (one bred).trans (two (one bred).bred)

/-- It goes on where cells stay with their types, and come to hold only handles that descend. -/
theorem Bred.onwards (bred : Bred first m) (remembers : m.Remembers n)
    (typed : m.Typed → n.Typed) (stocked : ∀ h, n.Stocks h → m.Stocks h ∨ Descends first n h) :
    Upheld first m n := by
  refine ⟨⟨trans_of Remembers bred.remembers remembers, fun was => typed (bred.typed was),
    fun h is => ?_⟩, remembers⟩
  rcases stocked h is with before | descends
  · exact Descends.later (bred.stocked h before) remembers
  · exact descends

theorem sustains_of_cells (same : n.memory.cells = m.memory.cells) : Sustains first m n := by
  have found (c : CellId) : n.memory.cell? c = m.memory.cell? c := by
    unfold Memory.cell?
    rw [same]
  intro bred
  refine bred.onwards (fun c cell there => ⟨cell, (found c).trans there, rfl⟩)
    (fun typed c cell there => typed c cell ((found c).symm.trans there)) ?_
  rintro h ⟨c, cell, there, member⟩
  exact .inl ⟨c, cell, (found c).symm.trans there, member⟩

theorem sustains_of_settled (settled : m.Settled n) : Sustains first m n := by
  intro bred
  refine bred.onwards settled.continues.persists.remembers ?_ ?_
  · intro typed c later found
    obtain ⟨cell, there, aged⟩ := (settled.cells c).exists_left found
    have kind : later.kind = cell.kind := aged.endures.kind
    rw [kind, ← typed c cell there]
    rcases aged.value with same | spent
    · rw [same]
    · rw [spent, Value.kind_remains]
  · rintro h ⟨c, later, found, member⟩
    obtain ⟨cell, there, aged⟩ := (settled.cells c).exists_left found
    rcases aged.value with same | spent
    · rw [same] at member
      exact .inl ⟨c, cell, there, member⟩
    · rw [spent] at member
      exact .inr (.empty (Value.link_of_mem_remains member))

/-- It goes on where one cell is replaced. -/
theorem sustains_setCell {c : CellId} {old new : Cell} (found : m.memory.cell? c = some old)
    (kind : new.kind = old.kind) (value : new.value.kind = old.value.kind)
    (handles : ∀ h ∈ new.value.handles, h ∈ old.value.handles ∨ Descends first m h) :
    Sustains first m { m with memory := m.memory.setCell c new } := by
  have remembers : m.Remembers { m with memory := m.memory.setCell c new } := by
    intro d cell there
    by_cases here : d = c
    · subst here
      cases found.symm.trans there
      exact ⟨new, Memory.cell?_setCell_self found new, kind⟩
    · exact ⟨cell, (Memory.cell?_setCell_of_ne _ new here).trans there, rfl⟩
  have earlier {d : CellId} {cell : Cell} (there : (m.memory.setCell c new).cell? d = some cell) :
      d = c ∧ cell = new ∨ m.memory.cell? d = some cell := by
    by_cases here : d = c
    · subst here
      cases (Memory.cell?_setCell_self found new).symm.trans there
      exact .inl ⟨rfl, rfl⟩
    · exact .inr ((Memory.cell?_setCell_of_ne _ new here).symm.trans there)
  intro bred
  refine bred.onwards remembers ?_ ?_
  · intro typed d cell there
    rcases earlier there with ⟨rfl, rfl⟩ | there
    · rw [value, kind]
      exact typed d old found
    · exact typed d cell there
  · rintro h ⟨d, cell, there, member⟩
    rcases earlier there with ⟨rfl, rfl⟩ | there
    · rcases handles h member with before | descends
      · exact .inl ⟨d, old, found, before⟩
      · exact .inr (Descends.later descends remembers)
    · exact .inl ⟨d, cell, there, member⟩

/-- A value keeps its type when a field is replaced, and so when a part of it is changed. -/
theorem Value.kind_changePart_cons (f : Value → Value) (v : Value) (field : Field)
    (rest : List Field) : (v.changePart f (field :: rest)).kind = v.kind := by
  have replaced (part : Value) : (v.setField field part).kind = v.kind := by
    unfold Value.setField
    split <;> rfl
  unfold Value.changePart
  split
  · exact replaced _
  · rfl

/-- It goes on where a value is changed to one of its type, with the handles inside of it and others
that descend. -/
theorem sustains_change (p : Place) (f : Value → Value)
    (kind : ∀ cell, m.memory.cell? p.cell = some cell → (f cell.value).kind = cell.value.kind)
    (handles : ∀ v : Value, ∀ h ∈ (f v).handles, h ∈ v.handles ∨ Descends first m h) :
    Sustains first m { m with memory := m.memory.change p f } := by
  unfold Memory.change
  cases found : m.memory.cell? p.cell with
  | none => exact refl_of (Sustains first) m
  | some cell =>
    refine sustains_setCell found rfl ?_ fun h member => ?_
    · cases path : p.path with
      | nil => exact kind cell found
      | cons field rest => exact Value.kind_changePart_cons f cell.value field rest
    · cases path : p.path with
      | nil =>
        rw [path] at member
        exact handles cell.value h member
      | cons field rest =>
        rw [path] at member
        exact .inl (Value.handles_changePart_cons f cell.value field rest ▸ member)

/-! ## What operations yield -/

/-- Given handles that descend, an operation yields handles that descend, and those inside values go
on to do so, also when it panics. -/
def Breeds {α : Type} (first : Client) (given : List Handle) (act : Run Machine α)
    (yields : α → List Handle) : Prop :=
  ∀ m, Bred first m → (∀ h ∈ given, Descends first m h) →
    (act m).Ensures (fun a n => Upheld first m n ∧ ∀ h ∈ yields a, Descends first n h)
      (Upheld first m)

namespace Breeds

open Outcome

variable {α β : Type} {given : List Handle} {act : Run Machine α} {yields : α → List Handle}
  {last : Run Machine Unit}

/-- An operation that yields nothing but what it was given, what lay inside values, and what it left
empty. -/
theorem of_keeps (kept : act.Keeps (Sustains first))
    (stems : ∀ m a n, act m = .returned a n →
      ∀ h ∈ yields a, Handle.Stems (fun g => g ∈ given ∨ m.Stocks g) h) :
    Breeds first given act yields := by
  intro m bred descend
  have after := kept m bred
  cases ended : act m with
  | returned a n =>
    rw [ended] at after
    refine ⟨after, fun h member => (stems m a n ended h member).bind fun g is => ?_⟩
    rcases is with is | is
    · exact Descends.later (descend g is) after.remembers
    · exact Descends.later (bred.stocked g is) after.remembers
  | unwinding payload n =>
    rw [ended] at after
    exact after
  | aborted cause n => trivial

/-- An operation that yields nothing. -/
theorem of_sustains (kept : act.Keeps (Sustains first)) : Breeds first given act fun _ => [] :=
  of_keeps kept fun _ _ _ _ => List.forall_mem_nil _

theorem pure {a : α} (stems : ∀ h ∈ yields a, Handle.Stems (· ∈ given) h) :
    Breeds first given (Pure.pure a) yields := by
  refine of_keeps (Run.Keeps.pure a) ?_
  rintro m _ _ ⟨⟩ h member
  exact (stems h member).bind fun g is => .root (.inl is)

/-- To answer with what yields nothing. -/
theorem nothing {a : α} (none : yields a = []) : Breeds first given (Pure.pure a) yields := by
  refine .pure fun h member => ?_
  rw [none] at member
  cases member

/-- A handle that stems from what was given is yielded. -/
theorem one {h : Handle} (stems : h.Stems (· ∈ given)) :
    Breeds first given (Pure.pure h) fun g => [g] :=
  pure fun g is => by
    rw [List.mem_singleton.1 is]
    exact stems

/-- To look at something is no more than to find handles inside values. -/
theorem read (f : Memory → α) (found : ∀ m : Machine, ∀ h ∈ yields (f m.memory), m.Stocks h) :
    Breeds first given (ofMemory f) yields := by
  refine of_keeps (Run.Keeps.gets _) ?_
  rintro m _ _ ⟨⟩ h member
  exact .root (.inr (found m h member))

/-- What comes after something that went on goes on from before. -/
private theorem after {m n : Machine} {o : Outcome Machine α} (upheld : Upheld first m n)
    (h : o.Ensures (fun a k => Upheld first n k ∧ ∀ h ∈ yields a, Descends first k h)
      (Upheld first n)) :
    o.Ensures (fun a k => Upheld first m k ∧ ∀ h ∈ yields a, Descends first k h)
      (Upheld first m) :=
  h.mono (fun _ _ both => ⟨upheld.trans both.1, both.2⟩) fun _ => upheld.trans

/-- What is yielded first is given to what comes next, besides what was given before. -/
theorem bind {next : α → Run Machine β} {results : β → List Handle}
    (one : Breeds first given act yields)
    (two : ∀ a, Breeds first (yields a ++ given) (next a) results) :
    Breeds first given (act >>= next) results := by
  intro m bred descend
  refine Run.bind_ensures (one m bred descend) ?_
  rintro a n ⟨upheld, yielded⟩
  refine after upheld (two a n upheld.bred fun h member => ?_)
  rcases List.mem_append.1 member with member | member
  · exact yielded h member
  · exact Descends.later (descend h member) upheld.remembers

/-- One operation after another that yields nothing. -/
theorem andThen {next : α → Run Machine β} {results : β → List Handle}
    (one : act.Keeps (Sustains first)) (two : ∀ a, Breeds first given (next a) results) :
    Breeds first given (act >>= next) results :=
  bind (of_sustains one) two

/-- What is done while a panic passes goes on, or ends the process. -/
private theorem passing {m n : Machine} {payload : Payload} (upheld : Upheld first m n)
    (h : (last n).Ensures (fun _ k => Upheld first n k) (Upheld first n)) :
    (Run.passing payload last n : Outcome Machine α).Ensures
      (fun a k => Upheld first m k ∧ ∀ h ∈ yields a, Descends first k h) (Upheld first m) := by
  unfold Run.passing
  cases ended : last n with
  | returned u k =>
    rw [ended] at h
    exact upheld.trans h
  | _ => trivial

theorem onUnwind (one : Breeds first given act yields)
    (two : Breeds first given last fun _ => []) :
    Breeds first given (Run.onUnwind act last) yields := by
  intro m bred descend
  have done := one m bred descend
  unfold Run.onUnwind
  cases ended : act m with
  | returned a n =>
    rw [ended] at done
    exact done
  | unwinding payload n =>
    rw [ended] at done
    have later := two n done.bred fun h member => Descends.later (descend h member) done.remembers
    exact passing done (later.mono (fun _ _ both => both.1) fun _ h => h)
  | aborted cause n => trivial

theorem atEnd (one : Breeds first given act yields) (two : Breeds first given last fun _ => []) :
    Breeds first given (Run.atEnd act last) yields := by
  intro m bred descend
  have done := one m bred descend
  unfold Run.atEnd
  cases ended : act m with
  | returned a n =>
    rw [ended] at done
    obtain ⟨upheld, yielded⟩ := done
    have later := two n upheld.bred fun h member =>
      Descends.later (descend h member) upheld.remembers
    refine Ensures.andThen (later.mono (fun _ _ both => both.1) fun _ => upheld.trans) ?_
    intro _ k held
    exact ⟨upheld.trans held, fun h member => Descends.later (yielded h member) held.remembers⟩
  | unwinding payload n =>
    rw [ended] at done
    have later := two n done.bred fun h member => Descends.later (descend h member) done.remembers
    exact passing done (later.mono (fun _ _ both => both.1) fun _ h => h)
  | aborted cause n => trivial

end Breeds

namespace Machine

open Run

variable {given : List Handle} {α : Type}

theorem keeps_of_settled {act : Run Machine α} (h : act.Keeps Settled) :
    act.Keeps (Sustains first) := h.mono fun _ _ => sustains_of_settled

theorem keeps_of_sameCells {act : Run Machine α} (h : act.Keeps SameCells) :
    act.Keeps (Sustains first) := h.mono fun _ _ same => sustains_of_cells same.1

theorem keeps_of_undisturbed {act : Run Machine α} (h : act.Keeps Undisturbed) :
    act.Keeps (Sustains first) := keeps_of_settled (h.mono fun _ _ => Undisturbed.settled)

theorem dropHandle_sustains (h : Handle) : (dropHandle h).Keeps (Sustains first) :=
  keeps_of_settled (dropHandle_settled h)

theorem dropValue_sustains (v : Value) : (dropValue v).Keeps (Sustains first) :=
  keeps_of_settled (settle_settled v.plan)

theorem allocate_sustains (id : AllocatorId) (l : Layout) (d : Option Destructor) :
    (allocate id l d).Keeps (Sustains first) := keeps_of_sameCells (allocate_sameCells id l d)

/-! ## Sharing -/

theorem acquire_sustains (h : Handle) : (acquire h).Keeps (Sustains first) := fun m => by
  rw [← state_bind_pure (acquire h) fun _ => h]
  exact keeps_of_settled (clone_settled h) m

theorem clone_breeds (h : Handle) (member : h ∈ given) :
    Breeds first given (clone h) fun g => [g] :=
  .andThen (acquire_sustains h) fun _ => .one (.root member)

theorem downgrade_breeds (h : Handle) (member : h ∈ given) :
    Breeds first given (downgrade h) fun g => [g] :=
  .andThen (acquire_sustains _) fun _ => .one (.held _ (.root member))

theorem upgrade_breeds (h : Handle) (member : h ∈ given) :
    Breeds first given (upgrade h) Option.toList := by
  unfold upgrade
  cases h.link with
  | none => exact .nothing rfl
  | some l =>
    have counts : (recount l.cell BlockState.tryUpgrade).Keeps (Sustains first) :=
      keeps_of_settled (recount_settled l.cell BlockState.owner_tryUpgrade)
    refine .andThen counts fun owned => ?_
    cases owned with
    | false => exact .nothing rfl
    | true =>
      refine .pure fun g is => ?_
      rw [List.mem_singleton.1 is]
      exact .held _ (.root member)

theorem narrowTo_breeds (h : Handle) (kind : Kind) (target : Option Place) (member : h ∈ given) :
    Breeds first given (narrowTo h kind target) fun g => [g] := by
  have none : Breeds first given (pure (.empty h.ownership kind) : Run Machine Handle)
      fun g => [g] := .one (.empty rfl)
  unfold narrowTo
  cases h.link with
  | none => exact none
  | some l =>
    cases target with
    | none => exact none
    | some place =>
      exact .andThen (acquire_sustains h) fun _ => .one (.narrowed kind place (.root member))

theorem narrow_breeds (h : Handle) (kind : Kind) (place : Place) (member : h ∈ given) :
    Breeds first given (narrow h kind place) fun g => [g] := by
  refine .andThen Keeps.get fun m => ?_
  by_cases inside : surrounds h kind place m.memory = true
  · rw [if_pos inside]
    exact narrowTo_breeds h kind (some place) member
  · rw [if_neg inside]
    exact .one (.empty rfl)

/-! ## Creating -/

/-- One cell more is held by what it is created for. -/
theorem addCell_breeds {m n : Machine} {cell : Cell} (added : n.memory = m.memory.addCell cell)
    (bred : Bred first m) (typed : cell.value.kind = cell.kind)
    (descend : ∀ h ∈ cell.value.handles, Descends first m h) :
    Upheld first m n ∧ ∀ o, Descends first n (.whole o cell.kind m.memory.cells.next) := by
  have here : n.memory.cell? m.memory.cells.next = some cell := by
    rw [added]
    exact Memory.cell?_addCell_self _ _
  have other {d : CellId} (ne : d ≠ m.memory.cells.next) :
      n.memory.cell? d = m.memory.cell? d := by
    rw [added]
    exact Memory.cell?_addCell_of_ne _ cell ne
  have apart {d : CellId} {old : Cell} (found : m.memory.cell? d = some old) :
      d ≠ m.memory.cells.next := Nat.ne_of_lt (Slab.lt_next_of_get? found)
  have remembers : m.Remembers n :=
    fun d old found => ⟨old, (other (apart found)).trans found, rfl⟩
  refine ⟨bred.onwards remembers ?_ ?_, fun o => .root (.born o here ?_)⟩
  · intro kinds d there found
    by_cases same : d = m.memory.cells.next
    · subst same
      cases here.symm.trans found
      exact typed
    · exact kinds d there ((other same).symm.trans found)
  · rintro h ⟨d, there, found, member⟩
    by_cases same : d = m.memory.cells.next
    · subst same
      cases here.symm.trans found
      exact .inr (Descends.later (descend h member) remembers)
    · rw [other same] at found
      exact .inl ⟨d, there, found, member⟩
  · cases found : first.machine.memory.cell? m.memory.cells.next with
    | none => rfl
    | some old =>
      obtain ⟨later, there, -⟩ := bred.remembers _ old found
      exact absurd rfl (apart there)

theorem settleIn_breeds (home : AllocatorId) (grant : Grant) (l : Layout) (offset : Nat)
    (state : Option BlockState) (v : Value) (o : Ownership) (members : ∀ h ∈ v.handles, h ∈ given) :
    Breeds first given (settleIn home grant l offset state v) fun c => [.whole o v.kind c] := by
  intro m bred descend
  obtain ⟨upheld, whole⟩ := addCell_breeds (n := (settleIn home grant l offset state v m).state)
    rfl bred rfl fun h member => descend h (members h member)
  refine ⟨upheld, fun h member => ?_⟩
  rw [List.mem_singleton.1 member]
  exact whole o

theorem placeUnique_breeds (home : AllocatorId) (v : Value) (members : ∀ h ∈ v.handles, h ∈ given) :
    Breeds first given (placeUnique home v) fun answer => answer.toOption.toList := by
  refine .andThen (allocate_sustains _ _ _) fun answer => ?_
  cases answer with
  | error e => exact .nothing rfl
  | ok grant =>
    refine .bind (settleIn_breeds home grant _ 0 none v (.unique home) members) fun c => ?_
    exact .pure fun h member => .root (List.mem_append_left _ member)

theorem tryCreateBlock_breeds (owner : BlockOwner) (home : AllocatorId) (v : Value)
    (members : ∀ h ∈ v.handles, h ∈ given) :
    Breeds first given (tryCreateBlock owner home v) fun answer => answer.toOption.toList := by
  unfold tryCreateBlock
  cases v.kind.layout.block? with
  | none => exact .andThen (dropValue_sustains v) fun _ => .nothing rfl
  | some l =>
    refine .andThen (Keeps.gets _) fun subject => ?_
    refine .andThen (allocate_sustains _ _ _) fun answer => ?_
    cases answer with
    | error e => exact .andThen (dropValue_sustains v) fun _ => .nothing rfl
    | ok grant =>
      refine .bind (settleIn_breeds home grant l _ _ v (.block owner) members) fun c => ?_
      exact .pure fun h member => .root (List.mem_append_left _ member)

theorem tryCreate_breeds (owner : Owner) (home : AllocatorId) (v : Value)
    (members : ∀ h ∈ v.handles, h ∈ given) :
    Breeds first given (tryCreate owner home v) fun answer => answer.toOption.toList := by
  cases owner with
  | block o => exact tryCreateBlock_breeds o home v members
  | unique =>
    refine .bind (placeUnique_breeds home v members) fun answer => ?_
    cases answer with
    | error e => exact .andThen (dropValue_sustains v) fun _ => .nothing rfl
    | ok h => exact .pure fun g member => .root (List.mem_append_left _ member)

theorem create_breeds (owner : Owner) (home : AllocatorId) (v : Value)
    (members : ∀ h ∈ v.handles, h ∈ given) :
    Breeds first given (create owner home v) fun h => [h] := by
  have fails (e : AllocError) :
      (failAllocation home e : Run Machine Handle).Keeps (Sustains first) :=
    Keeps.bind (Keeps.gets _) fun _ => keeps_of_undisturbed (fail_undisturbed _)
  have never {more : List Handle} (e : AllocError) :
      Breeds first more (failAllocation home e : Run Machine Handle) fun h => [h] := by
    refine .of_keeps (fails e) fun m h n done => ?_
    obtain ⟨name, k, -, failed⟩ := returned_of_bind done
    have ensured := fail_ensures (α := Handle) (e.toFault name) k
    rw [failed] at ensured
    exact ensured.elim
  cases owner with
  | block o =>
    refine .bind (tryCreateBlock_breeds o home v members) fun answer => ?_
    cases answer with
    | error e => exact never e
    | ok h => exact .pure fun g member => .root (List.mem_append_left _ member)
  | unique =>
    refine .bind (placeUnique_breeds home v members) fun answer => ?_
    cases answer with
    | error e => exact .onUnwind (never e) (.of_sustains (dropValue_sustains v))
    | ok h => exact .pure fun g member => .root (List.mem_append_left _ member)

/-! ## Copying -/

theorem cloneAll_breeds (handles : List Handle) (members : ∀ h ∈ handles, h ∈ given) :
    Breeds first given (cloneAll handles) fun copies => copies := by
  induction handles generalizing given with
  | nil => exact .nothing rfl
  | cons h rest ih =>
    refine .bind (clone_breeds h (members h (List.mem_cons_self ..))) fun copy => ?_
    have others : Breeds first ([copy] ++ given) (cloneAll rest) fun copies => copies :=
      ih fun k member => List.mem_append_right _ (members k (List.mem_cons_of_mem _ member))
    refine .bind (.onUnwind others (.of_sustains (dropHandle_sustains copy))) fun copies => ?_
    refine .pure fun k member => .root ?_
    rcases List.mem_cons.1 member with rfl | member
    · exact List.mem_append_right _ (List.mem_cons_self ..)
    · exact List.mem_append_left _ member

theorem copyValue_breeds (v : Value) (members : ∀ h ∈ v.handles, h ∈ given) :
    Breeds first given (copyValue v) Value.handles := by
  cases v with
  | node label next back =>
    have first' : next ∈ given := members next (List.mem_cons_self ..)
    have second : back ∈ given := members back (List.mem_cons_of_mem _ (List.mem_cons_self ..))
    refine .bind (clone_breeds next first') fun nextCopy => ?_
    refine .bind (.onUnwind (clone_breeds back (List.mem_append_right _ second))
      (.of_sustains (dropHandle_sustains nextCopy))) fun backCopy => ?_
    refine .pure fun h member => .root ?_
    rcases List.mem_cons.1 member with rfl | member
    · exact List.mem_append_right _ (List.mem_cons_self ..)
    · exact List.mem_append_left _ member
  | bundle label held =>
    refine .bind (cloneAll_breeds held members) fun copies => .pure fun h member => .root ?_
    exact List.mem_append_left _ member
  | _ => exact .nothing rfl

/-- The handles inside a value that a handle points at are in stock. -/
theorem stocks_of_value? {h g : Handle} {v : Value} (value : h.value? m.memory = some v)
    (member : g ∈ v.handles) : m.Stocks g := by
  obtain ⟨c, cell, found, rfl⟩ := Handle.exists_cell_of_value? value member
  exact ⟨c, cell, found, member⟩

theorem deepCopy_breeds (h : Handle) : Breeds first given (deepCopy h) fun g => [g] := by
  intro m bred descend
  have looked : ((Run.get : Run Machine Machine) m).Ensures (fun seen n => seen = m ∧ n = m)
      (Upheld first m) := ⟨rfl, rfl⟩
  refine Run.bind_ensures looked ?_
  rintro m n ⟨rfl, rfl⟩
  have empty : Breeds first given (pure h.emptied : Run Machine Handle) fun g => [g] :=
    .one (.empty rfl)
  have none : Upheld first n n ∧ ∀ g ∈ [h.emptied], Descends first n g := empty n bred descend
  dsimp only
  cases h.owner? with
  | none => exact none
  | some owner =>
    cases value : h.value? n.memory with
    | none => exact none
    | some v =>
      cases h.home? n.memory with
      | none => exact none
      | some home =>
        have copied : Breeds first v.handles (copyValue v >>= create owner home) fun g => [g] := by
          refine .bind (copyValue_breeds v fun g member => member) fun copy => ?_
          exact create_breeds owner home copy fun g member => List.mem_append_left _ member
        exact copied n bred fun g member => bred.stocked g (stocks_of_value? value member)

/-! ## Moving -/

theorem settle_sustains (tasks : List Task) : (settle tasks).Keeps (Sustains first) :=
  keeps_of_settled (settle_settled tasks)

/-- What is left of a value has no handles that it had not. -/
theorem remains_sustains (p : Place) :
    (onMemory (·.change p Value.remains)).Keeps (Sustains first) := fun _ =>
  sustains_change p Value.remains (fun cell _ => Value.kind_remains cell.value)
    fun _ _ member => .inr (.empty (Value.link_of_mem_remains member))

theorem moveOut_breeds (h : Handle) :
    Breeds first given (moveOut h) fun v? => v?.elim [] Value.handles := by
  unfold moveOut
  cases h.link with
  | none => exact .nothing rfl
  | some l =>
    have inspects : Breeds first given (ofMemory fun m => (m.cell? l.cell).map (·.value))
        fun v? => v?.elim [] Value.handles := by
      refine .read _ fun m g member => ?_
      cases found : m.memory.cell? l.cell with
      | none =>
        rw [found] at member
        cases member
      | some cell =>
        rw [found] at member
        exact ⟨l.cell, cell, found, member⟩
    refine .bind inspects fun v? => ?_
    have answer : Breeds first (v?.elim [] Value.handles ++ given)
        (pure v? : Run Machine (Option Value)) fun v? => v?.elim [] Value.handles :=
      .pure fun g member => .root (List.mem_append_left _ member)
    refine .andThen (remains_sustains _) fun _ => ?_
    cases h.ownership with
    | unique home => exact .andThen (settle_sustains _) fun _ => answer
    | _ =>
      refine .andThen (Keeps.gets _) fun tasks => ?_
      exact .andThen (settle_sustains tasks) fun _ => answer

theorem fromUnique_breeds (owner : BlockOwner) (h : Handle) :
    Breeds first given (fromUnique owner h) fun g => [g] := by
  refine .andThen Keeps.get fun _ => .bind (moveOut_breeds h) fun v? => ?_
  cases v? with
  | none => exact .one (.empty rfl)
  | some v => exact create_breeds _ _ v fun g member => List.mem_append_left _ member

theorem intoUnique_breeds (h : Handle) : Breeds first given (intoUnique h) fun g => [g] := by
  have none {more : List Handle} (o : Ownership) :
      Breeds first more (pure (.empty o h.kind) : Run Machine Handle) fun g => [g] :=
    .one (.empty rfl)
  refine .andThen Keeps.get fun m => ?_
  cases h.home? m.memory with
  | none => exact none _
  | some home =>
    refine .bind (moveOut_breeds h) fun v? => ?_
    cases v? with
    | none => exact none _
    | some v => exact create_breeds _ _ v fun g member => List.mem_append_left _ member

theorem retag_sustains (c : CellId) (owner : BlockOwner) :
    (retag c owner).Keeps (Sustains first) := by
  intro m
  unfold retag onMemory Run.modify
  dsimp only [Outcome.state]
  cases found : m.memory.cell? c with
  | none => exact refl_of (Sustains first) m
  | some cell => exact sustains_setCell found rfl rfl fun g member => .inl member

theorem retagged_breeds (h : Handle) (owner : BlockOwner) (member : h ∈ given) :
    Breeds first given (retagged h owner) fun g => [g] := by
  have answer : Breeds first given (pure (h.held (.block owner)) : Run Machine Handle)
      fun g => [g] := .one (.held _ (.root member))
  unfold retagged
  cases h.link with
  | none => exact .andThen (Keeps.pure ()) fun _ => answer
  | some l =>
    exact .andThen (retag_sustains l.cell owner) fun _ => answer

theorem isExclusive_sustains (h : Handle) : (isExclusive h).Keeps (Sustains first) := by
  unfold isExclusive
  split
  · exact Keeps.pure _
  · exact Keeps.pure _
  · exact Keeps.pure _
  · exact keeps_of_settled (recount_settled _ fun _ => rfl)

theorem changeIfExclusive_sustains (h : Handle) (d : Datum) :
    (changeIfExclusive h (·.setTo d)).Keeps (Sustains first) := by
  unfold changeIfExclusive
  cases h.target? with
  | none => exact Keeps.pure _
  | some place =>
    refine Keeps.bind (isExclusive_sustains h) fun alone => ?_
    cases alone with
    | false => exact Keeps.pure _
    | true =>
      refine Keeps.bind (fun m => ?_) fun _ => Keeps.pure _
      exact sustains_change place _ (fun cell _ => Value.kind_setTo d cell.value)
        fun v g member => .inl (Value.handles_setTo d v ▸ member)

/-! ## Handles inside values -/

/-- A writer of one handle inside a value leaves the others as they are, and the type. -/
structure Puts (put : Handle → Value → Value) : Prop where
  kind : ∀ h v, (put h v).kind = v.kind
  handles : ∀ h v, ∀ g ∈ (put h v).handles, g = h ∨ g ∈ v.handles

theorem puts_withNext : Puts Value.withNext := by
  refine ⟨fun h v => by cases v <;> rfl, fun h v g member => ?_⟩
  cases v with
  | node label next back =>
    rcases List.mem_cons.1 member with same | member
    · exact .inl same
    · exact .inr (List.mem_cons_of_mem _ member)
  | _ => exact .inr member

theorem puts_withBack : Puts Value.withBack := by
  refine ⟨fun h v => by cases v <;> rfl, fun h v g member => ?_⟩
  cases v with
  | node label next back =>
    rcases List.mem_cons.1 member with same | member
    · exact .inr (same ▸ List.mem_cons_self ..)
    · exact .inl (List.mem_singleton.1 member)
  | _ => exact .inr member

variable {put : Handle → Value → Value}

theorem resetHandle_sustains (puts : Puts put) (p : Place) (held? : Value → Option Handle) :
    (resetHandle p held? put).Keeps (Sustains first) := by
  refine Keeps.bind (Keeps.gets _) fun old? => ?_
  cases old? with
  | none => exact Keeps.pure ()
  | some old =>
    refine Keeps.bind (fun m => ?_) fun _ => dropHandle_sustains old
    refine sustains_change p _ (fun cell _ => puts.kind _ cell.value) fun v g member => ?_
    rcases puts.handles _ v g member with rfl | before
    · exact .inr (.empty rfl)
    · exact .inl before

theorem replaceHandle_breeds (puts : Puts put) (p : Place) (held? : Value → Option Handle)
    (h : Handle) (member : h ∈ given) :
    Breeds first given (replaceHandle p held? put h) fun _ => [] := by
  refine .atEnd (.of_sustains (resetHandle_sustains puts p held?)) ?_
  intro m bred descend
  refine ⟨sustains_change p _ (fun cell _ => puts.kind h cell.value) (fun v g inside => ?_) bred,
    List.forall_mem_nil _⟩
  rcases puts.handles h v g inside with rfl | before
  · exact .inr (descend g member)
  · exact .inl before

theorem linkNext_breeds (p : Place) (h : Handle) (member : h ∈ given) :
    Breeds first given (linkNext p h) fun _ => [] :=
  .bind (clone_breeds h member) fun shared =>
    replaceHandle_breeds puts_withNext p _ shared (List.mem_cons_self ..)

theorem linkBack_breeds (p : Place) (h : Handle) (member : h ∈ given) :
    Breeds first given (linkBack p h) fun _ => [] := by
  refine .bind (downgrade_breeds h member) fun observer => ?_
  refine .atEnd ?_ (.of_sustains (dropHandle_sustains observer))
  exact .bind (clone_breeds observer (List.mem_cons_self ..)) fun shared =>
    replaceHandle_breeds puts_withBack p _ shared (List.mem_cons_self ..)

/-! ## Releasing -/

theorem onMemory_sustains {f : Memory → Memory} (same : ∀ m, (f m).cells = m.cells) :
    (onMemory f).Keeps (Sustains first) := keeps_of_sameCells (onMemory_sameCells same)

theorem noteStorage_sustains (e : StorageEvent) : (noteStorage e).Keeps (Sustains first) :=
  fun _ => sustains_of_cells rfl

theorem runDestructor_sustains (id : AllocatorId) (r : Registration) :
    (runDestructor id r).Keeps (Sustains first) :=
  Keeps.bind (noteStorage_sustains _) fun _ =>
    Keeps.bind (keeps_of_settled (beginDestruction_settled _)) settle_sustains

theorem account_sustains (id : AllocatorId) (a : Arena) (r : ReleaseReport) :
    (account id a r).Keeps (Sustains first) := by
  have logged : (logRelease id a r).Keeps (Sustains first) :=
    Keeps.bind (noteStorage_sustains _) fun _ =>
      Keeps.bind (keeps_of_sameCells (changeAllocator_sameCells id _)) fun _ =>
        keeps_of_undisturbed (write_undisturbed _ _ _ _)
  exact Keeps.bind logged fun _ => keeps_of_undisturbed (reportLeak_undisturbed _ _ _)

theorem releaseArena_sustains (id : AllocatorId) : (releaseArena id).Keeps (Sustains first) := by
  refine Keeps.bind (Keeps.gets _) fun before? => ?_
  cases before? with
  | none => exact Keeps.pure _
  | some before =>
    refine Keeps.bind (noteStorage_sustains _) fun _ => ?_
    refine Keeps.bind (onMemory_sustains fun _ => rfl) fun _ => ?_
    refine Keeps.bind (Keeps.forAll fun r _ => runDestructor_sustains id r) fun _ => ?_
    refine Keeps.bind (Keeps.gets _) fun arena? => ?_
    refine Keeps.bind (keeps_of_sameCells (releaseChunks_sameCells id _)) fun _ => ?_
    dsimp only
    split
    · exact Keeps.bind (account_sustains id _ _) fun _ => Keeps.pure _
    · exact Keeps.bind (Keeps.pure ()) fun _ => Keeps.pure _

theorem dropArena_sustains (id : AllocatorId) : (dropArena id).Keeps (Sustains first) :=
  Keeps.atEnd (Keeps.bind (releaseArena_sustains id) fun _ => Keeps.pure ())
    (keeps_of_sameCells (forgetAllocator_sameCells id))

theorem tearDown_sustains (id : AllocatorId) : (tearDown id).Keeps (Sustains first) :=
  Keeps.atEnd (releaseArena_sustains id) (dropArena_sustains id)

/-! ## Tasks -/

/-- The handles that are let go of in some tasks. -/
def dropped (tasks : List Task) : List Handle := tasks.flatMap Task.handles

theorem mem_dropped {tasks : List Task} {h : Handle} : h ∈ dropped tasks ↔ .drop h ∈ tasks := by
  unfold dropped
  rw [List.mem_flatMap]
  constructor
  · rintro ⟨t, member, is⟩
    cases t with
    | drop g =>
      cases List.mem_singleton.1 is
      exact member
    | _ => cases is
  · exact fun member => ⟨_, member, List.mem_singleton_self h⟩

theorem beginDestruction_breeds (c : CellId) :
    Breeds first given (beginDestruction c) dropped := by
  refine .of_keeps (keeps_of_settled (beginDestruction_settled c)) ?_
  intro m tasks n began h member
  unfold beginDestruction at began
  cases found : m.memory.cell? c with
  | none =>
    rw [found] at began
    cases began
    cases member
  | some cell =>
    rw [found] at began
    cases began
    rcases Value.mem_plan (mem_dropped.1 member) with ⟨label, is⟩ | ⟨g, inside, is⟩
    · cases is
    · cases is
      exact .root (.inr ⟨c, cell, found, inside⟩)

/-- To find out where storage belongs is to let go of nothing. -/
theorem storageTask_breeds {task : AllocatorId → Layout → CellId → Task} (way : Returning task)
    (c : CellId) : Breeds first given (storageTask task c) dropped := by
  refine .read _ fun m h member => ?_
  have member := mem_dropped.1 member
  cases found : m.memory.cell? c with
  | none =>
    rw [found] at member
    cases member
  | some cell =>
    rw [found] at member
    obtain ⟨home, -, is⟩ := List.mem_map.1 member
    rcases way with rfl | rfl <;> cases is

/-- What is destroyed first, and what is done after that. -/
theorem pure_append_breeds {before after : List Task} (nothing : dropped after = []) :
    Breeds first (dropped before ++ given) (pure (before ++ after) : Run Machine (List Task))
      dropped := by
  refine .pure fun h member => .root ?_
  unfold dropped at nothing member ⊢
  rw [List.flatMap_append, nothing, List.append_nil] at member
  exact List.mem_append_left _ member

theorem destroyWith_breeds {task : AllocatorId → Layout → CellId → Task} (way : Returning task)
    (c : CellId) : Breeds first given (destroyWith task c) dropped := by
  refine .bind (beginDestruction_breeds c) fun before => ?_
  refine .bind (storageTask_breeds way c) fun after => .pure fun h member => .root ?_
  unfold dropped at member ⊢
  rw [List.flatMap_append] at member
  rcases List.mem_append.1 member with member | member
  · exact List.mem_append_right _ (List.mem_append_left _ member)
  · exact List.mem_append_left _ member

theorem letGo_breeds (kind : Kind) (c : CellId) (o : Ownership) :
    Breeds first given (letGo kind c o) dropped := by
  have counts {operation : BlockState → BlockState × Except CountFault Bool}
      (kept : ∀ s, (operation s).1.owner = s.owner) :
      (recount c operation).Keeps (Sustains first) := keeps_of_settled (recount_settled c kept)
  cases o with
  | unique home => exact .bind (beginDestruction_breeds c) fun _ => pure_append_breeds rfl
  | weak =>
    refine .andThen (counts fun s => by cases s <;> rfl) fun last => ?_
    cases last with
    | false => exact .nothing rfl
    | true => exact storageTask_breeds (.inl rfl) c
  | block owner =>
    cases owner with
    | own => exact destroyWith_breeds (.inl rfl) c
    | discard => exact destroyWith_breeds (.inr rfl) c
    | collect => exact .nothing rfl
    | strong =>
      refine .andThen (counts fun s => by cases s <;> rfl) fun last => ?_
      cases last with
      | false => exact .nothing rfl
      | true => exact .bind (beginDestruction_breeds c) fun _ => pure_append_breeds rfl
    | handle =>
      refine .andThen (counts BlockState.owner_decrementLocal) fun last => ?_
      cases last with
      | false => exact .nothing rfl
      | true => exact destroyWith_breeds (.inl rfl) c

/-- What a task leads to is to let go of handles that lay inside values, and to do what is no
handle's concern. -/
theorem advance_breeds (t : Task) : Breeds first given t.advance dropped := by
  cases t with
  | drop h =>
    cases link : h.link with
    | none =>
      rw [Task.advance_drop_of_none link]
      exact .nothing rfl
    | some l =>
      rw [Task.advance_drop_of_some link]
      exact letGo_breeds _ _ _
  | announce label =>
    exact .andThen (keeps_of_undisturbed (announce_undisturbed label)) fun _ => .nothing rfl
  | leaveGroup c =>
    refine .andThen (keeps_of_settled (recount_settled c fun s => by cases s <;> rfl))
      fun last => ?_
    cases last with
    | false => exact .nothing rfl
    | true => exact storageTask_breeds (.inl rfl) c
  | giveBack a l c =>
    refine .andThen (noteStorage_sustains _) fun _ => .andThen (Keeps.gets _) fun _ => ?_
    exact .andThen (keeps_of_sameCells (deallocate_sameCells _ _ _)) fun _ => .nothing rfl
  | retire a l c =>
    refine .andThen (noteStorage_sustains _) fun _ => .andThen (Keeps.gets _) fun _ => ?_
    exact .andThen (keeps_of_sameCells (retire_sameCells _ _ _)) fun _ => .nothing rfl

end Machine

end Custody
