import Custody.Nothing.Registry
import Custody.Proofs.Continuity
import Mathlib.Data.List.Nodup

/-!
# Requests for nothing instances

A `Family` says how the nothing instances of types are made, where making one always succeeds and
may ask for the instances of others, though never in a circle. A type is registered before its
instance is made, so while requests are nested some types stand in the registry without one: those
are the types that are just being made. `Family.Arranged` is what is true of a memory at every such
moment, and `Family.Provided` what requests make of it.

`Family.request_provides` is by induction on how deep requests may nest. Each type ranks above all
that it asks for, so no type that is being made is asked for again: a request never meets a type
that is registered without its instance, and never makes an instance twice. What it adds to the
registry is what the type needs, which is all that can be reached from it by requests.
-/

namespace Custody

/-! ## The registry -/

namespace NothingRegistry

variable {r : NothingRegistry} {j k : Kind} {c : CellId}

/-- The types that were asked for, in the order of their first request. -/
def types (r : NothingRegistry) : List Kind := r.entries.map (·.1)

theorem count_eq (r : NothingRegistry) : r.count = r.types.length := by simp [count, types]

theorem isRegistered_iff : r.isRegistered k = true ↔ k ∈ r.types := by
  simp [isRegistered, types]

theorem mem_types_of_instance? (there : r.instance? k = some c) : k ∈ r.types := by
  obtain ⟨e, found, -⟩ := Option.bind_eq_some_iff.1 there
  have same : e.1 = k := by simpa using List.find?_some found
  exact same ▸ List.mem_map_of_mem (List.mem_of_find?_eq_some found)

theorem register_of_mem (member : k ∈ r.types) : r.register k = r :=
  if_pos (isRegistered_iff.2 member)

theorem types_register_of_not_mem (new : k ∉ r.types) : (r.register k).types = r.types ++ [k] := by
  unfold register
  rw [if_neg (isRegistered_iff.not.2 new)]
  simp [types]

@[simp] theorem attempts_register (r : NothingRegistry) (k : Kind) :
    (r.register k).attempts = r.attempts := by
  unfold register
  split <;> rfl

@[simp] theorem types_fill (r : NothingRegistry) (k : Kind) (c : CellId) :
    (r.fill k c).types = r.types := by
  unfold types fill
  rw [List.map_map]
  refine List.map_congr_left fun e _ => ?_
  show (if e.1 == k then (k, some c) else e).1 = e.1
  by_cases same : e.1 = k
  · simp [same]
  · simp [same]

/-- A type that is registered has no instance yet. -/
@[simp] theorem instance?_register (r : NothingRegistry) (j k : Kind) :
    (r.register k).instance? j = r.instance? j := by
  by_cases member : k ∈ r.types
  · rw [register_of_mem member]
  · unfold register
    rw [if_neg (isRegistered_iff.not.2 member)]
    unfold instance?
    rw [List.find?_append]
    cases r.entries.find? fun e => e.1 == j with
    | some e => rfl
    | none =>
      by_cases same : k = j
      · simp [same]
      · simp [same]

theorem instance?_fill_self (member : k ∈ r.types) : (r.fill k c).instance? k = some c := by
  obtain ⟨e, registered, is⟩ := List.mem_map.1 member
  unfold instance? fill
  rw [List.find?_map]
  have found : (r.entries.find? ((fun e => e.1 == k) ∘
      fun e => if e.1 == k then (k, some c) else e)).isSome := by
    rw [List.find?_isSome]
    exact ⟨e, registered, by simp [is]⟩
  obtain ⟨first, found⟩ := Option.isSome_iff_exists.1 found
  have same : first.1 = k := by
    by_contra other
    have := List.find?_some found
    simp [other] at this
  rw [found]
  simp [same]

theorem instance?_fill_of_ne (other : j ≠ k) : (r.fill k c).instance? j = r.instance? j := by
  unfold instance? fill
  rw [List.find?_map]
  have same : ((fun e => e.1 == j) ∘ fun e : Kind × Option CellId =>
      if e.1 == k then (k, some c) else e) = fun e => e.1 == j := by
    funext e
    by_cases is : e.1 = k
    · simp [is]
    · simp [is]
  rw [same]
  cases found : r.entries.find? fun e => e.1 == j with
  | none => rfl
  | some e =>
    have is : e.1 = j := by simpa using List.find?_some found
    simp [is, other]

end NothingRegistry

/-- The cell of a nothing instance: storage of its own that no allocator lent, and all of it the
instance's. -/
structure Cell.Lasts (cell : Cell) (k : Kind) : Prop where
  home : cell.home = none
  layout : cell.layout = k.layout
  offset : cell.offset = 0
  kind : cell.kind = k

theorem Cell.Endures.lasts {before after : Cell} {k : Kind} (h : before.Endures after)
    (lasts : before.Lasts k) : after.Lasts k :=
  ⟨h.home.trans lasts.home, h.layout.trans lasts.layout, h.offset.trans lasts.offset,
    h.kind.trans lasts.kind⟩

/-- An operation returns what it promises, unless there is no storage left for it. -/
def Outcome.Obtains {σ α : Type} (promise : α → σ → Prop) : Outcome σ α → Prop
  | returned a s => promise a s
  | unwinding _ _ => False
  | aborted cause _ => ∃ size, cause = .outOfMemory size

theorem Outcome.Obtains.andThen {σ α β : Type} {o : Outcome σ α} {next : α → σ → Outcome σ β}
    {between : α → σ → Prop} {promise : β → σ → Prop} (first : o.Obtains between)
    (second : ∀ a s, between a s → (next a s).Obtains promise) :
    (o.andThen next).Obtains promise := by
  cases o with
  | returned a s => exact second a s first
  | unwinding p s => exact first
  | aborted cause s => exact first

theorem Outcome.Obtains.mono {σ α : Type} {o : Outcome σ α} {promise promise' : α → σ → Prop}
    (h : o.Obtains promise) (le : ∀ a s, promise a s → promise' a s) : o.Obtains promise' := by
  cases o with
  | returned a s => exact le a s h
  | unwinding p s => exact h
  | aborted cause s => exact h

/-! ## One request -/

namespace Machine

open Run

variable {m : Machine} {k : Kind} {recipe : Kind → Recipe} {depth : Nat}

/-- The machine in which a type is registered and its instance begun to be made. -/
def opened (m : Machine) (k : Kind) : Machine :=
  { m with memory := m.memory.changeNothings fun r => (r.register k).attempt k }

/-- The machine in which the instance of a type is there. -/
def filled (m : Machine) (k : Kind) (c : CellId) : Machine :=
  { m with memory := m.memory.changeNothings (·.fill k c) }

theorem types_opened (new : k ∉ m.memory.nothings.types) :
    (m.opened k).memory.nothings.types = m.memory.nothings.types ++ [k] :=
  NothingRegistry.types_register_of_not_mem new

@[simp] theorem instance?_opened (m : Machine) (j k : Kind) :
    (m.opened k).memory.nothings.instance? j = m.memory.nothings.instance? j :=
  NothingRegistry.instance?_register _ j k

@[simp] theorem types_filled (m : Machine) (k : Kind) (c : CellId) :
    (m.filled k c).memory.nothings.types = m.memory.nothings.types :=
  NothingRegistry.types_fill _ k c

theorem instance?_filled_self {c : CellId} (registered : k ∈ m.memory.nothings.types) :
    (m.filled k c).memory.nothings.instance? k = some c :=
  NothingRegistry.instance?_fill_self registered

theorem instance?_filled_of_ne {j : Kind} {c : CellId} (other : j ≠ k) :
    (m.filled k c).memory.nothings.instance? j = m.memory.nothings.instance? j :=
  NothingRegistry.instance?_fill_of_ne other

/-- Whatever recipes there are, a request changes the registry, makes values that live for ever, and
panics. -/
theorem request_keeps {R : Machine → Machine → Prop} [IsPreorder Machine R]
    (undisturbed : ∀ m n : Machine, m.Undisturbed n → R m n)
    (changes : ∀ (m : Machine) (change : NothingRegistry → NothingRegistry),
      R m { m with memory := m.memory.changeNothings change })
    (makes : ∀ k, (makeLasting (.ofNothing k)).Keeps R) (recipe : Kind → Recipe) (depth : Nat)
    (k : Kind) : (request recipe depth k).Keeps R := by
  have changed (change : NothingRegistry → NothingRegistry) :
      (onMemory (·.changeNothings change)).Keeps R := fun m => changes m change
  induction depth generalizing k with
  | zero => exact Keeps.abort _
  | succ depth ih =>
    unfold request
    refine .bind (changed _) fun _ => .bind (.gets _) fun there => ?_
    cases there with
    | some c => exact .pure c
    | none =>
      refine .bind (changed _) fun _ => .bind (.forAll fun other _ => ?_) fun _ => ?_
      · exact .bind (ih other) fun _ => .pure ()
      · refine .bind (.gets _) fun attempts => ?_
        by_cases few : attempts ≤ (recipe k).failures.1
        · rw [if_pos few]
          exact (panic_undisturbed _).mono undisturbed
        · rw [if_neg few]
          exact .bind (makes k) fun c => .bind (changed _) fun _ => .pure c

/-- A request for an instance that is there does nothing else. -/
theorem request_of_some {c : CellId} (there : m.memory.nothings.instance? k = some c) :
    request recipe (depth + 1) k m = .returned c m := by
  have registered : m.memory.changeNothings (·.register k) = m.memory := by
    unfold Memory.changeNothings
    dsimp only
    rw [NothingRegistry.register_of_mem (NothingRegistry.mem_types_of_instance? there)]
  have same : onMemory (·.changeNothings (·.register k)) m = .returned () m := by
    show Outcome.returned () { m with memory := m.memory.changeNothings (·.register k) } = _
    rw [registered]
  have seen : ofMemory (·.nothings.instance? k) m = .returned (some c) m :=
    congrArg (Outcome.returned · m) there
  unfold request
  rw [bind_apply, same]
  show (ofMemory (·.nothings.instance? k) >>= _) m = _
  rw [bind_apply, seen]
  rfl

/-- A request for an instance that is not there asks for all that it takes, and makes it. -/
theorem request_of_none (missing : m.memory.nothings.instance? k = none) :
    request recipe (depth + 1) k m =
      (forAll (fun other => do let _ ← request recipe depth other) (recipe k).requests
        (m.opened k)).andThen fun _ n =>
          if n.memory.nothings.attemptsOf k ≤ (recipe k).failures.1 then
            panic (.text (recipe k).failures.2) n
          else (makeLasting (.ofNothing k) n).andThen fun c o => .returned c (o.filled k c) := by
  have still : (m.memory.nothings.register k).instance? k = none := by simpa using missing
  let registered : Machine := { m with memory := m.memory.changeNothings (·.register k) }
  have asked : onMemory (·.changeNothings (·.register k)) m = .returned () registered := rfl
  have seen : ofMemory (·.nothings.instance? k) registered = .returned none registered :=
    congrArg (Outcome.returned · registered) still
  conv => lhs; unfold request
  rw [bind_apply, asked]
  show (ofMemory (·.nothings.instance? k) >>= _) registered = _
  rw [bind_apply, seen]
  show (forAll _ _ (m.opened k)).andThen (fun _ n => (ite _ _ _ : Run Machine CellId) n) = _
  congr
  funext _ n
  by_cases few : n.memory.nothings.attemptsOf k ≤ (recipe k).failures.1
  · rw [if_pos few, if_pos few]
  · rw [if_neg few, if_neg few]
    rfl

/-- The machine with one more value that lives for ever. -/
def endowed (m : Machine) (base : Address) (v : Value) : Machine :=
  { m with memory := m.memory.addLasting base v }

/-- A value that lives for ever is made in a new cell, at an address that the heap grants. -/
theorem makeLasting_obtains (v : Value) (m : Machine) :
    (makeLasting v m).Obtains fun c n => c = m.memory.cells.next ∧
      ∃ base, m.memory.heap.grant? v.kind.layout = some base ∧ n = m.endowed base v := by
  unfold makeLasting
  cases granted : m.memory.heap.grant? v.kind.layout with
  | none => exact ⟨_, rfl⟩
  | some base => exact ⟨rfl, base, rfl, rfl⟩

theorem cell?_endowed_self (m : Machine) (base : Address) (v : Value) :
    (m.endowed base v).memory.cell? m.memory.cells.next = some (Memory.lastingCell base v) :=
  Memory.cell?_addCell_self m.memory _

theorem cell?_endowed_of_ne (m : Machine) (base : Address) (v : Value) {d : CellId}
    (other : d ≠ m.memory.cells.next) : (m.endowed base v).memory.cell? d = m.memory.cell? d :=
  Memory.cell?_addCell_of_ne m.memory _ other

theorem endowed_persists (m : Machine) (base : Address) (v : Value) :
    m.Persists (m.endowed base v) := by
  intro d cell found
  refine ⟨cell, ?_, .refl cell⟩
  rw [cell?_endowed_of_ne m base v (Nat.ne_of_lt (Slab.lt_next_of_get? found))]
  exact found

end Machine

/-! ## Families of types -/

/-- How the nothing instances of a family of types are made: no attempt fails, and a type asks only
for types of a lower rank. -/
structure Family where
  /-- How the instance of each type is made. -/
  recipe : Kind → Recipe
  /-- How far above the types that ask for nothing a type is. -/
  rank : Kind → Nat
  returns : ∀ k, (recipe k).failures.1 = 0
  acyclic : ∀ k, ∀ j ∈ (recipe k).requests, rank j < rank k

namespace Family

variable {f : Family} {j k : Kind}

/-- What is asked for if the instance of a type is: the type, what it asks for, and so on. -/
def Needs (f : Family) : Kind → Kind → Prop :=
  Relation.ReflTransGen fun k j => j ∈ (f.recipe k).requests

theorem needs_iff : f.Needs k j ↔ k = j ∨ ∃ i ∈ (f.recipe k).requests, f.Needs i j :=
  Relation.ReflTransGen.cases_head_iff

/-- The nothing instance of a type, with as much stack as its rank takes. With more of it the
request would do the same: `request_eq`. -/
def request (f : Family) (k : Kind) : Run Machine CellId := Machine.request f.recipe (f.rank k + 1) k

theorem request_eq_request {depth depth' : Nat} (deep : f.rank k < depth)
    (deep' : f.rank k < depth') :
    Machine.request f.recipe depth k = Machine.request f.recipe depth' k := by
  induction depth generalizing depth' k with
  | zero => exact absurd deep (Nat.not_lt_zero _)
  | succ depth ih =>
    obtain ⟨depth', rfl⟩ := Nat.exists_eq_succ_of_ne_zero (Nat.ne_of_gt (Nat.zero_lt_of_lt deep'))
    have nested : Run.forAll (fun other => do let _ ← Machine.request f.recipe depth other)
        (f.recipe k).requests =
          Run.forAll (fun other => do let _ ← Machine.request f.recipe depth' other)
            (f.recipe k).requests := by
      refine Run.forAll_congr fun other member => ?_
      have lower := f.acyclic k other member
      rw [ih (by omega) (by omega : f.rank other < depth')]
    unfold Machine.request
    rw [nested]

/-- More stack than the rank of a type takes makes no difference. -/
theorem request_eq {depth : Nat} (deep : f.rank k < depth) :
    Machine.request f.recipe depth k = f.request k :=
  request_eq_request deep (Nat.lt_succ_self _)

/-! ## What is true while requests are nested -/

/-- The registry is in order while the instances of some types are being made: every type is
registered once, and was begun once; a type without an instance is one of those; the instance of a
type is made after those that it asks for; and each instance has a cell. -/
structure Arranged (f : Family) (under : Kind → Prop) (m : Memory) : Prop where
  distinct : m.nothings.types.Nodup
  begun : m.nothings.attempts = m.nothings.types.reverse
  waiting : ∀ k ∈ m.nothings.types, m.nothings.instance? k = none → under k
  complete : ∀ k c, m.nothings.instance? k = some c →
    ∀ j ∈ (f.recipe k).requests, ∃ d, m.nothings.instance? j = some d
  there : ∀ k c, m.nothings.instance? k = some c → ∃ cell, m.cell? c = some cell ∧ cell.Lasts k

/-- What requests for types make of a machine: nothing but the memory changes, the types have their
instances afterwards, those that were there are the same, and what was registered is what the types
need. -/
structure Provided (f : Family) (under : Kind → Prop) (m : Machine) (ks : List Kind) (n : Machine) :
    Prop where
  process : n.process = m.process
  arranged : f.Arranged under n.memory
  there : ∀ k ∈ ks, ∃ c, n.memory.nothings.instance? k = some c
  kept : ∀ j d, m.memory.nothings.instance? j = some d → n.memory.nothings.instance? j = some d
  registered : ∀ j, j ∈ n.memory.nothings.types ↔
    j ∈ m.memory.nothings.types ∨ ∃ k ∈ ks, f.Needs k j

namespace Arranged

variable {under : Kind → Prop} {m n : Machine} {c : CellId} {cell : Cell}

theorem attemptsOf_le (arranged : f.Arranged under m.memory) (k : Kind) :
    m.memory.nothings.attemptsOf k ≤ 1 := by
  unfold NothingRegistry.attemptsOf
  rw [← List.countP_eq_length_filter, arranged.begun, List.countP_reverse]
  exact List.nodup_iff_count_le_one.1 arranged.distinct k

theorem attemptsOf_pos (arranged : f.Arranged under m.memory)
    (registered : k ∈ m.memory.nothings.types) : 0 < m.memory.nothings.attemptsOf k := by
  unfold NothingRegistry.attemptsOf
  rw [← List.countP_eq_length_filter, arranged.begun, List.countP_reverse]
  exact List.count_pos_iff.2 registered

/-- It stays in order while cells stay where they are. -/
theorem later (arranged : f.Arranged under m.memory)
    (same : n.memory.nothings = m.memory.nothings) (persists : m.Persists n) :
    f.Arranged under n.memory := by
  obtain ⟨distinct, begun, waiting, complete, there⟩ := arranged
  rw [← same] at distinct begun waiting complete there
  refine ⟨distinct, begun, waiting, complete, fun k c instance_ => ?_⟩
  obtain ⟨cell, found, lasts⟩ := there k c instance_
  obtain ⟨after, found, endures⟩ := persists c cell found
  exact ⟨after, found, endures.lasts lasts⟩

/-- The instance of a type that was not asked for before is begun to be made. -/
theorem opened (arranged : f.Arranged under m.memory) (new : k ∉ m.memory.nothings.types) :
    f.Arranged (fun j => under j ∨ j = k) (m.opened k).memory := by
  refine ⟨?_, ?_, ?_, ?_, ?_⟩
  · rw [Machine.types_opened new]
    exact List.Nodup.append arranged.distinct (List.nodup_singleton k) (by simpa using new)
  · rw [Machine.types_opened new, List.reverse_append, ← arranged.begun]
    exact congrArg (k :: ·) (NothingRegistry.attempts_register _ k)
  · intro j member missing
    rw [Machine.types_opened new] at member
    rw [Machine.instance?_opened] at missing
    rcases List.mem_append.1 member with before | last
    · exact .inl (arranged.waiting j before missing)
    · exact .inr (List.mem_singleton.1 last)
  · simp only [Machine.instance?_opened]
    exact arranged.complete
  · simp only [Machine.instance?_opened]
    exact arranged.there

/-- The instance of a type is there once those that it asks for are, and has a cell. -/
theorem filled (arranged : f.Arranged (fun j => under j ∨ j = k) m.memory)
    (registered : k ∈ m.memory.nothings.types)
    (asked : ∀ j ∈ (f.recipe k).requests, ∃ d, m.memory.nothings.instance? j = some d)
    (found : m.memory.cell? c = some cell) (lasts : cell.Lasts k) :
    f.Arranged under (m.filled k c).memory := by
  have self : (m.filled k c).memory.nothings.instance? k = some c :=
    Machine.instance?_filled_self registered
  have still {j : Kind} (before : ∃ d, m.memory.nothings.instance? j = some d) :
      ∃ d, (m.filled k c).memory.nothings.instance? j = some d := by
    by_cases same : j = k
    · exact ⟨c, same ▸ self⟩
    · rw [Machine.instance?_filled_of_ne same]
      exact before
  refine ⟨?_, ?_, ?_, ?_, ?_⟩
  · rw [Machine.types_filled]
    exact arranged.distinct
  · rw [Machine.types_filled]
    exact arranged.begun
  · intro j member missing
    by_cases same : j = k
    · rw [same, self] at missing
      cases missing
    · rw [Machine.instance?_filled_of_ne same] at missing
      rw [Machine.types_filled] at member
      exact (arranged.waiting j member missing).resolve_right same
  · intro j d instance_ i member
    by_cases same : j = k
    · exact still (asked i (same ▸ member))
    · rw [Machine.instance?_filled_of_ne same] at instance_
      exact still (arranged.complete j d instance_ i member)
  · intro j d instance_
    by_cases same : j = k
    · rw [same, self] at instance_
      cases instance_
      exact ⟨cell, found, same ▸ lasts⟩
    · rw [Machine.instance?_filled_of_ne same] at instance_
      exact arranged.there j d instance_

end Arranged

/-- A type that is there needs nothing that is not. -/
theorem Arranged.exists_of_needs {under : Kind → Prop} {m : Memory} {c : CellId}
    (arranged : f.Arranged under m) (there : m.nothings.instance? k = some c)
    (needs : f.Needs k j) : ∃ d, m.nothings.instance? j = some d := by
  induction needs with
  | refl => exact ⟨c, there⟩
  | tail _ asked ih =>
    obtain ⟨d, there⟩ := ih
    exact arranged.complete _ d there _ asked

namespace Provided

variable {under : Kind → Prop} {m n o : Machine} {ks ls : List Kind}

theorem nil (arranged : f.Arranged under m.memory) : f.Provided under m [] m where
  process := rfl
  arranged := arranged
  there := List.forall_mem_nil _
  kept _ _ there := there
  registered j := by simp

theorem append (first : f.Provided under m ks n) (second : f.Provided under n ls o) :
    f.Provided under m (ks ++ ls) o where
  process := second.process.trans first.process
  arranged := second.arranged
  there k member := by
    rcases List.mem_append.1 member with before | after
    · obtain ⟨c, there⟩ := first.there k before
      exact ⟨c, second.kept k c there⟩
    · exact second.there k after
  kept j d there := second.kept j d (first.kept j d there)
  registered j := by
    rw [second.registered, first.registered]
    simp only [List.mem_append, or_and_right, exists_or, or_assoc]

end Provided

variable {under : Kind → Prop} {m n : Machine}

theorem provided_of_some {c : CellId} (arranged : f.Arranged under m.memory)
    (there : m.memory.nothings.instance? k = some c) : f.Provided under m [k] m where
  process := rfl
  arranged := arranged
  there := by simpa using ⟨c, there⟩
  kept _ _ there := there
  registered j := by
    refine ⟨.inl, ?_⟩
    rintro (member | ⟨i, is, needs⟩)
    · exact member
    · obtain rfl := List.mem_singleton.1 is
      obtain ⟨d, there⟩ := arranged.exists_of_needs there needs
      exact NothingRegistry.mem_types_of_instance? there

/-- What single requests provide, requests in a row do. -/
theorem forAll_provides {act : Kind → Run Machine Unit} {ks : List Kind}
    (arranged : f.Arranged under m.memory)
    (each : ∀ k ∈ ks, ∀ m : Machine, f.Arranged under m.memory →
      (act k m).Obtains fun _ n => f.Provided under m [k] n) :
    (Run.forAll act ks m).Obtains fun _ n => f.Provided under m ks n := by
  induction ks generalizing m with
  | nil => exact .nil arranged
  | cons k ks ih =>
    have first := each k (List.mem_cons_self ..) m arranged
    refine first.andThen fun _ n provided => ?_
    have rest := ih provided.arranged fun j member => each j (List.mem_cons_of_mem k member)
    exact rest.mono fun _ _ => provided.append

/-- A type whose instance is begun to be made is registered by then. -/
theorem Provided.mem_types_of_opened (new : k ∉ m.memory.nothings.types)
    (nested : f.Provided under (m.opened k) ks n) : k ∈ n.memory.nothings.types := by
  rw [nested.registered, Machine.types_opened new]
  simp

/-- When all that a type asks for is there, its instance is put into the registry. -/
theorem Provided.filled {base : Address} (missing : m.memory.nothings.instance? k = none)
    (new : k ∉ m.memory.nothings.types)
    (nested : f.Provided (fun j => under j ∨ j = k) (m.opened k) (f.recipe k).requests n) :
    let o := (n.endowed base (.ofNothing k)).filled k n.memory.cells.next
    o.memory.nothings.instance? k = some n.memory.cells.next ∧ f.Provided under m [k] o := by
  intro o
  have registered := nested.mem_types_of_opened new
  have self : o.memory.nothings.instance? k = some n.memory.cells.next :=
    Machine.instance?_filled_self registered
  have lasts : (Memory.lastingCell base (.ofNothing k)).Lasts k :=
    ⟨rfl, congrArg Kind.layout (Value.kind_make k _), rfl, Value.kind_make k _⟩
  have arranged : f.Arranged (fun j => under j ∨ j = k) (n.endowed base (.ofNothing k)).memory :=
    nested.arranged.later rfl (n.endowed_persists base _)
  refine ⟨self, nested.process, ?_, ?_, ?_, ?_⟩
  · exact arranged.filled registered nested.there (n.cell?_endowed_self base _) lasts
  · simpa using ⟨_, self⟩
  · intro j d there
    have other : j ≠ k := by
      rintro rfl
      rw [missing] at there
      cases there
    have before : (m.opened k).memory.nothings.instance? j = some d := by
      rw [Machine.instance?_opened]
      exact there
    exact (Machine.instance?_filled_of_ne other).trans (nested.kept j d before)
  · intro j
    have same : o.memory.nothings.types = n.memory.nothings.types := Machine.types_filled _ k _
    have single : (∃ i ∈ [k], f.Needs i j) ↔ f.Needs k j := by simp
    rw [same, nested.registered, Machine.types_opened new, single, needs_iff (k := k),
      List.mem_append, List.mem_singleton, or_assoc, eq_comm (a := j)]

/-- A request for a type that ranks below all that are being made returns its instance, with the
registry in order, unless there is no storage left. -/
theorem request_provides {depth : Nat} (deep : f.rank k < depth)
    (lower : ∀ j, under j → f.rank k < f.rank j) (arranged : f.Arranged under m.memory) :
    (Machine.request f.recipe depth k m).Obtains fun c n =>
      n.memory.nothings.instance? k = some c ∧ f.Provided under m [k] n := by
  induction depth generalizing k under m with
  | zero => exact absurd deep (Nat.not_lt_zero _)
  | succ depth ih =>
    cases there : m.memory.nothings.instance? k with
    | some c =>
      rw [Machine.request_of_some there]
      exact ⟨there, provided_of_some arranged there⟩
    | none =>
      have new : k ∉ m.memory.nothings.types := fun member =>
        Nat.lt_irrefl _ (lower k (arranged.waiting k member there))
      rw [Machine.request_of_none there]
      have nested : (Run.forAll (fun other => do let _ ← Machine.request f.recipe depth other)
          (f.recipe k).requests (m.opened k)).Obtains fun _ n =>
            f.Provided (fun j => under j ∨ j = k) (m.opened k) (f.recipe k).requests n := by
        refine forAll_provides (arranged.opened new) fun other member m arranged => ?_
        have below := f.acyclic k other member
        have beneath : ∀ j, under j ∨ j = k → f.rank other < f.rank j := by
          rintro j (before | rfl)
          · exact Nat.lt_trans below (lower j before)
          · exact below
        have provided := ih (by omega) beneath arranged
        exact provided.andThen fun _ _ obtained => obtained.2
      refine nested.andThen fun _ n nested => ?_
      have tried := nested.arranged.attemptsOf_pos (nested.mem_types_of_opened new)
      rw [f.returns k, if_neg (Nat.not_le_of_gt tried)]
      have made := Machine.makeLasting_obtains (.ofNothing k) n
      refine made.andThen ?_
      rintro _ _ ⟨rfl, base, granted, rfl⟩
      exact nested.filled there new

end Family

end Custody
