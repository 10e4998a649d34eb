import Custody.Proofs.Endowing
import Custody.Proofs.Numbering
import Custody.Proofs.Operations

/-!
# One nothing instance for each type

A program asks for the nothing instances of a family of types, looks at the values that it accesses,
and does all that clients do besides. `NothingCall` is what it may call, and `NothingCall.asked`
says which types a call asks for. `Family.Tended` is what is true between two calls: the books
balance, the fence around storage that lasts stands, every type that was begun has its instance, and
what is registered is what the types that were asked for need.

`NothingCall.make_ensures` is the step and `NothingCall.run_advances` the run. `Family.OnePerType`
is what a program can tell of the instances at any moment, and it can tell it from the answers of
calls: there is one instance of each type, no other value lies where it does, and accesses to it are
what is warned of.
-/

namespace Custody

/-- A warning of an access to the nothing instance of a type is given once, or nothing at all is
done. Whatever other diagnostics are made come of what sinks and hooks do. -/
structure Process.Warns (k : Kind) (due : Prop) (p q : Process) : Prop where
  once : due → ∃ others, (∀ t ∈ others, t.author ≠ .caller) ∧
    q.diagnostics = p.diagnostics ++
      p.diagnosticOf (.nothingAccessed k.name) .warning :: Turn.numbered (p.faults + 1) others
  never : ¬due → q = p

/-- A call that has to do with nothing instances, or anything else that a client does. -/
inductive NothingCall
  /-- Ask for the instance of a type. -/
  | request (k : Kind)
  /-- Ask for the value of a handle, or for the instance of its type if it is empty. -/
  | orNothing (h : Handle)
  /-- Access what a raw pointer to what a handle points at finds. -/
  | getChecked (h : Handle)
  | isNothing (k : Kind) (a : Address)
  | checkAccess (k : Kind) (a : Address)
  | count
  /-- Make a value that is equal to the instance of a type, in storage of its own. -/
  | fresh (k : Kind)
  | operate (op : Operation)

namespace Handle

variable {h : Handle}

/-- The type of a handle, if there is no value. -/
def lacking (h : Handle) : List Kind := if h.target?.isNone then [h.kind] else []

theorem lacking_of_some {p : Place} (there : h.target? = some p) : h.lacking = [] := by
  simp [lacking, there]

theorem lacking_of_none (empty : h.target? = none) : h.lacking = [h.kind] := by
  simp [lacking, empty]

end Handle

namespace NothingCall

/-- The types that a call asks for. -/
def asked : NothingCall → List Kind
  | request k => [k]
  | orNothing h | getChecked h => h.lacking
  | isNothing .. | checkAccess .. | count | fresh _ | operate _ => []

/-- Do something with the machine, and hold nothing that comes of it. -/
def observing {α : Type} (act : Run Machine α) : Run Client Unit := Client.yielding act fun _ => []

/-- Make a call, where the instances of types are made as a family says. -/
def make (f : Family) : NothingCall → Run Client Unit
  | request k => observing (f.request k)
  | orNothing h => observing (Machine.orNothingWith f.request h)
  | getChecked h => observing (Machine.getCheckedWith f.request h)
  | isNothing k a => observing (Machine.ofMemory (·.isNothing k a))
  | checkAccess k a => observing (Machine.checkAccess k a)
  | count => observing (Machine.ofMemory (·.nothings.count))
  | fresh k => observing (Machine.makeLasting (.ofNothing k))
  | operate op => Client.perform op

/-- Make a call, and go on if it panics. -/
def attempt (f : Family) (call : NothingCall) : Run Client Unit := do
  let _ ← Run.catchingWith id (call.make f)

/-- Make calls in order. -/
def run (f : Family) (calls : List NothingCall) : Run Client Unit := Run.forAll (attempt f) calls

end NothingCall

/-! ## Accesses -/

namespace Machine

open Run

variable {m : Machine} {k : Kind} {h : Handle} {request : Kind → Run Machine CellId}

theorem orNothingWith_of_some {p : Place} (there : h.target? = some p) :
    orNothingWith request h m = .returned p m := by
  unfold orNothingWith
  rw [there]
  rfl

theorem orNothingWith_of_none (empty : h.target? = none) :
    orNothingWith request h m = (request h.kind m).andThen fun i n => .returned ⟨i, []⟩ n := by
  unfold orNothingWith
  rw [empty]
  rfl

/-- An access is reported if the check is on and the value is the instance of its type. -/
theorem checkAccess_warns (k : Kind) (a : Address) (m : Machine) :
    m.process.Warns k
      (m.process.activeConfig.diagnostics.checkNothingAccess = true ∧ m.memory.isNothing k a = true)
      (checkAccess k a m).state.process := by
  have decided : checkAccess k a m =
      (if m.process.activeConfig.diagnostics.checkNothingAccess && m.memory.isNothing k a then
        report (.nothingAccessed k.name) .warning else pure ()) m := rfl
  rw [decided]
  constructor
  · intro due
    rw [if_pos (Bool.and_eq_true_iff.2 due)]
    unfold report onProcess within
    rw [Outcome.state_mapState]
    exact Process.reportWith_numbered Process.stackDepth _ .warning m.process
  · intro idle
    rw [if_neg (Bool.and_eq_true_iff.not.2 idle)]
    rfl

theorem checkAccess_undisturbed (k : Kind) (a : Address) : (checkAccess k a).Keeps Undisturbed := by
  unfold checkAccess
  refine .bind .get fun m => ?_
  by_cases due : (m.process.activeConfig.diagnostics.checkNothingAccess && m.memory.isNothing k a) =
      true
  · rw [if_pos due]
    exact report_undisturbed _ _
  · rw [if_neg due]
    exact .pure ()

/-- Read the value at a place, checked on access. -/
def checkedRead (k : Kind) (p : Place) : Run Machine Value := do
  let address ← ofMemory fun m => (m.address? p).getD 0
  checkAccess k address
  read k p

theorem getCheckedWith_eq (request : Kind → Run Machine CellId) (h : Handle) (m : Machine) :
    getCheckedWith request h m = (orNothingWith request h m).andThen (checkedRead h.kind) := rfl

/-- To read a value changes nothing but what the check does. -/
theorem state_checkedRead (k : Kind) (p : Place) (m : Machine) :
    (checkedRead k p m).state = (checkAccess k ((m.memory.address? p).getD 0) m).state := by
  show ((checkAccess k ((m.memory.address? p).getD 0) m).andThen fun _ => read k p).state = _
  cases checkAccess k ((m.memory.address? p).getD 0) m <;> rfl

theorem checkedRead_undisturbed (k : Kind) (p : Place) : (checkedRead k p).Keeps Undisturbed := by
  intro m
  rw [state_checkedRead]
  exact checkAccess_undisturbed k _ m

/-- A value that lives for ever is made without the registry. -/
theorem makeLasting_sameNothings (v : Value) : (makeLasting v).Keeps SameNothings := by
  intro m
  unfold makeLasting
  cases m.memory.heap.grant? v.kind.layout <;> rfl

theorem checkedRead_warns {p : Place} {a : Address} (lies : m.memory.address? p = some a)
    (k : Kind) : m.process.Warns k
      (m.process.activeConfig.diagnostics.checkNothingAccess = true ∧ m.memory.isNothing k a = true)
      (checkedRead k p m).state.process := by
  rw [state_checkedRead, lies]
  exact checkAccess_warns k a m

end Machine

namespace Family

open Machine Situation

variable {f : Family} {k : Kind} {m n o : Machine} {ks ls : List Kind} {i : CellId}

/-! ## Instances and where they lie -/

namespace Arranged

variable {under : Kind → Prop} {m : Memory}

/-- The instance of a type is known by its address. -/
theorem isNothing_of_instance? (arranged : f.Arranged under m)
    (there : m.nothings.instance? k = some i) :
    ∃ a, m.address? ⟨i, []⟩ = some a ∧ m.isNothing k a = true := by
  obtain ⟨cell, found, -⟩ := arranged.there k i there
  refine ⟨cell.address, ?_, ?_⟩
  · unfold Memory.address?
    rw [found]
    exact congrArg some (UInt64.add_zero cell.address)
  · unfold Memory.isNothing
    rw [there]
    simp [found]

/-- No other value that takes any room is taken for it. -/
theorem isNothing_iff (arranged : f.Arranged under m) (fenced : m.Fenced) {p : Place} {a : Address}
    (room : 0 < k.layout.size) (lies : m.Lies k p a) :
    m.isNothing k a = true ↔ p.path = [] ∧ m.nothings.instance? k = some p.cell := by
  unfold Memory.isNothing
  cases there : m.nothings.instance? k with
  | none => simp
  | some i =>
    obtain ⟨cell, found, lasts⟩ := arranged.there k i there
    have known := fenced.address_eq_iff found lasts room lies
    obtain ⟨d, path⟩ := p
    simp only [Option.bind_some, found, Option.any_some, beq_iff_eq, known, Place.mk.injEq,
      Option.some.injEq]
    exact ⟨fun same => ⟨same.2, same.1.symm⟩, fun same => ⟨same.2.symm, same.1⟩⟩

end Arranged

/-- All is in order when types were asked for, and none of them is being made. -/
structure Tended (f : Family) (asked : List Kind) (s : Situation) : Prop where
  balanced : s.Balanced
  fenced : s.machine.memory.Fenced
  arranged : f.Arranged (fun _ => False) s.machine.memory
  registered : ∀ j, j ∈ s.machine.memory.nothings.types ↔ ∃ k ∈ asked, f.Needs k j

/-- What a call that asks for types makes of a machine: it provides for them and has nothing to do
with the registry besides. -/
structure Serves (f : Family) (asked : List Kind) (m n : Machine) : Prop where
  upholds : ∀ k, m.Upholds k n
  provides : ∃ o, f.Provided (fun _ => False) m asked o ∧ o.SameNothings n ∧ o.Persists n

namespace Serves

/-- What serves has nothing to do with types that are not asked for. -/
theorem of_sameNothings (arranged : f.Arranged (fun _ => False) m.memory)
    (upholds : ∀ k, m.Upholds k n) (same : m.SameNothings n) : f.Serves [] m n :=
  ⟨upholds, m, .nil arranged, same, (upholds []).persists⟩

theorem undisturbed (serves : f.Serves ks m n) (same : n.Undisturbed o) : f.Serves ks m o := by
  obtain ⟨upholds, p, provided, nothings, persists⟩ := serves
  have later (handles : List Handle) : n.Upholds handles o := same.upholds
  have both (handles : List Handle) : m.Upholds handles o :=
    trans_of (Machine.Upholds handles) (upholds handles) (later handles)
  refine ⟨both, p, provided, ?_, ?_⟩
  · exact (congrArg Memory.nothings same.1).trans nothings
  · exact persists.trans (later []).persists

/-- An instance stays the one it was. -/
theorem kept (serves : f.Serves ks m n) {j : Kind}
    (there : m.memory.nothings.instance? j = some i) :
    n.memory.nothings.instance? j = some i := by
  obtain ⟨-, o, provided, same, -⟩ := serves
  rw [same]
  exact provided.kept j i there

end Serves

/-- What is in order is in order after a call, which adds to the types that were asked for. -/
theorem Tended.serves {handles : List Handle} (tended : f.Tended ks (rest m handles))
    (serves : f.Serves ls m n) : f.Tended (ks ++ ls) (rest n handles) := by
  obtain ⟨upholds, o, provided, same, persists⟩ := serves
  refine ⟨(upholds handles).balanced tended.balanced, (upholds handles).fenced tended.fenced,
    provided.arranged.later same persists, ?_⟩
  intro j
  have types : n.memory.nothings.types = o.memory.nothings.types :=
    congrArg NothingRegistry.types same
  show j ∈ n.memory.nothings.types ↔ _
  rw [types, provided.registered, tended.registered]
  simp only [List.mem_append, or_and_right, exists_or]

/-- What is in order stays in order whatever clients do. -/
theorem Tended.leads {may : Licence} {s t : Situation} (tended : f.Tended ks s)
    (leads : Leads may s t) : f.Tended ks t := by
  obtain ⟨balanced, fenced, arranged, registered⟩ := tended
  have same := leads.sameNothings
  refine ⟨balanced.leads leads, leads.fenced balanced fenced,
    arranged.later same (leads.persists balanced), ?_⟩
  intro j
  rw [← registered]
  exact iff_of_eq (congrArg (j ∈ ·.types) same)

/-- On a fresh memory no type was asked for, and there is no storage to be fenced off. -/
theorem tended_start (f : Family) (p : Process) : f.Tended [] (Client.start p).situation where
  balanced := Client.start_balanced p
  fenced := Client.start_fenced p
  arranged :=
    { distinct := List.nodup_nil
      begun := rfl
      waiting := List.forall_mem_nil _
      complete := fun _ _ there => absurd there.symm (Option.some_ne_none _)
      there := fun _ _ there => absurd there.symm (Option.some_ne_none _) }
  registered j := by
    show j ∈ [] ↔ _
    simp

/-! ## What calls ask for -/

/-- A request returns the instance of its type, unless there is no storage left. -/
theorem request_obtains (arranged : f.Arranged (fun _ => False) m.memory) (k : Kind) :
    (f.request k m).Obtains fun i n =>
      n.memory.nothings.instance? k = some i ∧ f.Provided (fun _ => False) m [k] n :=
  request_provides (Nat.lt_succ_self _) (fun _ never => never.elim) arranged

theorem request_of_instance? (there : m.memory.nothings.instance? k = some i) :
    f.request k m = .returned i m :=
  Machine.request_of_some there

theorem request_upholds (k : Kind) (handles : List Handle) :
    (f.request k).Keeps (Machine.Upholds handles) :=
  Machine.request_upholds f.recipe _ k

/-- A request that returned gave the instance of its type. -/
theorem serves_of_request (arranged : f.Arranged (fun _ => False) m.memory)
    (granted : f.request k m = .returned i n) :
    n.memory.nothings.instance? k = some i ∧ n.process = m.process ∧ f.Serves [k] m n := by
  have obtained := f.request_obtains arranged k
  have upholds (handles : List Handle) := f.request_upholds k handles m
  rw [granted] at obtained upholds
  obtain ⟨there, provided⟩ := obtained
  exact ⟨there, provided.process, upholds, n, provided, rfl, .refl n⟩

theorem request_serves (arranged : f.Arranged (fun _ => False) m.memory) (k : Kind) :
    (f.request k m).Ensures (fun _ n => f.Serves [k] m n) (f.Serves [k] m) := by
  have obtained := f.request_obtains arranged k
  cases granted : f.request k m with
  | returned i n => exact (f.serves_of_request arranged granted).2.2
  | unwinding payload n =>
    rw [granted] at obtained
    exact obtained.elim
  | aborted cause n => trivial

/-- What leaves the machine undisturbed asks for nothing. -/
theorem serves_of_undisturbed {α : Type} {act : Run Machine α} (kept : act.Keeps Undisturbed)
    (arranged : f.Arranged (fun _ => False) m.memory) :
    (act m).Ensures (fun _ n => f.Serves [] m n) (f.Serves [] m) := by
  refine .of_state (.of_sameNothings arranged (fun _ => (kept m).upholds) ?_)
  exact congrArg Memory.nothings (kept m).1

theorem orNothingWith_serves (arranged : f.Arranged (fun _ => False) m.memory) (h : Handle) :
    (orNothingWith f.request h m).Ensures (fun _ n => f.Serves h.lacking m n)
      (f.Serves h.lacking m) := by
  cases points : h.target? with
  | some p =>
    rw [orNothingWith_of_some points, Handle.lacking_of_some points]
    exact f.serves_of_undisturbed (Run.Keeps.pure p) arranged
  | none =>
    rw [orNothingWith_of_none points, Handle.lacking_of_none points]
    exact (f.request_serves arranged h.kind).andThen fun _ _ serves => serves

theorem getCheckedWith_serves (arranged : f.Arranged (fun _ => False) m.memory) (h : Handle) :
    (getCheckedWith f.request h m).Ensures (fun _ n => f.Serves h.lacking m n)
      (f.Serves h.lacking m) := by
  rw [getCheckedWith_eq]
  refine (f.orNothingWith_serves arranged h).andThen fun p n serves => ?_
  exact .of_state (serves.undisturbed (checkedRead_undisturbed h.kind p n))

theorem makeLasting_serves (arranged : f.Arranged (fun _ => False) m.memory) (k : Kind) :
    (makeLasting (.ofNothing k) m).Ensures (fun _ n => f.Serves [] m n) (f.Serves [] m) :=
  .of_state (.of_sameNothings arranged (fun _ => makeLasting_upholds k m)
    (makeLasting_sameNothings _ m))

end Family

/-! ## Calls one after another -/

/-- What calls that asked for types made of a client in whose program others were asked for. -/
structure Family.Advances (f : Family) (before asked : List Kind) (c d : Client) : Prop where
  tended : f.Tended (before ++ asked) d.situation
  kept : ∀ k i, c.machine.memory.nothings.instance? k = some i →
    d.machine.memory.nothings.instance? k = some i

namespace NothingCall

open Machine

variable {f : Family} {c d : Client} {before : List Kind}

/-- What an operation of the machine leaves, a client has who holds nothing that comes of it. -/
theorem observing_ensures {α : Type} {act : Run Machine α} {P : Client → Prop}
    (h : (act c.machine).Ensures (fun _ n => P { c with machine := n })
      fun n => P { c with machine := n }) :
    (observing act c).Ensures (fun _ d => P d) P := by
  show Outcome.Ensures _ _ (((act c.machine).mapState fun n => { c with machine := n }).andThen
    fun _ d => Client.hold [] d)
  exact (Outcome.ensures_mapState h).andThen fun _ _ left => left

/-- A call of the machine. -/
theorem observing_advances {α : Type} {act : Run Machine α} {asked : List Kind}
    (tended : f.Tended before c.situation)
    (serves : (act c.machine).Ensures (fun _ n => f.Serves asked c.machine n)
      (f.Serves asked c.machine)) :
    (observing act c).Ensures (fun _ d => f.Advances before asked c d)
      (f.Advances before asked c) := by
  have advances (n : Machine) (serves : f.Serves asked c.machine n) :
      f.Advances before asked c { c with machine := n } :=
    ⟨tended.serves serves, fun _ _ => serves.kept⟩
  exact observing_ensures (serves.mono (fun _ => advances) advances)

/-- Whatever else a client does. -/
theorem operate_advances (tended : f.Tended before c.situation) (op : Operation) :
    (Client.perform op c).Ensures (fun _ d => f.Advances before [] c d)
      (f.Advances before [] c) := by
  have leads : Client.Leads True c.situation (Client.perform op c) :=
    Client.perform_leads op (fun _ => trivial) tended.balanced
  refine leads.ensures fun d led => ⟨?_, fun k i there => ?_⟩
  · rw [List.append_nil]
    exact tended.leads led
  · exact led.sameNothings ▸ there

/-- What one call makes of a client in whose program all is in order, if it does not end the
process. -/
theorem make_ensures (tended : f.Tended before c.situation) (call : NothingCall) :
    (call.make f c).Ensures (fun _ d => f.Advances before call.asked c d)
      (f.Advances before call.asked c) := by
  have arranged := tended.arranged
  cases call with
  | request k => exact observing_advances tended (f.request_serves arranged k)
  | orNothing h => exact observing_advances tended (f.orNothingWith_serves arranged h)
  | getChecked h => exact observing_advances tended (f.getCheckedWith_serves arranged h)
  | isNothing k a =>
    exact observing_advances tended (f.serves_of_undisturbed (.gets _) arranged)
  | checkAccess k a =>
    exact observing_advances tended
      (f.serves_of_undisturbed (checkAccess_undisturbed k a) arranged)
  | count => exact observing_advances tended (f.serves_of_undisturbed (.gets _) arranged)
  | fresh k => exact observing_advances tended (f.makeLasting_serves arranged k)
  | operate op => exact operate_advances tended op

theorem attempt_advances (tended : f.Tended before c.situation) {call : NothingCall}
    (made : attempt f call c = .returned () d) : f.Advances before call.asked c d := by
  have ensured := make_ensures tended call
  obtain ⟨answer, between, caught, same⟩ := Run.returned_of_bind made
  cases same
  unfold Run.catchingWith at caught
  cases ended : call.make f c with
  | returned u e =>
    rw [ended] at ensured caught
    cases caught
    exact ensured
  | unwinding payload e =>
    rw [ended] at ensured caught
    cases caught
    exact ensured
  | aborted cause e =>
    rw [ended] at caught
    cases caught

/-- What calls in a row make of a client. -/
theorem run_advances {calls : List NothingCall} (tended : f.Tended before c.situation)
    (made : run f calls c = .returned () d) :
    f.Advances before (calls.flatMap asked) c d := by
  induction calls generalizing before c with
  | nil =>
    cases made
    refine ⟨?_, fun _ _ there => there⟩
    rw [List.flatMap_nil, List.append_nil]
    exact tended
  | cons call calls ih =>
    obtain ⟨_, between, first, rest⟩ := Run.returned_of_bind made
    have first := attempt_advances tended first
    have rest := ih first.tended rest
    refine ⟨?_, fun k i there => rest.kept k i (first.kept k i there)⟩
    rw [List.flatMap_cons, ← List.append_assoc]
    exact rest.tended

/-! ## What asks for no type -/

theorem observing_quiet {α : Type} {act : Run Machine α} (kept : act.Keeps SameNothings) :
    (observing act c).state.machine.memory.nothings = c.machine.memory.nothings := by
  unfold observing
  rw [Client.machine_yielding]
  exact kept c.machine

theorem exists_target {h : Handle} (full : h.lacking = []) : ∃ p, h.target? = some p := by
  cases points : h.target? with
  | some p => exact ⟨p, rfl⟩
  | none =>
    rw [Handle.lacking_of_none points] at full
    cases full

/-- A call that asks for no type registers none, however it ends. -/
theorem make_quiet (balanced : c.Balanced) {call : NothingCall} (unasking : call.asked = []) :
    (call.make f c).state.machine.memory.nothings = c.machine.memory.nothings := by
  have undisturbed {α : Type} {act : Run Machine α} (kept : act.Keeps Undisturbed) :
      (observing act c).state.machine.memory.nothings = c.machine.memory.nothings :=
    observing_quiet (kept.mono fun _ _ same => congrArg Memory.nothings same.1)
  cases call with
  | request k => cases unasking
  | orNothing h =>
    obtain ⟨p, points⟩ := exists_target unasking
    refine undisturbed fun m => ?_
    rw [orNothingWith_of_some points]
    exact refl_of Undisturbed m
  | getChecked h =>
    obtain ⟨p, points⟩ := exists_target unasking
    refine undisturbed fun m => ?_
    rw [getCheckedWith_eq, orNothingWith_of_some points]
    exact checkedRead_undisturbed h.kind p m
  | isNothing k a => exact undisturbed (.gets _)
  | checkAccess k a => exact undisturbed (checkAccess_undisturbed k a)
  | count => exact undisturbed (.gets _)
  | fresh k => exact observing_quiet (makeLasting_sameNothings _)
  | operate op =>
    have leads : Client.Leads True c.situation (Client.perform op c) :=
      Client.perform_leads op (fun _ => trivial) balanced
    obtain ⟨t, leads, is⟩ := leads.exists_state
    have same := leads.sameNothings
    rw [is] at same
    exact same

end NothingCall

namespace Family

open Machine

variable {f : Family} {c : Client} {asked : List Kind}

/-- What a program can tell of the nothing instances of a family when it has asked for these
types. -/
structure OnePerType (f : Family) (asked : List Kind) (c : Client) : Prop where
  /-- No instance is made twice. -/
  once : ∀ k, c.machine.memory.nothings.attemptsOf k ≤ 1
  /-- The types that are counted are those that were asked for, and all that they need. -/
  counted : ∃ types : List Kind, types.Nodup ∧ (∀ j, j ∈ types ↔ ∃ k ∈ asked, f.Needs k j) ∧
    c.machine.memory.nothings.count = types.length
  /-- The next request returns, unless there is no storage left. -/
  granted : ∀ k, (f.request k c.machine).Obtains fun _ n => n.process = c.machine.process
  /-- Whatever happens afterwards, every request returns the same instance, and an empty handle
  stands for it. -/
  same : ∀ k i n, f.request k c.machine = .returned i n →
    ∀ more d, NothingCall.run f more { c with machine := n } = .returned () d →
      f.request k d.machine = .returned i d.machine ∧
      ∀ h : Handle, h.kind = k → h.target? = none →
        orNothingWith f.request h d.machine = .returned ⟨i, []⟩ d.machine
  /-- The instance is known as such. -/
  known : ∀ k i n, f.request k c.machine = .returned i n →
    ∃ a, n.memory.address? ⟨i, []⟩ = some a ∧ n.memory.isNothing k a = true
  /-- Among all values of its type, if they take any room, it is the only one. -/
  exact : ∀ k p a, 0 < k.layout.size → c.machine.memory.Lies k p a →
    (c.machine.memory.isNothing k a = true ↔
      p.path = [] ∧ f.request k c.machine = .returned p.cell c.machine)
  /-- What asks for no type registers none, however it ends. -/
  quiet : ∀ call : NothingCall, call.asked = [] →
    (call.make f c).state.machine.memory.nothings = c.machine.memory.nothings
  /-- An access to an instance is warned of once if that check is on, and no other access is. -/
  checked : ∀ k a, c.machine.process.Warns k
    (c.machine.process.activeConfig.diagnostics.checkNothingAccess = true ∧
      c.machine.memory.isNothing k a = true)
    (checkAccess k a c.machine).state.process
  /-- The same goes for accesses through raw pointers, -/
  pointed : ∀ (h : Handle) (p : Place) (a : Address), h.target? = some p →
    c.machine.memory.address? p = some a →
      c.machine.process.Warns h.kind
        (c.machine.process.activeConfig.diagnostics.checkNothingAccess = true ∧
          c.machine.memory.isNothing h.kind a = true)
        (getCheckedWith f.request h c.machine).state.process
  /-- and null pointers are accesses to the instance. -/
  null : ∀ (h : Handle) (i : CellId) (n : Machine), h.target? = none →
    f.request h.kind c.machine = .returned i n →
      c.machine.process.Warns h.kind
        (c.machine.process.activeConfig.diagnostics.checkNothingAccess = true)
        (getCheckedWith f.request h c.machine).state.process

/-- A request changes nothing just where the instance is there. -/
theorem request_eq_returned_iff (arranged : f.Arranged (fun _ => False) c.machine.memory)
    {k : Kind} {i : CellId} :
    f.request k c.machine = .returned i c.machine ↔
      c.machine.memory.nothings.instance? k = some i :=
  ⟨fun granted => (f.serves_of_request arranged granted).1, request_of_instance?⟩

/-- An instance that was given is the one that is given ever after. -/
theorem Tended.same (tended : f.Tended asked c.situation) {k : Kind} {i : CellId} {n : Machine}
    (granted : f.request k c.machine = .returned i n) {more : List NothingCall} {d : Client}
    (made : NothingCall.run f more { c with machine := n } = .returned () d) :
    d.machine.memory.nothings.instance? k = some i := by
  obtain ⟨there, -, serves⟩ := f.serves_of_request tended.arranged granted
  have after : f.Tended (asked ++ [k]) (Client.situation { c with machine := n }) :=
    tended.serves serves
  exact (NothingCall.run_advances after made).kept k i there

/-- An access through a null pointer is one to the instance. -/
theorem Tended.null (tended : f.Tended asked c.situation) {h : Handle} {i : CellId} {n : Machine}
    (empty : h.target? = none) (granted : f.request h.kind c.machine = .returned i n) :
    c.machine.process.Warns h.kind
      (c.machine.process.activeConfig.diagnostics.checkNothingAccess = true)
      (getCheckedWith f.request h c.machine).state.process := by
  obtain ⟨there, process, serves⟩ := f.serves_of_request tended.arranged granted
  have after : f.Tended (asked ++ [h.kind]) (Client.situation { c with machine := n }) :=
    tended.serves serves
  obtain ⟨a, lies, known⟩ := after.arranged.isNothing_of_instance? there
  have warns := checkedRead_warns lies h.kind
  rw [getCheckedWith_eq, orNothingWith_of_none empty, granted]
  simp only [known, process, and_true] at warns
  exact warns

/-- Whatever a program calls: the constructor of each type runs at most once, every request for a
type gives the same instance, which is told apart from all other values, what is counted is what was
asked for, and accesses to instances are what is warned of. -/
theorem onePerType (f : Family) (p : Process) (calls : List NothingCall) (c : Client)
    (made : NothingCall.run f calls (Client.start p) = .returned () c) :
    f.OnePerType (calls.flatMap NothingCall.asked) c := by
  have tended : f.Tended (calls.flatMap NothingCall.asked) c.situation :=
    (NothingCall.run_advances (f.tended_start p) made).tended
  have arranged := tended.arranged
  constructor
  · exact arranged.attemptsOf_le
  · exact ⟨_, arranged.distinct, tended.registered, NothingRegistry.count_eq _⟩
  · exact fun k => (f.request_obtains arranged k).mono fun _ _ obtained => obtained.2.process
  · intro k i n granted more d made
    have there := tended.same granted made
    refine ⟨request_of_instance? there, ?_⟩
    rintro h rfl empty
    rw [orNothingWith_of_none empty, request_of_instance? there]
    rfl
  · intro k i n granted
    obtain ⟨there, -, serves⟩ := f.serves_of_request arranged granted
    have after : f.Tended _ (Client.situation { c with machine := n }) := tended.serves serves
    exact after.arranged.isNothing_of_instance? there
  · intro k p a room lies
    rw [request_eq_returned_iff arranged]
    exact arranged.isNothing_iff tended.fenced room lies
  · exact fun call => NothingCall.make_quiet tended.balanced
  · exact fun k a => checkAccess_warns k a c.machine
  · intro h p a points lies
    rw [getCheckedWith_eq, orNothingWith_of_some points]
    exact checkedRead_warns lies h.kind
  · exact fun h i n => tended.null

/-- One type asks for the instance of another. -/
def nested : Family where
  recipe k := if k = outer then { requests := [Machine.counted] } else {}
  rank k := if k = outer then 1 else 0
  returns k := by
    by_cases is : k = outer
    · rw [if_pos is]
    · rw [if_neg is]
  acyclic k j member := by
    by_cases is : k = outer
    · rw [if_pos is] at member
      obtain rfl := List.mem_singleton.1 member
      rw [if_pos is]
      decide
    · rw [if_neg is] at member
      cases member

/-- To ask for the outer instance makes the inner one as well. Of two values that are equal only the
instance is known as such, and an access through a null pointer is warned of. -/
theorem onePerType_nested :
    let null : Handle := ⟨.block .own, Machine.counted, none⟩
    let calls := [NothingCall.request outer, .fresh Machine.counted, .getChecked null,
      .operate .makeHeap]
    ∃ c : Client, NothingCall.run nested calls (Client.start {}) = .returned () c ∧
      nested.OnePerType [outer, Machine.counted] c ∧
      c.machine.memory.nothings.count = 2 ∧ c.machine.process.diagnostics.length = 1 ∧
      c.machine.memory.read? ⟨0, []⟩ = c.machine.memory.read? ⟨2, []⟩ ∧
      nested.request Machine.counted c.machine = .returned 0 c.machine ∧
      c.machine.memory.Lies Machine.counted ⟨2, []⟩ 65552 ∧
      c.machine.memory.isNothing Machine.counted 65552 = false := by
  intro null calls
  let c := (NothingCall.run nested calls (Client.start {})).state
  have made : NothingCall.run nested calls (Client.start {}) = .returned () c :=
    Outcome.eq_returned (by decide)
  have once : nested.OnePerType [outer, Machine.counted] c := onePerType nested {} calls c made
  have inner : nested.request Machine.counted c.machine = .returned 0 c.machine :=
    request_of_instance? (by decide)
  have equal : c.machine.memory.Lies Machine.counted ⟨2, []⟩ 65552 := by
    refine ⟨Memory.lastingCell 65552 (.ofNothing Machine.counted), 0, by decide, ?_, rfl, by decide⟩
    unfold Cell.Contained
    decide
  refine ⟨c, made, once, by decide, by decide, by decide, inner, equal, ?_⟩
  rw [Bool.eq_false_iff]
  intro taken
  obtain ⟨-, other⟩ := (once.exact Machine.counted ⟨2, []⟩ 65552 (by decide) equal).1 taken
  rw [inner] at other
  cases other

end Family

end Custody
