import Custody.Proofs.Operations

/-!
# What counts say at every moment

While a client lets go of a handle, destroys a value or releases an arena, other code may look:
the destructors of values do. A `Moment` is a client with what is still to be done, and
`Client.Reached` says which moments there are: between two operations, at the beginning of a
destruction, and after each of its steps.

`Client.Reached.accounts` is what the counts of shared blocks say at all of them. In a strong
group the owners are counted exactly. The observers are counted with one more for all owners
together, which is given up when the value was destroyed; a panic in the destruction keeps it.
In a local group the owners are counted exactly. In both the destruction of the value begins when
the last owner goes, and at no other time.
-/

namespace Custody

/-- A client in the middle of something. -/
structure Moment where
  /-- The client, without what it is just letting go of. -/
  client : Client
  /-- What is to be done, in order. -/
  tasks : List Task := []
  /-- The panics on their way, the last one first. -/
  panics : List Passage := []

namespace Moment

variable (t : Moment) (c : CellId)

/-- What is still to be done, in whatever order. -/
def pending : List Task := t.tasks ++ t.panics.flatMap (·.cleanup)

/-- The handles of a qualifier that refer to a cell: those that the client holds or forgot, those
inside values, and those that are still to be let go of. -/
def references (t : Moment) (q : Qualifier) (c : CellId) : Nat :=
  refs q c t.client.held + refs q c t.client.forgotten + t.client.machine.memory.refs q c +
    Task.refs q c t.pending

/-- How often the destruction of the value in a cell began. -/
def begun : Nat := t.client.machine.deeds.count (.destructionBegan c)

/-- How often a panic left the destruction of the value in a cell. -/
def cutShort : Nat := t.client.machine.deeds.count (.destructionFailed c)

/-- How many destructions of the value in a cell are under way, after which its owners' shared
reference is given up. -/
def underWay : Nat := Task.leaving c t.pending

/-- How often the storage of a cell went back to its allocator. -/
def givenBack : Nat := t.client.machine.deeds.count (.handedBack c)

/-- How often the storage of a cell is still to go back. -/
def toGiveBack : Nat := Task.returning c t.pending

/-- What a strong group says of its cell. -/
structure StrongAccount (strong weak : Word) : Prop where
  /-- Every owner is counted, projections included, and nothing else is. -/
  owners : t.references .strong c = strong.toNat
  /-- Every observer is counted, and one more as long as there is an owner. -/
  observers : (t.references .weak c + if strong = 0 then 0 else 1) ≤ weak.toNat
  /-- Nothing else is counted when no destruction is under way or was left by a panic. -/
  settled : t.underWay c = 0 → t.cutShort c = 0 →
    (t.references .weak c + if strong = 0 then 0 else 1) = weak.toNat
  /-- The value's destruction began if there is no owner any more, and then once. -/
  destroyed : t.begun c = if strong = 0 then 1 else 0
  /-- The storage goes back if nothing is counted any more, and then once. -/
  returned : t.givenBack c + t.toGiveBack c = if weak = 0 then 1 else 0

/-- What a group on one thread says of its cell. -/
structure LocalAccount (count : Word) : Prop where
  /-- Every owner is counted, projections included, and nothing else is. -/
  owners : t.references .handle c = count.toNat
  /-- The value's destruction began if there is no owner any more, and then once. -/
  destroyed : t.begun c = if count = 0 then 1 else 0
  /-- The storage goes back after that, and once, unless a panic left the destruction. -/
  returned : t.givenBack c + t.toGiveBack c + t.cutShort c = if count = 0 then 1 else 0

end Moment

namespace Client

open Machine

/-- The moments that a client goes through. -/
inductive Reached (first : Client) : Moment → Prop
  /-- Operations were carried out. -/
  | rest {ops : List Operation} {c : Client} (done : run ops first = .returned () c) :
      Reached first { client := c }
  /-- A handle is about to be let go of. -/
  | letGo {c : Client} {h : Handle} (before : Reached first { client := c }) (held : h ∈ c.held) :
      Reached first { client := { c with held := c.held.erase h }, tasks := [.drop h] }
  /-- A value is about to be destroyed. -/
  | destroy {c : Client} {v : Value} {left : List Handle} (before : Reached first { client := c })
      (taken : takeAll v.handles c.held = some left) :
      Reached first { client := { c with held := left }, tasks := v.plan }
  /-- A release has run some of the destructors that an arena had registered, and begins with
  the next one. -/
  | release {c : Client} {id : AllocatorId} {a : Arena} {ran left : List Registration}
      {r : Registration} {m n : Machine} {tasks : List Task}
      (before : Reached first { client := c }) (there : c.machine.memory.arena? id = some a)
      (list : a.collected = ran ++ r :: left)
      (passed : Run.forAll (runDestructor id) ran (c.machine.listTaken id a) = .returned () m)
      (next : beginDestruction r.destructor.subject (m.runNoted id r) = .returned tasks n) :
      Reached first { client := { c with machine := n }, tasks := tasks }
  /-- One more step of a destruction was taken. -/
  | step {t : Moment} {e : Destruction} (before : Reached first t)
      (step : Destruction.Step ⟨t.tasks, t.panics, t.client.machine⟩ e) :
      Reached first ⟨{ t.client with machine := e.machine }, e.tasks, e.panics⟩

/-- The moments that a client goes through before its next operation is done. -/
inductive Underway (first : Client) : Moment → Prop
  | rest : Underway first { client := first }
  /-- A handle is about to be let go of. -/
  | letGo {c : Client} {h : Handle} (before : Underway first { client := c }) (held : h ∈ c.held) :
      Underway first { client := { c with held := c.held.erase h }, tasks := [.drop h] }
  /-- A value is about to be destroyed. -/
  | destroy {c : Client} {v : Value} {left : List Handle} (before : Underway first { client := c })
      (taken : takeAll v.handles c.held = some left) :
      Underway first { client := { c with held := left }, tasks := v.plan }
  /-- A release begins with the next destructor that an arena had registered. -/
  | release {c : Client} {id : AllocatorId} {a : Arena} {ran left : List Registration}
      {r : Registration} {m n : Machine} {tasks : List Task}
      (before : Underway first { client := c }) (there : c.machine.memory.arena? id = some a)
      (list : a.collected = ran ++ r :: left)
      (passed : Run.forAll (runDestructor id) ran (c.machine.listTaken id a) = .returned () m)
      (next : beginDestruction r.destructor.subject (m.runNoted id r) = .returned tasks n) :
      Underway first { client := { c with machine := n }, tasks := tasks }
  /-- One more step of a destruction was taken. -/
  | step {t : Moment} {e : Destruction} (before : Underway first t)
      (step : Destruction.Step ⟨t.tasks, t.panics, t.client.machine⟩ e) :
      Underway first ⟨{ t.client with machine := e.machine }, e.tasks, e.panics⟩

end Client

/-- Where a client stands at a moment. -/
def Moment.situation (t : Moment) : Situation :=
  ⟨t.client.machine, t.client.held ++ t.client.forgotten, t.tasks, t.panics⟩

/-- The books balance at a moment, with all that is still to be done. -/
abbrev Moment.Balanced (t : Moment) : Prop := t.situation.Balanced

namespace Client

open Machine Situation

/-- A client gets step by step to the moments that come before its next operation is done. -/
theorem Underway.leads {may : Licence} {c : Client} {t : Moment} (underway : c.Underway t)
    (balanced : c.Balanced) : Situation.Leads may c.situation t.situation := by
  induction underway with
  | rest => exact .refl
  | @letGo d h before held ih =>
    have first : (d.held ++ d.forgotten).Perm (h :: (d.held.erase h ++ d.forgotten)) :=
      (List.perm_cons_erase held).append_right _
    exact (ih.tail (.reordered first)).tail (.letGo h)
  | @destroy d v left before taken ih =>
    exact (ih.trans (takeAll_leads taken)).tail (.destroyed v)
  | @release d id a ran left r m n tasks before there list passed next ih =>
    have step : Situation.Step may d.situation (.rest (d.machine.listTaken id a) _) :=
      .listTaken there
    have balanced : d.Balanced := balanced.leads ih
    have running := listTaken_running balanced.sound there
    rw [list] at running
    have ranSome : (Run.forAll (runDestructor id) ran (d.machine.listTaken id a)).Leads may
        (.rest (d.machine.listTaken id a) (d.held ++ d.forgotten)) _ _ :=
      runDestructors_leads running (balanced.step step)
    rw [passed] at ranSome
    exact ((ih.tail step).trans ranSome).tail
      (.destructorRun (runDestructors_running running passed) next)
  | @step t e before step ih => exact ih.tail (.settling step)

/-- A client that goes through a moment has carried out operations before. -/
theorem Reached.underway {first : Client} {t : Moment} (reached : Reached first t) :
    ∃ ops c, run ops first = .returned () c ∧ c.Underway t := by
  induction reached with
  | @rest ops c done => exact ⟨ops, c, done, .rest⟩
  | letGo before held ih =>
    obtain ⟨ops, c, done, underway⟩ := ih
    exact ⟨ops, c, done, .letGo underway held⟩
  | destroy before taken ih =>
    obtain ⟨ops, c, done, underway⟩ := ih
    exact ⟨ops, c, done, .destroy underway taken⟩
  | release before there list passed next ih =>
    obtain ⟨ops, c, done, underway⟩ := ih
    exact ⟨ops, c, done, .release underway there list passed next⟩
  | step before step ih =>
    obtain ⟨ops, c, done, underway⟩ := ih
    exact ⟨ops, c, done, .step underway step⟩

/-- A client gets to its moments step by step. -/
theorem Reached.leads {first : Client} {t : Moment} (reached : Reached first t)
    (start : first.Balanced) : Situation.Leads True first.situation t.situation := by
  obtain ⟨ops, c, done, underway⟩ := reached.underway
  have leads : Leads True first.situation (run ops first) :=
    run_leads ops (fun _ _ _ => trivial) start
  rw [done] at leads
  exact Relation.ReflTransGen.trans leads (underway.leads (start.leads leads))

/-- Every moment that a balanced client goes through is balanced. -/
theorem Reached.balanced {first : Client} {t : Moment} (reached : Reached first t)
    (start : first.Balanced) : t.Balanced :=
  start.leads (reached.leads start)

end Client

/-! ## Accounts -/

namespace Moment

variable {t : Moment} {c : CellId}

/-- The tally of a cell at a moment. -/
def tally (t : Moment) (c : CellId) : Tally :=
  t.client.machine.tally (t.pending ++ t.client.duties) c

theorem refs_tally (t : Moment) (q : Qualifier) (c : CellId) :
    (t.tally c).refs q = t.references q c := by
  show Task.refs q c (t.pending ++ t.client.duties) + _ = _
  unfold references Client.duties
  rw [Task.refs_append, Task.refs_map_drop, refs_append]
  omega

/-- A client's own handles owe nothing but to be let go of. -/
theorem leaving_tally (t : Moment) (c : CellId) : (t.tally c).leaving = t.underWay c := by
  show Task.leaving c (t.pending ++ t.client.duties) = _
  unfold Client.duties
  rw [Task.leaving_append, Task.leaving_map_drop]
  rfl

theorem returning_tally (t : Moment) (c : CellId) : (t.tally c).returning = t.toGiveBack c := by
  show Task.returning c (t.pending ++ t.client.duties) = _
  unfold Client.duties
  rw [Task.returning_append, Task.returning_map_drop]
  rfl

/-- What is known of a cell fits what refers to it at a moment. -/
theorem Balanced.fits (balanced : t.Balanced) (c : CellId) :
    (t.tally c).Fits (t.client.machine.memory.cell? c) :=
  balanced.balanced.books c

/-- What a block says of its cell at a moment. -/
theorem Balanced.law (balanced : t.Balanced) {s : BlockState}
    (block : t.client.machine.memory.block? c = some s) : (t.tally c).Law (some s) :=
  balanced.balanced.books.law block

/-- The sign of a count and whether it is zero make one. -/
theorem eq_of_add_sign {n : Nat} {w : Word} (h : n + w.sign = 1) : n = if w = 0 then 1 else 0 := by
  by_cases zero : w = 0
  · rw [if_pos zero]
    rw [zero] at h
    exact h
  · rw [if_neg zero]
    rw [Word.sign_of_ne zero] at h
    exact Nat.succ.inj h

theorem Balanced.strongAccount (balanced : t.Balanced) {strong weak : Word}
    (block : t.client.machine.memory.block? c = some (.strong strong weak)) :
    t.StrongAccount c strong weak := by
  have law : (t.tally c).StrongLaw strong weak := balanced.law block
  have observers := law.observers
  rw [refs_tally, leaving_tally] at observers
  have failed : (t.tally c).failed = t.cutShort c := rfl
  have sign : strong.sign = if strong = 0 then 0 else 1 := rfl
  rw [failed, sign] at observers
  constructor
  · rw [← refs_tally]
    exact law.owners
  · omega
  · intro settled unharmed
    omega
  · exact eq_of_add_sign law.began
  · have returned := law.returned
    rw [returning_tally] at returned
    exact eq_of_add_sign returned

theorem Balanced.localAccount (balanced : t.Balanced) {count : Word}
    (block : t.client.machine.memory.block? c = some (.handle count)) :
    t.LocalAccount c count := by
  have law : (t.tally c).LocalLaw count := balanced.law block
  constructor
  · rw [← refs_tally]
    exact law.owners
  · exact eq_of_add_sign law.began
  · have returned := law.returned
    rw [returning_tally] at returned
    exact eq_of_add_sign returned

end Moment

namespace Client

/-- At every moment of every run, the block of every shared value says how many handles refer to
it, and whether it was destroyed. -/
theorem Reached.accounts {p : Process} {t : Moment} (reached : Reached (start p) t) (c : CellId) :
    (∀ strong weak, t.client.machine.memory.block? c = some (.strong strong weak) →
      t.StrongAccount c strong weak) ∧
    ∀ count, t.client.machine.memory.block? c = some (.handle count) → t.LocalAccount c count := by
  have balanced := reached.balanced (start_balanced p)
  exact ⟨fun _ _ => balanced.strongAccount, fun _ => balanced.localAccount⟩

/-- The last owner of an observed value has gone, and its destruction is under way: of the two
references that are counted one is the observer's. -/
theorem exists_reached_underWay : ∃ t, Reached (start {}) t ∧
    t.client.machine.memory.block? 0 = some (.strong 0 2) ∧ t.underWay 0 = 1 ∧
      t.StrongAccount 0 0 2 := by
  let h : Handle := .whole (.block .strong) .tracked 0
  let ops : List Operation :=
    [.create (.block .strong) systemAllocator (.tracked "a") false, .downgrade h]
  have ran : ∃ c more n, run ops (start {}) = .returned () c ∧ h ∈ c.held ∧
      (Task.drop h).advance c.machine = .returned more n ∧
      n.memory.block? 0 = some (.strong 0 2) ∧ Task.leaving 0 more = 1 := by
    refine ⟨_, _, _, rfl, ?_, rfl, ?_, ?_⟩ <;> decide
  obtain ⟨c, more, n, done, held, advanced, block, leaving⟩ := ran
  have reached := Reached.step (.letGo (.rest done) held) (.task advanced)
  refine ⟨_, reached, block, ?_, (Reached.accounts reached 0).1 0 2 block⟩
  show Task.leaving 0 (more ++ [] ++ []) = 1
  rw [List.append_nil, List.append_nil]
  exact leaving

end Client

end Custody
