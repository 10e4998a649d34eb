import Custody.Proofs.Indifference
import Custody.Proofs.SoleHandles
import Custody.Proofs.Threads

/-!
# Shared handles that become sole owners

A shared handle that is to become a sole owner does so, or is let go of; nothing else can happen to
it. It becomes one if it is the only one of its kind, was not narrowed, and nobody observes. Then
its block gets another tag, and that is all. Otherwise the log is told how many owners there were,
and the handle is dropped as it would have been dropped without that, whatever the log has done
with the entry in between, as destructions ask nothing of a process that an entry can change:
`Client.Reached.becomesSole`.
-/

namespace Custody

namespace Machine

section State

variable {m : Machine} {c : CellId} {cell : Cell} (found : m.memory.cell? c = some cell)

include found

/-- Where a place lies does not depend on the states of blocks. -/
theorem address?_withState (s : BlockState) (p : Place) :
    (m.withState c cell s).memory.address? p = m.memory.address? p := by
  unfold Memory.address?
  by_cases here : p.cell = c
  · rw [here, cell?_withState_self found, found]
    rfl
  · rw [cell?_withState_of_ne _ _ _ here]

/-- Values do not depend on the states of blocks. -/
theorem read?_withState (s : BlockState) (p : Place) :
    (m.withState c cell s).memory.read? p = m.memory.read? p := by
  unfold Memory.read?
  by_cases here : p.cell = c
  · rw [here, cell?_withState_self found, found]
    rfl
  · rw [cell?_withState_of_ne _ _ _ here]

/-- To give a block to another kind of owner is to give it a fresh state. -/
theorem retagged_of_found {h : Handle} {l : Link} (link : h.link = some l) (here : l.cell = c)
    (owner : BlockOwner) :
    retagged h owner m =
      .returned (h.held (.block owner)) (m.withState c cell (.fresh owner)) := by
  subst here
  have state := state_retagged owner link found
  unfold retagged at state ⊢
  rw [link] at state ⊢
  rw [← state]
  rfl

/-- What the log is told of a shared handle that is let go of instead. -/
theorem logRefusal_of_found (h : Handle) :
    logRefusal h c m =
      (Process.emit (refusal h.qualifier cell.kind.name ((cell.state.map (·.owners)).getD 0)
        m.process.thread.name) m.process).mapState fun q => ⟨q, m.memory⟩ := by
  have asked : ofMemory (·.cell? c) m = .returned (some cell) m :=
    congrArg (Outcome.returned · m) found
  unfold logRefusal
  rw [Run.bind_apply, asked]
  rfl

end State

/-- A shared handle on the books is told whether it can become a sole owner. -/
theorem Books.canOwnAlone {m : Machine} {tasks : List Task} {h : Handle} {l : Link}
    (books : m.Books tasks) (seen : m.Seen tasks h) (shared : h.qualifier.isShared = true)
    (link : h.link = some l) :
    canOwnAlone h l m =
      .returned (decide (l.projected = false ∧ (m.tally tasks l.cell).Lone h.qualifier)) m := by
  unfold Machine.canOwnAlone
  by_cases projected : l.projected = true
  · simp [projected]
  · rw [if_neg projected, books.isExclusive seen shared link]
    simp [projected]

end Machine

namespace Client

open Machine

variable {c : Client} {h : Handle} {l : Link}

/-- The client in another process. -/
def inProcess (c : Client) (q : Process) : Client := { c with machine := ⟨q, c.machine.memory⟩ }

/-- Clients with the same handles and the same memory, whose processes have gone on from two given
ones in the same way. -/
structure Alongside (p q : Process) (c d : Client) : Prop where
  machine : Machine.Alongside p q c.machine d.machine
  held : d.held = c.held
  forgotten : d.forgotten = c.forgotten

/-- What the machine does a client does. -/
theorem onMachine_of_returned {α : Type} {act : Run Machine α} {a : α} {n : Machine}
    (done : act c.machine = .returned a n) :
    onMachine act c = .returned a { c with machine := n } := by
  unfold onMachine Run.within
  rw [done]
  rfl

/-- A handle that is held and not empty can be used up. -/
theorem spending_of_mem {act : Run Client Unit} (held : h ∈ c.held) (link : h.link = some l) :
    spending [h] act c = act { c with held := c.held.erase h } := by
  have full : h.isEmpty = false := by
    unfold Handle.isEmpty
    rw [link]
    rfl
  simp [spending, takeAll, full, held]

/-- To drop a handle is to let go of it and to have it no more. -/
theorem perform_drop (held : h ∈ c.held) (link : h.link = some l) :
    perform (.drop h) c =
      (dropHandle h c.machine).mapState fun m =>
        { c with machine := m, held := c.held.erase h } := by
  show spending [h] (yielding (dropHandle h) fun _ => []) c = _
  rw [spending_of_mem held link]
  show ((dropHandle h c.machine).mapState fun m =>
    ({ c with machine := m, held := c.held.erase h } : Client)).andThen _ = _
  rcases dropHandle h c.machine with _ | _ | _ <;> rfl

/-- A handle is dropped in the same way in every process with as many panics, if the books balance
with all that there is. -/
theorem perform_drop_alongside {tasks : List Task} (held : h ∈ c.held) (link : h.link = some l)
    (books : c.machine.Books (.drop h :: tasks)) {q : Process}
    (same : q.thread.panics = c.machine.process.thread.panics) :
    (perform (.drop h) c).Paired Eq (Alongside c.machine.process q)
      (perform (.drop h) (c.inProcess q)) := by
  have balanced : Destruction.Balanced tasks ⟨[.drop h], [], c.machine⟩ :=
    ⟨books, fun _ _ _ _ => rfl⟩
  rw [perform_drop held link, perform_drop (c := c.inProcess q) held link]
  apply (drain_indifferent balanced q same).mapState
  intro m n states
  exact ⟨states, rfl, rfl⟩

/-- A shared handle that is to become a sole owner is taken first. -/
theorem perform_intoOwn (held : h ∈ c.held) (link : h.link = some l)
    (shared : h.qualifier.isShared = true) :
    perform (.convert h (.block .own)) c = intoOwn h { c with held := c.held.erase h } := by
  have must : mustBeAlone h (.block .own) = true := by
    simp [mustBeAlone, shared]
  show spending [h] (convert h (.block .own)) c = _
  rw [spending_of_mem held link]
  unfold convert
  rw [if_pos must]

/-- A shared handle that can own alone does so, and nothing but its block changes. -/
theorem intoOwn_of_alone {cell : Cell} (link : h.link = some l)
    (found : c.machine.memory.cell? l.cell = some cell)
    (asked : canOwnAlone h l c.machine = .returned true c.machine) :
    intoOwn h c = .returned () { c with
      machine := c.machine.withState l.cell cell .own
      held := h.held (.block .own) :: c.held } := by
  unfold intoOwn
  rw [link]
  show (onMachine (canOwnAlone h l) c).andThen _ = _
  rw [onMachine_of_returned asked]
  show (onMachine (retagged h .own) c).andThen _ = _
  rw [onMachine_of_returned (retagged_of_found found link rfl .own)]
  rfl

/-- A shared handle that cannot own alone is let go of when the log was told. -/
theorem intoOwn_of_not_alone (link : h.link = some l)
    (asked : canOwnAlone h l c.machine = .returned false c.machine) :
    intoOwn h c =
      (Run.onUnwind (onMachine (logRefusal h l.cell)) (lose [h]) c).andThen fun _ =>
        yielding (dropHandle h) fun _ => [.empty (.block .own) h.kind] := by
  unfold intoOwn
  rw [link]
  show (onMachine (canOwnAlone h l) c).andThen _ = _
  rw [onMachine_of_returned asked]
  rfl

/-- What there is when a shared handle has become a sole owner: only its block is another. No
destructor ran, and no allocator noticed. -/
structure Kept (h g : Handle) (c d : Client) : Prop where
  owns : g = h.held (.block .own)
  held : d.held = g :: c.held.erase h
  forgotten : d.forgotten = c.forgotten
  process : d.machine.process = c.machine.process
  /-- The rest of memory is as it was. -/
  memory : d.machine.memory = { c.machine.memory with cells := d.machine.memory.cells }
  /-- Of the cells one has another state. -/
  cell : ∃ l cell, h.link = some l ∧ c.machine.memory.cell? l.cell = some cell ∧
    d.machine = c.machine.withState l.cell cell .own
  address : g.address d.machine.memory = h.address c.machine.memory
  value : g.value? d.machine.memory = h.value? c.machine.memory

/-- What becomes of a shared handle that is not to become a sole owner, when the log is told. -/
inductive Released (c : Client) (h : Handle) (e : Log.Entry) : Prop
  /-- The handle is dropped, in the same way as it would have been without the entry, and an empty
  one comes of it unless a destructor panics. -/
  | dropped {q : Process} (told : Process.emit e c.machine.process = .returned () q)
      (same : (perform (.drop h) c).Paired Eq (Alongside c.machine.process q)
        (perform (.drop h) (c.inProcess q)))
      (answer : perform (.convert h (.block .own)) c =
        (perform (.drop h) (c.inProcess q)).andThen fun _ => hold [.empty (.block .own) h.kind])
  /-- The sink panicked. Nothing was let go of, and nobody has the handle. -/
  | unheard {payload : Payload} {q : Process}
      (panicked : Process.emit e c.machine.process = .unwinding payload q)
      (answer : perform (.convert h (.block .own)) c = .unwinding payload
        { c.inProcess q with held := c.held.erase h, forgotten := h :: c.forgotten })
  /-- The sink ended the process. -/
  | ended {cause : Abort} {q : Process}
      (aborted : Process.emit e c.machine.process = .aborted cause q)
      (answer : perform (.convert h (.block .own)) c =
        .aborted cause { c.inProcess q with held := c.held.erase h })

/-- A shared handle that can own alone does so. -/
theorem exists_kept {cell : Cell} (held : h ∈ c.held) (link : h.link = some l)
    (shared : h.qualifier.isShared = true) (found : c.machine.memory.cell? l.cell = some cell)
    (asked : canOwnAlone h l c.machine = .returned true c.machine) :
    ∃ d g, perform (.convert h (.block .own)) c = .returned () d ∧ Kept h g c d := by
  refine ⟨{ c with
    machine := c.machine.withState l.cell cell .own
    held := h.held (.block .own) :: c.held.erase h }, h.held (.block .own), ?_, ?_⟩
  · rw [perform_intoOwn held link shared]
    exact intoOwn_of_alone (c := { c with held := c.held.erase h }) link found asked
  · have value (o : BlockOwner) (m : Memory) : (h.held (.block o)).value? m = h.value? m := by
      rcases ownership_of_isShared shared with owns | owns <;> simp [Handle.value?, Handle.held,
        Handle.target?, owns]
    constructor
    · rfl
    · rfl
    · rfl
    · rfl
    · rfl
    · exact ⟨l, cell, link, found, rfl⟩
    · show ((h.target?).bind (c.machine.withState l.cell cell .own).memory.address?).getD 0 = _
      simp only [funext (address?_withState found .own)]
      rfl
    · rw [value]
      unfold Handle.value?
      simp only [funext (read?_withState found .own)]

/-- A shared handle that cannot own alone is let go of, once the log was told how many owners there
were. -/
theorem released_of_not_alone {cell : Cell} {tasks : List Task} (held : h ∈ c.held)
    (link : h.link = some l) (shared : h.qualifier.isShared = true)
    (books : c.machine.Books (.drop h :: tasks))
    (found : c.machine.memory.cell? l.cell = some cell)
    (asked : canOwnAlone h l c.machine = .returned false c.machine) :
    Released c h (refusal h.qualifier cell.kind.name ((cell.state.map (·.owners)).getD 0)
      c.machine.process.thread.name) := by
  have converted := perform_intoOwn held link shared
  rw [intoOwn_of_not_alone (c := { c with held := c.held.erase h }) link asked] at converted
  have logged := logRefusal_of_found found h
  generalize refusal _ _ _ _ = e at logged ⊢
  cases ended : Process.emit e c.machine.process with
  | returned u q =>
    rw [ended] at logged
    have kept : q.thread = c.machine.process.thread := by
      have ensured := Process.emitWith_keepsThread
        (Process.perform_keepsThread Process.stackDepth) e c.machine.process
      rw [show Process.emitWith _ e c.machine.process = .returned u q from ended] at ensured
      exact ensured
    refine .dropped ended (perform_drop_alongside held link books (congrArg _ kept)) ?_
    rw [converted, perform_drop (c := c.inProcess q) held link]
    unfold Run.onUnwind onMachine Run.within
    dsimp only
    rw [logged]
    rfl
  | unwinding payload q =>
    rw [ended] at logged
    refine .unheard ended ?_
    rw [converted]
    unfold Run.onUnwind onMachine Run.within
    dsimp only
    rw [logged]
    rfl
  | aborted cause q =>
    rw [ended] at logged
    refine .ended ended ?_
    rw [converted]
    unfold Run.onUnwind onMachine Run.within
    dsimp only
    rw [logged]
    rfl

end Client

namespace Moment

open Client Machine

/-- What becomes of a shared handle that is held at a moment and is to become a sole owner. -/
structure BecomesSole (t : Moment) (h : Handle) (l : Link) : Prop where
  /-- It becomes one exactly if it was not narrowed, is the only handle of its kind that refers to
  the value, and nobody observes. -/
  exact : (∃ d g, perform (.convert h (.block .own)) t.client = .returned () d ∧
      d.held = g :: t.client.held.erase h ∧ g.isEmpty = false) ↔
    l.projected = false ∧ t.Lone h.qualifier l.cell
  /-- Then it refers to what it referred to, and nothing but its block changes. -/
  kept : l.projected = false → t.Lone h.qualifier l.cell →
    ∃ d g, perform (.convert h (.block .own)) t.client = .returned () d ∧ Kept h g t.client d
  /-- Otherwise the log is told how many owners there are, and it is dropped. -/
  released : ¬(l.projected = false ∧ t.Lone h.qualifier l.cell) →
    ∃ cell owners, t.client.machine.memory.cell? l.cell = some cell ∧
      owners.toNat = t.references h.qualifier l.cell ∧
      Released t.client h
        (refusal h.qualifier cell.kind.name owners t.client.machine.process.thread.name)

variable {t : Moment} {h : Handle} {l : Link}

/-- A handle that is held is on the books before all the others. -/
theorem Balanced.books_drop (balanced : t.Balanced) (held : h ∈ t.client.held) :
    ∃ tasks, t.client.machine.Books (.drop h :: tasks) := by
  have books : t.client.machine.Books (t.pending ++ t.client.duties) := balanced.balanced.books
  have member : Task.drop h ∈ t.pending ++ t.client.duties :=
    List.mem_append_right _ (List.mem_map_of_mem (List.mem_append_left _ held))
  exact ⟨_, books.perm (List.perm_cons_erase member)⟩

/-- The owners that a block counts are the shared handles of one kind that refer to its cell. -/
theorem Balanced.owners_eq {cell : Cell} (balanced : t.Balanced) (has : t.Has h)
    (shared : h.qualifier.isShared = true) (link : h.link = some l)
    (found : t.client.machine.memory.cell? l.cell = some cell) :
    ((cell.state.map BlockState.owners).getD 0).toNat = t.references h.qualifier l.cell := by
  obtain ⟨cell', s, found', state, -, owners⟩ := has.sharedBlock balanced shared link
  cases found.symm.trans found'
  rw [state]
  exact owners

end Moment

namespace Client

open Machine

/-- Nothing but an empty handle comes of a shared handle that was let go of. -/
theorem Released.isEmpty {c d : Client} {h g : Handle} {l : Link} {e : Log.Entry}
    (released : Released c h e) (held : h ∈ c.held) (link : h.link = some l)
    (done : perform (.convert h (.block .own)) c = .returned () d)
    (yielded : d.held = g :: c.held.erase h) : g.isEmpty = true := by
  cases released with
  | @dropped q told same answer =>
    rw [answer, perform_drop (c := c.inProcess q) held link] at done
    cases ended : dropHandle h (c.inProcess q).machine with
    | returned u n =>
      rw [ended] at done
      cases done
      cases yielded
      rfl
    | unwinding payload n =>
      rw [ended] at done
      cases done
    | aborted cause n =>
      rw [ended] at done
      cases done
  | unheard panicked answer =>
    rw [answer] at done
    cases done
  | ended aborted answer =>
    rw [answer] at done
    cases done

/-- At every moment of every run, a shared handle becomes a sole owner exactly if it is whole and
the only one and nobody observes, and then nothing but its block changes; otherwise it is dropped,
after one entry in the log. -/
theorem Reached.becomesSole {p : Process} {t : Moment} {h : Handle} {l : Link}
    (reached : Reached (start p) t) (held : h ∈ t.client.held)
    (shared : h.qualifier.isShared = true) (link : h.link = some l) : t.BecomesSole h l := by
  have balanced := reached.balanced (start_balanced p)
  have has : t.Has h := .inl held
  have books : t.client.machine.Books (t.pending ++ t.client.duties) := balanced.balanced.books
  obtain ⟨cell, found, -⟩ := books.found_of_seen has.seen link
  obtain ⟨tasks, first⟩ := balanced.books_drop held
  have asked := books.canOwnAlone has.seen shared link
  have lone : (t.tally l.cell).Lone h.qualifier ↔ t.Lone h.qualifier l.cell :=
    Moment.lone_tally_iff
  have kept (whole : l.projected = false) (alone : t.Lone h.qualifier l.cell) :
      ∃ d g, perform (.convert h (.block .own)) t.client = .returned () d ∧
        Kept h g t.client d := by
    refine exists_kept held link shared found (asked.trans ?_)
    rw [decide_eq_true ⟨whole, lone.2 alone⟩]
  have released (not : ¬(l.projected = false ∧ t.Lone h.qualifier l.cell)) :
      Released t.client h (refusal h.qualifier cell.kind.name
        ((cell.state.map (·.owners)).getD 0) t.client.machine.process.thread.name) := by
    refine released_of_not_alone held link shared first found (asked.trans ?_)
    rw [decide_eq_false fun both => not ⟨both.1, lone.1 both.2⟩]
  constructor
  · constructor
    · rintro ⟨d, g, done, yielded, full⟩
      by_contra not
      rw [(released not).isEmpty held link done yielded] at full
      cases full
    · rintro ⟨whole, alone⟩
      obtain ⟨d, g, done, same⟩ := kept whole alone
      refine ⟨d, g, done, same.held, ?_⟩
      rw [same.owns]
      show h.link.isNone = false
      rw [link]
      rfl
  · exact kept
  · intro not
    exact ⟨cell, _, found, balanced.owners_eq has shared link found, released not⟩

/-- The last handle to a record was narrowed to its first field, which lies where the record lies.
It does not become a sole owner, and the record is dropped. -/
theorem exists_reached_becomesSole : ∃ t h l, Reached (start {}) t ∧ h ∈ t.client.held ∧
    h.qualifier.isShared = true ∧ h.link = some l ∧ t.BecomesSole h l ∧
      t.Lone h.qualifier l.cell ∧
      h.address t.client.machine.memory =
        (t.client.machine.memory.address? ⟨l.cell, []⟩).getD 0 ∧
      ¬∃ d g, perform (.convert h (.block .own)) t.client = .returned () d ∧
        d.held = g :: t.client.held.erase h ∧ g.isEmpty = false := by
  let record : Handle := .whole (.block .strong) .pair 0
  let field : Handle := record.narrowed .tracked ⟨0, [.left]⟩
  let ops : List Operation :=
    [.create (.block .strong) systemAllocator (.pair "a" "b" 1 2) false,
      .narrow record .tracked ⟨0, [.left]⟩ true]
  have dropped := exists_dropped (p := {}) 4 ops record
    (fun c => decide (field ∈ c.held) &&
      (decide (({ client := c } : Moment).Lone .strong 0) &&
        field.address c.machine.memory == (c.machine.memory.address? ⟨0, []⟩).getD 0))
    (by decide) (by decide)
  obtain ⟨c, done, checked⟩ := dropped
  rw [Bool.and_eq_true, Bool.and_eq_true, decide_eq_true_iff, decide_eq_true_iff,
    beq_iff_eq] at checked
  obtain ⟨held, alone, there⟩ := checked
  have becomes := Reached.becomesSole (h := field) (.rest done) held rfl rfl
  refine ⟨{ client := c }, field, _, .rest done, held, rfl, rfl, becomes, alone, there, ?_⟩
  intro made
  have whole := (becomes.exact.1 made).1
  cases whole

end Client

end Custody
