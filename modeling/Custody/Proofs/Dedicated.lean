import Custody.Storage.Arena

/-!
# Chunks beside the one being filled

A request for more than half a chunk is carved from the chunk being filled if there is room, and
gets a chunk of its own otherwise. The chunk being filled stays the one being filled then, and
what is left of it is left: an arena without a capacity answers all later requests as if that one
had never been made.

`Filling` is an arena with a count of the chunks that it has obtained of either kind, and
`Filling.run` has it serve requests one after the other. The heap refuses nothing, and has places
for the chunks to fill and places for the others, in two rows that go on independently (`Grounds`).
What an arena without a capacity answers, and what it does to its cursor, hang on its configuration
and its cursor alone. So two fillings that are alike in these and in the number of chunks to fill
are `Filling.Level`, and one request either gets a chunk of its own, and the filling that served it
stays level with the other that did not, or gets the same answer from both (`Filling.serve_level`).
Runs of any length follow by induction: `Filling.run_kept`.
-/

namespace Custody

/-! ## Requests one after the other -/

/-- The places that a heap which refuses nothing has for the chunks of an arena: the next one for a
chunk to fill, and the next one for a chunk of a request's own. -/
structure Grounds where
  /-- Where a chunk to fill is placed, given how many were before. -/
  toFill : Nat → Layout → Address
  /-- Where a chunk of a request's own is placed, given how many were before. -/
  apart : Nat → Layout → Address

/-- What is asked of an arena. -/
structure Demand where
  layout : Layout
  destructor : Option Destructor := none
  deriving DecidableEq

/-- What became of a request. -/
structure Service where
  demand : Demand
  answer : Except AllocError Grant
  /-- The chunk that it was carved from, as a number among those to fill, and the offset there. -/
  place : Option (Nat × Word)

/-- Whether an answer is that the request got a chunk of its own. -/
def Grant.isApart (answer : Except AllocError Grant) : Bool :=
  answer.toOption.any fun grant => grant.spot == .dedicatedChunk

/-- An arena that has served requests, and how many chunks it has obtained for them. -/
structure Filling where
  arena : Arena
  /-- Chunks to fill. -/
  filled : Nat := 0
  /-- Chunks of a request's own. -/
  dedicated : Nat := 0
  deriving DecidableEq

namespace Filling

/-- Where the next chunk is placed, if a request makes the arena obtain one. -/
def source (g : Grounds) (f : Filling) (l : Layout) (chunk : Layout) : Option Address :=
  some (if f.arena.isOversized l then g.apart f.dedicated chunk else g.toFill f.filled chunk)

/-- The place of a grant in the chunk being filled, if it lies there. -/
def placeOf (f : Filling) (grant : Grant) : Option (Nat × Word) :=
  match grant.spot with
  | .bump | .freshChunk => f.arena.cursor.map fun c => (f.filled, grant.address - c.base)
  | .nowhere | .dedicatedChunk | .heap => none

/-- The filling after the arena has served a request, and counted what it obtained for it. -/
def next (f : Filling) (l : Layout) (after : Arena) : Filling :=
  let obtained := after.chunks.length - f.arena.chunks.length
  if f.arena.isOversized l then ⟨after, f.filled, f.dedicated + obtained⟩
  else ⟨after, f.filled + obtained, f.dedicated⟩

/-- Serve a request. -/
def serve (g : Grounds) (f : Filling) (q : Demand) : Service × Filling :=
  let (answer, after) := f.arena.allocate (f.source g q.layout) q.layout q.destructor
  let next := f.next q.layout after
  (⟨q, answer, answer.toOption.bind next.placeOf⟩, next)

/-- Serve requests one after the other. -/
def run (g : Grounds) (f : Filling) : List Demand → List Service × Filling
  | [] => ([], f)
  | q :: rest =>
    let (service, next) := f.serve g q
    let (services, last) := next.run g rest
    (service :: services, last)

end Filling

/-! ## What an arena without a capacity looks at -/

namespace Arena

/-- Two arenas without a capacity are configured alike and fill the same chunk from the same
place on. They may hold different chunks, and have handed out different things. -/
structure Level (a b : Arena) : Prop where
  unbounded : a.config.maxSize = 0
  config : b.config = a.config
  cursor : b.cursor = a.cursor

/-- Two arenas did the same: they gave the same answer, obtained as many chunks, and are level. -/
structure Alike (a b : Arena) (x y : Except AllocError Grant × Arena) : Prop where
  answer : y.1 = x.1
  obtained : y.2.chunks.length - b.chunks.length = x.2.chunks.length - a.chunks.length
  level : Level x.2 y.2

variable {a b : Arena} {heap other : Layout → Option Address} {l : Layout}
  {destructor : Option Destructor}

theorem Level.self (unbounded : a.config.maxSize = 0) : Level a a := ⟨unbounded, rfl, rfl⟩

theorem Level.isOversized (level : Level a b) (l : Layout) : b.isOversized l = a.isOversized l := by
  unfold Arena.isOversized
  rw [level.config]

theorem Level.chunkLayout? (level : Level a b) (l : Layout) :
    b.chunkLayout? l = a.chunkLayout? l := by
  unfold Arena.chunkLayout?
  rw [level.isOversized, level.config]

/-- Without a capacity there is always room for one more chunk. -/
theorem not_exceedsCapacity (unbounded : a.config.maxSize = 0) (chunk : Layout) :
    ¬a.exceedsCapacity chunk = true := by
  unfold exceedsCapacity
  simp [unbounded]

/-- What is answered without a look at the chunks leaves the arenas level. -/
theorem Level.alike (level : Level a b) (answer : Except AllocError Grant) :
    Alike a b (answer, a) (answer, b) :=
  ⟨rfl, by rw [Nat.sub_self, Nat.sub_self], level⟩

theorem Level.placeInChunk (level : Level a b) (chunk : Chunk) (l : Layout) :
    Alike a b (a.placeInChunk chunk l) (b.placeInChunk chunk l) := by
  have obtained : (chunk :: b.chunks).length - b.chunks.length =
      (chunk :: a.chunks).length - a.chunks.length := by
    simp only [List.length_cons, Nat.add_sub_cancel_left]
  unfold Arena.placeInChunk
  dsimp only
  rw [level.isOversized]
  cases a.isOversized l with
  | true => exact ⟨rfl, obtained, level.unbounded, level.config, level.cursor⟩
  | false =>
    cases (cursorInto chunk).bump l with
    | none => exact ⟨rfl, obtained, level.unbounded, level.config, level.cursor⟩
    | some served => exact ⟨rfl, obtained, level.unbounded, level.config, rfl⟩

theorem Level.reserveChunk (level : Level a b) (heap : Layout → Option Address) (l : Layout) :
    Alike a b (a.reserveChunk heap l) (b.reserveChunk heap l) := by
  have unbounded : b.config.maxSize = 0 := level.config ▸ level.unbounded
  unfold Arena.reserveChunk
  rw [level.chunkLayout?]
  cases a.chunkLayout? l with
  | none => exact level.alike _
  | some layout =>
    dsimp only
    rw [if_neg (not_exceedsCapacity level.unbounded layout),
      if_neg (not_exceedsCapacity unbounded layout)]
    cases heap layout with
    | none => exact level.alike _
    | some base => exact level.placeInChunk ⟨base, layout⟩ l

theorem Level.reserve (level : Level a b) (heap : Layout → Option Address) (l : Layout) :
    Alike a b (a.reserve heap l) (b.reserve heap l) := by
  unfold Arena.reserve
  rw [level.cursor]
  cases a.cursor.bind (·.bump l) with
  | none => exact level.reserveChunk heap l
  | some served =>
    exact ⟨rfl, by rw [Nat.sub_self, Nat.sub_self], level.unbounded, level.config, rfl⟩

/-- Two arenas that are level serve a request alike, from the same heap. -/
theorem Level.allocate (level : Level a b) (heap : Layout → Option Address) (l : Layout)
    (destructor : Option Destructor) :
    Alike a b (a.allocate heap l destructor) (b.allocate heap l destructor) := by
  unfold Arena.allocate
  by_cases nothing : l.size = 0
  · rw [if_pos nothing, if_pos nothing]
    exact ⟨rfl, by dsimp only [book]; rw [Nat.sub_self, Nat.sub_self], level.unbounded,
      level.config, level.cursor⟩
  · rw [if_neg nothing, if_neg nothing]
    have served := level.reserve heap l
    revert served
    rcases a.reserve heap l with ⟨answer, after⟩
    rcases b.reserve heap l with ⟨answer', after'⟩
    rintro ⟨rfl, obtained, unbounded, config, cursor⟩
    cases answer' with
    | error e => exact ⟨rfl, obtained, unbounded, config, cursor⟩
    | ok grant => exact ⟨rfl, obtained, unbounded, config, cursor⟩

/-! ## The ways of serving a request -/

/-- A chunk was obtained for one request alone: the cursor was not moved. -/
structure SetApart (a : Arena) (x : Except AllocError Grant × Arena) : Prop where
  answer : Grant.isApart x.1 = true
  config : x.2.config = a.config
  cursor : x.2.cursor = a.cursor

/-- How an arena serves a request from a heap that refuses nothing: without a look at the heap, from
a chunk of the request's own if it is large, or else from a new chunk to fill. -/
inductive Way (a : Arena) (l : Layout) (destructor : Option Destructor) : Prop
  | blind (x : Except AllocError Grant × Arena)
      (same : ∀ heap, a.allocate heap l destructor = x) (shared : Grant.isApart x.1 = false)
  | large (oversized : a.isOversized l = true)
      (apart : ∀ heap, (∀ chunk, (heap chunk).isSome) → SetApart a (a.allocate heap l destructor))
  | small (fits : a.isOversized l = false) (shared : ∀ heap, (∀ chunk, (heap chunk).isSome) →
      Grant.isApart (a.allocate heap l destructor).1 = false)

/-- An arena whose chunk being filled has no room obtains another chunk. -/
theorem exists_reserve_eq (unbounded : a.config.maxSize = 0)
    (bumped : a.cursor.bind (·.bump l) = none) {chunk : Layout}
    (layout : a.chunkLayout? l = some chunk) (grants : ∀ chunk, (heap chunk).isSome) :
    ∃ base, a.reserve heap l = a.placeInChunk ⟨base, chunk⟩ l := by
  obtain ⟨base, granted⟩ := Option.isSome_iff_exists.1 (grants chunk)
  refine ⟨base, ?_⟩
  unfold reserve reserveChunk
  rw [bumped, layout]
  dsimp only
  rw [if_neg (not_exceedsCapacity unbounded chunk), granted]

/-- A large request gets the chunk that was obtained for it. -/
theorem allocate_setApart {chunk : Chunk} (some : l.size ≠ 0)
    (reserved : a.reserve heap l = a.placeInChunk chunk l) (oversized : a.isOversized l = true)
    (destructor : Option Destructor) : SetApart a (a.allocate heap l destructor) := by
  unfold allocate
  rw [if_neg some, reserved]
  unfold placeInChunk
  dsimp only
  rw [if_pos oversized]
  exact ⟨rfl, rfl, rfl⟩

/-- Any other request is carved from the chunk that was obtained, if it has room. -/
theorem allocate_not_isApart {chunk : Chunk} (some : l.size ≠ 0)
    (reserved : a.reserve heap l = a.placeInChunk chunk l) (fits : a.isOversized l = false)
    (destructor : Option Destructor) :
    Grant.isApart (a.allocate heap l destructor).1 = false := by
  unfold allocate
  rw [if_neg some, reserved]
  unfold placeInChunk
  dsimp only
  rw [fits]
  cases (cursorInto chunk).bump l with
  | none => exact rfl
  | some served => exact rfl

/-- Every request is served in one of these ways. -/
theorem way (unbounded : a.config.maxSize = 0) (l : Layout) (destructor : Option Destructor) :
    a.Way l destructor := by
  by_cases nothing : l.size = 0
  · refine .blind (.ok ⟨dangling l, .nowhere⟩, a.book l destructor ⟨dangling l, .nowhere⟩) ?_
      rfl
    intro heap
    unfold allocate
    rw [if_pos nothing]
  cases bumped : a.cursor.bind (·.bump l) with
  | some served =>
    let moved := { a with cursor := some served.2, used := a.used + l.size }
    refine .blind (.ok ⟨served.1, .bump⟩, moved.book l destructor ⟨served.1, .bump⟩) ?_ rfl
    intro heap
    unfold allocate reserve
    rw [if_neg nothing, bumped]
  | none =>
    cases layout : a.chunkLayout? l with
    | none =>
      refine .blind (.error .invalidLayout, a) ?_ rfl
      intro heap
      unfold allocate reserve reserveChunk
      rw [if_neg nothing, bumped, layout]
    | some chunk =>
      cases oversized : a.isOversized l with
      | true =>
        refine .large oversized fun heap grants => ?_
        obtain ⟨base, reserved⟩ := exists_reserve_eq unbounded bumped layout grants
        exact allocate_setApart nothing reserved oversized destructor
      | false =>
        refine .small oversized fun heap grants => ?_
        obtain ⟨base, reserved⟩ := exists_reserve_eq unbounded bumped layout grants
        exact allocate_not_isApart nothing reserved oversized destructor

end Arena

/-! ## One request, and many -/

namespace Filling

variable {g h : Grounds} {f e : Filling}

theorem serve_eq {q : Demand} {x : Except AllocError Grant × Arena}
    (served : f.arena.allocate (f.source g q.layout) q.layout q.destructor = x) :
    f.serve g q = (⟨q, x.1, x.1.toOption.bind (f.next q.layout x.2).placeOf⟩,
      f.next q.layout x.2) := by
  subst served
  rfl

/-- Two fillings whose arenas are level and have obtained as many chunks to fill. -/
structure Level (f e : Filling) : Prop where
  arena : f.arena.Level e.arena
  filled : e.filled = f.filled

theorem isSome_source (g : Grounds) (f : Filling) (l chunk : Layout) :
    (f.source g l chunk).isSome = true := rfl

/-- Arenas that did the same with a request are level as fillings, and show the same place. -/
theorem Level.next (level : Level f e) {l : Layout} {x y : Except AllocError Grant × Arena}
    (alike : f.arena.Alike e.arena x y) :
    Level (f.next l x.2) (e.next l y.2) ∧
      y.1.toOption.bind (e.next l y.2).placeOf = x.1.toOption.bind (f.next l x.2).placeOf := by
  have level : Level (f.next l x.2) (e.next l y.2) := by
    unfold Filling.next
    rw [level.arena.isOversized, alike.obtained, level.filled]
    cases f.arena.isOversized l <;> exact ⟨alike.level, rfl⟩
  have arena (f : Filling) (after : Arena) : (f.next l after).arena = after := by
    unfold Filling.next
    dsimp only
    split <;> rfl
  refine ⟨level, ?_⟩
  rw [alike.answer]
  congr 1
  funext grant
  unfold placeOf
  rw [arena, arena, alike.level.cursor, level.filled]

/-- A filling serves a request from a chunk set apart and stays level with one that does not serve
it, or both give the same answer, and are level again. -/
theorem serve_level (level : Level f e) (same : h.toFill = g.toFill) (q : Demand) :
    Grant.isApart (f.serve g q).1.answer = true ∧ Level (f.serve g q).2 e ∨
      Grant.isApart (f.serve g q).1.answer = false ∧ (e.serve h q).1 = (f.serve g q).1 ∧
        Level (f.serve g q).2 (e.serve h q).2 := by
  have alone {x y : Except AllocError Grant × Arena} (alike : f.arena.Alike e.arena x y)
      (left : f.arena.allocate (f.source g q.layout) q.layout q.destructor = x)
      (right : e.arena.allocate (e.source h q.layout) q.layout q.destructor = y) :
      (e.serve h q).1 = (f.serve g q).1 ∧ Level (f.serve g q).2 (e.serve h q).2 := by
    obtain ⟨next, place⟩ := level.next alike
    rw [serve_eq left, serve_eq right, place, alike.answer]
    exact ⟨rfl, next⟩
  cases f.arena.way level.arena.unbounded q.layout q.destructor with
  | blind x answers shared =>
    rw [serve_eq (answers _)]
    have alike := level.arena.allocate (e.source h q.layout) q.layout q.destructor
    rw [answers] at alike
    have both := alone alike (answers _) rfl
    rw [serve_eq (answers _)] at both
    exact .inr ⟨shared, both⟩
  | large oversized apart =>
    obtain ⟨answer, config, cursor⟩ := apart _ (isSome_source g f q.layout)
    refine .inl ⟨answer, ?_⟩
    rw [serve_eq rfl]
    unfold Filling.next
    dsimp only
    rw [if_pos oversized]
    exact ⟨⟨config ▸ level.arena.unbounded, level.arena.config.trans config.symm,
      level.arena.cursor.trans cursor.symm⟩, level.filled⟩
  | small fits shared =>
    have sources : e.source h q.layout = f.source g q.layout := by
      funext chunk
      unfold source
      rw [level.arena.isOversized, fits, same, level.filled]
      rfl
    refine .inr ⟨shared _ (isSome_source g f q.layout), ?_⟩
    exact alone (level.arena.allocate _ q.layout q.destructor) rfl (by rw [sources])

/-- A run stays level with the run of those requests alone that got no chunk of their own. -/
theorem run_level (level : Level f e) (same : h.toFill = g.toFill) (demands : List Demand) :
    let kept := (f.run g demands).1.filter fun s => !Grant.isApart s.answer
    (e.run h (kept.map (·.demand))).1 = kept ∧
      Level (f.run g demands).2 (e.run h (kept.map (·.demand))).2 := by
  induction demands generalizing f e with
  | nil => exact ⟨rfl, level⟩
  | cons q rest ih =>
    have split : f.run g (q :: rest) =
        ((f.serve g q).1 :: ((f.serve g q).2.run g rest).1, ((f.serve g q).2.run g rest).2) := rfl
    rw [split]
    rcases serve_level level same q with ⟨apart, stays⟩ | ⟨shared, alike, next⟩
    · simp only [List.filter_cons, apart, Bool.not_true, Bool.false_eq_true, if_false]
      exact ih stays
    · have asked : (f.serve g q).1.demand = q := rfl
      obtain ⟨answers, last⟩ := ih next
      simp only [List.filter_cons, shared, Bool.not_false, if_true, List.map_cons, asked]
      exact ⟨List.cons_eq_cons.2 ⟨alike, answers⟩, last⟩

/-- Of an arena without a capacity, any requests are made, and the heap refuses none. If those that
got chunks of their own had not been made, and the heap had placed the chunks to fill where it did,
then all others would have been answered as they were, each carved from the same chunk among those
to fill and at the same offset, and the arena would have ended with the same cursor, in the same
chunk. -/
theorem run_kept (a : Arena) (unbounded : a.config.maxSize = 0) (g h : Grounds)
    (same : h.toFill = g.toFill) (demands : List Demand) :
    let (services, last) := run g ⟨a, 0, 0⟩ demands
    let kept := services.filter fun s => !Grant.isApart s.answer
    let (alone, lastAlone) := run h ⟨a, 0, 0⟩ (kept.map (·.demand))
    alone = kept ∧ lastAlone.arena.cursor = last.arena.cursor ∧ lastAlone.filled = last.filled := by
  have level : Level ⟨a, 0, 0⟩ ⟨a, 0, 0⟩ := ⟨Arena.Level.self unbounded, rfl⟩
  obtain ⟨answers, arena, filled⟩ := run_level level same demands
  exact ⟨answers, arena.cursor, filled⟩

/-- Chunks of 64 bytes. Between two small requests, 100 bytes get a chunk of their own, but 40
bytes, more than half a chunk as well, are carved from what the first request left; the alignment of
the last makes the arena obtain one more chunk to fill. -/
theorem run_kept_mixed :
    let a : Arena := { id := 0, name := "mixed", config := { chunkSize := 64 } }
    let g : Grounds :=
      ⟨fun n _ => 65536 + 4096 * n.toUInt64, fun n _ => 1048576 + 4096 * n.toUInt64⟩
    let h : Grounds := ⟨g.toFill, fun _ _ => 0⟩
    let small : Demand := { layout := ⟨8, 8, ⟨3, rfl⟩, by decide⟩ }
    let apart : Demand := { layout := ⟨100, 8, ⟨3, rfl⟩, by decide⟩ }
    let large : Demand := { layout := ⟨40, 8, ⟨3, rfl⟩, by decide⟩ }
    let aligned : Demand := { layout := ⟨8, 64, ⟨6, rfl⟩, by decide⟩ }
    let (services, last) := run g ⟨a, 0, 0⟩ [small, apart, large, apart, aligned]
    let kept := services.filter fun s => !Grant.isApart s.answer
    let (alone, lastAlone) := run h ⟨a, 0, 0⟩ (kept.map (·.demand))
    a.config.maxSize = 0 ∧ kept.map (·.demand) = [small, large, aligned] ∧
      kept.map (·.place) = [some (1, 0), some (1, 8), some (2, 0)] ∧ last.dedicated = 2 ∧
      alone = kept ∧ lastAlone.arena.cursor = last.arena.cursor ∧
        lastAlone.filled = last.filled := by
  intro a g h small apart large aligned
  exact ⟨rfl, by decide +kernel, by decide +kernel, by decide +kernel,
    run_kept a rfl g h rfl [small, apart, large, apart, aligned]⟩

end Filling

end Custody
