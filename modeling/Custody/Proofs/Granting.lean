import Custody.Proofs.Chunks
import Custody.Proofs.Sound

/-!
# Requests keep arenas in agreement with their history

A request that is satisfied may obtain a chunk, may register a destructor, and leaves all else as
it was. `Arena.Grown` says which chunk was obtained, if one was, and where the storage lies;
from this the arena agrees with its history afterwards, which is longer by what the request was
noted with. The subject of a destructor that is registered is the next new cell, so no other
destructor was registered for it, and it is expected to come into being next:
`Machine.allocate_sound` ends in `SoundBut`, and to put the value into its storage in a sound
machine.
-/

namespace Custody

/-- What a cursor carves out lies in the chunk that it fills. -/
theorem Cursor.Fills.encloses {cursor after : Cursor} {c : Chunk} {l : Layout} {address : Address}
    (fills : cursor.Fills c) (room : c.base.toNat + c.layout.size < Word.sizeLimit)
    (bumped : cursor.bump l = some (address, after)) : c.Encloses address l := by
  have addressable : cursor.base.toNat + cursor.size.toNat < Word.modulus := by
    rw [fills.base, fills.size]
    unfold Word.modulus
    unfold Word.sizeLimit at room
    omega
  have within := Cursor.bump_within bumped addressable
  rw [fills.base, fills.size] at within
  exact within

/-! ## What a request does to an arena -/

/-- How an arena differs after a request was served from what it was. -/
structure Arena.Grown (heap : Layout → Option Address) (a : Arena) (l : Layout) (grant : Grant)
    (placed : Arena) (chunk? : Option Chunk) : Prop where
  chunks : placed.chunks = chunk?.toList ++ a.chunks
  collected : placed.collected = a.collected
  ledger : placed.ledger = a.ledger
  /-- What the request takes from the heap is the chunk, and so it is noted. -/
  request : (Allocator.arena a).heapRequest? l grant = chunk?.map (·.layout)
  noted : Machine.chunkObtained? (.arena a) l grant = chunk?.map (·.layout)
  /-- The chunk begins where the storage does. -/
  obtained : ∀ c, chunk? = some c → c.base = grant.address ∧ heap c.layout = some c.base
  cursor : ∀ cursor, placed.cursor = some cursor →
    (∃ old, a.cursor = some old ∧ cursor.base = old.base ∧ cursor.size = old.size) ∨
      ∃ c, chunk? = some c ∧ cursor.Fills c
  /-- The storage lies nowhere, in the chunk being filled, or in the chunk that was obtained. -/
  stored : l.size = 0 ∨
    (∃ cursor after, a.cursor = some cursor ∧ cursor.bump l = some (grant.address, after)) ∨
      ∃ c, chunk? = some c ∧ l.size ≤ c.layout.size

namespace Arena

variable {heap : Layout → Option Address} {a placed : Arena} {l : Layout} {grant : Grant}

theorem Served.grown (served : Served heap a l grant placed) :
    ∃ chunk?, Grown heap a l grant placed chunk? := by
  have same (cursor : Cursor) (there : a.cursor = some cursor) :
      ∃ old, a.cursor = some old ∧ cursor.base = old.base ∧ cursor.size = old.size :=
    ⟨cursor, there, rfl, rfl⟩
  cases served with
  | nowhere empty =>
    exact ⟨none, rfl, rfl, rfl, rfl, rfl, nofun, fun cursor there => .inl (same cursor there),
      .inl empty⟩
  | @bump cursor after address filled bumped =>
    refine ⟨none, rfl, rfl, rfl, rfl, rfl, nofun, fun moved there => ?_,
      .inr (.inl ⟨cursor, after, filled, bumped⟩)⟩
    cases there
    obtain ⟨base, size⟩ := Cursor.bump_after bumped
    exact .inl ⟨cursor, filled, base, size⟩
  | @dedicated chunk base layout obtained =>
    refine ⟨some ⟨base, chunk⟩, rfl, rfl, rfl, layout, layout, ?_,
      fun cursor there => .inl (same cursor there),
      .inr (.inr ⟨_, rfl, (chunkLayout?_spec layout).2⟩)⟩
    rintro c ⟨⟩
    exact ⟨rfl, obtained⟩
  | @fresh chunk base cursor layout obtained start size used =>
    refine ⟨some ⟨base, chunk⟩, rfl, rfl, rfl, layout, layout, ?_, fun moved there => ?_,
      .inr (.inr ⟨_, rfl, (chunkLayout?_spec layout).2⟩)⟩
    · rintro c ⟨⟩
      exact ⟨rfl, obtained⟩
    · cases there
      exact .inr ⟨_, rfl, start, size⟩

/-- A request takes no destructor out of the list, and puts its own in front. -/
theorem collected_book (placed : Arena) (l : Layout) (d : Option Destructor) (grant : Grant) :
    (placed.book l d grant).collected =
      (d.map fun d => (⟨grant.address, d⟩ : Registration)).toList ++ placed.collected := rfl

end Arena

/-! ## What a request does to the history -/

/-- What a request that was satisfied is noted with, newest first. -/
def grantEvents (id : AllocatorId) (l : Layout) (d : Option Destructor) (grant : Grant)
    (chunk? : Option Chunk) : List StorageEvent :=
  .granted id grant.address l d ::
    (chunk?.map fun c => StorageEvent.chunkObtained id c.base c.layout).toList

section Noted

variable (id : AllocatorId) (l : Layout) (d : Option Destructor) (grant : Grant)
  (chunk? : Option Chunk) (deeds : List StorageEvent)

theorem sinceTaken_grantEvents :
    sinceTaken id (grantEvents id l d grant chunk? ++ deeds) =
      (d.map fun d => (⟨grant.address, l, d⟩ : Booking)).toList ++ sinceTaken id deeds := by
  have before : sinceTaken id ((chunk?.map fun c =>
      StorageEvent.chunkObtained id c.base c.layout).toList ++ deeds) = sinceTaken id deeds := by
    cases chunk? with
    | none => rfl
    | some c => exact sinceTaken_cons rfl
  unfold grantEvents
  rw [List.cons_append, sinceTaken_cons rfl, before]
  cases d with
  | none => rfl
  | some d =>
    congr 1
    simp [StorageEvent.booked?]

theorem chunksHeld_grantEvents :
    chunksHeld id (grantEvents id l d grant chunk? ++ deeds) =
      chunk?.toList ++ chunksHeld id deeds := by
  unfold grantEvents
  rw [List.cons_append, chunksHeld_cons rfl]
  cases chunk? with
  | none => rfl
  | some c =>
    show chunksHeld id (.chunkObtained id c.base c.layout :: deeds) = _
    rw [chunksHeld_cons rfl]
    simp [StorageEvent.obtained?]

theorem isAbout_grantEvents {other : AllocatorId} (ne : other ≠ id) :
    ∀ e ∈ grantEvents id l d grant chunk?, e.isAbout other = false := by
  have apart : (id == other) = false := beq_eq_false_iff_ne.2 (Ne.symm ne)
  intro e member
  rcases List.mem_cons.1 member with rfl | member
  · cases d with
    | none => rfl
    | some d => exact apart
  · obtain ⟨c, -, rfl⟩ := Option.map_eq_some_iff.1 (Option.mem_toList.1 member)
    exact apart

theorem isEntered_grantEvents {other : AllocatorId} (ne : other ≠ id) :
    ∀ e ∈ grantEvents id l d grant chunk?, e.isEntered other = false := by
  intro e member
  rcases List.mem_cons.1 member with rfl | member
  · exact beq_eq_false_iff_ne.2 (Ne.symm ne)
  · obtain ⟨c, -, rfl⟩ := Option.map_eq_some_iff.1 (Option.mem_toList.1 member)
    rfl

/-- A request puts no value anywhere. -/
theorem places_grantEvents (c : CellId) :
    ∀ e ∈ grantEvents id l d grant chunk?, e.places c = false := by
  intro e member
  rcases List.mem_cons.1 member with rfl | member
  · rfl
  · obtain ⟨c, -, rfl⟩ := Option.map_eq_some_iff.1 (Option.mem_toList.1 member)
    rfl

theorem ledgerOf_grantEvents :
    ledgerOf id (grantEvents id l d grant chunk? ++ deeds) =
      (ledgerOf id deeds).allocate l.size d.isSome := by
  have before : ledgerOf id ((chunk?.map fun c =>
      StorageEvent.chunkObtained id c.base c.layout).toList ++ deeds) = ledgerOf id deeds := by
    cases chunk? with
    | none => rfl
    | some c => rfl
  rw [← before]
  exact if_pos rfl

/-- A request registers a destructor for no subject but its own. -/
theorem subject?_grantEvents {e : StorageEvent} {c : CellId}
    (member : e ∈ grantEvents id l d grant chunk?) (subject : e.subject? = some c) :
    d.map (·.subject) = some c := by
  rcases List.mem_cons.1 member with rfl | member
  · cases d with
    | none => cases subject
    | some d => exact subject
  · obtain ⟨c, -, rfl⟩ := Option.map_eq_some_iff.1 (Option.mem_toList.1 member)
    cases subject

/-- A request obtains no chunk but its own. -/
theorem chunkBase?_grantEvents {e : StorageEvent} {base : Address}
    (member : e ∈ grantEvents id l d grant chunk?) (obtained : e.chunkBase? = some base) :
    ∃ c, chunk? = some c ∧ c.base = base := by
  rcases List.mem_cons.1 member with rfl | member
  · cases obtained
  · obtain ⟨c, there, rfl⟩ := Option.map_eq_some_iff.1 (Option.mem_toList.1 member)
    injection obtained with obtained
    exact ⟨c, there, obtained⟩

theorem Lawful.grantEvents {deeds : List StorageEvent} (lawful : Lawful deeds)
    (fresh : ∀ d', d = some d' → ∀ e ∈ deeds, e.subject? ≠ some d'.subject)
    (apart : ∀ c, chunk? = some c → ∀ e ∈ deeds, e.chunkBase? ≠ some c.base) :
    Lawful (grantEvents id l d grant chunk? ++ deeds) := by
  have before : Lawful ((chunk?.map fun c =>
      StorageEvent.chunkObtained id c.base c.layout).toList ++ deeds) := by
    cases chunk? with
    | none => exact lawful
    | some c => exact ⟨apart c rfl, lawful⟩
  refine ⟨?_, before⟩
  cases d with
  | none => trivial
  | some d =>
    intro e member
    rcases List.mem_append.1 member with noted | old
    · obtain ⟨c, -, rfl⟩ := Option.map_eq_some_iff.1 (Option.mem_toList.1 noted)
      exact nofun
    · exact fresh d rfl e old

end Noted

namespace Machine

variable {m : Machine}

/-! ## Requests -/

/-- Noting a request that was satisfied. -/
theorem noteGrant_of_request {a : Arena} {l : Layout} {grant : Grant}
    {placed : Arena} {chunk? : Option Chunk} {heap : Layout → Option Address}
    (grown : Arena.Grown heap a l grant placed chunk?) (id : AllocatorId) (d : Option Destructor)
    (m : Machine) :
    ∃ n, noteGrant id (.arena a) l d grant m = .returned () n ∧ n.memory = m.memory ∧
      n.deeds = grantEvents id l d grant chunk? ++ m.deeds := by
  unfold noteGrant
  rw [grown.noted]
  cases chunk? with
  | none => exact ⟨_, rfl, rfl, rfl⟩
  | some c =>
    obtain ⟨base, -⟩ := grown.obtained c rfl
    refine ⟨_, rfl, rfl, ?_⟩
    show _ = .granted id grant.address l d :: .chunkObtained id c.base c.layout :: m.deeds
    rw [base]
    rfl

/-- The heap after it served a request, if there was one. -/
theorem top_afterRequest {h : Heap} {chunk? : Option Chunk} {grant : Grant}
    (obtained : ∀ c, chunk? = some c → c.base = grant.address ∧ h.grant? c.layout = some c.base) :
    let after := match chunk?.map (·.layout) with
      | some block => h.afterGrant block
      | none => h
    h.top ≤ after.top ∧ ∀ c, chunk? = some c → h.top ≤ c.base.toNat ∧ c.base.toNat < after.top ∧
      c.base.toNat + c.layout.size < Word.sizeLimit := by
  cases chunk? with
  | none => exact ⟨Nat.le_refl _, nofun⟩
  | some c =>
    obtain ⟨place, above, -, room⟩ := Heap.grant?_spec (obtained c rfl).2
    have after : (h.afterGrant c.layout).top = h.place c.layout + c.layout.size + 1 := rfl
    dsimp only [Option.map_some]
    rw [after]
    refine ⟨by omega, ?_⟩
    rintro d ⟨⟩
    exact ⟨above, by omega, room⟩

/-- An arena that served a request agrees with its history, but for the subject that is expected
if a destructor was registered. -/
theorem sound_of_grown {n : Machine} {id : AllocatorId} {a placed : Arena} {l : Layout}
    {d : Option Destructor} {grant : Grant} {chunk? : Option Chunk} (sound : m.Sound)
    (there : m.memory.arena? id = some a)
    (grown : Arena.Grown m.memory.heap.grant? a l grant placed chunk?)
    (fresh : ∀ d', d = some d' → d'.subject = m.memory.cells.next)
    (cells : n.memory.cells = m.memory.cells)
    (allocators : n.memory.allocators =
      m.memory.allocators.set id (.arena (placed.book l d grant)))
    (heap : n.memory.heap = match chunk?.map (·.layout) with
      | some block => m.memory.heap.afterGrant block
      | none => m.memory.heap)
    (deeds : n.deeds = grantEvents id l d grant chunk? ++ m.deeds) :
    SoundBut (d.map (·.subject)) n := by
  obtain ⟨collected, chunks, stored, cursor⟩ := sound.arenas id a there
  obtain ⟨top, chunkAbove⟩ := top_afterRequest grown.obtained
  rw [← heap] at top chunkAbove
  have taken := sinceTaken_grantEvents id l d grant chunk? m.deeds
  have held := chunksHeld_grantEvents id l d grant chunk? m.deeds
  rw [← deeds] at taken held
  have more : ∀ c ∈ chunksHeld id m.deeds, c ∈ chunksHeld id n.deeds := fun c member => by
    rw [held]
    exact List.mem_append_right _ member
  have obtained (c : Chunk) (here : chunk? = some c) : c ∈ chunksHeld id n.deeds := by
    rw [held, here]
    exact List.mem_append_left _ (List.mem_singleton.2 rfl)
  have bounded : ∀ c ∈ chunksHeld id n.deeds, c.base.toNat + c.layout.size < Word.sizeLimit := by
    intro c member
    rw [held] at member
    rcases List.mem_append.1 member with new | old
    · exact (chunkAbove c (Option.mem_toList.1 new)).2.2
    · exact sound.bounded id c old
  refine sound.moveOn there cells allocators top deeds ?_
    (fun other ne e member => ⟨isAbout_grantEvents id l d grant chunk? ne e member,
      isEntered_grantEvents id l d grant chunk? ne e member⟩)
    (fun e member c => places_grantEvents id l d grant chunk? c e member)
    (fun e member c subject => subject?_grantEvents id l d grant chunk? member subject)
    ?_ bounded ⟨?_, ?_, ?_, ?_⟩ ?_
  · rw [deeds]
    refine Lawful.grantEvents id l d grant chunk? sound.lawful ?_ ?_
    · intro d' here e member subject
      -- The subject is a cell that is not there yet, and all other subjects are.
      obtain ⟨cell, found, -⟩ := (sound.subjects e member _ subject).resolve_right nofun
      have := Slab.lt_next_of_get? found
      rw [fresh d' here] at this
      exact Nat.lt_irrefl _ this
    · intro c here e member obtained
      have := sound.bases e member _ obtained
      have := (chunkAbove c here).1
      omega
  · intro e member base obtained
    obtain ⟨c, here, rfl⟩ := chunkBase?_grantEvents id l d grant chunk? member obtained
    exact (chunkAbove c here).2.1
  · rw [Arena.collected_book, grown.collected, collected, taken, List.map_append]
    cases d <;> rfl
  · rw [held, ← chunks]
    exact grown.chunks
  · intro b member
    rw [taken] at member
    rcases List.mem_append.1 member with new | old
    · obtain ⟨d', -, rfl⟩ := Option.map_eq_some_iff.1 (Option.mem_toList.1 new)
      rcases grown.stored with empty | ⟨old, after, filling, bumped⟩ | ⟨c, here, fits⟩
      · exact .inl empty
      · obtain ⟨c, member, fills⟩ := cursor old filling
        exact .inr ⟨c, more c member, fills.encloses (sound.bounded id c member) bumped⟩
      · have base := (grown.obtained c here).1
        refine .inr ⟨c, obtained c here, Nat.le_of_eq (congrArg UInt64.toNat base), ?_⟩
        show grant.address.toNat + l.size ≤ _
        rw [← base]
        omega
    · exact (stored b old).mono more
  · intro now there
    rcases grown.cursor now there with ⟨old, filling, base, size⟩ | ⟨c, here, fills⟩
    · obtain ⟨c, member, fills⟩ := cursor old filling
      exact ⟨c, more c member, base.trans fills.base, by rw [size]; exact fills.size⟩
    · exact ⟨c, obtained c here, fills⟩
  · rw [deeds, ledgerOf_grantEvents, ← sound.audited.arena there, ← grown.ledger]
    rfl

/-- What is an arena when a front end of the heap changed was that arena before. -/
private theorem arena?_of_heap {n : Machine} {id other : AllocatorId} {ledger after : Ledger}
    {a : Arena} (there : m.memory.allocator? id = some (.heap ledger))
    (allocators : n.memory.allocators = m.memory.allocators.set id (.heap after))
    (now : n.memory.arena? other = some a) : m.memory.arena? other = some a := by
  have now : (n.memory.allocators.get? other).bind Allocator.arena? = some a := now
  rw [allocators] at now
  by_cases same : other = id
  · rw [same, Slab.get?_set_self there] at now
    cases now
  · rw [Slab.get?_set_of_ne _ (Ne.symm same)] at now
    exact now

/-- A request to a front end of the heap does not matter to arenas. -/
private theorem ordinary_of_heap {n : Machine} {id : AllocatorId} {ledger after : Ledger}
    {added : List StorageEvent} (there : m.memory.allocator? id = some (.heap ledger))
    (cells : n.memory.cells = m.memory.cells)
    (allocators : n.memory.allocators = m.memory.allocators.set id (.heap after))
    (top : m.memory.heap.top ≤ n.memory.heap.top) (deeds : n.deeds = added ++ m.deeds)
    (inert : ∀ e ∈ added, e.isInert) (never : ∀ e ∈ added, ∀ c, e.places c = false)
    (others : ∀ other, other ≠ id → ∀ e ∈ added, e.isEntered other = false)
    (counted : after = added.foldr (·.entered id) ledger) : m.Ordinary n where
  subjects c subject := by
    refine subject.later ?_ deeds fun e member => never e member c
    unfold Memory.cell?
    rw [cells]
  arenas other a now := ⟨a, arena?_of_heap there allocators now, rfl⟩
  born := Nat.le_of_eq (by rw [allocators, Slab.next_set])
  top := top
  deeds := ⟨added, deeds, inert⟩
  audited audited := by
    refine audited.moveOn there allocators deeds others ?_
    have before : ledger = ledgerOf id m.deeds := audited id _ there
    show after = ledgerOf id n.deeds
    rw [deeds, counted, before]
    exact (List.foldr_append ..).symm

/-- The heap only ever hands out higher addresses. -/
private theorem top_afterBlock (h : Heap) (block? : Option Layout) :
    h.top ≤ (match block? with
      | some block => h.afterGrant block
      | none => h : Heap).top := by
  cases block? with
  | none => exact Nat.le_refl _
  | some block =>
    have above : h.top ≤ h.place block := le_roundUp block.align_pos
    show h.top ≤ h.place block + block.size + 1
    omega

/-- What a request to a front end of the heap is noted with. -/
theorem noteGrant_heap (id : AllocatorId) (ledger : Ledger) (l : Layout) (address : Address)
    (m : Machine) :
    ∃ n, noteGrant id (.heap ledger) l none ⟨address, .heap⟩ m = .returned () n ∧
      n.memory = m.memory ∧ n.deeds = [.granted id address l none] ++ m.deeds :=
  ⟨_, rfl, rfl, rfl⟩

/-- A front end of the heap serves from the heap, if anything is needed, and refuses what is to be
collected. -/
theorem allocateOnHeap_ok {memory : Layout → Option Address} {ledger after : Ledger}
    {l : Layout} {d : Option Destructor} {grant : Grant}
    (h : Allocator.allocateOnHeap memory ledger l d = (.ok grant, after)) :
    d = none ∧ grant.spot = .heap ∧ after = ledger.allocate l.size false ∧
      (l.size = 0 ∧ grant.address = dangling l ∨
        l.size ≠ 0 ∧ memory l = some grant.address) := by
  unfold Allocator.allocateOnHeap at h
  cases d with
  | some d => cases h
  | none =>
    refine ⟨rfl, ?_⟩
    rw [if_neg nofun] at h
    by_cases empty : l.size = 0
    · rw [if_pos empty] at h
      cases h
      exact ⟨rfl, by rw [empty], .inl ⟨empty, rfl⟩⟩
    · rw [if_neg empty] at h
      cases granted : memory l with
      | none =>
        rw [granted] at h
        cases h
      | some address =>
        rw [granted] at h
        cases h
        exact ⟨rfl, rfl, .inr ⟨empty, rfl⟩⟩

/-- What a front end of the heap refuses it does not count. -/
theorem allocateOnHeap_error {memory : Layout → Option Address} {ledger after : Ledger}
    {l : Layout} {d : Option Destructor} {e : AllocError}
    (h : Allocator.allocateOnHeap memory ledger l d = (.error e, after)) : after = ledger := by
  unfold Allocator.allocateOnHeap at h
  cases d with
  | some d =>
    cases h
    rfl
  | none =>
    rw [if_neg nofun] at h
    by_cases empty : l.size = 0
    · rw [if_pos empty] at h
      cases h
    · rw [if_neg empty] at h
      cases granted : memory l with
      | none =>
        rw [granted] at h
        cases h
        rfl
      | some address =>
        rw [granted] at h
        cases h

/-- The answer of an arena, and the memory afterwards. -/
theorem memory_allocate_arena (memory : Memory) (id : AllocatorId) (a : Arena) (l : Layout)
    (d : Option Destructor) :
    memory.allocate id (.arena a) l d =
      match a.allocate memory.heap.grant? l d with
      | (.ok grant, kept) =>
        (.ok grant,
          { memory.setAllocator id (.arena kept) with
            heap := match (Allocator.arena a).heapRequest? l grant with
              | some block => memory.heap.afterGrant block
              | none => memory.heap })
      | (.error e, kept) => (.error e, memory.setAllocator id (.arena kept)) := by
  unfold Memory.allocate Allocator.allocate
  dsimp only
  rcases a.allocate memory.heap.grant? l d with ⟨e | grant, kept⟩ <;> rfl

/-- The answer of a front end of the heap, and the memory afterwards. -/
theorem memory_allocate_heap (memory : Memory) (id : AllocatorId) (ledger : Ledger)
    (l : Layout) (d : Option Destructor) :
    memory.allocate id (.heap ledger) l d =
      match Allocator.allocateOnHeap memory.heap.grant? ledger l d with
      | (.ok grant, kept) =>
        (.ok grant,
          { memory.setAllocator id (.heap kept) with
            heap := match (Allocator.heap ledger).heapRequest? l grant with
              | some block => memory.heap.afterGrant block
              | none => memory.heap })
      | (.error e, kept) => (.error e, memory.setAllocator id (.heap kept)) := by
  unfold Memory.allocate Allocator.allocate
  dsimp only
  rcases Allocator.allocateOnHeap memory.heap.grant? ledger l d with ⟨e | grant, kept⟩ <;> rfl

/-- How an allocator answers a request, and what is sound then. -/
theorem allocate_sound (sound : m.Sound) (id : AllocatorId) (l : Layout) (d : Option Destructor)
    (fresh : ∀ d', d = some d' → d'.subject = m.memory.cells.next) :
    (allocate id l d m).Ensures
      (fun answer n =>
        match answer with
        | .ok _ => SoundBut (d.map (·.subject)) n
        | .error _ => n.Sound)
      fun _ => False := by
  cases there : m.memory.allocator? id with
  | none =>
    rw [allocate_of_none there]
    exact sound
  | some a =>
    rw [allocate_of_some there]
    cases a with
    | heap ledger =>
      rw [memory_allocate_heap]
      generalize asked : Allocator.allocateOnHeap m.memory.heap.grant? ledger l d = reply
      obtain ⟨reply, kept⟩ := reply
      cases reply with
      | error e =>
        have same := allocateOnHeap_error asked
        have refused : m.Ordinary { m with memory := m.memory.setAllocator id (.heap kept) } :=
          ordinary_of_heap there rfl rfl (Nat.le_refl _) (List.nil_append _).symm nofun nofun
            (fun _ _ => nofun) same
        exact sound.ordinary refused
      | ok grant =>
        obtain ⟨rfl, spot, counted, -⟩ := allocateOnHeap_ok asked
        obtain ⟨address, spot⟩ := grant
        cases spot
        obtain ⟨n, noted, memory, deeds⟩ := noteGrant_heap id ledger l address _
        dsimp only
        rw [noted]
        have allocators : n.memory.allocators = m.memory.allocators.set id (.heap kept) := by
          rw [memory]
          rfl
        refine sound.ordinary (ordinary_of_heap there ?_ allocators ?_ deeds ?_ ?_ ?_ ?_)
        · rw [memory]
          rfl
        · rw [memory]
          exact top_afterBlock _ _
        · intro e member
          rw [List.mem_singleton.1 member]
          rfl
        · intro e member c
          rw [List.mem_singleton.1 member]
          rfl
        · intro other ne e member
          rw [List.mem_singleton.1 member]
          exact beq_eq_false_iff_ne.2 (Ne.symm ne)
        · rw [counted]
          exact (StorageEvent.entered_granted id address l ledger none).symm
    | arena a =>
      have isArena : m.memory.arena? id = some a := Memory.arena?_of_allocator? there
      rw [memory_allocate_arena]
      generalize asked : a.allocate m.memory.heap.grant? l d = reply
      obtain ⟨reply, kept⟩ := reply
      cases reply with
      | error e =>
        have same := Arena.allocate_error (Arena.supplies_grant? _) asked
        subst same
        have unchanged : m.memory.setAllocator id (.arena kept) = m.memory := by
          unfold Memory.setAllocator
          have same : m.memory.allocators.set id (.arena kept) = m.memory.allocators :=
            Slab.set_of_get? there
          rw [same]
        dsimp only
        rw [unchanged]
        exact sound
      | ok grant =>
        obtain ⟨placed, rfl, served⟩ := Arena.allocate_ok (Arena.supplies_grant? _) asked
        obtain ⟨chunk?, grown⟩ := served.grown
        obtain ⟨n, noted, memory, deeds⟩ := noteGrant_of_request grown id d _
        dsimp only
        rw [noted]
        refine sound_of_grown sound isArena grown fresh ?_ ?_ ?_ deeds
        · rw [memory]
          rfl
        · rw [memory]
          rfl
        · rw [memory, ← grown.request]

/-! ## Creating -/

open Run

/-- The subject that is expected comes into being. -/
theorem SoundBut.settleIn {c : CellId} (sound : SoundBut (some c) m)
    (next : m.memory.cells.next = c) (home : AllocatorId) (grant : Grant) (l : Layout)
    (offset : Nat) (v : Value) :
    (settleIn home grant l offset (some .collect) v m).state.Sound := by
  have placed :
      SoundBut (some c) (Machine.settleIn home grant l offset (some .collect) v m).state :=
    sound.ordinary (settleIn_ordinary home grant l offset (some .collect) v m)
  refine { placed with subjects := fun e member d subject => .inl ?_ }
  rcases placed.subjects e member d subject with there | expected
  · exact there
  · cases expected
    let cell : Cell := ⟨some home, grant.address, l, offset, v.kind, some .collect, v⟩
    refine ⟨cell, ?_, .inr rfl⟩
    rw [← next]
    exact Memory.cell?_addCell_self m.memory _

/-- A new arena has no history. -/
theorem makeArena_staysSound (name : Option String) (config : ArenaConfig) :
    (makeArena name config).Keeps StaysSound := by
  intro m sound
  have sound : m.madeNoted.Sound := sound.ordinary (madeNoted_ordinary m)
  let number := m.memory.nextArena
  let arena : Arena :=
    { id := number, name := name.getD ("arena-" ++ toString number), config := config }
  have next : (m.memory.allocators.push (.arena arena)).next = m.memory.allocators.next + 1 :=
    Slab.next_push _ _
  refine ⟨sound.lawful, sound.subjects, sound.bases, sound.bounded, fun id a there => ?_,
    fun id a there => ?_, fun id unborn => ?_⟩
  · have there :
        ((m.memory.allocators.push (.arena arena)).get? id).bind Allocator.arena? = some a := there
    by_cases new : id = m.memory.allocators.next
    · rw [new, Slab.get?_push_next] at there
      cases there
      obtain ⟨taken, held⟩ := sound.unborn id (Nat.le_of_eq new.symm)
      refine ⟨?_, ?_, ?_, nofun⟩
      · show [] = (sinceTaken id m.madeNoted.deeds).map _
        rw [taken]
        rfl
      · show [] = chunksHeld id m.madeNoted.deeds
        rw [held]
      · intro b member
        have member : b ∈ sinceTaken id m.madeNoted.deeds := member
        rw [taken] at member
        cases member
    · rw [Slab.get?_push_of_ne _ _ new] at there
      exact sound.arenas id a there
  · have there : (m.memory.allocators.push (.arena arena)).get? id = some a := there
    by_cases new : id = m.memory.allocators.next
    · rw [new, Slab.get?_push_next] at there
      cases there
      exact (if_pos new.symm).symm
    · rw [Slab.get?_push_of_ne _ _ new] at there
      exact sound.audited id a there
  · have unborn : (m.memory.allocators.push (.arena arena)).next ≤ id := unborn
    rw [next] at unborn
    exact sound.unborn id (Nat.le_of_succ_le unborn)

end Machine

end Custody
