import Custody.Proofs.Ledgers
import Mathlib.Data.List.Perm.Subperm

/-!
# Lawful histories of arenas

What was done with storage, read as a history of arenas. `sinceTaken id` is what was registered
with an allocator since its list of destructors was last taken out, `due id` what of that list is
left to be run, `runs id` what was run at all, and `chunksHeld id` the chunks that were obtained
and not given back. They are functions of the events alone.

`Lawful` says of a history that every event was permitted when it came:

* a destructor is registered for a subject of its own;
* a destructor is run only when it is the next one of the list that was taken out, and while
  the chunk that its storage lies in is held;
* a chunk is obtained where none was before, and given back only while it is held;
* a release writes off what the counters called live when it began.

From this alone it follows that the destructors of one release are run newest first
(`Lawful.sinceTaken_eq`), that none of them is due before a release (`Lawful.due_eq_nil`) or run
twice (`Lawful.nodup_runs`), and that no chunk is given back twice
(`Lawful.nodup_chunksReleased`). Histories are lists with the newest event first.
-/

namespace Custody

/-- A destructor that was registered, with the storage it was registered for. -/
structure Booking where
  /-- Where the storage begins. -/
  base : Address
  /-- The layout that was asked for. -/
  layout : Layout
  /-- What to run at the release. -/
  destructor : Destructor
  deriving DecidableEq

/-- What an arena keeps of a booking. -/
def Booking.registration (b : Booking) : Registration := ⟨b.base, b.destructor⟩

/-- Whether a chunk has storage in it. -/
def Chunk.Encloses (c : Chunk) (base : Address) (l : Layout) : Prop :=
  c.base.toNat ≤ base.toNat ∧ base.toNat + l.size ≤ c.base.toNat + c.layout.size

/-- Storage of no bytes lies nowhere, and any other in one of the given chunks. -/
def Booking.LiesIn (b : Booking) (chunks : List Chunk) : Prop :=
  b.layout.size = 0 ∨ ∃ c ∈ chunks, c.Encloses b.base b.layout

theorem Booking.LiesIn.mono {b : Booking} {chunks more : List Chunk} (h : b.LiesIn chunks)
    (sub : ∀ c ∈ chunks, c ∈ more) : b.LiesIn more := by
  rcases h with none | ⟨c, member, encloses⟩
  · exact .inl none
  · exact .inr ⟨c, sub c member, encloses⟩

namespace StorageEvent

variable (id : AllocatorId)

/-- The booking that an event is, if it registers a destructor with an allocator. -/
def booked? : StorageEvent → Option Booking
  | granted a base l (some d) => if a = id then some ⟨base, l, d⟩ else none
  | _ => none

/-- The registration that an event runs, if it runs one of an allocator. -/
def ran? : StorageEvent → Option Registration
  | collectedRun a base d => if a = id then some ⟨base, d⟩ else none
  | _ => none

/-- Whether an event takes out the list of destructors of an allocator. -/
def begins : StorageEvent → Bool
  | releaseBegan a => a == id
  | _ => false

/-- The chunk that an event obtains, if it does for an allocator. -/
def obtained? : StorageEvent → Option Chunk
  | chunkObtained a base l => if a = id then some ⟨base, l⟩ else none
  | _ => none

/-- The chunk that an event gives back, if it does for an allocator. -/
def released? : StorageEvent → Option Chunk
  | chunkReleased a base l => if a = id then some ⟨base, l⟩ else none
  | _ => none

/-- The subject for which an event registers a destructor, if it does. -/
def subject? : StorageEvent → Option CellId
  | granted _ _ _ (some d) => some d.subject
  | _ => none

/-- Where the chunk begins that an event obtains, if it does. -/
def chunkBase? : StorageEvent → Option Address
  | chunkObtained _ base _ => some base
  | _ => none

/-- Whether an event is about the destructors or the chunks of an allocator. -/
def isAbout : StorageEvent → Bool
  | granted a _ _ (some _) | releaseBegan a | collectedRun a _ _ | chunkObtained a _ _
  | chunkReleased a _ _ => a == id
  | made _ | granted _ _ _ none | deallocated .. | retired .. | placed .. | destructionBegan _
  | destructionFailed _ | handedBack _ | miscounted .. | bulkReleased .. => false

/-- Whether an event may come at any time, and is about the destructors and the chunks of no
allocator. -/
def isInert : StorageEvent → Bool
  | granted _ _ _ (some _) | releaseBegan _ | collectedRun .. | chunkObtained ..
  | chunkReleased .. | bulkReleased .. => false
  | made _ | granted _ _ _ none | deallocated .. | retired .. | placed .. | destructionBegan _
  | destructionFailed _ | handedBack _ | miscounted .. => true

end StorageEvent

section Histories

variable (id : AllocatorId)

/-- What was registered with an allocator since its list was last taken out, newest first. -/
def sinceTaken (deeds : List StorageEvent) : List Booking :=
  (deeds.takeWhile fun e => !e.begins id).filterMap (·.booked? id)

/-- What was taken out last and was not run yet, in the order in which it is to be run. -/
def due : List StorageEvent → List Booking
  | [] => []
  | e :: older =>
    if e.begins id then sinceTaken id older
    else if (e.ran? id).isSome then (due older).tail
    else due older

/-- What was run, newest first. -/
def runs (deeds : List StorageEvent) : List Registration := deeds.filterMap (·.ran? id)

/-- The chunks that were given back, newest first. -/
def chunksReleased (deeds : List StorageEvent) : List Chunk := deeds.filterMap (·.released? id)

/-- The chunks that were obtained and not given back, newest first. -/
def chunksHeld : List StorageEvent → List Chunk
  | [] => []
  | e :: older =>
    match e.released? id with
    | some c => (chunksHeld older).erase c
    | none => (e.obtained? id).toList ++ chunksHeld older

end Histories

/-- Whether an event may come after older ones. -/
def Permitted (older : List StorageEvent) : StorageEvent → Prop
  | .granted _ _ _ (some d) => ∀ e ∈ older, e.subject? ≠ some d.subject
  | .chunkObtained _ base _ => ∀ e ∈ older, e.chunkBase? ≠ some base
  | .collectedRun id base d =>
    ∃ b rest, due id older = b :: rest ∧ b.registration = ⟨base, d⟩ ∧
      b.LiesIn (chunksHeld id older)
  | .chunkReleased id base l => ⟨base, l⟩ ∈ chunksHeld id older
  | .bulkReleased id leaked =>
    ∃ mid before, older = mid ++ .releaseBegan id :: before ∧ (∀ e ∈ mid, e.isOfRelease) ∧
      leaked = (ledgerOf id before).live
  | _ => True

/-- Every event was permitted when it came. -/
def Lawful : List StorageEvent → Prop
  | [] => True
  | e :: older => Permitted older e ∧ Lawful older

/-! ## Events that say nothing -/

namespace StorageEvent

variable (id : AllocatorId) {e : StorageEvent} (h : e.isAbout id = false)

include h

theorem begins_of_isAbout : e.begins id = false := by
  cases e with
  | releaseBegan a => exact h
  | _ => rfl

theorem booked?_of_isAbout : e.booked? id = none := by
  cases e with
  | granted a base l d =>
    cases d with
    | none => rfl
    | some d => exact if_neg (beq_eq_false_iff_ne.1 h)
  | _ => rfl

theorem ran?_of_isAbout : e.ran? id = none := by
  cases e with
  | collectedRun a base d => exact if_neg (beq_eq_false_iff_ne.1 h)
  | _ => rfl

theorem obtained?_of_isAbout : e.obtained? id = none := by
  cases e with
  | chunkObtained a base l => exact if_neg (beq_eq_false_iff_ne.1 h)
  | _ => rfl

theorem released?_of_isAbout : e.released? id = none := by
  cases e with
  | chunkReleased a base l => exact if_neg (beq_eq_false_iff_ne.1 h)
  | _ => rfl

end StorageEvent

section Inert

variable {e : StorageEvent} (h : e.isInert)

include h

theorem isAbout_of_isInert (id : AllocatorId) : e.isAbout id = false := by
  cases e with
  | granted a base l d =>
    cases d with
    | none => rfl
    | some d => cases h
  | releaseBegan a => cases h
  | collectedRun a base d => cases h
  | chunkObtained a base l => cases h
  | chunkReleased a base l => cases h
  | _ => rfl

theorem subject?_of_isInert : e.subject? = none := by
  cases e with
  | granted a base l d =>
    cases d with
    | none => rfl
    | some d => cases h
  | _ => rfl

theorem chunkBase?_of_isInert : e.chunkBase? = none := by
  cases e with
  | chunkObtained a base l => cases h
  | _ => rfl

theorem permitted_of_isInert (older : List StorageEvent) : Permitted older e := by
  cases e with
  | granted a base l d =>
    cases d with
    | none => trivial
    | some d => cases h
  | releaseBegan a => cases h
  | collectedRun a base d => cases h
  | chunkObtained a base l => cases h
  | chunkReleased a base l => cases h
  | bulkReleased a leaked => cases h
  | _ => trivial

end Inert

/-! ## One event more -/

section Cons

variable {id : AllocatorId} {e : StorageEvent} {older : List StorageEvent}

theorem sinceTaken_cons_of_begins (h : e.begins id = true) : sinceTaken id (e :: older) = [] := by
  simp [sinceTaken, h]

theorem sinceTaken_cons (h : e.begins id = false) :
    sinceTaken id (e :: older) = (e.booked? id).toList ++ sinceTaken id older := by
  unfold sinceTaken
  rw [List.takeWhile_cons_of_pos (by simp [h])]
  cases booked : e.booked? id with
  | none => rw [List.filterMap_cons_none booked]; rfl
  | some b => rw [List.filterMap_cons_some booked]; rfl

theorem due_cons_of_begins (h : e.begins id = true) :
    due id (e :: older) = sinceTaken id older := by
  rw [due, if_pos h]

theorem due_cons_of_ran {r : Registration} (began : e.begins id = false)
    (ran : e.ran? id = some r) : due id (e :: older) = (due id older).tail := by
  rw [due, if_neg (by simp [began]), if_pos (by simp [ran])]

theorem due_cons (began : e.begins id = false) (ran : e.ran? id = none) :
    due id (e :: older) = due id older := by
  rw [due, if_neg (by simp [began]), if_neg (by simp [ran])]

theorem chunksHeld_cons_of_released {c : Chunk} (h : e.released? id = some c) :
    chunksHeld id (e :: older) = (chunksHeld id older).erase c := by
  rw [chunksHeld, h]

theorem chunksHeld_cons (h : e.released? id = none) :
    chunksHeld id (e :: older) = (e.obtained? id).toList ++ chunksHeld id older := by
  rw [chunksHeld, h]

end Cons

/-! ## Several events that say nothing -/

section Added

open StorageEvent

variable (id : AllocatorId) {added : List StorageEvent} (older : List StorageEvent)

section About

variable (others : ∀ e ∈ added, e.isAbout id = false)

include others

theorem sinceTaken_append : sinceTaken id (added ++ older) = sinceTaken id older := by
  induction added with
  | nil => rfl
  | cons e rest ih =>
    have first := others e (List.mem_cons_self ..)
    rw [List.cons_append, sinceTaken_cons (begins_of_isAbout id first),
      booked?_of_isAbout id first]
    exact ih fun e member => others e (List.mem_cons_of_mem _ member)

theorem due_append : due id (added ++ older) = due id older := by
  induction added with
  | nil => rfl
  | cons e rest ih =>
    have first := others e (List.mem_cons_self ..)
    rw [List.cons_append, due_cons (begins_of_isAbout id first) (ran?_of_isAbout id first)]
    exact ih fun e member => others e (List.mem_cons_of_mem _ member)

theorem chunksHeld_append : chunksHeld id (added ++ older) = chunksHeld id older := by
  induction added with
  | nil => rfl
  | cons e rest ih =>
    have first := others e (List.mem_cons_self ..)
    rw [List.cons_append, chunksHeld_cons (released?_of_isAbout id first),
      obtained?_of_isAbout id first]
    exact ih fun e member => others e (List.mem_cons_of_mem _ member)

theorem runs_append : runs id (added ++ older) = runs id older := by
  unfold runs
  rw [List.filterMap_append, List.filterMap_eq_nil_iff.2, List.nil_append]
  exact fun e member => ran?_of_isAbout id (others e member)

end About

theorem Lawful.append {older : List StorageEvent} (lawful : Lawful older)
    (inert : ∀ e ∈ added, e.isInert) : Lawful (added ++ older) := by
  induction added with
  | nil => exact lawful
  | cons e rest ih =>
    refine ⟨permitted_of_isInert (inert e (List.mem_cons_self ..)) _, ?_⟩
    exact ih fun e member => inert e (List.mem_cons_of_mem _ member)

end Added

/-! ## What follows from lawfulness -/

namespace Lawful

variable {id : AllocatorId} {newer older deeds : List StorageEvent}

/-- A history was lawful at every earlier time. -/
theorem of_append (h : Lawful (newer ++ older)) : Lawful older := by
  induction newer with
  | nil => exact h
  | cons e rest ih => exact ih h.2

/-- An event that runs a destructor runs the next one that is due. -/
theorem due_of_ran {e : StorageEvent} {r : Registration} (permitted : Permitted older e)
    (ran : e.ran? id = some r) :
    ∃ b rest, due id older = b :: rest ∧ b.registration = r ∧ b.LiesIn (chunksHeld id older) := by
  cases e with
  | collectedRun a base d =>
    by_cases same : a = id
    · subst same
      simp only [StorageEvent.ran?, if_true, Option.some.injEq] at ran
      rw [← ran]
      exact permitted
    · simp [StorageEvent.ran?, same] at ran
  | _ => cases ran

/-- The list that was taken out last is what was run of it and what is left of it. -/
theorem sinceTaken_eq {e : StorageEvent} (lawful : Lawful (newer ++ e :: older))
    (began : e.begins id = true) (last : ∀ f ∈ newer, f.begins id = false) :
    (sinceTaken id older).map Booking.registration =
      (runs id newer).reverse ++ (due id (newer ++ e :: older)).map Booking.registration := by
  induction newer with
  | nil =>
    rw [List.nil_append, due_cons_of_begins began]
    rfl
  | cons f rest ih =>
    obtain ⟨permitted, earlier⟩ : Permitted (rest ++ e :: older) f ∧ Lawful (rest ++ e :: older) :=
      lawful
    have first := last f (List.mem_cons_self ..)
    have before := ih earlier fun g member => last g (List.mem_cons_of_mem _ member)
    rw [List.cons_append]
    cases ran : f.ran? id with
    | none =>
      have same : runs id (f :: rest) = runs id rest := List.filterMap_cons_none ran
      rw [due_cons first ran, same]
      exact before
    | some r =>
      obtain ⟨b, left, next, registration, -⟩ := due_of_ran permitted ran
      have more : runs id (f :: rest) = r :: runs id rest := List.filterMap_cons_some ran
      rw [due_cons_of_ran first ran, more, before, next, List.map_cons, registration,
        List.tail_cons, List.reverse_cons, List.append_assoc]
      rfl

/-- Before a list was taken out for the first time nothing is due. -/
theorem due_eq_nil (h : ∀ e ∈ deeds, e.begins id = false) : due id deeds = [] := by
  induction deeds with
  | nil => rfl
  | cons e older ih =>
    have earlier := ih fun f member => h f (List.mem_cons_of_mem _ member)
    have first := h e (List.mem_cons_self ..)
    cases ran : e.ran? id with
    | none => rw [due_cons first ran, earlier]
    | some r => rw [due_cons_of_ran first ran, earlier, List.tail_nil]

/-! ### Nothing is run twice -/

section Keyed

variable {κ : Type} {key : StorageEvent → Option κ} {e : StorageEvent} {older : List StorageEvent}
  {keys more : List κ} {s : κ}

/-- Keys of events, all different. -/
private structure Keyed (key : StorageEvent → Option κ) (deeds : List StorageEvent)
    (keys : List κ) : Prop where
  nodup : keys.Nodup
  known : ∀ s ∈ keys, ∃ e ∈ deeds, key e = some s

/-- When something else happens, no keys come. -/
private theorem Keyed.kept (keyed : Keyed key older keys) (sub : more.Subperm keys) :
    Keyed key (e :: older) more := by
  obtain ⟨l, perm, sublist⟩ := sub
  refine ⟨perm.nodup_iff.1 (keyed.nodup.sublist sublist), fun s member => ?_⟩
  obtain ⟨f, among, is⟩ := keyed.known s (sublist.subset (perm.symm.subset member))
  exact ⟨f, List.mem_cons_of_mem _ among, is⟩

/-- When something happens that has a key, no event before had the same. -/
private theorem Keyed.added (keyed : Keyed key older keys)
    (new : key e = some s ∧ ∀ f ∈ older, key f ≠ some s) (perm : more.Perm (s :: keys)) :
    Keyed key (e :: older) more := by
  refine ⟨perm.nodup_iff.2 (List.nodup_cons.2 ⟨fun member => ?_, keyed.nodup⟩),
    fun r member => ?_⟩
  · obtain ⟨f, among, is⟩ := keyed.known s member
    exact new.2 f among is
  · rcases List.mem_cons.1 (perm.subset member) with rfl | old
    · exact ⟨e, List.mem_cons_self .., new.1⟩
    · obtain ⟨f, among, is⟩ := keyed.known r old
      exact ⟨f, List.mem_cons_of_mem _ among, is⟩

end Keyed

/-- The subjects of all that was run or is still to be run by an allocator. -/
private def subjects (id : AllocatorId) (deeds : List StorageEvent) : List CellId :=
  (runs id deeds).map (·.destructor.subject) ++
    ((due id deeds).map (·.destructor.subject) ++
      (sinceTaken id deeds).map (·.destructor.subject))

/-- What is registered has a subject of its own. -/
private theorem subject_of_booked {id : AllocatorId} {e : StorageEvent} {b : Booking}
    {older : List StorageEvent} (permitted : Permitted older e) (booked : e.booked? id = some b) :
    e.subject? = some b.destructor.subject ∧
      ∀ f ∈ older, f.subject? ≠ some b.destructor.subject := by
  cases e with
  | granted a base l d =>
    cases d with
    | none => cases booked
    | some d =>
      by_cases same : a = id
      · simp only [StorageEvent.booked?, same, if_true, Option.some.injEq] at booked
        rw [← booked]
        exact ⟨rfl, permitted⟩
      · simp [StorageEvent.booked?, same] at booked
  | _ => cases booked

/-- Every subject has its own destructor, and there was an event that registered it. -/
private theorem keyed_subjects (id : AllocatorId) {deeds : List StorageEvent}
    (lawful : Lawful deeds) : Keyed StorageEvent.subject? deeds (subjects id deeds) := by
  induction deeds with
  | nil => exact ⟨List.nodup_nil, nofun⟩
  | cons e older ih =>
    obtain ⟨permitted, earlier⟩ := lawful
    have keyed := ih earlier
    cases began : e.begins id with
    | true =>
      -- The list is taken out: what was left of the one before is forgotten.
      have ran : e.ran? id = none := by
        cases e with
        | releaseBegan a => rfl
        | _ => cases began
      have same : runs id (e :: older) = runs id older := List.filterMap_cons_none ran
      have now : subjects id (e :: older) = (runs id older).map (·.destructor.subject) ++
          (sinceTaken id older).map (·.destructor.subject) := by
        unfold subjects
        rw [same, due_cons_of_begins began, sinceTaken_cons_of_begins began, List.map_nil,
          List.append_nil]
      rw [now]
      have sub : ((runs id older).map (·.destructor.subject) ++
          (sinceTaken id older).map (·.destructor.subject)).Sublist (subjects id older) :=
        (List.Sublist.refl _).append (List.sublist_append_right _ _)
      exact keyed.kept sub.subperm
    | false =>
      cases ran : e.ran? id with
      | some r =>
        -- The next one that is due is run: it moves from one list to the other.
        obtain ⟨b, rest, next, registration, -⟩ := due_of_ran permitted ran
        have booked : e.booked? id = none := by
          cases e with
          | collectedRun a base d => rfl
          | _ => cases ran
        have more : runs id (e :: older) = r :: runs id older := List.filterMap_cons_some ran
        have subject : r.destructor.subject = b.destructor.subject := by
          rw [← registration]
          rfl
        have moved : (subjects id (e :: older)).Perm (subjects id older) := by
          unfold subjects
          rw [more, due_cons_of_ran began ran, sinceTaken_cons began, booked, next,
            List.map_cons, List.map_cons, subject]
          exact List.perm_middle.symm
        exact keyed.kept moved.subperm
      | none =>
        have same : runs id (e :: older) = runs id older := List.filterMap_cons_none ran
        cases booked : e.booked? id with
        | none =>
          have now : subjects id (e :: older) = subjects id older := by
            unfold subjects
            rw [same, due_cons began ran, sinceTaken_cons began, booked]
            rfl
          rw [now]
          exact keyed.kept (List.Subperm.refl _)
        | some b =>
          -- A destructor is registered, and its subject is new.
          have now : (subjects id (e :: older)).Perm
              (b.destructor.subject :: subjects id older) := by
            unfold subjects
            rw [same, due_cons began ran, sinceTaken_cons began, booked, Option.toList_some,
              List.singleton_append, List.map_cons, ← List.append_assoc, ← List.append_assoc]
            exact List.perm_middle
          exact keyed.added (subject_of_booked permitted booked) now

/-- No destructor is run twice. -/
theorem nodup_runs (lawful : Lawful deeds) (id : AllocatorId) :
    ((runs id deeds).map (·.destructor.subject)).Nodup :=
  (keyed_subjects id lawful).nodup.sublist (List.sublist_append_left _ _)

/-! ### Nothing is given back twice -/

/-- Every chunk of an allocator, given back or not, was obtained where no other was. -/
private theorem keyed_chunks (id : AllocatorId) {deeds : List StorageEvent}
    (lawful : Lawful deeds) :
    Keyed StorageEvent.chunkBase? deeds
      ((chunksReleased id deeds ++ chunksHeld id deeds).map (·.base)) := by
  induction deeds with
  | nil => exact ⟨List.nodup_nil, nofun⟩
  | cons e older ih =>
    obtain ⟨permitted, earlier⟩ := lawful
    have keyed := ih earlier
    cases released : e.released? id with
    | some c =>
      have held : c ∈ chunksHeld id older := by
        cases e with
        | chunkReleased a base l =>
          by_cases same : a = id
          · subst same
            simp only [StorageEvent.released?, if_true, Option.some.injEq] at released
            rw [← released]
            exact permitted
          · simp [StorageEvent.released?, same] at released
        | _ => cases released
      have more : chunksReleased id (e :: older) = c :: chunksReleased id older :=
        List.filterMap_cons_some released
      rw [more, chunksHeld_cons_of_released released, List.cons_append]
      have moved := List.perm_middle.symm.trans
        ((List.perm_cons_erase held).symm.append_left (chunksReleased id older))
      exact keyed.kept (moved.map _).subperm
    | none =>
      have same : chunksReleased id (e :: older) = chunksReleased id older :=
        List.filterMap_cons_none released
      rw [same, chunksHeld_cons released]
      cases obtained : e.obtained? id with
      | none => exact keyed.kept (List.Subperm.refl _)
      | some c =>
        have new : e.chunkBase? = some c.base ∧ ∀ f ∈ older, f.chunkBase? ≠ some c.base := by
          cases e with
          | chunkObtained a base l =>
            by_cases same : a = id
            · simp only [StorageEvent.obtained?, same, if_true, Option.some.injEq] at obtained
              rw [← obtained]
              exact ⟨rfl, permitted⟩
            · simp [StorageEvent.obtained?, same] at obtained
          | _ => cases obtained
        have perm : (chunksReleased id older ++ ([c] ++ chunksHeld id older)).Perm
            (c :: (chunksReleased id older ++ chunksHeld id older)) := List.perm_middle
        exact keyed.added new (perm.map _)

/-- No chunk is given back twice. -/
theorem nodup_chunksReleased (lawful : Lawful deeds) (id : AllocatorId) :
    ((chunksReleased id deeds).map (·.base)).Nodup := by
  have nodup := (keyed_chunks id lawful).nodup
  rw [List.map_append] at nodup
  exact nodup.sublist (List.sublist_append_left _ _)

end Lawful

end Custody
