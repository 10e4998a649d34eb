import Custody.Proofs.Placement

/-!
# Requests that an arena refuses

Serving a request takes several steps, and some of them can fail after others were taken. A chunk
is obtained before anything is carved from it, and if nothing could be carved then, the arena would
be left with a chunk more than it had and with bytes on its books that nobody got.

This never happens. A chunk that is obtained for a request begins at a multiple of its alignment
and is at least as long as the request, whatever the chunk size that was chosen: a request for more
than half of that size has a chunk of its own length, and any other fits twice. So the request is
carved from the very start (`Arena.bump_cursorInto`). What is left are the failures that come
before any change, which `Arena.Refuses` lists, and an arena that refuses a request is the arena
that was asked (`Arena.refusal_untouched`).
-/

namespace Custody

namespace Arena

variable {heap : Layout → Option Address} {a after : Arena} {l chunk : Layout} {base : Address}
  {d : Option Destructor} {e : AllocError}

/-- Why an arena refuses a request: it is for some bytes, the chunk being filled has no room for
it, and no other chunk is to be had. There is no layout for one, or the capacity does not allow it,
or the heap has none. -/
structure Refuses (heap : Layout → Option Address) (a : Arena) (l : Layout) (e : AllocError) :
    Prop where
  some : 0 < l.size
  full : a.cursor.bind (·.bump l) = none
  reason : (a.chunkLayout? l = none ∧ e = .invalidLayout) ∨
    ∃ chunk, a.chunkLayout? l = .some chunk ∧
      (a.exceedsCapacity chunk = true ∨ heap chunk = none) ∧ e = .ofLayout l

/-! ## A chunk that has just been obtained -/

/-- Once it was obtained, a chunk refuses nothing. -/
theorem placeInChunk_ok (supplies : Supplies heap) (layout : a.chunkLayout? l = some chunk)
    (obtained : heap chunk = some base) :
    ∃ spot, (a.placeInChunk ⟨base, chunk⟩ l).1 = .ok ⟨base, spot⟩ := by
  unfold placeInChunk
  by_cases oversized : a.isOversized l = true
  · exact ⟨.dedicatedChunk, by simp [oversized]⟩
  · exact ⟨.freshChunk, by simp [oversized, bump_cursorInto supplies layout obtained]⟩

theorem reserveChunk_of_obtained (layout : a.chunkLayout? l = some chunk)
    (within : a.exceedsCapacity chunk = false) (obtained : heap chunk = some base) :
    a.reserveChunk heap l = a.placeInChunk ⟨base, chunk⟩ l := by
  simp [reserveChunk, layout, within, obtained]

theorem reserveChunk_of_invalid (layout : a.chunkLayout? l = none) :
    a.reserveChunk heap l = (.error .invalidLayout, a) := by
  simp [reserveChunk, layout]

theorem reserveChunk_of_unobtainable (layout : a.chunkLayout? l = some chunk)
    (reason : a.exceedsCapacity chunk = true ∨ heap chunk = none) :
    a.reserveChunk heap l = (.error (.ofLayout l), a) := by
  rcases reason with exceeded | nothing
  · simp [reserveChunk, layout, exceeded]
  · simp [reserveChunk, layout, nothing]

/-- A request that needs a chunk is refused for one of the three reasons, or it is served. -/
theorem reserveChunk_error_iff (supplies : Supplies heap) :
    a.reserveChunk heap l = (.error e, after) ↔
      ((a.chunkLayout? l = none ∧ e = .invalidLayout) ∨
        ∃ chunk, a.chunkLayout? l = some chunk ∧
          (a.exceedsCapacity chunk = true ∨ heap chunk = none) ∧ e = .ofLayout l) ∧ after = a := by
  constructor
  · intro h
    cases layout : a.chunkLayout? l with
    | none =>
      rw [reserveChunk_of_invalid layout] at h
      cases h
      exact ⟨.inl ⟨rfl, rfl⟩, rfl⟩
    | some chunk =>
      by_cases reason : a.exceedsCapacity chunk = true ∨ heap chunk = none
      · rw [reserveChunk_of_unobtainable layout reason] at h
        cases h
        exact ⟨.inr ⟨chunk, rfl, reason, rfl⟩, rfl⟩
      · -- The heap gave a chunk, and a chunk that it gave serves the request.
        push Not at reason
        obtain ⟨within, given⟩ := reason
        obtain ⟨base, obtained⟩ := Option.ne_none_iff_exists'.1 given
        obtain ⟨grant, placed, granted, -⟩ := placeInChunk_served supplies layout obtained
        rw [reserveChunk_of_obtained layout (Bool.eq_false_iff.2 within) obtained, granted] at h
        cases h
  · rintro ⟨⟨layout, rfl⟩ | ⟨chunk, layout, reason, rfl⟩, rfl⟩
    · exact reserveChunk_of_invalid layout
    · exact reserveChunk_of_unobtainable layout reason

/-! ## Refusals -/

/-- The chunk being filled refuses nothing: what it has no room for is left to another chunk. -/
theorem reserve_error_iff :
    a.reserve heap l = (.error e, after) ↔
      a.cursor.bind (·.bump l) = none ∧ a.reserveChunk heap l = (.error e, after) := by
  unfold reserve
  cases a.cursor.bind (·.bump l) <;> simp

/-- A request for no bytes is never refused, and to keep the books refuses nothing. -/
theorem allocate_error_iff_reserve :
    a.allocate heap l d = (.error e, after) ↔
      0 < l.size ∧ a.reserve heap l = (.error e, after) := by
  unfold allocate
  by_cases empty : l.size = 0
  · simp [empty]
  · rw [if_neg empty]
    rcases a.reserve heap l with ⟨refused | grant, placed⟩
    · simp [Nat.pos_of_ne_zero empty]
    · simp

/-- An arena refuses what there is a reason to refuse, and is then as it was. -/
theorem allocate_error_iff (supplies : Supplies heap) :
    a.allocate heap l d = (.error e, after) ↔ a.Refuses heap l e ∧ after = a := by
  rw [allocate_error_iff_reserve, reserve_error_iff, reserveChunk_error_iff supplies]
  constructor
  · rintro ⟨some, full, reason, same⟩
    exact ⟨⟨some, full, reason⟩, same⟩
  · rintro ⟨⟨some, full, reason⟩, same⟩
    exact ⟨some, full, reason, same⟩

/-- Whatever state an arena is in, however it is configured and whatever is asked of it, a request
that it refuses leaves it as it was: its chunks, its cursor, its figures, its list of destructors
and its counters. It refuses exactly for the reasons that come before any change, since a chunk
that was obtained is carved from its start. -/
theorem refusal_untouched (supplies : Supplies heap) (a : Arena) (l : Layout)
    (d : Option Destructor) :
    (∀ e after, a.allocate heap l d = (.error e, after) ↔ a.Refuses heap l e ∧ after = a) ∧
      ∀ chunk base, a.chunkLayout? l = some chunk → heap chunk = some base →
        (∃ cursor, (cursorInto ⟨base, chunk⟩).bump l = some (base, cursor)) ∧
          ∃ spot, (a.placeInChunk ⟨base, chunk⟩ l).1 = .ok ⟨base, spot⟩ := by
  constructor
  · intro e after
    exact allocate_error_iff supplies
  · intro chunk base layout obtained
    exact ⟨⟨_, bump_cursorInto supplies layout obtained⟩,
      placeInChunk_ok supplies layout obtained⟩

/-- Chunks of 3 bytes, and 5 bytes at most: 1 byte is handed out, and 1 byte aligned to 2 behind a
gap, with a destructor. The chunk is full then. -/
def tinyChunks : Arena :=
  let made : Arena := { id := 0, name := "arena-0", config := { chunkSize := 3, maxSize := 5 } }
  let heap := oneChunk ⟨4112, .small 3 4⟩
  ((made.allocate heap (.small 1 0) none).2.allocate heap (.small 1 1) (some ⟨0, 0⟩)).2

/-- One byte more is refused, although the heap has another chunk that would be carved from its
start, and the arena goes on holding 3 bytes and a destructor. -/
theorem refusal_untouched_tinyChunks :
    ∃ heap l e, Supplies heap ∧ tinyChunks.Refuses heap l e ∧ e = .outOfMemory 1 1 ∧
      tinyChunks.allocate heap l none = (.error e, tinyChunks) ∧
      (tinyChunks.reserved, tinyChunks.used, tinyChunks.collected.length) = (3, 2, 1) ∧
      ∃ cursor, (cursorInto ⟨128, .small 3 4⟩).bump l = some (128, cursor) := by
  have provides : Provides (oneChunk ⟨128, .small 3 4⟩) [] :=
    provides_oneChunk (by decide) (by decide) nofun
  have answer : tinyChunks.allocate (oneChunk ⟨128, .small 3 4⟩) (.small 1 0) none =
      (.error (.outOfMemory 1 1), tinyChunks) := rfl
  obtain ⟨refused, carved⟩ := refusal_untouched provides.supplies tinyChunks (.small 1 0) none
  obtain ⟨start, -⟩ := carved (.small 3 4) 128 rfl rfl
  exact ⟨_, _, _, provides.supplies, ((refused _ _).1 answer).1, rfl, answer, rfl, start⟩

end Arena

end Custody
