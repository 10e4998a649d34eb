/-!
# Slabs

A slab is a growing list of places, each of which holds something or is vacant. Places are
numbered from zero in the order in which they were filled, and a number is never given out
again, so that a number left over from something that is gone finds nothing.
-/

namespace Custody

/-- Numbered places that hold something or are vacant. -/
structure Slab (α : Type) where
  /-- The places, by number. -/
  places : List (Option α) := []

namespace Slab

variable {α : Type}

instance : Inhabited (Slab α) := ⟨{}⟩

/-- What the place of a number holds. -/
def get? (s : Slab α) (i : Nat) : Option α := (s.places[i]?).join

/-- The number that the next new place gets. -/
def next (s : Slab α) : Nat := s.places.length

/-- Fill a new place. -/
def push (s : Slab α) (a : α) : Slab α := ⟨s.places ++ [some a]⟩

/-- Put something else into a place; numbers that were never given out are left alone. -/
def set (s : Slab α) (i : Nat) (a : α) : Slab α := ⟨s.places.set i (some a)⟩

/-- Vacate a place. -/
def erase (s : Slab α) (i : Nat) : Slab α := ⟨s.places.set i none⟩

/-- The sum of a measure over what the places hold. -/
def total (measure : α → Nat) (s : Slab α) : Nat :=
  s.places.foldr (fun place n => (place.map measure).getD 0 + n) 0

@[simp] theorem next_push (s : Slab α) (a : α) : (s.push a).next = s.next + 1 := by
  simp [next, push]

@[simp] theorem next_set (s : Slab α) (i : Nat) (a : α) : (s.set i a).next = s.next := by
  simp [next, set]

@[simp] theorem next_erase (s : Slab α) (i : Nat) : (s.erase i).next = s.next := by
  simp [next, erase]

@[simp] theorem get?_push_next (s : Slab α) (a : α) : (s.push a).get? s.next = some a := by
  simp [get?, push, next]

theorem get?_push_of_ne (s : Slab α) (a : α) {i : Nat} (h : i ≠ s.next) :
    (s.push a).get? i = s.get? i := by
  unfold get? push next at *
  rcases Nat.lt_or_ge i s.places.length with lt | ge
  · rw [List.getElem?_append_left lt]
  · rw [List.getElem?_eq_none (by simp; omega), List.getElem?_eq_none ge]

theorem lt_next_of_get? {s : Slab α} {i : Nat} {a : α} (h : s.get? i = some a) : i < s.next := by
  unfold get? at h
  rcases Nat.lt_or_ge i s.places.length with lt | ge
  · exact lt
  · rw [List.getElem?_eq_none ge] at h
    cases h

theorem get?_set_self {s : Slab α} {i : Nat} {a b : α} (h : s.get? i = some b) :
    (s.set i a).get? i = some a := by
  have := lt_next_of_get? h
  unfold next at this
  simp [get?, set, this]

theorem get?_set_of_ne {s : Slab α} {i j : Nat} (a : α) (h : i ≠ j) :
    (s.set i a).get? j = s.get? j := by
  simp [get?, set, List.getElem?_set_ne h]

@[simp] theorem get?_erase_self (s : Slab α) (i : Nat) : (s.erase i).get? i = none := by
  unfold get? erase
  rcases Nat.lt_or_ge i s.places.length with lt | ge
  · simp [lt]
  · rw [List.getElem?_eq_none (by simpa using ge)]
    rfl

theorem get?_erase_of_ne {s : Slab α} {i j : Nat} (h : i ≠ j) :
    (s.erase i).get? j = s.get? j := by
  simp [get?, erase, List.getElem?_set_ne h]

/-- The content of one place against the whole measure, before and after it is replaced. -/
private theorem foldr_set_add (f : Option α → Nat) :
    ∀ (places : List (Option α)) (i : Nat) (old new : Option α), places[i]? = some old →
      (places.set i new).foldr (fun p n => f p + n) 0 + f old =
        places.foldr (fun p n => f p + n) 0 + f new
  | [], i, old, new, h => by simp at h
  | p :: rest, 0, old, new, h => by
    simp only [List.getElem?_cons_zero, Option.some.injEq] at h
    subst h
    simp only [List.set_cons_zero, List.foldr_cons]
    omega
  | p :: rest, i + 1, old, new, h => by
    simp only [List.getElem?_cons_succ] at h
    have := foldr_set_add f rest i old new h
    simp only [List.set_cons_succ, List.foldr_cons]
    omega

private theorem getElem?_of_get? {s : Slab α} {i : Nat} {a : α} (h : s.get? i = some a) :
    s.places[i]? = some (some a) := by
  unfold get? at h
  cases e : s.places[i]? with
  | none => simp [e] at h
  | some place => simpa [e] using h

theorem total_set {s : Slab α} {i : Nat} {a b : α} (measure : α → Nat) (h : s.get? i = some b) :
    (s.set i a).total measure + measure b = s.total measure + measure a := by
  exact foldr_set_add (fun place => (place.map measure).getD 0) s.places i (some b) (some a)
    (getElem?_of_get? h)

/-- What one place holds is part of the whole. -/
theorem le_total {s : Slab α} {i : Nat} {a : α} (measure : α → Nat) (h : s.get? i = some a) :
    measure a ≤ s.total measure := by
  have place := getElem?_of_get? h
  clear h
  obtain ⟨places⟩ := s
  unfold total
  dsimp only at place ⊢
  induction places generalizing i with
  | nil => cases place
  | cons first rest ih =>
    cases i with
    | zero =>
      cases place
      exact Nat.le_add_right _ _
    | succ i => exact Nat.le_trans (ih place) (Nat.le_add_left _ _)

/-- To put into a place what it holds changes nothing. -/
theorem set_of_get? {s : Slab α} {i : Nat} {a : α} (h : s.get? i = some a) : s.set i a = s := by
  have place := getElem?_of_get? h
  obtain ⟨places⟩ := s
  unfold set
  congr 1
  refine List.ext_getElem? fun j => ?_
  by_cases same : i = j
  · subst same
    rw [List.getElem?_set_self (List.getElem?_eq_some_iff.1 place).1]
    exact place.symm
  · rw [List.getElem?_set_ne same]

theorem total_push (s : Slab α) (a : α) (measure : α → Nat) :
    (s.push a).total measure = s.total measure + measure a := by
  obtain ⟨places⟩ := s
  simp only [total, push, List.foldr_append, List.foldr_cons, List.foldr_nil, Option.map_some,
    Option.getD_some, Nat.add_zero]
  induction places with
  | nil => simp
  | cons place rest ih =>
    simp only [List.foldr_cons, ih]
    omega

theorem get?_eq_none_of_next_le {s : Slab α} {i : Nat} (h : s.next ≤ i) : s.get? i = none := by
  unfold get? next at *
  rw [List.getElem?_eq_none h]
  rfl

end Slab

end Custody
