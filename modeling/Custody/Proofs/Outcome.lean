import Custody.Process.Outcome
import Mathlib.Order.Defs.Unbundled

/-!
# The logic of outcomes

Two kinds of statement about an operation, with what the combinators of `Run` do to them.

`Outcome.Ensures` speaks of an operation that returns and of one that unwinds, each with a
postcondition of its own, and says nothing of a process that has ended. `Run.Keeps R` relates
the state before to the state that was left in every case, the end of the process included; `R`
is a preorder, so the operations of a sequence need not be told apart.
-/

namespace Custody

namespace Outcome

variable {σ τ α : Type}

/-- Two guarantees of one outcome. -/
theorem Ensures.and {returns returns' : α → σ → Prop} {unwinds unwinds' : σ → Prop}
    {o : Outcome σ α} (first : o.Ensures returns unwinds) (second : o.Ensures returns' unwinds') :
    o.Ensures (fun a s => returns a s ∧ returns' a s) (fun s => unwinds s ∧ unwinds' s) := by
  cases o with
  | returned a s => exact ⟨first, second⟩
  | unwinding p s => exact ⟨first, second⟩
  | aborted cause s => trivial

theorem Ensures.trivial (o : Outcome σ α) : o.Ensures (fun _ _ => True) fun _ => True := by
  cases o <;> exact True.intro

/-- What holds of the state that was left is guaranteed. -/
theorem Ensures.of_state {Q : σ → Prop} {o : Outcome σ α} (h : Q o.state) :
    o.Ensures (fun _ s => Q s) Q := by
  cases o with
  | returned a s => exact h
  | unwinding p s => exact h
  | aborted cause s => trivial

theorem ensures_mapState {f : σ → τ} {returns : α → τ → Prop} {unwinds : τ → Prop}
    {o : Outcome σ α} (h : o.Ensures (fun a s => returns a (f s)) (fun s => unwinds (f s))) :
    (o.mapState f).Ensures returns unwinds := by
  cases o with
  | returned a s => exact h
  | unwinding p s => exact h
  | aborted cause s => trivial

/-- Whether an operation returned. -/
def returns : Outcome σ α → Bool
  | returned .. => true
  | _ => false

theorem exists_returned {o : Outcome σ α} (h : o.returns = true) :
    ∃ a, o = .returned a o.state := by
  cases o with
  | returned a s => exact ⟨a, rfl⟩
  | unwinding p s => cases h
  | aborted cause s => cases h

theorem Ensures.not_returns {unwinds : σ → Prop} {o : Outcome σ α}
    (never : o.Ensures (fun _ _ => False) unwinds) : o.returns = false := by
  cases o with
  | returned a s => exact never.elim
  | _ => rfl

/-- An operation without an answer that returned did nothing but leave its state. -/
theorem eq_returned {o : Outcome σ Unit} (h : o.returns = true) : o = .returned () o.state :=
  (exists_returned h).elim fun _ returned => returned

/-- What an operation returned, if it did. -/
def answer? : Outcome σ α → Option α
  | returned a _ => some a
  | _ => none

theorem eq_returned_of_answer? {o : Outcome σ α} {a : α} (h : o.answer? = some a) :
    o = .returned a o.state := by
  cases o with
  | returned b s =>
    cases h
    rfl
  | _ => cases h

/-- What an operation unwound with, if it did. -/
def payload? : Outcome σ α → Option Payload
  | unwinding p _ => some p
  | _ => none

theorem eq_unwinding {o : Outcome σ α} {p : Payload} (h : o.payload? = some p) :
    o = .unwinding p o.state := by
  cases o with
  | unwinding p s =>
    cases h
    rfl
  | _ => cases h

/-- Why an operation aborted, if it did. -/
def cause? : Outcome σ α → Option Abort
  | aborted cause _ => some cause
  | _ => none

theorem eq_aborted {o : Outcome σ α} {c : Abort} (h : o.cause? = some c) :
    o = .aborted c o.state := by
  cases o with
  | aborted cause s =>
    cases h
    rfl
  | _ => cases h

@[simp] theorem state_mapState (f : σ → τ) (o : Outcome σ α) :
    (o.mapState f).state = f o.state := by
  cases o <;> rfl

/-- To return something else changes nothing. -/
@[simp] theorem state_andThen_returned {β : Type} (o : Outcome σ α) (b : α → β) :
    (o.andThen fun a s => .returned (b a) s).state = o.state := by
  cases o <;> rfl

@[simp] theorem returns_andThen_returned {β : Type} (o : Outcome σ α) (b : α → β) :
    (o.andThen fun a s => .returned (b a) s).returns = o.returns := by
  cases o <;> rfl

/-- What did not return has nothing to follow. -/
theorem andThen_of_not_returns {o : Outcome σ α} (h : o.returns = false)
    (next : α → σ → Outcome σ α) : o.andThen next = o := by
  cases o with
  | returned a s => cases h
  | _ => rfl

/-- What returns with something to follow returned. -/
theorem returns_of_andThen {β : Type} {o : Outcome σ α} {next : α → σ → Outcome σ β}
    (h : (o.andThen next).returns = true) : o.returns = true := by
  cases o with
  | returned a s => rfl
  | unwinding p s => cases h
  | aborted cause s => cases h

end Outcome

namespace Run

open Outcome

variable {σ τ α β : Type}

/-! ## Guarantees -/

theorem bind_ensures {act : Run σ α} {next : α → Run σ β} {between : α → σ → Prop}
    {returns : β → σ → Prop} {unwinds : σ → Prop} {s : σ}
    (first : (act s).Ensures between unwinds)
    (second : ∀ a t, between a t → (next a t).Ensures returns unwinds) :
    ((act >>= next) s).Ensures returns unwinds :=
  first.andThen second

/-- What an operation leaves, and the next one preserves, is left by both. -/
theorem bind_state {Q : σ → Prop} {act : Run σ α} {next : α → Run σ β} {s : σ}
    (first : Q (act s).state) (second : ∀ a t, Q t → Q (next a t).state) :
    Q ((act >>= next) s).state := by
  rw [bind_apply]
  cases ended : act s with
  | returned a t =>
    rw [ended] at first
    exact second a t first
  | unwinding p t =>
    rw [ended] at first
    exact first
  | aborted cause t =>
    rw [ended] at first
    exact first

/-- What returned in the end went through an operation that returned. -/
theorem returned_of_bind {act : Run σ α} {next : α → Run σ β} {s t : σ} {b : β}
    (done : (act >>= next) s = .returned b t) :
    ∃ a u, act s = .returned a u ∧ next a u = .returned b t := by
  rw [bind_apply] at done
  cases ended : act s with
  | returned a u =>
    rw [ended] at done
    exact ⟨a, u, rfl, done⟩
  | unwinding p u =>
    rw [ended] at done
    cases done
  | aborted cause u =>
    rw [ended] at done
    cases done

/-- What returned although something was to be done in a panic did not panic. -/
theorem returned_of_onUnwind {act : Run σ α} {last : Run σ Unit} {s t : σ} {a : α}
    (done : onUnwind act last s = .returned a t) : act s = .returned a t := by
  unfold onUnwind at done
  cases ended : act s with
  | returned a' u =>
    rw [ended] at done
    exact done
  | unwinding p u =>
    rw [ended] at done
    have done : passing p last u = .returned a t := done
    unfold passing at done
    split at done <;> cases done
  | aborted cause u =>
    rw [ended] at done
    cases done

/-- What is done with an answer changes nothing else. -/
theorem state_bind_pure (act : Run σ α) (f : α → β) (s : σ) :
    ((do return f (← act) : Run σ β) s).state = (act s).state :=
  state_andThen_returned (act s) f

theorem returns_bind_pure (act : Run σ α) (f : α → β) (s : σ) :
    ((do return f (← act) : Run σ β) s).returns = (act s).returns :=
  returns_andThen_returned (act s) f

/-! ## What is kept however an operation ends -/

/-- An operation leaves a state that stands in a relation to the state before. -/
def Keeps (R : σ → σ → Prop) (act : Run σ α) : Prop := ∀ s, R s (act s).state

variable {R : σ → σ → Prop}

theorem Keeps.modify {f : σ → σ} (h : ∀ s, R s (f s)) : (modify f).Keeps R := h

theorem Keeps.mono {R' : σ → σ → Prop} {act : Run σ α} (h : act.Keeps R)
    (le : ∀ s t, R s t → R' s t) : act.Keeps R' :=
  fun s => le s _ (h s)

/-- An operation on a part of the state keeps what its effect on the part entails. -/
theorem Keeps.within {S : τ → τ → Prop} {read : τ → σ} {write : τ → σ → τ} {act : Run σ α}
    (h : act.Keeps R) (lift : ∀ t s, R (read t) s → S t (write t s)) :
    (within read write act).Keeps S := by
  intro t
  unfold Run.within
  rw [state_mapState]
  exact lift t _ (h (read t))

theorem Keeps.passing {last : Run σ Unit} {payload : Payload} (h : last.Keeps R) :
    (passing payload last : Run σ α).Keeps R := by
  intro s
  have kept := h s
  unfold Run.passing
  cases e : last s <;> rw [e] at kept <;> exact kept

variable [IsPreorder σ R]

theorem Keeps.pure (a : α) : (pure a : Run σ α).Keeps R := fun s => refl_of R s

theorem Keeps.get : (get : Run σ σ).Keeps R := fun s => refl_of R s

theorem Keeps.gets (f : σ → α) : (gets f).Keeps R := fun s => refl_of R s

theorem Keeps.abort (cause : Abort) : (abort cause : Run σ α).Keeps R := fun s => refl_of R s

theorem Keeps.bind {act : Run σ α} {next : α → Run σ β} (first : act.Keeps R)
    (second : ∀ a, (next a).Keeps R) : (act >>= next).Keeps R := by
  intro s
  have kept := first s
  rw [bind_apply]
  cases e : act s with
  | returned a t =>
    rw [e] at kept
    exact trans_of R kept (second a t)
  | unwinding p t =>
    rw [e] at kept
    exact kept
  | aborted cause t =>
    rw [e] at kept
    exact kept

theorem Keeps.onUnwind {act : Run σ α} {last : Run σ Unit} (first : act.Keeps R)
    (second : last.Keeps R) : (onUnwind act last).Keeps R := by
  intro s
  have kept := first s
  unfold Run.onUnwind
  cases e : act s with
  | returned a t =>
    rw [e] at kept
    exact kept
  | unwinding p t =>
    rw [e] at kept
    exact trans_of R kept (Keeps.passing (α := α) second t)
  | aborted cause t =>
    rw [e] at kept
    exact kept

theorem Keeps.atEnd {act : Run σ α} {last : Run σ Unit} (first : act.Keeps R)
    (second : last.Keeps R) : (atEnd act last).Keeps R := by
  intro s
  have kept := first s
  unfold Run.atEnd
  cases e : act s with
  | returned a t =>
    rw [e] at kept
    refine trans_of R kept ?_
    have := second t
    show R t ((last t).andThen fun _ u => .returned a u).state
    rw [state_andThen_returned]
    exact this
  | unwinding p t =>
    rw [e] at kept
    exact trans_of R kept (Keeps.passing (α := α) second t)
  | aborted cause t =>
    rw [e] at kept
    exact kept

theorem Keeps.catchingWith {caught : σ → σ} {act : Run σ α} (first : act.Keeps R)
    (second : ∀ s, R s (caught s)) : (catchingWith caught act).Keeps R := by
  intro s
  have kept := first s
  unfold Run.catchingWith
  cases e : act s with
  | returned a t =>
    rw [e] at kept
    exact kept
  | unwinding p t =>
    rw [e] at kept
    exact trans_of R kept (second t)
  | aborted cause t =>
    rw [e] at kept
    exact kept

theorem Keeps.forAll {act : α → Run σ Unit} {l : List α} (h : ∀ a ∈ l, (act a).Keeps R) :
    (forAll act l).Keeps R := by
  induction l with
  | nil => exact Keeps.pure ()
  | cons a rest ih =>
    exact Keeps.bind (h a (List.mem_cons_self ..)) fun _ =>
      ih fun b mem => h b (List.mem_cons_of_mem a mem)

/-! ## Loops in parts -/

section Loops

variable {σ α : Type}

/-- Loops whose rounds are the same are the same. -/
theorem forAll_congr {act act' : α → Run σ Unit} {l : List α} (same : ∀ a ∈ l, act a = act' a) :
    forAll act l = forAll act' l := by
  induction l with
  | nil => rfl
  | cons a rest ih =>
    unfold forAll
    rw [same a (List.mem_cons_self ..), ih fun b member => same b (List.mem_cons_of_mem a member)]

theorem forAll_append (act : α → Run σ Unit) (first second : List α) (s : σ) :
    forAll act (first ++ second) s =
      (forAll act first s).andThen fun _ t => forAll act second t := by
  induction first generalizing s with
  | nil => rfl
  | cons a rest ih =>
    show ((act a s).andThen fun _ t => forAll act (rest ++ second) t) =
      ((act a s).andThen fun _ t => forAll act rest t).andThen fun _ t => forAll act second t
    cases act a s with
    | returned u t => exact ih t
    | unwinding p t => rfl
    | aborted cause t => rfl

/-- A loop that returns has returned from its beginning. -/
theorem forAll_prefix {act : α → Run σ Unit} {first second : List α} {s t : σ}
    (returned : forAll act (first ++ second) s = .returned () t) :
    ∃ u, forAll act first s = .returned () u := by
  rw [forAll_append] at returned
  cases ended : forAll act first s with
  | returned u t => exact ⟨t, rfl⟩
  | unwinding p t =>
    rw [ended] at returned
    cases returned
  | aborted cause t =>
    rw [ended] at returned
    cases returned

end Loops

end Run

end Custody
