import Custody.Fault

/-!
# Outcomes of an operation

An operation changes a state and ends in one of three ways: it returns a value, it unwinds with
a payload, or it ends the whole process for some cause. In each case the state as it was left is
part of the outcome, since what was done before stays done. `Run` is the type of such
operations, with the sequencing that stops at the first operation that does not return.

`Run.catchingWith` stops a panic. `Run.atEnd` does something at the end of an operation however
it ends, as the destruction of what the operation holds: if the operation unwinds, and so does
what is done at its end, then nobody is left to catch either panic, and the process aborts.
-/

namespace Custody

/-- What travels up a thread that unwinds. -/
inductive Payload
  /-- A fatal fault of this library. -/
  | diagnostic (d : Diagnostic)
  /-- A message. -/
  | text (message : String)
  /-- Something that is no message. -/
  | other
  deriving DecidableEq, Inhabited

namespace Payload

/-- The message shown for a payload that was caught. -/
def message : Payload → String
  | diagnostic d => d.text
  | text message => message
  | other => "unknown panic"

/-- The diagnostic that a payload is, if it is one. -/
def diagnostic? : Payload → Option Diagnostic
  | diagnostic d => some d
  | _ => none

end Payload

/-- Why a process ended at once. -/
inductive Abort
  /-- A fatal diagnostic that was not to unwind, or could not because a panic did so already. -/
  | fatal (d : Diagnostic)
  /-- A panic was about to leave what was done on the way of another one. -/
  | secondPanic
  /-- The stack was exhausted. -/
  | stackExhausted
  /-- There was no storage of this size for something that has to be there. -/
  | outOfMemory (size : Nat)
  deriving DecidableEq, Inhabited

/-- What a process says on standard error before it ends at once. -/
def Abort.lastWords : Abort → String
  | fatal d => d.text
  | secondPanic => "thread caused non-unwinding panic. aborting."
  | stackExhausted => "thread exhausted its stack. aborting."
  | outOfMemory size => "memory allocation of " ++ toString size ++ " bytes failed"

/-- How an operation ended, and the state it left. -/
inductive Outcome (σ α : Type)
  | returned (value : α) (state : σ)
  | unwinding (payload : Payload) (state : σ)
  | aborted (cause : Abort) (state : σ)

namespace Outcome

variable {σ α β : Type}

/-- The state that was left. -/
def state : Outcome σ α → σ
  | returned _ s => s
  | unwinding _ s => s
  | aborted _ s => s

/-- Go on with the value, if there is one. -/
def andThen (o : Outcome σ α) (next : α → σ → Outcome σ β) : Outcome σ β :=
  match o with
  | returned a s => next a s
  | unwinding p s => unwinding p s
  | aborted cause s => aborted cause s

/-- The same outcome seen from a larger state. -/
def mapState {τ : Type} (f : σ → τ) : Outcome σ α → Outcome τ α
  | returned a s => returned a (f s)
  | unwinding p s => unwinding p (f s)
  | aborted cause s => aborted cause (f s)

/-- What an outcome guarantees, if it returns and if it unwinds. -/
def Ensures (returns : α → σ → Prop) (unwinds : σ → Prop) : Outcome σ α → Prop
  | returned a s => returns a s
  | unwinding _ s => unwinds s
  | aborted _ _ => True

theorem Ensures.mono {returns returns' : α → σ → Prop} {unwinds unwinds' : σ → Prop}
    {o : Outcome σ α} (h : o.Ensures returns unwinds) (hr : ∀ a s, returns a s → returns' a s)
    (hu : ∀ s, unwinds s → unwinds' s) : o.Ensures returns' unwinds' := by
  cases o with
  | returned a s => exact hr a s h
  | unwinding p s => exact hu s h
  | aborted cause s => trivial

/-- What two operations in a row guarantee. -/
theorem Ensures.andThen {o : Outcome σ α} {next : α → σ → Outcome σ β}
    {between : α → σ → Prop} {returns : β → σ → Prop} {unwinds : σ → Prop}
    (first : o.Ensures between unwinds)
    (second : ∀ a s, between a s → (next a s).Ensures returns unwinds) :
    (o.andThen next).Ensures returns unwinds := by
  cases o with
  | returned a s => exact second a s first
  | unwinding p s => exact first
  | aborted cause s => trivial

end Outcome

/-- An operation on a state. -/
def Run (σ α : Type) : Type := σ → Outcome σ α

namespace Run

variable {σ α β : Type}

/-- Return a value and change nothing. -/
protected def pure (a : α) : Run σ α := fun s => .returned a s

/-- One operation after another. -/
protected def bind (first : Run σ α) (next : α → Run σ β) : Run σ β :=
  fun s => (first s).andThen next

instance : Monad (Run σ) where
  pure := Run.pure
  bind := Run.bind

@[simp] theorem pure_apply (a : α) (s : σ) : (pure a : Run σ α) s = .returned a s := rfl

@[simp] theorem bind_apply (first : Run σ α) (next : α → Run σ β) (s : σ) :
    (first >>= next) s = (first s).andThen next := rfl

theorem id_map_apply (act : Run σ α) : id <$> act = act := by
  funext s
  show (act s).andThen (fun a t => Outcome.returned a t) = act s
  cases act s <;> rfl

theorem bind_assoc_apply {γ : Type} (act : Run σ α) (f : α → Run σ β) (g : β → Run σ γ) :
    act >>= f >>= g = act >>= fun a => f a >>= g := by
  funext s
  show ((act s).andThen f).andThen g = (act s).andThen fun a t => (f a t).andThen g
  cases act s <;> rfl

instance : LawfulMonad (Run σ) :=
  LawfulMonad.mk' (Run σ) id_map_apply (fun _ _ => rfl) bind_assoc_apply

/-- Read the state. -/
def get : Run σ σ := fun s => .returned s s

/-- Read something from the state. -/
def gets (f : σ → α) : Run σ α := fun s => .returned (f s) s

/-- Change the state. -/
def modify (f : σ → σ) : Run σ Unit := fun s => .returned () (f s)

/-- End the process. -/
def abort (cause : Abort) : Run σ α := fun s => .aborted cause s

/-- Do an operation for each element of a list in order. -/
def forAll (act : α → Run σ Unit) : List α → Run σ Unit
  | [] => pure ()
  | a :: rest => do act a; forAll act rest

/-- Do an operation and catch a panic that leaves it; `caught` is what that does to the state. -/
def catchingWith (caught : σ → σ) (act : Run σ α) : Run σ (Except Payload α) := fun s =>
  match act s with
  | .returned a t => .returned (.ok a) t
  | .unwinding payload t => .returned (.error payload) (caught t)
  | .aborted cause t => .aborted cause t

/-- Do something while a panic passes, and let the panic pass on. A second panic that comes of
it finds nobody to catch it. -/
def passing (payload : Payload) (last : Run σ Unit) : Run σ α := fun s =>
  match last s with
  | .returned _ t => .unwinding payload t
  | .unwinding _ t => .aborted .secondPanic t
  | .aborted cause t => .aborted cause t

/-- Do something in case an operation unwinds. -/
def onUnwind (act : Run σ α) (last : Run σ Unit) : Run σ α := fun s =>
  match act s with
  | .unwinding payload t => passing payload last t
  | outcome => outcome

/-- Do something at the end of an operation, whether it returns or unwinds. -/
def atEnd (act : Run σ α) (last : Run σ Unit) : Run σ α := fun s =>
  match act s with
  | .returned a t => (last t).andThen fun _ u => .returned a u
  | .unwinding payload t => passing payload last t
  | .aborted cause t => .aborted cause t

/-- Do an operation on a part of a larger state. -/
def within {τ : Type} (read : τ → σ) (write : τ → σ → τ) (act : Run σ α) : Run τ α :=
  fun t => (act (read t)).mapState (write t)

end Run

end Custody
