import Custody.Handle.Qualifier
import Custody.Word

/-!
# States of a control block and their counts

A control block records which kind of owner governs its value, with the counts that this kind
needs. A strong group counts its owners and its observers; the owners hold one of the observers'
references together, and the storage goes back when the last of those is gone. A group on one
thread counts its owners only.

Every counting operation is a function from the state to the state afterwards and an answer,
and the state afterwards is given also where the operation fails: adding to a strong group
adds first and takes back what went too far, while removing from an empty one leaves the count
wrapped around. Counts are words.
-/

namespace Custody

/-- The kinds of owner that a control block can be governed by. -/
inductive BlockOwner
  | own
  | discard
  | collect
  | strong
  | handle
  deriving DecidableEq, Inhabited

/-- The qualifier of a kind of owner. -/
def BlockOwner.qualifier : BlockOwner → Qualifier
  | own => .own
  | discard => .discard
  | collect => .collect
  | strong => .strong
  | handle => .handle

/-- Which kind of owner governs a value, and its counts. -/
inductive BlockState
  | own
  | discard
  | collect
  /-- Owners, and observers with one added for the owners together. -/
  | strong (strong weak : Word)
  /-- Owners. -/
  | handle (count : Word)
  deriving DecidableEq, Inhabited

/-- Counts above this are an overflow. -/
def maxRefCount : Word := 9223372036854775807

/-- Why a counting operation failed. -/
inductive CountFault
  /-- The count would pass its limit. -/
  | overflow
  /-- The count was zero already. -/
  | doubleFree
  /-- The block is not governed by the kind of owner that counts in this way. -/
  | wrongGroup (needed : BlockOwner)
  deriving DecidableEq, Inhabited

namespace BlockState

/-- The state of a block that has just been made for an owner. -/
def fresh : BlockOwner → BlockState
  | .own => own
  | .discard => discard
  | .collect => collect
  | .strong => strong 1 1
  | .handle => handle 1

/-- The kind of owner that governs the block. -/
def owner : BlockState → BlockOwner
  | own => .own
  | discard => .discard
  | collect => .collect
  | strong .. => .strong
  | handle .. => .handle

/-- The qualifier that governs the block. -/
def qualifier (s : BlockState) : Qualifier := s.owner.qualifier

/-- How many owners the value has: one if owners are not counted. -/
def owners : BlockState → Word
  | strong s _ => s
  | handle c => c
  | _ => 1

/-- How many observers there are, not counting the reference that the owners share. -/
def observers : BlockState → Word
  | strong s w => if 0 < s then Word.saturatingSub w 1 else w
  | _ => 0

/-- How a state is shown. -/
def shown : BlockState → String
  | own => "Own"
  | discard => "Discard"
  | collect => "Collect"
  | strong s w =>
    "Strong \x7b strong: " ++ toString s.toNat ++ ", weak: " ++ toString w.toNat ++ " \x7d"
  | handle c => "Handle \x7b count: Cell \x7b value: " ++ toString c.toNat ++ " \x7d \x7d"

/-! ## Counting -/

/-- A count after one more reference, or nothing if it was above the limit already. -/
def raised (count : Word) : Option Word := if count ≤ maxRefCount then some (count + 1) else none

/-- Whether the reference that is taken from a count is the last one. -/
def loweredAnswer (count : Word) : Except CountFault Bool :=
  if count = 1 then .ok true else if count = 0 then .error .doubleFree else .ok false

/-- One more owner of a strong group. -/
def incrementStrong : BlockState → BlockState × Except CountFault Unit
  | strong s w =>
    match raised s with
    | some s' => (strong s' w, .ok ())
    | none => (strong s w, .error .overflow)
  | other => (other, .error (.wrongGroup .strong))

/-- One owner of a strong group fewer; says whether it was the last. -/
def decrementStrong : BlockState → BlockState × Except CountFault Bool
  | strong s w => (strong (s - 1) w, loweredAnswer s)
  | other => (other, .error (.wrongGroup .strong))

/-- One more observer of a strong group. -/
def incrementWeak : BlockState → BlockState × Except CountFault Unit
  | strong s w =>
    match raised w with
    | some w' => (strong s w', .ok ())
    | none => (strong s w, .error .overflow)
  | other => (other, .error (.wrongGroup .strong))

/-- One observer of a strong group fewer; says whether it was the last. -/
def decrementWeak : BlockState → BlockState × Except CountFault Bool
  | strong s w => (strong s (w - 1), loweredAnswer w)
  | other => (other, .error (.wrongGroup .strong))

/-- One more owner of a strong group, unless the value is gone; says whether there is one. -/
def tryUpgrade : BlockState → BlockState × Except CountFault Bool
  | strong s w =>
    if s = 0 then (strong s w, .ok false)
    else
      match raised s with
      | some s' => (strong s' w, .ok true)
      | none => (strong s w, .error .overflow)
  | other => (other, .error (.wrongGroup .strong))

/-- One more owner on one thread. -/
def incrementLocal : BlockState → BlockState × Except CountFault Unit
  | handle c => if c < maxRefCount then (handle (c + 1), .ok ()) else (handle c, .error .overflow)
  | other => (other, .error (.wrongGroup .handle))

/-- One owner on one thread fewer; says whether it was the last. -/
def decrementLocal : BlockState → BlockState × Except CountFault Bool
  | handle c =>
    if c = 0 then (handle c, .error .doubleFree) else (handle (c - 1), .ok (c == 1))
  | other => (other, .error (.wrongGroup .handle))

/-- Whether an owner of some kind is the only reference to the value. An exclusive owner is so by
its kind. A strong owner is so if it is the only one and nobody observes, which only a strong
group can tell; a local owner if it is the only one that is counted. -/
def isAlone : BlockOwner → BlockState → Except CountFault Bool
  | .own, _ | .discard, _ | .collect, _ => .ok true
  | .strong, strong s w => .ok (w == 1 && s == 1)
  | .strong, _ => .error (.wrongGroup .strong)
  | .handle, state => .ok (state.owners == 1)

/-- The state with counts overwritten, where it has them: the owners and the observers of a
strong group, either of which may be kept, or the owners on one thread. -/
def withCounts (owners observers : Option Word) : BlockState → BlockState
  | strong s w => strong (owners.getD s) (observers.getD w)
  | handle c => handle (owners.getD c)
  | other => other

theorem owner_fresh (o : BlockOwner) : (fresh o).owner = o := by cases o <;> rfl

end BlockState

end Custody
