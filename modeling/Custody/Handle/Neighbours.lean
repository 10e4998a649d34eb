import Custody.Handle.Access

/-!
# Handles inside values, and handles in several threads

A node owns one neighbour and observes another. Assigning a neighbour shares the given handle
first. Then the old one is taken out and let go of, and the new one takes its place when that is
done, even if letting go panics. While it lasts the node has no such neighbour, so a node that
is destroyed by it does not destroy the new neighbour, and has it afterwards.
-/

namespace Custody

namespace Value

/-- The handle that a node owns its neighbour by. -/
def next? : Value → Option Handle
  | node _ next _ => some next
  | _ => none

/-- The handle that a node observes its neighbour by. -/
def back? : Value → Option Handle
  | node _ _ back => some back
  | _ => none

/-- A node with another owned neighbour. -/
def withNext (h : Handle) : Value → Value
  | node label _ back => node label h back
  | other => other

/-- A node with another observed neighbour. -/
def withBack (h : Handle) : Value → Value
  | node label next _ => node label next h
  | other => other

end Value

namespace Machine

/-- Take a handle out of the value at a place, which leaves an empty one, and let go of it. -/
def resetHandle (p : Place) (held? : Value → Option Handle) (put : Handle → Value → Value) :
    Run Machine Unit := do
  match ← ofMemory fun m => (m.read? p).bind held? with
  | none => pure ()
  | some old =>
    onMemory (·.change p (put old.emptied))
    dropHandle old

/-- Let go of a handle in the value at a place, and put another one there in the end. -/
def replaceHandle (p : Place) (held? : Value → Option Handle) (put : Handle → Value → Value)
    (h : Handle) : Run Machine Unit :=
  Run.atEnd (resetHandle p held? put) (onMemory (·.change p (put h)))

/-- Make a node own the value of a strong handle as its neighbour. -/
def linkNext (p : Place) (h : Handle) : Run Machine Unit := do
  let shared ← clone h
  replaceHandle p Value.next? Value.withNext shared

/-- Make a node observe the value of a strong handle as its neighbour. -/
def linkBack (p : Place) (h : Handle) : Run Machine Unit := do
  let observer ← downgrade h
  Run.atEnd
    (do
      let shared ← clone observer
      replaceHandle p Value.back? Value.withBack shared)
    (dropHandle observer)

/-- Make a node let go of the neighbour it owns. -/
def unlinkNext (p : Place) : Run Machine Unit :=
  resetHandle p Value.next? Value.withNext

/-- Run an operation on another thread, which starts without panics, and wait for its end. -/
def onThread {α : Type} (name : Option String) (act : Run Machine α) :
    Run Machine (Except Payload α) := fun m =>
  let own := m.process.thread
  (catching act { m with process := { m.process with thread := ⟨name, 0⟩ } }).mapState fun n =>
    { n with process := { n.process with thread := own } }

/-- Clone a strong handle, observe the clone, drop it, and upgrade the observer. What is held
when a panic cuts the round short is dropped. -/
def shareRound (h : Handle) : Run Machine Unit := do
  let copy ← clone h
  let observer ← Run.onUnwind (downgrade copy) (dropHandle copy)
  Run.atEnd
    (do
      dropHandle copy
      match ← upgrade observer with
      | some owner => dropHandle owner
      | none => pure ())
    (dropHandle observer)

/-- Go through a number of rounds with a handle, and drop it in the end. -/
def shareRounds (rounds : Nat) (h : Handle) : Run Machine Unit :=
  Run.atEnd (Run.forAll (fun _ => shareRound h) (List.range rounds)) (dropHandle h)

/-- Give each of a number of threads a clone to go through rounds with, and wait for all of
them; says whether none of them panicked. -/
def shareWithThreads (rounds : Nat) (h : Handle) : Nat → Run Machine Bool
  | 0 => return true
  | threads + 1 => do
    let copy ← clone h
    let ended ← onThread none (shareRounds rounds copy)
    let others ← shareWithThreads rounds h threads
    return ended.isOk && others

/-- What reaches the one who waited for threads of which some panicked. -/
def threadPanicked : Payload := .text "a scoped thread panicked"

/-- Share a handle among a number of threads. If any of them panics, so does this, once all of
them have come to their end. -/
def shareAmong (threads rounds : Nat) (h : Handle) : Run Machine Unit := do
  if !(← shareWithThreads rounds h threads) then panic threadPanicked

end Machine

end Custody
