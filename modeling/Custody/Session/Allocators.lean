import Custody.Release.Teardown
import Custody.Session.Basic

/-!
# Declared allocators

A session declares front ends of the heap and arenas, and looks at them or releases them by
steps that name them. What is gone is not found any more. Arenas are numbered within the
session: it sets a number aside when it begins and counts from there. At the end of a session
the arenas that are left are dropped in the order of their declaration.
-/

namespace Custody.Session

/-- What an allocator is declared as. -/
inductive Declaration
  | heap
  | arena (name : String) (config : ArenaConfig)
  deriving DecidableEq, Inhabited

/-- What a step does with a declared allocator. -/
inductive AllocatorAction
  | stats
  | name
  | inspect
  | reset
  | tearDown
  | drop
  deriving DecidableEq, Inhabited

/-- The answer of a step about an allocator. -/
inductive AllocatorReply
  | ledger (ledger : Ledger)
  | name (name : String)
  | arena (arena : Arena)
  | released (report : ReleaseReport)
  | dropped
  deriving DecidableEq, Inhabited

variable {δ : Type}

/-- Make a declared allocator. -/
def declare (key : String) (d : Declaration) : Run (Session δ) Unit := do
  let id ← onMachine <|
    match d with
    | .heap => Machine.makeHeap
    | .arena name config => Machine.makeArena (some name) config
  Run.modify fun s => { s with allocators := s.allocators ++ [⟨key, id⟩] }

/-- Set an arena number aside, so that the arenas of the session are counted from it. -/
def reserveArenaNumber : Run (Session δ) Unit := Run.modify fun s =>
  let memory := s.machine.memory
  { s with
    machine := { s.machine with memory := { memory with nextArena := memory.nextArena + 1 } }
    arenasBefore := s.arenasBefore + 1 }

/-- Make the allocators that a session declares, in order. -/
def declareAll (declared : List (String × Declaration)) : Run (Session δ) Unit := do
  reserveArenaNumber
  Run.forAll (fun d => declare d.1 d.2) declared

/-- The declared allocator of a name, if it is not gone. -/
def allocator? (key : String) (s : Session δ) : Option (AllocatorId × Allocator) := do
  let d ← s.allocators.find? fun d => d.key == key
  let a ← s.machine.memory.allocator? d.allocator
  return (d.allocator, a)

/-- An arena as a session sees it, which counts arenas from its own start. -/
def arenaSince (s : Session δ) (a : Arena) : Arena := { a with id := a.id - s.arenasBefore }

/-- Do something with an arena; other allocators are refused. -/
def withArena (a : Allocator) (act : Run Machine AllocatorReply) :
    Run (Session δ) (Result AllocatorReply) := do
  match a.arena? with
  | none => return refuse .notArena
  | some _ => return .ok (← onMachine act)

/-- Do what a step asks of an allocator. -/
def actOn (id : AllocatorId) (a : Allocator) :
    AllocatorAction → Run (Session δ) (Result AllocatorReply)
  | .stats => return .ok (.ledger a.ledger)
  | .name => return .ok (.name a.name)
  | .inspect => do
    match a.arena? with
    | none => return refuse .notArena
    | some arena => return .ok (.arena (arenaSince (← Run.get) arena))
  | .reset => withArena a do return .released (← Machine.releaseArena id)
  | .tearDown => withArena a do return .released (← Machine.tearDown id)
  | .drop => withArena a do
    Machine.dropArena id
    return .dropped

/-- Drop the arenas that are left, in order. -/
def dropArenas : List Declared → Run (Session δ) (List (StepReport String))
  | [] => return []
  | d :: rest => do
    match ← ofMemory (·.arena? d.allocator) with
    | none => dropArenas rest
    | some _ =>
      let report ← observe do
        onMachine (Machine.dropArena d.allocator)
        return .ok d.key
      return report :: (← dropArenas rest)

/-- End a session by dropping the arenas that are left. -/
def dropAllArenas : Run (Session δ) (List (StepReport String)) := do
  dropArenas (← Run.get).allocators

end Custody.Session
