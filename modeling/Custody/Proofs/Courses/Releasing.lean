import Custody.Proofs.Courses.Basic

/-!
# Where a release leads

A release takes the list of destructors, runs one after another, gives the chunks back and is
counted. Each of these is a step from situation to situation, or begins a destruction that goes on
in steps of its own; and none of them has to do with the handles that there are.
-/

namespace Custody

open Situation

namespace Machine

variable {may : Licence} {m n : Machine} {k : List Handle} {id : AllocatorId} {a : Arena}

/-- A destructor that was registered destroys its value step by step. -/
theorem runDestructor_leads {r : Registration} {left : List Registration}
    (running : Running id (r :: left) m) (balanced : (rest m k).Balanced) :
    (runDestructor id r m).Leads may (rest m k) (fun _ => k) k := by
  obtain ⟨v, n, began, -⟩ := beginDestructor_books running balanced.books
  have step : Situation.Step may (rest m k) ⟨n, k, v.plan, []⟩ := .destructorRun running began
  rw [runDestructor_eq, Run.bind_apply, began]
  exact (drain_leads v.plan [] n (balanced.step step)).after (.single step)

/-- Some of the destructors on the list of an arena are run, in order. -/
theorem runDestructors_leads {ran left : List Registration} (running : Running id (ran ++ left) m)
    (balanced : (rest m k).Balanced) :
    (Run.forAll (runDestructor id) ran m).Leads may (rest m k) (fun _ => k) k := by
  induction ran generalizing m with
  | nil => exact .refl
  | cons r others ih =>
    have running : Running id (r :: (others ++ left)) m := running
    refine Run.bind_leads balanced (runDestructor_leads running balanced)
      fun u n done balanced => ?_
    have went := runDestructor_running running
    rw [done] at went
    exact ih went balanced

/-- A release that is counted and logged. -/
private theorem concludeRelease_leads (there : m.memory.arena? id = some a) (r : ReleaseReport)
    (began : ∃ mid before, m.deeds = mid ++ .releaseBegan id :: before ∧
      (∀ e ∈ mid, e.isOfRelease) ∧ r.leaked = (ledgerOf id before).live)
    (balanced : (rest m k).Balanced) :
    (concludeRelease id a r m).Leads may (rest m k) (fun _ => k) k := by
  unfold concludeRelease
  by_cases empty : r.isEmpty = true
  · rw [empty]
    exact .refl
  · rw [if_pos (by simp [empty])]
    have step : Situation.Step may (rest m k) (rest (m.writtenOff id a r.leaked) k) :=
      .writtenOff there began
    have logged : (logRelease id a r m).Leads may (rest m k) (fun _ => k) k := by
      rw [logRelease_of_some there]
      exact (aside_leads (write_undisturbed _ _ _ _)).after (.single step)
    have reported : (account id a r m).Leads may (rest m k) (fun _ => k) k :=
      Run.bind_leads balanced logged fun _ n _ _ => aside_leads (reportLeak_undisturbed _ _ _)
    exact Run.bind_leads balanced reported fun _ _ _ _ => .refl

/-- When all destructors were run, the chunks go back and the release is counted. -/
theorem finishRelease_leads (there : m.memory.arena? id = some a)
    (taken : sinceTaken id m.deeds = []) {before : Arena}
    (began : ∃ mid older, m.deeds = mid ++ .releaseBegan id :: older ∧
      (∀ e ∈ mid, e.isOfRelease) ∧ before.live = (ledgerOf id older).live)
    (balanced : (rest m k).Balanced) :
    (finishRelease id before m).Leads may (rest m k) (fun _ => k) k := by
  obtain ⟨n, released, -⟩ := releaseChunks_sound balanced.sound there taken
  have step : Situation.Step may (rest m k) (rest n k) := .chunksReturned there taken released
  have proceeded := releaseChunks_proceeds id a m
  rw [finishRelease_of_some there, released]
  rw [released] at proceeded
  obtain ⟨mid, older, deeds, proceed, live⟩ := began
  obtain ⟨added, same, proceed'⟩ := proceeded
  have began : ∃ mid older, n.deeds = mid ++ .releaseBegan id :: older ∧
      (∀ e ∈ mid, e.isOfRelease) ∧ (reportOf before a).leaked = (ledgerOf id older).live := by
    have same : n.deeds = added ++ m.deeds := same
    refine ⟨added ++ mid, older, ?_, fun e member => ?_, live⟩
    · rw [same, deeds, List.append_assoc]
    · rcases List.mem_append.1 member with member | member
      · exact proceed' e member
      · exact proceed e member
  -- The arena that is written to the log is the one that the chunks were taken from.
  exact (concludeRelease_leads (arena?_of_releaseChunks there released) _ began
    (balanced.step step)).after (.single step)

/-- A release leads to the handles that there were, whether it returns or a destructor panics. -/
theorem releaseArena_leads (id : AllocatorId) (balanced : (rest m k).Balanced) :
    (releaseArena id m).Leads may (rest m k) (fun _ => k) k := by
  cases there : m.memory.arena? id with
  | none =>
    rw [releaseArena_of_none there]
    exact .refl
  | some a =>
    have step : Situation.Step may (rest m k) (rest (m.listTaken id a) k) := .listTaken there
    have taken := balanced.step step
    have running := listTaken_running balanced.sound there
    have proceeded := runDestructors_proceeds id a.collected (m.listTaken id a)
    obtain ⟨b, arena, -⟩ := runDestructors_arena there
    have leads : (Run.forAll (runDestructor id) a.collected (m.listTaken id a)).Leads may
        (rest (m.listTaken id a) k) (fun _ => k) k := by
      rw [← List.append_nil a.collected] at running
      exact runDestructors_leads running taken
    rw [releaseArena_of_some there]
    refine Outcome.Leads.after ?_ (.single step)
    cases looped : Run.forAll (runDestructor id) a.collected (m.listTaken id a) with
    | unwinding p n =>
      rw [looped] at leads
      exact leads
    | aborted cause n =>
      rw [looped] at leads
      exact leads
    | returned u n =>
      rw [looped] at leads arena proceeded
      have done : Running id [] n := runDestructors_done running looped
      obtain ⟨mid, deeds, proceed⟩ := proceeded
      refine (finishRelease_leads arena done.taken ⟨mid, m.deeds, deeds, proceed, ?_⟩
        (taken.leads leads)).after leads
      rw [Arena.live, balanced.sound.audited.arena there]

/-- An allocator that is gone leaves the handles as they are. -/
private theorem forgetAllocator_leads (id : AllocatorId) :
    (forgetAllocator id m).Leads may (rest m k) (fun _ => k) k :=
  .single (.forgotten rfl)

theorem dropArena_leads (id : AllocatorId) (balanced : (rest m k).Balanced) :
    (dropArena id m).Leads may (rest m k) (fun _ => k) k := by
  have released : ((do let _ ← releaseArena id : Run Machine Unit) m).Leads may (rest m k)
      (fun _ => k) k :=
    Run.bind_leads balanced (releaseArena_leads id balanced) fun _ _ _ _ => .refl
  exact Run.atEnd_leads balanced released (fun _ _ _ _ => forgetAllocator_leads id)
    fun _ _ _ _ => forgetAllocator_leads id

theorem tearDown_leads (id : AllocatorId) (balanced : (rest m k).Balanced) :
    (tearDown id m).Leads may (rest m k) (fun _ => k) k :=
  Run.atEnd_leads balanced (releaseArena_leads id balanced)
    (fun _ _ _ balanced => dropArena_leads id balanced)
    fun _ _ _ balanced => dropArena_leads id balanced

end Machine

end Custody
