import Custody.Proofs.Situations

/-!
# What operations lead to

`Outcome.Leads` relates how an operation ended to the situation in which it began: it led to
where its answer leaves the handles, or to where a panic leaves them, or it was on its way when
the process ended. It is carried through the combinators of `Run`, and every operation on handles
is shown to lead where it should. All that the steps of `Situation.Step` preserve is thus
preserved by operations, whether they return, panic or end the process.
-/

namespace Custody

open Situation

/-- Where an operation led: to one list of handles if it returned, to another if it panicked, and
anywhere if it ended the process. -/
def Outcome.Leads {α : Type} (may : Licence) (s : Situation) (returns : α → List Handle)
    (unwinds : List Handle) : Outcome Machine α → Prop
  | .returned a n => Situation.Leads may s (.rest n (returns a))
  | .unwinding _ n => Situation.Leads may s (.rest n unwinds)
  | .aborted _ n => ∃ t, Situation.Leads may s t ∧ t.machine = n

namespace Outcome.Leads

variable {α : Type} {may : Licence} {s t : Situation} {returns : α → List Handle}
  {unwinds : List Handle} {o : Outcome Machine α}

/-- What led there before leads there. -/
theorem after (later : o.Leads may t returns unwinds) (before : Situation.Leads may s t) :
    o.Leads may s returns unwinds := by
  cases o with
  | returned a n => exact before.trans later
  | unwinding p n => exact before.trans later
  | aborted cause n =>
    obtain ⟨u, later, is⟩ := later
    exact ⟨u, before.trans later, is⟩

/-- What the answer leads to is led to. -/
theorem onwards {farther : α → List Handle} (leads : o.Leads may s returns unwinds)
    (more : ∀ a n, Situation.Leads may (.rest n (returns a)) (.rest n (farther a))) :
    o.Leads may s farther unwinds := by
  cases o with
  | returned a n => exact leads.trans (more a n)
  | unwinding p n => exact leads
  | aborted cause n => exact leads

end Outcome.Leads

namespace Run

variable {α β : Type} {may : Licence} {s : Situation} {m : Machine}

/-- One operation after another. -/
theorem bind_leads {act : Run Machine α} {next : α → Run Machine β} {between : α → List Handle}
    {returns : β → List Handle} {unwinds : List Handle} (balanced : s.Balanced)
    (first : (act m).Leads may s between unwinds)
    (second : ∀ a n, act m = .returned a n → (rest n (between a)).Balanced →
      (next a n).Leads may (rest n (between a)) returns unwinds) :
    ((act >>= next) m).Leads may s returns unwinds := by
  rw [bind_apply]
  cases ended : act m with
  | returned a n =>
    rw [ended] at first
    exact (second a n ended (balanced.leads first)).after first
  | unwinding p n =>
    rw [ended] at first
    exact first
  | aborted cause n =>
    rw [ended] at first
    exact first

/-- What is done while a panic passes. -/
theorem passing_leads {last : Run Machine Unit} {payload : Payload} {returns : α → List Handle}
    {unwinds : List Handle} (leads : (last m).Leads may s (fun _ => unwinds) unwinds) :
    (passing payload last m : Outcome Machine α).Leads may s returns unwinds := by
  unfold passing
  cases ended : last m with
  | returned u n =>
    rw [ended] at leads
    exact leads
  | unwinding p n =>
    rw [ended] at leads
    exact ⟨_, leads, rfl⟩
  | aborted cause n =>
    rw [ended] at leads
    exact leads

theorem onUnwind_leads {act : Run Machine α} {last : Run Machine Unit} {between : List Handle}
    {returns : α → List Handle} {unwinds : List Handle} (balanced : s.Balanced)
    (first : (act m).Leads may s returns between)
    (after : ∀ n, (rest n between).Balanced →
      (last n).Leads may (rest n between) (fun _ => unwinds) unwinds) :
    (onUnwind act last m).Leads may s returns unwinds := by
  unfold onUnwind
  cases ended : act m with
  | returned a n =>
    rw [ended] at first
    exact first
  | unwinding p n =>
    rw [ended] at first
    exact passing_leads ((after n (balanced.leads first)).after first)
  | aborted cause n =>
    rw [ended] at first
    exact first

/-- What is done at the end leads on from wherever the operation led. -/
theorem atEnd_leads {act : Run Machine α} {last : Run Machine Unit} {before : α → List Handle}
    {between : List Handle} {returns : α → List Handle} {unwinds : List Handle}
    (balanced : s.Balanced) (first : (act m).Leads may s before between)
    (after : ∀ a n, act m = .returned a n → (rest n (before a)).Balanced →
      (last n).Leads may (rest n (before a)) (fun _ => returns a) unwinds)
    (passed : ∀ p n, act m = .unwinding p n → (rest n between).Balanced →
      (last n).Leads may (rest n between) (fun _ => unwinds) unwinds) :
    (atEnd act last m).Leads may s returns unwinds := by
  unfold atEnd
  cases ended : act m with
  | returned a n =>
    rw [ended] at first
    have leads := (after a n ended (balanced.leads first)).after first
    show ((last n).andThen fun _ o => .returned a o).Leads may s returns unwinds
    cases done : last n with
    | returned u o =>
      rw [done] at leads
      exact leads
    | unwinding p o =>
      rw [done] at leads
      exact leads
    | aborted cause o =>
      rw [done] at leads
      exact leads
  | unwinding p n =>
    rw [ended] at first
    exact passing_leads ((passed p n ended (balanced.leads first)).after first)
  | aborted cause n =>
    rw [ended] at first
    exact first

end Run

namespace Machine

open Session

variable {α : Type} {may : Licence} {m n : Machine} {k : List Handle} {h : Handle}

/-- What concerns neither memory nor storage leads nowhere else. -/
theorem aside_leads {act : Run Machine α} (kept : act.Keeps Undisturbed) :
    (act m).Leads may (rest m k) (fun _ => k) k := by
  have same := kept m
  cases ended : act m with
  | returned a n =>
    rw [ended] at same
    exact .single (.aside same)
  | unwinding p n =>
    rw [ended] at same
    exact .single (.aside same)
  | aborted cause n =>
    rw [ended] at same
    exact ⟨rest n k, .single (.aside same), rfl⟩

/-! ## Settling -/

/-- Settling goes from step to step. -/
theorem drain_leads (tasks : List Task) (panics : List Passage) (m : Machine)
    (balanced : Situation.Balanced ⟨m, k, tasks, panics⟩) :
    (drain tasks panics m).Leads may ⟨m, k, tasks, panics⟩ (fun _ => k) k := by
  induction tasks, panics, m using drain.induct with
  | case1 m t rest panics more n advanced ih =>
    have step : Situation.Step may ⟨m, k, t :: rest, panics⟩ ⟨n, k, more ++ rest, panics⟩ :=
      .settling (.task advanced)
    rw [drain_cons_returned advanced]
    exact (ih (balanced.step step)).after (.single step)
  | case2 m t rest panics payload n panicked ih =>
    have step : Situation.Step may ⟨m, k, t :: rest, panics⟩ _ := .settling (.panic panicked)
    rw [drain_cons_unwinding panicked]
    exact (ih (balanced.step step)).after (.single step)
  | case3 m t rest panics cause n aborted =>
    exact absurd aborted (advance_ne_aborted t balanced.balanced.books cause n)
  | case4 m payload t rest others ih =>
    have step : Situation.Step may ⟨m, k, [], ⟨payload, t :: rest⟩ :: others⟩ _ :=
      .settling .cleanup
    rw [drain_nil_cleanup]
    exact (ih (balanced.step step)).after (.single step)
  | case5 m =>
    rw [drain_nil_nil]
    exact .refl
  | case6 m payload =>
    rw [drain_nil_singleton]
    exact .single .left
  | case7 m payload head tail =>
    rw [drain_nil_cons_cons]
    exact ⟨_, .refl, rfl⟩

/-- To let go of a handle is to have it no more, however that ends. -/
theorem dropHandle_leads (h : Handle) (balanced : (rest m (h :: k)).Balanced) :
    (dropHandle h m).Leads may (rest m (h :: k)) (fun _ => k) k := by
  have step : Situation.Step may (rest m (h :: k)) _ := .letGo h
  exact (drain_leads [.drop h] [] m (balanced.step step)).after (.single step)

/-- To destroy a value is to have its handles no more. -/
theorem dropValue_leads (v : Value) (balanced : (rest m (v.handles ++ k)).Balanced) :
    (dropValue v m).Leads may (rest m (v.handles ++ k)) (fun _ => k) k := by
  have step : Situation.Step may (rest m (v.handles ++ k)) _ := .destroyed v
  exact (drain_leads v.plan [] m (balanced.step step)).after (.single step)

/-! ## Counting one more handle -/

/-- A way of counting one more handle leads to one more handle, or to a count that failed. -/
theorem Counting.leads {act : Run Machine α} (handles : α → List Handle)
    (way : Counting m k (do return handles (← act))) :
    (act m).Leads may (rest m k) (fun a => handles a ++ k) k := by
  have failed : (act m).returns = false → Situation.Step may (rest m k) (rest (act m).state k) := by
    rw [← Run.state_bind_pure act handles m, ← Run.returns_bind_pure act handles m]
    exact .uncounted way
  cases ended : act m with
  | returned a n =>
    refine .single (.counted way ?_)
    rw [Run.bind_apply, ended]
    rfl
  | unwinding p n =>
    rw [ended] at failed
    exact .single (failed rfl)
  | aborted cause n =>
    rw [ended] at failed
    exact ⟨_, .single (failed rfl), rfl⟩

theorem clone_leads (clonable : isClonable h = true) (seen : m.Seen (k.map .drop) h) :
    (clone h m).Leads may (rest m k) (fun g => g :: k) k :=
  Counting.leads (fun g => [g]) (.again clonable seen)

theorem downgrade_leads (owns : h.ownership = .block .strong) (seen : m.Seen (k.map .drop) h) :
    (downgrade h m).Leads may (rest m k) (fun g => g :: k) k :=
  Counting.leads (fun g => [g]) (.observer owns seen)

theorem upgrade_leads (observes : h.ownership = .weak) (seen : m.Seen (k.map .drop) h) :
    (upgrade h m).Leads may (rest m k) (fun g? => g?.toList ++ k) k :=
  Counting.leads Option.toList (.owner observes seen)

/-- A narrowed handle is one more handle to the same value. -/
theorem narrowTo_leads (clonable : isClonable h = true) (kind : Kind) (target : Option Place)
    (balanced : (rest m k).Balanced) (seen : m.Seen (k.map .drop) h) :
    (narrowTo h kind target m).Leads may (rest m k) (fun g => g :: k) k := by
  unfold narrowTo
  cases link : h.link with
  | none => exact .single (.emptyGained rfl)
  | some l =>
    cases target with
    | none => exact .single (.emptyGained rfl)
    | some place =>
      have narrowed : (do acquire h; return h.narrowed kind place : Run Machine Handle) =
          (do return (← clone h).narrowed kind place) := by
        unfold clone
        rw [bind_assoc]
        rfl
      dsimp only
      rw [narrowed]
      refine Run.bind_leads balanced (clone_leads clonable seen) fun g n done _ => ?_
      cases eq_of_clone done
      refine .single (.redirected clonable rfl ?_)
      rw [link]
      unfold Handle.narrowed
      rw [link]
      rfl

theorem narrow_leads (clonable : isClonable h = true) (kind : Kind) (place : Place)
    (balanced : (rest m k).Balanced) (seen : m.Seen (k.map .drop) h) :
    (narrow h kind place m).Leads may (rest m k) (fun g => g :: k) k := by
  show ((if surrounds h kind place m.memory then narrowTo h kind (some place)
    else pure (.empty h.ownership kind) : Run Machine Handle) m).Leads may _ _ _
  by_cases inside : surrounds h kind place m.memory = true
  · rw [if_pos inside]
    exact narrowTo_leads clonable kind (some place) balanced seen
  · rw [if_neg inside]
    exact .single (.emptyGained rfl)

/-! ## Copies -/

/-- The handles that were copied so far are let go of if the next one cannot be copied. -/
theorem cloneAll_leads (handles : List Handle) (copyable : ∀ h ∈ handles, m.Copyable h)
    (balanced : (rest m k).Balanced) :
    (cloneAll handles m).Leads may (rest m k) (fun copies => copies ++ k) k := by
  induction handles generalizing m k with
  | nil => exact .refl
  | cons h others ih =>
    have first := copyable h (List.mem_cons_self ..)
    refine Run.bind_leads balanced (clone_leads first.1 (first.seen _)) fun g n done balanced => ?_
    have same := clone_sameRefs h m
    rw [done] at same
    have rest := ih (fun k member => (copyable k (List.mem_cons_of_mem _ member)).sameRefs same)
      balanced
    refine Run.bind_leads balanced (Run.onUnwind_leads balanced rest fun _ balanced =>
      dropHandle_leads g balanced) fun copies _ _ _ => .single (.reordered ?_)
    exact List.perm_middle

/-- A copy of a value has handles of its own. -/
theorem copyValue_leads {v : Value} (copyable : ∀ h ∈ v.handles, m.Copyable h)
    (balanced : (rest m k).Balanced) :
    (copyValue v m).Leads may (rest m k) (fun copy => copy.handles ++ k) k := by
  cases v with
  | node label next back =>
    have first := copyable next (List.mem_cons_self ..)
    have second := copyable back (List.mem_cons_of_mem _ (List.mem_cons_self ..))
    refine Run.bind_leads balanced (clone_leads first.1 (first.seen _)) fun g n done balanced => ?_
    have same := clone_sameRefs next m
    rw [done] at same
    have second := second.sameRefs same
    refine Run.bind_leads balanced (Run.onUnwind_leads balanced
      (clone_leads second.1 (second.seen _)) fun _ balanced => dropHandle_leads g balanced) ?_
    exact fun copy _ _ _ => .single (.reordered (List.Perm.swap _ _ _))
  | bundle label held =>
    exact Run.bind_leads balanced (cloneAll_leads held copyable balanced) fun _ _ _ _ => .refl
  | _ => exact .refl

end Machine

end Custody
