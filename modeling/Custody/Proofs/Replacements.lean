import Custody.Context

/-!
# Replacements that end

A guard borrows its context, so of the guards that are open on a context only the innermost can be
used, closed or forgotten: they are a stack (`Guarded`). Contexts are values, and a child that was
derived from one goes ways of its own: all contexts there are lie on a desk, and a call names the
one it is made on.

A call reaches no other context on the desk (`Desk.getElem?_run`), so everything is said about the
calls on one. Calls that close or forget every guard they open leave the stack as it was
(`Nested.guards_run`), whatever they do to the slots; so a guard that is closed around them is the
one that was opened there. As long as no guard is forgotten, the context is the original one with
the replacements that are still open, one over the other (`Guarded.run_eq_layered`): closing a
guard takes exactly its own away.
-/

namespace Custody

/-- A context and the guards that are open on it, the innermost first. -/
structure Guarded where
  /-- What the slots hold. -/
  context : Context
  /-- The open replacements. -/
  guards : List ContextGuard := []
  deriving DecidableEq, Inhabited

/-- A call on a context, or through the innermost guard that is open on it. -/
inductive ContextCall
  | replace (slot : ContextSlot) (allocator : AllocatorId)
  /-- Close the innermost guard. -/
  | close
  /-- Forget the innermost guard. -/
  | forget
  /-- Derive a child with another allocator in a slot. -/
  | derive (slot : ContextSlot) (allocator : AllocatorId)
  deriving DecidableEq, Inhabited

namespace Guarded

/-- What a call makes of a context and its guards. -/
def after (g : Guarded) : ContextCall → Guarded
  | .replace s a => ⟨(g.context.replace s a).1, (g.context.replace s a).2 :: g.guards⟩
  | .close =>
    match g.guards with
    | [] => g
    | guard :: rest => ⟨g.context.close guard, rest⟩
  | .forget => { g with guards := g.guards.tail }
  | .derive _ _ => g

/-- The child that a call derives. -/
def offspring (g : Guarded) : ContextCall → List Guarded
  | .derive s a => [⟨g.context.set s a, []⟩]
  | _ => []

/-- What calls make of a context and its guards. -/
def run (g : Guarded) (calls : List ContextCall) : Guarded := calls.foldl after g

@[simp] theorem run_nil (g : Guarded) : g.run [] = g := rfl

@[simp] theorem run_cons (g : Guarded) (call : ContextCall) (calls : List ContextCall) :
    g.run (call :: calls) = (g.after call).run calls := rfl

@[simp] theorem run_append (g : Guarded) (calls rest : List ContextCall) :
    g.run (calls ++ rest) = (g.run calls).run rest := by
  simp [run]

theorem after_close {g : Guarded} {guard : ContextGuard} {rest : List ContextGuard}
    (h : g.guards = guard :: rest) : g.after .close = ⟨g.context.close guard, rest⟩ := by
  simp [after, h]

theorem after_forget (g : Guarded) : g.after .forget = { g with guards := g.guards.tail } := rfl

/-- Closing a guard right after it was opened leaves everything as it was. -/
@[simp] theorem close_replace (g : Guarded) (s : ContextSlot) (a : AllocatorId) :
    (g.after (.replace s a)).after .close = g := by
  simp [after, Context.close_replace]

end Guarded

/-- Calls that close or forget every guard they open, the innermost first, and no other. -/
inductive Nested : List ContextCall → Prop
  | nil : Nested []
  | derive {s : ContextSlot} {a : AllocatorId} {rest : List ContextCall} :
      Nested rest → Nested (.derive s a :: rest)
  | closed {s : ContextSlot} {a : AllocatorId} {body rest : List ContextCall} :
      Nested body → Nested rest → Nested (.replace s a :: (body ++ .close :: rest))
  | forgotten {s : ContextSlot} {a : AllocatorId} {body rest : List ContextCall} :
      Nested body → Nested rest → Nested (.replace s a :: (body ++ .forget :: rest))

namespace Nested

variable {calls : List ContextCall}

theorem guards_run (nested : Nested calls) (g : Guarded) : (g.run calls).guards = g.guards := by
  induction nested generalizing g with
  | nil => rfl
  | derive _ ih => exact ih g
  | @closed s a body rest _ _ inner outer =>
    have opened := inner (g.after (.replace s a))
    simp only [Guarded.run_cons, Guarded.run_append, outer, Guarded.after_close opened]
  | @forgotten s a body rest _ _ inner outer =>
    have opened := inner (g.after (.replace s a))
    simp only [Guarded.run_cons, Guarded.run_append, outer, Guarded.after_forget, opened]
    rfl

/-- The guard that is closed after nested calls is the one that was opened before them: it puts
back what its slot held then. -/
theorem close_run (nested : Nested calls) (g : Guarded) (s : ContextSlot) (a : AllocatorId) :
    ((g.after (.replace s a)).run calls).after .close =
      ⟨((g.after (.replace s a)).run calls).context.set s (g.context.get s), g.guards⟩ := by
  have opened : ((g.after (.replace s a)).run calls).guards = ⟨s, g.context.get s⟩ :: g.guards :=
    nested.guards_run _
  rw [Guarded.after_close opened]
  rfl

end Nested

/-- A slot and what was put in it. -/
abbrev Replacement := ContextSlot × AllocatorId

namespace ContextCall

/-- The replacements that are open after a call, if these were open before it. -/
def reopen (layers : List Replacement) : ContextCall → List Replacement
  | replace s a => (s, a) :: layers
  | close | forget => layers.tail
  | derive _ _ => layers

/-- The replacements that are open after calls on a context without guards, the innermost first. -/
def opened (calls : List ContextCall) : List Replacement := calls.foldl reopen []

end ContextCall

namespace Guarded

/-- A context with replacements one over the other, the innermost first. -/
def layered (c : Context) : List Replacement → Guarded
  | [] => ⟨c, []⟩
  | (s, a) :: outer => (layered c outer).after (.replace s a)

/-- A slot holds what its innermost replacement put in it. -/
theorem get_layered (c : Context) (s : ContextSlot) (layers : List Replacement) :
    (layered c layers).context.get s = (layers.lookup s).getD (c.get s) := by
  induction layers with
  | nil => rfl
  | cons innermost outer ih =>
    obtain ⟨t, a⟩ := innermost
    simp only [layered, after, Context.replace, List.lookup_cons]
    by_cases same : s = t
    · simp [same]
    · have other : (s == t) = false := by simpa using same
      simp [Context.get_set_of_ne _ _ (Ne.symm same), ih, other]

theorem length_guards_layered (c : Context) (layers : List Replacement) :
    (layered c layers).guards.length = layers.length := by
  induction layers with
  | nil => rfl
  | cons innermost outer ih => simp [layered, after, ih]

/-- Every call but forgetting a guard adds a layer, takes the innermost one away, or does nothing
to them. -/
theorem after_layered (c : Context) (layers : List Replacement) {call : ContextCall}
    (h : call ≠ .forget) :
    (layered c layers).after call = layered c (call.reopen layers) := by
  cases call with
  | replace s a => rfl
  | close =>
    cases layers with
    | nil => rfl
    | cons innermost outer => exact close_replace _ _ _
  | forget => exact absurd rfl h
  | derive s a => rfl

theorem run_layered (c : Context) {calls : List ContextCall} (h : .forget ∉ calls)
    (layers : List Replacement) :
    (layered c layers).run calls = layered c (calls.foldl ContextCall.reopen layers) := by
  induction calls generalizing layers with
  | nil => rfl
  | cons call calls ih =>
    rw [List.mem_cons, not_or] at h
    obtain ⟨kept, rest⟩ := h
    rw [run_cons, after_layered c layers (Ne.symm kept), ih rest, List.foldl_cons]

theorem run_eq_layered (c : Context) {calls : List ContextCall} (h : .forget ∉ calls) :
    (Guarded.mk c []).run calls = layered c (ContextCall.opened calls) :=
  run_layered c h []

/-- Without open guards a context is the original one again. -/
theorem layered_of_guards_eq_nil {c : Context} {layers : List Replacement}
    (h : (layered c layers).guards = []) : layered c layers = ⟨c, []⟩ := by
  have none : layers = [] := by
    apply List.eq_nil_of_length_eq_zero
    rw [← length_guards_layered c layers, h, List.length_nil]
  rw [none]
  rfl

end Guarded

/-- All contexts there are. -/
abbrev Desk := List Guarded

/-- A call on the context at a place on the desk. -/
abbrev DeskCall := Nat × ContextCall

namespace Desk

/-- Make a call. A child is put behind all other contexts. -/
def perform (desk : Desk) (call : DeskCall) : Desk :=
  match desk[call.1]? with
  | none => desk
  | some g => desk.set call.1 (g.after call.2) ++ g.offspring call.2

/-- Make calls one after another. -/
def run (desk : Desk) (calls : List DeskCall) : Desk := calls.foldl perform desk

theorem run_concat (desk : Desk) (calls : List DeskCall) (call : DeskCall) :
    desk.run (calls ++ [call]) = (desk.run calls).perform call := by
  simp [run]

/-- The calls on one context. -/
def callsOn (i : Nat) (calls : List DeskCall) : List ContextCall :=
  (calls.filter fun call => call.1 == i).map Prod.snd

variable {desk : Desk} {i : Nat} {g : Guarded}

@[simp] theorem callsOn_cons_self (call : ContextCall) (calls : List DeskCall) :
    callsOn i ((i, call) :: calls) = call :: callsOn i calls := by
  simp [callsOn]

theorem callsOn_cons_of_ne {j : Nat} (h : j ≠ i) (call : ContextCall) (calls : List DeskCall) :
    callsOn i ((j, call) :: calls) = callsOn i calls := by
  simp [callsOn, h]

theorem perform_of_some (h : desk[i]? = some g) (call : ContextCall) :
    desk.perform (i, call) = desk.set i (g.after call) ++ g.offspring call := by
  simp [perform, h]

/-- The context that a call is made on becomes what the call makes of it. -/
theorem getElem?_perform_self (h : desk[i]? = some g) (call : ContextCall) :
    (desk.perform (i, call))[i]? = some (g.after call) := by
  have present := (List.getElem?_eq_some_iff.1 h).1
  rw [perform_of_some h, List.getElem?_append_left (by simpa using present),
    List.getElem?_set_self present]

/-- A call leaves all other contexts as they are. -/
theorem getElem?_perform_of_ne (h : desk[i]? = some g) {j : Nat} (other : j ≠ i)
    (call : ContextCall) : (desk.perform (j, call))[i]? = some g := by
  have present := (List.getElem?_eq_some_iff.1 h).1
  unfold perform
  cases desk[j]? with
  | none => exact h
  | some named =>
    simp only
    rw [List.getElem?_append_left (by simpa using present), List.getElem?_set_ne other, h]

/-- Calls on other contexts are as good as not made. -/
theorem getElem?_run (h : desk[i]? = some g) (calls : List DeskCall) :
    (desk.run calls)[i]? = some (g.run (callsOn i calls)) := by
  induction calls generalizing desk g with
  | nil => exact h
  | cons call calls ih =>
    obtain ⟨j, call⟩ := call
    by_cases named : j = i
    · subst named
      rw [callsOn_cons_self]
      exact ih (getElem?_perform_self h call)
    · rw [callsOn_cons_of_ne named]
      exact ih (getElem?_perform_of_ne h named call)

/-- Replacements on a desk are scoped, whatever is called on which context. -/
structure Scoped (desk : Desk) : Prop where
  /-- After calls that close or forget the guards they open, a guard puts back what its slot held
  when it was opened, and leaves the other slots as they are. -/
  restores : ∀ i g, desk[i]? = some g → ∀ s a body, Nested (callsOn i body) →
    ∃ inside closed, (desk.run ((i, .replace s a) :: body))[i]? = some inside ∧
      (desk.run ((i, .replace s a) :: body ++ [(i, .close)]))[i]? = some closed ∧
      closed.context.get s = g.context.get s ∧
      (∀ t, t ≠ s → closed.context.get t = inside.context.get t) ∧ closed.guards = g.guards
  /-- While no guard is forgotten, a slot holds what its innermost open guard put in it, or what it
  held at first; and when all guards are closed the context is the one it was at first. -/
  innermost : ∀ i c, desk[i]? = some ⟨c, []⟩ → ∀ calls, .forget ∉ callsOn i calls →
    ∃ g, (desk.run calls)[i]? = some g ∧
      g.guards.length = (ContextCall.opened (callsOn i calls)).length ∧
      (∀ s, g.context.get s =
        ((ContextCall.opened (callsOn i calls)).lookup s).getD (c.get s)) ∧
      (g.guards = [] → g.context = c)
  /-- A child is its parent but for the slot that is named. -/
  derives : ∀ i g, desk[i]? = some g → ∀ s a, ∃ child,
    desk.perform (i, .derive s a) = desk ++ [⟨child, []⟩] ∧ child.get s = a ∧
      ∀ t, t ≠ s → child.get t = g.context.get t
  /-- No context, be it a parent or a child, depends on the calls on another. -/
  apart : ∀ i, i < desk.length → ∀ calls,
    (desk.run calls)[i]? = (desk.run (calls.filter fun call => call.1 == i))[i]?

/-- However contexts are replaced, and children derived from them, in whatever order: a guard that
is closed restores its own slot and no other, the innermost open guard of a slot decides on it, and
parents and children do not affect each other. -/
theorem replacements_scoped (desk : Desk) : desk.Scoped where
  restores := by
    intro i g h s a body nested
    have inside := getElem?_run h ((i, .replace s a) :: body)
    have closed := getElem?_perform_self inside .close
    rw [callsOn_cons_self, Guarded.run_cons] at inside closed
    rw [nested.close_run, ← run_concat] at closed
    refine ⟨_, _, inside, closed, Context.get_set_self _ _ _, ?_, rfl⟩
    intro t other
    exact Context.get_set_of_ne _ _ (Ne.symm other)
  innermost := by
    intro i c h calls remembered
    have run := getElem?_run h calls
    rw [Guarded.run_eq_layered c remembered] at run
    refine ⟨_, run, Guarded.length_guards_layered _ _, ?_, ?_⟩
    · intro s
      exact Guarded.get_layered c s _
    · intro closed
      rw [Guarded.layered_of_guards_eq_nil closed]
  derives := by
    intro i g h s a
    refine ⟨g.context.set s a, ?_, Context.get_set_self _ _ _, ?_⟩
    · obtain ⟨present, same⟩ := List.getElem?_eq_some_iff.1 h
      have unchanged : desk.set i g = desk := by
        rw [← same, List.set_getElem_self]
      rw [perform_of_some h]
      simp only [Guarded.after, Guarded.offspring, unchanged]
    · intro t other
      exact Context.get_set_of_ne _ _ (Ne.symm other)
  apart := by
    intro i present calls
    have h := List.getElem?_eq_getElem present
    rw [getElem?_run h, getElem?_run h]
    simp [callsOn]

/-- Two replacements of the standard slot and one of the parallel slot, which is forgotten, while a
child goes its own way: closing the guards brings the standard slot back step by step, and leaves
in the parallel slot what is there. -/
theorem replacements_scoped_forgotten :
    let desk : Desk := [⟨.global, []⟩]
    let body : List DeskCall := [(0, .replace .standard 2), (0, .derive .sequential 3),
      (1, .replace .parallel 4), (0, .replace .parallel 5), (0, .forget), (0, .close)]
    let calls : List DeskCall := (0, .replace .standard 1) :: body
    Nested (callsOn 0 body) ∧ ContextCall.forget ∉ callsOn 1 body ∧
      (desk.run calls).map Guarded.context = [⟨1, 0, 5⟩, ⟨2, 3, 4⟩] ∧
      ∃ closed, (desk.run (calls ++ [(0, .close)]))[0]? = some closed ∧
        closed.context.standard = 0 ∧ closed.context.parallel = 5 := by
  intro desk body calls
  have nested : Nested (callsOn 0 body) :=
    .closed (.derive (.forgotten .nil .nil)) .nil
  obtain ⟨inside, closed, opened, ended, own, others, -⟩ :=
    (replacements_scoped desk).restores 0 ⟨.global, []⟩ rfl .standard 1 body nested
  have held : (desk.run calls)[0]? = some ⟨⟨1, 0, 5⟩, [⟨.standard, 0⟩]⟩ := by decide
  have parallel : inside.context.parallel = 5 := by
    rw [← Option.some.inj (held.symm.trans opened)]
  have kept : closed.context.parallel = inside.context.parallel := others .parallel (by decide)
  refine ⟨nested, ?_, ?_, closed, ended, own, kept.trans parallel⟩
  · decide
  · decide

end Desk

end Custody
