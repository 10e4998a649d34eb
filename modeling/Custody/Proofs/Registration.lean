import Custody.Proofs.Conduct
import Mathlib.Data.List.Induction

/-!
# How hooks are numbered

The registry of a process is its list of hooks with the number that the next one will get. It
changes in three ways: a hook is registered, the hook of a number is removed, or all are. The
history of a registry is the list of its changes, and `Registry.replay` gives what is left of
one history. Every number is issued once (`Registry.not_issued_next`), and the hooks that are
left are exactly those that were registered and not removed since
(`Registry.mem_replay_hooks`). Whatever hooks and sinks do to a process, its registry has such a
history (`Process.Changed.registry`).
-/

namespace Custody

/-- The hooks of a process, and the number of the next one. -/
structure Registry where
  /-- The hooks, in the order of their registration. -/
  hooks : List Hook
  /-- The identifier of the next hook. -/
  next : HookId

/-- One change of a registry. -/
inductive HookChange
  /-- A hook was registered. -/
  | registered (react : Diagnostic → List Action)
  /-- The hook of a number was to be removed. -/
  | unregistered (id : HookId)
  /-- All hooks were removed. -/
  | cleared

namespace Registry

/-- The registry after one change. -/
def change (r : Registry) : HookChange → Registry
  | .registered react => ⟨r.hooks ++ [⟨r.next, react⟩], r.next + 1⟩
  | .unregistered id => { r with hooks := r.hooks.filter (·.id != id) }
  | .cleared => { r with hooks := [] }

/-- The registry after a history. -/
def replay (r : Registry) (changes : List HookChange) : Registry := changes.foldl change r

@[simp] theorem replay_nil (r : Registry) : r.replay [] = r := rfl

theorem replay_append (r : Registry) (first second : List HookChange) :
    r.replay (first ++ second) = (r.replay first).replay second := List.foldl_append

@[simp] theorem replay_snoc (r : Registry) (changes : List HookChange) (c : HookChange) :
    r.replay (changes ++ [c]) = (r.replay changes).change c := replay_append r changes [c]

/-- A number was given to a hook in the course of a history. -/
def Issued (r : Registry) (changes : List HookChange) (id : HookId) : Prop :=
  ∃ before react after, changes = before ++ .registered react :: after ∧
    id = (r.replay before).next

/-- A hook was registered in the course of a history, and not removed since. -/
def Standing (r : Registry) (changes : List HookChange) (hook : Hook) : Prop :=
  ∃ before react after, changes = before ++ .registered react :: after ∧
    hook = ⟨(r.replay before).next, react⟩ ∧
    (∀ c ∈ after, c ≠ .unregistered hook.id) ∧ ∀ c ∈ after, c ≠ .cleared

/-- The number of the next hook only grows. -/
theorem next_le_replay (r : Registry) (changes : List HookChange) :
    r.next ≤ (r.replay changes).next := by
  induction changes using List.reverseRecOn with
  | nil => exact Nat.le_refl _
  | append_singleton changes c ih =>
    rw [replay_snoc]
    cases c with
    | registered react => exact Nat.le_succ_of_le ih
    | unregistered id => exact ih
    | cleared => exact ih

/-- Every number that was issued is below the one that comes next. -/
theorem Issued.lt_next {r : Registry} {changes : List HookChange} {id : HookId}
    (h : r.Issued changes id) : id < (r.replay changes).next := by
  obtain ⟨before, react, after, rfl, rfl⟩ := h
  have grown := next_le_replay (r.replay (before ++ [.registered react])) after
  rw [← replay_append, List.append_assoc, List.singleton_append] at grown
  refine Nat.lt_of_lt_of_le ?_ grown
  rw [replay_snoc]
  exact Nat.lt_succ_self _

/-- The number that comes next was never issued before. -/
theorem not_issued_next (r : Registry) (changes : List HookChange) :
    ¬ r.Issued changes (r.replay changes).next :=
  fun issued => Nat.lt_irrefl _ issued.lt_next

/-! ## Which hooks are left -/

variable {r : Registry} {changes : List HookChange} {hook : Hook}

theorem Standing.issued (h : r.Standing changes hook) : r.Issued changes hook.id := by
  obtain ⟨before, react, after, split, rfl, _⟩ := h
  exact ⟨before, react, after, split, rfl⟩

/-- A hook stands after one more change if it stood before and is not removed, or if the change
registers it. -/
theorem standing_snoc (c : HookChange) :
    r.Standing (changes ++ [c]) hook ↔
      (r.Standing changes hook ∧ c ≠ .unregistered hook.id ∧ c ≠ .cleared) ∨
        ∃ react, c = .registered react ∧ hook = ⟨(r.replay changes).next, react⟩ := by
  constructor
  · rintro ⟨before, react, after, split, same, kept, uncleared⟩
    rcases List.eq_nil_or_concat after with rfl | ⟨after, last, rfl⟩
    · obtain ⟨rfl, registered⟩ := List.append_inj' split rfl
      exact .inr ⟨react, List.singleton_inj.mp registered, same⟩
    · rw [List.concat_eq_append] at split kept uncleared
      rw [← List.cons_append, ← List.append_assoc] at split
      obtain ⟨rfl, ended⟩ := List.append_inj' split rfl
      obtain rfl := List.singleton_inj.mp ended
      have inside : ∀ c' ∈ after, c' ∈ after ++ [c] := fun c' mem => List.mem_append_left _ mem
      have outside : c ∈ after ++ [c] := List.mem_append_right _ (List.mem_singleton_self c)
      refine .inl ⟨⟨before, react, after, rfl, same, ?_, ?_⟩, kept c outside, uncleared c outside⟩
      · exact fun c' mem => kept c' (inside c' mem)
      · exact fun c' mem => uncleared c' (inside c' mem)
  · rintro (⟨⟨before, react, after, rfl, same, kept, uncleared⟩, stays, uncleared'⟩ |
      ⟨react, rfl, rfl⟩)
    · refine ⟨before, react, after ++ [c], List.append_assoc .., same, ?_, ?_⟩
      · exact List.forall_mem_append.mpr ⟨kept, List.forall_mem_singleton.mpr stays⟩
      · exact List.forall_mem_append.mpr ⟨uncleared, List.forall_mem_singleton.mpr uncleared'⟩
    · exact ⟨changes, react, [], rfl, rfl, nofun, nofun⟩

/-- The hooks that are left are exactly those that were registered and not removed since. -/
theorem mem_replay_hooks (empty : r.hooks = []) :
    hook ∈ (r.replay changes).hooks ↔ r.Standing changes hook := by
  induction changes using List.reverseRecOn with
  | nil =>
    rw [replay_nil, empty]
    refine ⟨nofun, ?_⟩
    rintro ⟨before, react, after, split, _⟩
    exact absurd split.symm (List.append_ne_nil_of_right_ne_nil _ (List.cons_ne_nil _ _))
  | append_singleton changes c ih =>
    rw [replay_snoc, standing_snoc, ← ih]
    cases c with
    | registered react =>
      show hook ∈ (r.replay changes).hooks ++ [_] ↔ _
      rw [List.mem_append, List.mem_singleton]
      refine or_congr ⟨fun mem => ⟨mem, nofun, nofun⟩, fun h => h.1⟩ ⟨fun same => ?_, ?_⟩
      · exact ⟨react, rfl, same⟩
      · rintro ⟨_, ⟨⟩, same⟩
        exact same
    | unregistered id =>
      show hook ∈ (r.replay changes).hooks.filter (·.id != id) ↔ _
      rw [List.mem_filter, bne_iff_ne]
      constructor
      · exact fun ⟨mem, other⟩ =>
          .inl ⟨mem, fun same => other (HookChange.unregistered.inj same).symm, nofun⟩
      · rintro (⟨mem, other, _⟩ | ⟨_, ⟨⟩, _⟩)
        exact ⟨mem, fun same => other (congrArg HookChange.unregistered same.symm)⟩
    | cleared =>
      refine ⟨nofun, ?_⟩
      rintro (⟨_, _, cleared⟩ | ⟨_, ⟨⟩, _⟩)
      exact absurd rfl cleared

end Registry

namespace Process

/-- The hooks of a process, and the number of the next one. -/
def registry (p : Process) : Registry := ⟨p.hooks, p.nextHook⟩

/-- One change of a process is at most one change of its registry. -/
theorem Change.registry {r : Regime} {p q : Process} (h : Change r p q) :
    ∃ changes, q.registry = p.registry.replay changes := by
  cases h with
  | hooked name react => exact ⟨[.registered react], rfl⟩
  | unhooked id => exact ⟨[.unregistered id], rfl⟩
  | cleared => exact ⟨[.cleared], rfl⟩
  | _ => exact ⟨[], rfl⟩

/-- Whatever hooks and sinks do to a process, its registry has a history. -/
theorem Changed.registry {r : Regime} {p q : Process} (h : Changed r p q) :
    ∃ changes, q.registry = p.registry.replay changes := by
  induction h with
  | refl => exact ⟨[], rfl⟩
  | tail _ step ih =>
    obtain ⟨earlier, before⟩ := ih
    obtain ⟨later, after⟩ := step.registry
    refine ⟨earlier ++ later, ?_⟩
    rw [after, before, Registry.replay_append]

/-- To register a hook issues the next number. -/
theorem registry_register (name : String) (react : Diagnostic → List Action) (p : Process) :
    ∃ q, register name react p = .returned p.registry.next q ∧
      q.registry = p.registry.change (.registered react) :=
  ⟨_, rfl, rfl⟩

/-- To remove the hook of a number finds out whether there is one. -/
theorem registry_unregister (id : HookId) (p : Process) :
    ∃ removed q, unregister id p = .returned removed q ∧
      (removed = true ↔ ∃ hook ∈ p.registry.hooks, hook.id = id) ∧
      q.registry = p.registry.change (.unregistered id) := by
  refine ⟨_, _, rfl, ?_, rfl⟩
  rw [List.any_eq_true]
  exact exists_congr fun hook => and_congr_right fun _ => beq_iff_eq

end Process

end Custody
