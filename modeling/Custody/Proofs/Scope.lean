import Custody.Proofs.Operations
import Mathlib.Data.List.Perm.Basic

/-!
# Programs with variables

A scope is a client that has its handles in variables besides. Variables are numbered, and a new one
comes first. A `Statement` is what a program does with a variable: it creates a handle or makes it
from another, moves it, looks through it, shares its value, or lets go of it. What comes of a
statement is its `Answer`; a statement that does not fit its variables is not carried out. A handle
that is let go of has left its variable by then: assignment puts the new handle in its place first.

`Scope.run` carries out statements one after another, also after one has panicked, and
`Scope.run_leads` says that it goes from situation to situation.
-/

namespace Custody

/-- A program that has handles in variables. -/
structure Scope extends Client where
  /-- What is in its variables, the newest one first. -/
  locals : List Handle := []

/-- What a program does with its variables. -/
inductive Statement
  /-- Create an owner of a value, whose handles are taken from those that the client holds; without
  storage that is an error or a fault. -/
  | create (owner : Owner) (home : AllocatorId) (v : Value) (fallible : Bool)
  | deepCopy (i : Nat)
  | clone (i : Nat)
  /-- Narrow a handle to a place, which has to lie inside the value if that is checked. -/
  | narrow (i : Nat) (kind : Kind) (place : Place) (checked : Bool)
  /-- Move a handle out of its variable, which is empty then, into a new one. -/
  | take (i : Nat)
  /-- Give the first variable the handle of the second: a shared handle is cloned, any other
  moved. -/
  | assign (i j : Nat)
  | reset (i : Nat)
  | drop (i : Nat)
  | forget (i : Nat)
  /-- Hold a handle that is not shared by itself, so that it can go into a value. -/
  | stow (i : Nat)
  /-- Give the value of an own handle to shared owners. -/
  | share (i : Nat) (owner : BlockOwner)
  /-- Make a shared handle the sole owner, or let go of it. -/
  | intoOwn (i : Nat)
  | get (i : Nat)
  | deref (i : Nat)
  /-- Set a value through a handle that admits it. -/
  | set (i : Nat) (d : Datum)
  /-- Count the owners of a value. -/
  | count (i : Nat)
  | makeHeap
  | makeArena (name : Option String) (config : ArenaConfig)
  | release (a : AllocatorId) (exit : Exit)
  /-- Catch the last panic. -/
  | caught

/-- What comes of a statement. -/
inductive Answer
  | done
  | refused (e : AllocError)
  | value (v : Option Value)
  | flag (holds : Bool)
  | count (n : Word)
  deriving DecidableEq, Inhabited

/-- Whether a statement gives a value to owners of another kind. -/
def Statement.transfers : Statement → Bool
  | share .. | intoOwn _ => true
  | _ => false

namespace Scope

open Session

/-- Do something with the machine. -/
def onMachine {α : Type} (act : Run Machine α) : Run Scope α :=
  Run.within (·.machine) (fun s m => { s with machine := m }) act

/-- Have a new variable. -/
def declare (h : Handle) : Run Scope Unit :=
  Run.modify fun s => { s with locals := h :: s.locals }

/-- Put a handle into a variable. -/
def put (i : Nat) (h : Handle) : Run Scope Unit :=
  Run.modify fun s => { s with locals := s.locals.set i h }

/-- Have a variable no more. -/
def remove (i : Nat) : Run Scope Unit :=
  Run.modify fun s => { s with locals := s.locals.eraseIdx i }

/-- Do something with the handle of a variable, if there is such a variable. -/
def withVariable (i : Nat) (act : Handle → Run Scope Answer) : Run Scope Answer := fun s =>
  match s.locals[i]? with
  | some h => act h s
  | none => .returned .done s

/-- Do something if a condition is met. -/
def provided (condition : Bool) (act : Run Scope Answer) : Run Scope Answer :=
  if condition then act else return .done

/-- Do something that uses up handles, if they are held. -/
def spending (handles : List Handle) (act : Run Scope Answer) : Run Scope Answer := fun s =>
  match Client.takeAll handles s.held with
  | some rest => act { s with held := rest }
  | none => .returned .done s

/-- Do something with the machine, and put the handle that comes of it into a new variable. -/
def declaring (act : Run Machine Handle) : Run Scope Answer := do
  declare (← onMachine act)
  return .done

/-- Let go of a handle. -/
def letGo (h : Handle) : Run Scope Answer := do
  onMachine (Machine.dropHandle h)
  return .done

/-- Create an owner. -/
def create (owner : Owner) (home : AllocatorId) (v : Value) (fallible : Bool) :
    Run Scope Answer := do
  if fallible then
    match ← onMachine (Machine.tryCreate owner home v) with
    | .ok h =>
      declare h
      return .done
    | .error e => return .refused e
  else declaring (Machine.create owner home v)

/-- Give a variable the handle of another. The old handle is let go of when the new one is in its
place. -/
def assign (i j : Nat) (a b : Handle) : Run Scope Answer :=
  if isClonable b then do
    put i (← onMachine (Machine.clone b))
    letGo a
  else do
    put j b.emptied
    put i b
    letGo a

/-- Make a shared handle the sole owner, or let go of it. A panic that the log entry about it
raises leaves the handle to nobody. -/
def intoOwn (h : Handle) : Run Scope Answer := do
  match h.link with
  | none =>
    declare (.empty (.block .own) h.kind)
    return .flag false
  | some l =>
    if ← onMachine (Machine.canOwnAlone h l) then
      declare (← onMachine (Machine.retagged h .own))
      return .flag true
    else
      Run.onUnwind (onMachine (Machine.logRefusal h l.cell))
        (Run.modify fun s => { s with forgotten := h :: s.forgotten })
      onMachine (Machine.dropHandle h)
      declare (.empty (.block .own) h.kind)
      return .flag false

/-- Release an arena. -/
def release (a : AllocatorId) (exit : Exit) : Run Scope Answer := do
  match exit with
  | .reset => let _ ← onMachine (Machine.releaseArena a)
  | .tearDown => let _ ← onMachine (Machine.tearDown a)
  | .drop => onMachine (Machine.dropArena a)
  return .done

/-- Whether an own handle can be given to shared owners of a kind. -/
def isSharable (h : Handle) (owner : BlockOwner) : Bool :=
  h.ownership = .block .own && (owner = .strong || owner = .handle)

/-- Carry out a statement. -/
def perform : Statement → Run Scope Answer
  | .create owner home v fallible => spending v.handles (create owner home v fallible)
  | .deepCopy i => withVariable i fun h => do
    let s ← Run.get
    provided (Client.isCopyable h s.toClient) (declaring (Machine.deepCopy h))
  | .clone i => withVariable i fun h => provided (isClonable h) (declaring (Machine.clone h))
  | .narrow i kind place checked => withVariable i fun h =>
    provided (isNarrowable h) <| declaring <|
      if checked then Machine.narrow h kind place else Machine.narrowTo h kind (some place)
  | .take i => withVariable i fun h => do
    put i h.emptied
    declare h
    return .done
  | .assign i j => withVariable i fun a => withVariable j fun b =>
    provided (i != j && isAlike a b) (assign i j a b)
  | .reset i => withVariable i fun h => do
    put i h.emptied
    letGo h
  | .drop i => withVariable i fun h => do
    remove i
    letGo h
  | .forget i => withVariable i fun h => do
    remove i
    Run.modify fun s => { s with forgotten := h :: s.forgotten }
    return .done
  | .stow i => withVariable i fun h => provided (!isClonable h) do
    remove i
    Run.modify fun s => { s with held := h :: s.held }
    return .done
  | .share i owner => withVariable i fun h => provided (isSharable h owner) do
    remove i
    declaring (Machine.retagged h owner)
  | .intoOwn i => withVariable i fun h => provided h.qualifier.isShared do
    remove i
    intoOwn h
  | .get i => withVariable i fun h => do return .value (h.value? (← Run.get).machine.memory)
  | .deref i => withVariable i fun h => do
    let place ← onMachine (Machine.target h)
    return .value ((← Run.get).machine.memory.read? place)
  | .set i d => withVariable i fun h => do
    return .flag (← onMachine (Machine.changeIfExclusive h (·.setTo d)))
  | .count i => withVariable i fun h => do
    return .count (h.owners (← Run.get).machine.memory)
  | .makeHeap => do
    let _ ← onMachine Machine.makeHeap
    return .done
  | .makeArena name config => do
    let _ ← onMachine (Machine.makeArena name config)
    return .done
  | .release a exit => release a exit
  | .caught => do
    onMachine (Run.modify fun m => { m with process := m.process.panicCaught })
    return .done

/-- Carry out a statement, and go on if it panics. -/
def attempt (st : Statement) : Run Scope (Except Payload Answer) :=
  Run.catchingWith id (perform st)

/-- Carry out statements in order; what comes of them is in the same order. -/
def run : List Statement → Run Scope (List (Except Payload Answer))
  | [] => return []
  | st :: rest => do
    let answer ← attempt st
    let answers ← run rest
    return answer :: answers

/-! ## Where a scope stands -/

/-- All handles outside of cells. -/
def outside (s : Scope) : List Handle := s.locals ++ (s.held ++ s.forgotten)

/-- Where a scope stands between two statements. -/
abbrev situation (s : Scope) : Situation := .rest s.machine s.outside

/-- The books of the machine balance with the handles of a scope, and the machine is sound. -/
abbrev Balanced (s : Scope) : Prop := s.situation.Balanced

/-- A scope as a client that holds the handles in its variables as well. -/
def asClient (s : Scope) : Client := { s.toClient with held := s.locals ++ s.held }

theorem situation_asClient (s : Scope) : s.asClient.situation = s.situation := by
  show Situation.rest s.machine ((s.locals ++ s.held) ++ s.forgotten) = _
  rw [List.append_assoc]
  rfl

/-! ## Where statements lead -/

open Machine Situation

/-- Where a statement led: to where the scope then stands, or anywhere if it ended the process. -/
def Leads {α : Type} (may : Licence) (u : Situation) : Outcome Scope α → Prop
  | .returned _ d | .unwinding _ d => Situation.Leads may u d.situation
  | .aborted _ d => ∃ t, Situation.Leads may u t ∧ t.machine = d.machine

variable {α β : Type} {may : Licence} {u : Situation} {s : Scope} {h : Handle} {i : Nat}

/-- What led there before leads there. -/
theorem Leads.after {t : Situation} {o : Outcome Scope α} (later : Leads may t o)
    (before : Situation.Leads may u t) : Leads may u o := by
  cases o with
  | returned a d => exact before.trans later
  | unwinding p d => exact before.trans later
  | aborted cause d =>
    obtain ⟨v, later, is⟩ := later
    exact ⟨v, before.trans later, is⟩

/-- One outcome after another. -/
theorem Leads.andThen {o : Outcome Scope α} {next : α → Scope → Outcome Scope β}
    (first : Leads may u o)
    (second : ∀ a d, Situation.Leads may u d.situation → Leads may u (next a d)) :
    Leads may u (o.andThen next) := by
  cases o with
  | returned a d => exact second a d first
  | unwinding p d => exact first
  | aborted cause d => exact first

/-- What is done after an operation of the machine. -/
theorem onMachine_leads {act : Run Machine α} {next : α → Run Scope β} {returns : α → List Handle}
    (balanced : u.Balanced) (first : (act s.machine).Leads may u returns s.outside)
    (second : ∀ a n, act s.machine = .returned a n → (rest n (returns a)).Balanced →
      Leads may (rest n (returns a)) (next a { s with machine := n })) :
    Leads may u ((onMachine act >>= next) s) := by
  rw [Run.bind_apply]
  unfold onMachine Run.within
  cases ended : act s.machine with
  | returned a n =>
    rw [ended] at first
    exact (second a n ended (balanced.leads first)).after first
  | unwinding p n =>
    rw [ended] at first
    exact first
  | aborted cause n =>
    rw [ended] at first
    exact first

/-- What the machine returned. -/
theorem returned_of_onMachine {act : Run Machine α} {a : α} {d : Scope}
    (done : onMachine act s = .returned a d) :
    ∃ n, act s.machine = .returned a n ∧ d = { s with machine := n } := by
  unfold onMachine Run.within at done
  dsimp only at done
  cases ended : act s.machine with
  | returned a' n =>
    rw [ended] at done
    cases done
    exact ⟨n, rfl, rfl⟩
  | unwinding p n =>
    rw [ended] at done
    cases done
  | aborted cause n =>
    rw [ended] at done
    cases done

/-- A handle that is put into a variable stands for the one that was there. -/
theorem set_perm {l : List Handle} (there : l[i]? = some h) (g : Handle) :
    (h :: l.set i g).Perm (g :: l) := by
  obtain ⟨bound, rfl⟩ := List.getElem?_eq_some_iff.1 there
  exact (((List.set_perm_cons_eraseIdx bound g).cons _).trans (List.Perm.swap _ _ _)).trans
    ((List.getElem_cons_eraseIdx_perm bound).cons _)

theorem eraseIdx_perm {l : List Handle} (there : l[i]? = some h) :
    (h :: l.eraseIdx i).Perm l := by
  obtain ⟨bound, rfl⟩ := List.getElem?_eq_some_iff.1 there
  exact List.getElem_cons_eraseIdx_perm bound

/-- The handle of a variable is on the books. -/
theorem seen_of_local (there : s.locals[i]? = some h) :
    s.machine.Seen (s.outside.map .drop) h :=
  seen_of_mem (List.mem_map_of_mem (List.mem_append_left _ (List.mem_of_getElem? there)))

theorem withVariable_leads {act : Handle → Run Scope Answer}
    (leads : ∀ h, s.locals[i]? = some h → Leads may s.situation (act h s)) :
    Leads may s.situation (withVariable i act s) := by
  unfold withVariable
  cases there : s.locals[i]? with
  | none => exact Relation.ReflTransGen.refl
  | some h => exact leads h there

theorem provided_leads {condition : Bool} {act : Run Scope Answer}
    (leads : condition = true → Leads may s.situation (act s)) :
    Leads may s.situation (provided condition act s) := by
  unfold provided
  cases condition with
  | false => exact Relation.ReflTransGen.refl
  | true => exact leads rfl

/-- Handles that are used up are held no more. -/
theorem spent_leads {handles left : List Handle}
    (taken : Client.takeAll handles s.held = some left) :
    Situation.Leads may s.situation
      (rest s.machine (handles ++ Scope.outside { s with held := left })) := by
  have first : s.outside.Perm (s.held ++ (s.locals ++ s.forgotten)) :=
    List.perm_append_comm_assoc _ _ _
  have last : (handles ++ (left ++ (s.locals ++ s.forgotten))).Perm
      (handles ++ (s.locals ++ (left ++ s.forgotten))) :=
    (List.perm_append_comm_assoc _ _ _).append_left _
  exact ((Client.takeAll_leads taken).head (.reordered first)).tail (.reordered last)

/-- What is done with handles that are used up. -/
theorem spending_leads {handles : List Handle} {act : Run Scope Answer} (balanced : s.Balanced)
    (spent : ∀ d : Scope, (rest d.machine (handles ++ d.outside)).Balanced →
      Leads may (rest d.machine (handles ++ d.outside)) (act d)) :
    Leads may s.situation (spending handles act s) := by
  unfold spending
  cases taken : Client.takeAll handles s.held with
  | none => exact Relation.ReflTransGen.refl
  | some left =>
    have leads : Situation.Leads may s.situation _ := spent_leads taken
    exact (spent { s with held := left } (balanced.leads leads)).after leads

/-- A handle that comes of an operation is in a new variable. -/
theorem declaring_leads {act : Run Machine Handle} (balanced : u.Balanced)
    (leads : (act s.machine).Leads may u (fun g => g :: s.outside) s.outside) :
    Leads may u (declaring act s) :=
  onMachine_leads balanced leads fun _ _ _ _ => Relation.ReflTransGen.refl

/-- A handle that is let go of has left its variable. -/
theorem letGo_leads (balanced : (rest s.machine (h :: s.outside)).Balanced) :
    Leads may (rest s.machine (h :: s.outside)) (letGo h s) :=
  onMachine_leads balanced (dropHandle_leads h balanced) fun _ _ _ _ => Relation.ReflTransGen.refl

theorem create_leads (owner : Owner) (home : AllocatorId) (v : Value) (fallible : Bool)
    (balanced : s.Balanced) :
    Leads may s.situation (perform (.create owner home v fallible) s) := by
  refine spending_leads balanced fun d balanced => ?_
  cases fallible with
  | false => exact declaring_leads balanced (Machine.create_leads owner home balanced)
  | true =>
    refine onMachine_leads balanced (tryCreate_leads owner home balanced) fun answer n _ _ => ?_
    cases answer with
    | ok g => exact Relation.ReflTransGen.refl
    | error e => exact Relation.ReflTransGen.refl

/-- A handle is moved out of its variable, which is empty then. -/
theorem emptied_leads (there : s.locals[i]? = some h) :
    Situation.Leads may s.situation
      (rest s.machine (h :: Scope.outside { s with locals := s.locals.set i h.emptied })) := by
  have gained : Situation.Step may s.situation (rest s.machine (h.emptied :: s.outside)) :=
    .emptyGained (Handle.isEmpty_emptied h)
  exact (Relation.ReflTransGen.single gained).tail
    (.reordered ((set_perm there _).symm.append_right _))

/-- A handle is moved out of its variable, which is no more. -/
theorem removed_leads (there : s.locals[i]? = some h) :
    Situation.Leads may s.situation
      (rest s.machine (h :: Scope.outside { s with locals := s.locals.eraseIdx i })) :=
  .single (.reordered ((eraseIdx_perm there).symm.append_right _))

theorem take_leads (i : Nat) : Leads may s.situation (perform (.take i) s) :=
  withVariable_leads fun _ there => emptied_leads there

theorem reset_leads (i : Nat) (balanced : s.Balanced) :
    Leads may s.situation (perform (.reset i) s) := by
  refine withVariable_leads fun h there => ?_
  have leads : Situation.Leads may s.situation _ := emptied_leads there
  have gone : Leads may _ (letGo h { s with locals := s.locals.set i h.emptied }) :=
    letGo_leads (balanced.leads leads)
  exact gone.after leads

theorem drop_leads (i : Nat) (balanced : s.Balanced) :
    Leads may s.situation (perform (.drop i) s) := by
  refine withVariable_leads fun h there => ?_
  have leads : Situation.Leads may s.situation _ := removed_leads there
  have gone : Leads may _ (letGo h { s with locals := s.locals.eraseIdx i }) :=
    letGo_leads (balanced.leads leads)
  exact gone.after leads

/-- The handle of a variable is moved behind all others. -/
theorem moved_perm (there : s.locals[i]? = some h) (first last : List Handle) :
    (s.locals ++ (first ++ last)).Perm (s.locals.eraseIdx i ++ (first ++ h :: last)) := by
  refine ((eraseIdx_perm there).symm.append_right _).trans ?_
  refine List.perm_middle.symm.trans (List.Perm.append_left _ ?_)
  exact List.perm_middle.symm

theorem forget_leads (i : Nat) : Leads may s.situation (perform (.forget i) s) :=
  withVariable_leads fun _ there =>
    Relation.ReflTransGen.single (.reordered (moved_perm there s.held s.forgotten))

theorem stow_leads (i : Nat) : Leads may s.situation (perform (.stow i) s) := by
  refine withVariable_leads fun h there => provided_leads fun _ => ?_
  exact Relation.ReflTransGen.single (.reordered (moved_perm there [] (s.held ++ s.forgotten)))

/-- A handle is moved from one variable to another, and the handle that was there is left over. -/
theorem displaced_perm {l : List Handle} {j : Nat} {a b : Handle} (first : l[i]? = some a)
    (second : l[j]? = some b) (apart : i ≠ j) (g : Handle) :
    (g :: l).Perm (a :: (l.set j g).set i b) := by
  have still : (l.set j g)[i]? = some a := by
    rw [List.getElem?_set_ne (Ne.symm apart)]
    exact first
  exact (set_perm second g).symm.trans (set_perm still b).symm

/-- The handle that was there is let go of next. -/
theorem moved_leads {j : Nat} {a b : Handle} (first : s.locals[i]? = some a)
    (second : s.locals[j]? = some b) (apart : i ≠ j) :
    Situation.Leads may s.situation (rest s.machine
      (a :: Scope.outside { s with locals := (s.locals.set j b.emptied).set i b })) := by
  have gained : Situation.Step may s.situation (rest s.machine (b.emptied :: s.outside)) :=
    .emptyGained (Handle.isEmpty_emptied b)
  exact (Relation.ReflTransGen.single gained).tail
    (.reordered ((displaced_perm first second apart _).append_right _))

/-- A handle is put into a variable, and the handle that was there is let go of next. -/
theorem replaced_leads {n : Machine} (there : s.locals[i]? = some h) (g : Handle) :
    Situation.Leads may (rest n (g :: s.outside))
      (rest n (h :: Scope.outside { s with locals := s.locals.set i g })) :=
  .single (.reordered ((set_perm there g).symm.append_right _))

/-- Two variables of one kind: the first one has the handle of the second then. -/
theorem assign_leads (i j : Nat) (balanced : s.Balanced) :
    Leads may s.situation (perform (.assign i j) s) := by
  refine withVariable_leads fun a first => withVariable_leads fun b second =>
    provided_leads fun met => ?_
  rw [Bool.and_eq_true, bne_iff_ne] at met
  unfold assign
  by_cases clonable : isClonable b = true
  · rw [if_pos clonable]
    refine onMachine_leads balanced (Machine.clone_leads clonable (seen_of_local second))
      fun g n _ balanced => ?_
    have leads : Situation.Leads may (rest n (g :: s.outside)) _ := replaced_leads first g
    have gone : Leads may _ (letGo a { s with machine := n, locals := s.locals.set i g }) :=
      letGo_leads (balanced.leads leads)
    exact gone.after leads
  · rw [if_neg clonable]
    have leads : Situation.Leads may s.situation _ := moved_leads first second met.1
    have gone : Leads may _ (letGo a { s with locals := (s.locals.set j b.emptied).set i b }) :=
      letGo_leads (balanced.leads leads)
    exact gone.after leads

theorem deepCopy_leads (i : Nat) (balanced : s.Balanced) :
    Leads may s.situation (perform (.deepCopy i) s) := by
  refine withVariable_leads fun h _ => ?_
  show Leads may _ (provided (Client.isCopyable h s.toClient) (declaring (Machine.deepCopy h)) s)
  exact provided_leads fun copyable => declaring_leads balanced
    (Machine.deepCopy_leads (Client.copyable_of_isCopyable copyable) balanced)

theorem narrow_leads (i : Nat) (kind : Kind) (place : Place) (checked : Bool)
    (balanced : s.Balanced) :
    Leads may s.situation (perform (.narrow i kind place checked) s) := by
  refine withVariable_leads fun h there => provided_leads fun narrowable => ?_
  have clonable := Client.isClonable_of_isNarrowable narrowable
  refine declaring_leads balanced ?_
  cases checked with
  | true => exact Machine.narrow_leads clonable kind place balanced (seen_of_local there)
  | false => exact narrowTo_leads clonable kind (some place) balanced (seen_of_local there)

theorem share_leads (i : Nat) (owner : BlockOwner) (allowed : may.transfer)
    (balanced : s.Balanced) : Leads may s.situation (perform (.share i owner) s) := by
  refine withVariable_leads fun h there => provided_leads fun sharable => ?_
  unfold isSharable at sharable
  rw [Bool.and_eq_true, Bool.or_eq_true, decide_eq_true_iff, decide_eq_true_iff,
    decide_eq_true_iff] at sharable
  have leads : Situation.Leads may s.situation _ := removed_leads there
  have gone : Leads may _ (declaring (retagged h owner) { s with locals := s.locals.eraseIdx i }) :=
    declaring_leads (balanced.leads leads)
      (retagged_leads allowed (.share sharable.1 sharable.2))
  exact gone.after leads

/-- A shared handle becomes the sole owner, or it is let go of, or lost in a panic. -/
private theorem madeOwn_leads (shared : h.qualifier.isShared = true) (allowed : may.transfer)
    (balanced : (rest s.machine (h :: s.outside)).Balanced) :
    Leads may (rest s.machine (h :: s.outside)) (intoOwn h s) := by
  have owns := Client.ownership_of_isShared shared
  unfold intoOwn
  cases link : h.link with
  | none =>
    have empty : h.isEmpty = true := by
      rw [Handle.isEmpty, link]
      rfl
    exact (Relation.ReflTransGen.single (.emptyLost empty)).tail (.emptyGained rfl)
  | some l =>
    obtain ⟨alone, asked, told⟩ :=
      canOwnAlone_books (l := l) balanced.books (seen_of_mem (List.mem_cons_self ..))
    show Leads may _ (((canOwnAlone h l s.machine).mapState
        fun m => { s with machine := m }).andThen
      fun alone d => (if alone then do
          declare (← onMachine (retagged h .own))
          return .flag true
        else do
          Run.onUnwind (onMachine (logRefusal h l.cell))
            (Run.modify fun s => { s with forgotten := h :: s.forgotten })
          onMachine (dropHandle h)
          declare (.empty (.block .own) h.kind)
          return .flag false : Run Scope Answer) d)
    rw [asked]
    cases alone with
    | true =>
      exact onMachine_leads balanced (retagged_leads allowed (.unshare owns (told rfl)))
        fun _ _ _ _ => Relation.ReflTransGen.refl
    | false =>
      have said : (logRefusal h l.cell s.machine).Leads may (rest s.machine (h :: s.outside)) _ _ :=
        aside_leads (logRefusal_undisturbed h l.cell)
      show Leads may _ ((Run.onUnwind (onMachine (logRefusal h l.cell))
        (Run.modify fun s => { s with forgotten := h :: s.forgotten }) s).andThen
          fun _ => (do
            onMachine (dropHandle h)
            declare (.empty (.block .own) h.kind)
            return .flag false : Run Scope Answer))
      unfold Run.onUnwind onMachine Run.within
      cases ended : logRefusal h l.cell s.machine with
      | returned u n =>
        rw [ended] at said
        refine Leads.after ?_ said
        have balanced := balanced.leads said
        have gone : (dropHandle h n).Leads may (rest n (h :: s.outside)) _ _ :=
          dropHandle_leads h balanced
        exact onMachine_leads balanced gone fun _ _ _ _ =>
          Relation.ReflTransGen.single (.emptyGained rfl)
      | unwinding p n =>
        rw [ended] at said
        have moved : (h :: s.outside).Perm (s.locals ++ (s.held ++ h :: s.forgotten)) :=
          List.perm_middle.symm.trans (List.perm_middle.symm.append_left _)
        exact said.tail (.reordered moved)
      | aborted cause n =>
        rw [ended] at said
        exact said

theorem intoOwn_leads (i : Nat) (allowed : may.transfer) (balanced : s.Balanced) :
    Leads may s.situation (perform (.intoOwn i) s) := by
  refine withVariable_leads fun h there => provided_leads fun shared => ?_
  have leads : Situation.Leads may s.situation _ := removed_leads there
  have made : Leads may _ (intoOwn h { s with locals := s.locals.eraseIdx i }) :=
    madeOwn_leads shared allowed (balanced.leads leads)
  exact made.after leads

theorem release_leads (a : AllocatorId) (exit : Exit) (balanced : s.Balanced) :
    Leads may s.situation (perform (.release a exit) s) := by
  cases exit with
  | reset =>
    exact onMachine_leads balanced (releaseArena_leads a balanced)
      fun _ _ _ _ => Relation.ReflTransGen.refl
  | tearDown =>
    exact onMachine_leads balanced (tearDown_leads a balanced)
      fun _ _ _ _ => Relation.ReflTransGen.refl
  | drop =>
    exact onMachine_leads balanced (dropArena_leads a balanced)
      fun _ _ _ _ => Relation.ReflTransGen.refl

/-- Dereferencing looks at memory, or fails. -/
theorem target_leads {m : Machine} {k : List Handle} (h : Handle) :
    (target h m).Leads may (rest m k) (fun _ => k) k := by
  unfold target
  cases h.target? with
  | some place => exact .refl
  | none => exact aside_leads (fail_undisturbed _)

/-- Every statement goes from situation to situation. -/
theorem perform_leads (st : Statement) (allowed : st.transfers = true → may.transfer)
    (balanced : s.Balanced) : Leads may s.situation (perform st s) := by
  cases st with
  | create owner home v fallible => exact create_leads owner home v fallible balanced
  | deepCopy i => exact deepCopy_leads i balanced
  | clone i =>
    exact withVariable_leads fun h there => provided_leads fun clonable =>
      declaring_leads balanced (Machine.clone_leads clonable (seen_of_local there))
  | narrow i kind place checked => exact narrow_leads i kind place checked balanced
  | take i => exact take_leads i
  | assign i j => exact assign_leads i j balanced
  | reset i => exact reset_leads i balanced
  | drop i => exact drop_leads i balanced
  | forget i => exact forget_leads i
  | stow i => exact stow_leads i
  | share i owner => exact share_leads i owner (allowed rfl) balanced
  | intoOwn i => exact intoOwn_leads i (allowed rfl) balanced
  | get i => exact withVariable_leads fun _ _ => Relation.ReflTransGen.refl
  | deref i =>
    exact withVariable_leads fun h _ => onMachine_leads balanced (target_leads h)
      fun _ _ _ _ => Relation.ReflTransGen.refl
  | set i d =>
    exact withVariable_leads fun h there =>
      onMachine_leads balanced (changeIfExclusive_leads d (seen_of_local there) balanced)
        fun _ _ _ _ => Relation.ReflTransGen.refl
  | count i => exact withVariable_leads fun _ _ => Relation.ReflTransGen.refl
  | makeHeap => exact Relation.ReflTransGen.single (.heapMade rfl)
  | makeArena name config => exact Relation.ReflTransGen.single (.arenaMade rfl)
  | release a exit => exact release_leads a exit balanced
  | caught => exact Relation.ReflTransGen.single (.aside ⟨rfl, rfl⟩)

theorem attempt_leads (st : Statement) (allowed : st.transfers = true → may.transfer)
    (balanced : s.Balanced) : Leads may s.situation (attempt st s) := by
  have led := perform_leads st allowed balanced
  unfold attempt Run.catchingWith
  cases ended : perform st s with
  | returned answer d =>
    rw [ended] at led
    exact led
  | unwinding p d =>
    rw [ended] at led
    exact led
  | aborted cause d =>
    rw [ended] at led
    exact led

/-- Statements lead on and on, whether or not they panic. -/
theorem run_leads (sts : List Statement) (allowed : ∀ st ∈ sts, st.transfers = true → may.transfer)
    (balanced : s.Balanced) : Leads may s.situation (run sts s) := by
  induction sts generalizing s with
  | nil => exact Relation.ReflTransGen.refl
  | cons st sts ih =>
    have first := attempt_leads st (allowed st (List.mem_cons_self ..)) balanced
    have allowed := fun st member => allowed st (List.mem_cons_of_mem _ member)
    show Leads may _ ((attempt st s).andThen fun answer d =>
      (run sts d).andThen fun answers e => .returned (answer :: answers) e)
    refine first.andThen fun answer d led => ?_
    have rest := (ih allowed (balanced.leads led)).after led
    exact rest.andThen fun answers e led => led

end Scope

end Custody
