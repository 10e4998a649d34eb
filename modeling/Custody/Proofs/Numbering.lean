import Custody.Proofs.Delivery
import Custody.Proofs.Turns

/-!
# How diagnostics are numbered when reports nest

A report draws the next number, and its diagnostic is the last one from then on. Then the sink and
the hooks run, which may report in turn, so that by the time that a hook is told of a diagnostic
others may have been made. `Process.Tallied before p` says that a process agrees with the turns
that were taken so far: the diagnostics that were made are those of the reports that were begun,
numbered from one on; as many faults are counted; and the last diagnostic is the newest one.

A process agrees with the turns taken whenever a program has its turn, though not in between: when
a number was drawn, the diagnostic is not yet the last one. `Process.Tallies` is therefore about
operations together with their turns, and a report goes in one step from the turn in which it is
begun to the process that has its diagnostic on record (`Process.Tallied.report`). It makes no
difference whether an operation returns, so nothing is asked of how programs end.
-/

namespace Custody

/-- The diagnostic that was made, if one was. -/
def Event.made? : Event → Option Diagnostic
  | diagnosed d => some d
  | _ => none

namespace Turn

variable {before turns : List Turn} {t : Turn} {make : Nat → Diagnostic}

theorem sequence_of_makes? (makes : t.makes? = some make) (n : Nat) : (make n).sequence = n := by
  unfold makes? at makes
  split at makes <;> cases makes <;> rfl

theorem calls_append (before turns : List Turn) :
    calls (before ++ turns) = calls before + calls turns := by
  unfold calls
  rw [List.filterMap_append, List.length_append]

theorem calls_cons_of_makes? (makes : t.makes? = some make) (turns : List Turn) :
    calls (t :: turns) = calls turns + 1 := by
  unfold calls
  rw [List.filterMap_cons_some makes, List.length_cons]

theorem length_numbered (others : Nat) (turns : List Turn) :
    (numbered others turns).length = calls turns :=
  List.length_mapIdx ..

/-- The diagnostic of a report has the number of reports up to it. -/
theorem numbered_snoc (makes : t.makes? = some make) (others : Nat) (before : List Turn) :
    numbered others (before ++ [t]) =
      numbered others before ++ [make (others + calls before + 1)] := by
  unfold numbered calls
  rw [List.filterMap_append, List.filterMap_cons_some makes, List.filterMap_nil,
    List.mapIdx_concat]

theorem numbered_cons (makes : t.makes? = some make) (others : Nat) (turns : List Turn) :
    numbered others (t :: turns) = make (others + 1) :: numbered (others + 1) turns := by
  unfold numbered
  rw [List.filterMap_cons_some makes, List.mapIdx_cons]
  simp only [Nat.add_zero, Nat.add_assoc, Nat.add_comm 1]

theorem numbered_snoc_of_none (makes : t.makes? = none) (others : Nat) (before : List Turn) :
    numbered others (before ++ [t]) = numbered others before := by
  unfold numbered
  rw [List.filterMap_append, List.filterMap_cons_none makes, List.filterMap_nil, List.append_nil]

theorem calls_snoc_of_none (makes : t.makes? = none) (before : List Turn) :
    calls (before ++ [t]) = calls before := by
  rw [← length_numbered 0, numbered_snoc_of_none makes, length_numbered]

/-- The diagnostic in the place `n`, counted from zero, has the number after `n` and the others. -/
theorem sequence_of_getElem? {others n : Nat} {d : Diagnostic}
    (there : (numbered others turns)[n]? = some d) : d.sequence = others + n + 1 := by
  unfold numbered at there
  rw [List.getElem?_mapIdx] at there
  obtain ⟨make, among, rfl⟩ := Option.map_eq_some_iff.1 there
  obtain ⟨t, -, makes⟩ := List.mem_filterMap.1 (List.mem_of_getElem? among)
  exact sequence_of_makes? makes _

/-- The newest diagnostic has the number of all reports. -/
theorem newest_of_pos (others : Nat) (some : 0 < calls turns) :
    ∃ d, (numbered others turns).getLast? = .some d ∧ d.sequence = others + calls turns := by
  rw [← length_numbered others] at some ⊢
  have last := List.getLast?_eq_getElem? (l := numbered others turns)
  have there : (numbered others turns).length - 1 < (numbered others turns).length := by omega
  rw [List.getElem?_eq_getElem there] at last
  refine ⟨_, last, ?_⟩
  rw [sequence_of_getElem? (List.getElem?_eq_getElem there)]
  omega

/-- A diagnostic is that of a report that was begun in one of the turns. -/
def Delivers (others : Nat) (turns : List Turn) (d : Diagnostic) : Prop :=
  ∃ earlier call between make, turns = earlier ++ call :: between ∧ call.makes? = some make ∧
    d = make (others + calls earlier + 1)

theorem Delivers.append {others : Nat} {d : Diagnostic} (h : Delivers others before d)
    (turns : List Turn) : Delivers others (before ++ turns) d := by
  obtain ⟨earlier, call, between, make, rfl, makes, same⟩ := h
  exact ⟨earlier, call, between ++ turns, make, by simp, makes, same⟩

theorem delivers_snoc (makes : t.makes? = some make) (others : Nat) (before : List Turn) :
    Delivers others (before ++ [t]) (make (others + calls before + 1)) :=
  ⟨before, t, [], make, rfl, makes, rfl⟩

/-- What a hook is told of was delivered. -/
def Heard (others : Nat) (author : Author) (before : List Turn) : Prop :=
  ∀ d, author = .hook d → Delivers others before d

end Turn

namespace Process

open Turn

/-- The diagnostics that were made, oldest first. -/
def diagnostics (p : Process) : List Diagnostic := (p.trace.filterMap Event.made?).reverse

/-- What was noted by programs, oldest first. -/
def marks (p : Process) : List Event := (p.trace.filter Event.isVisible).reverse

/-- The process before anything was reported or happened. -/
def unreported (p : Process) : Process := { p with faults := 0, last := none, trace := [] }

/-- A process agrees with the turns that were taken since it was as in `base`. -/
structure Tallied (base : Process) (before : List Turn) (p : Process) : Prop where
  /-- The diagnostics that were made since are those of the reports that were begun. -/
  diagnostics : p.diagnostics = base.diagnostics ++ numbered base.faults before
  /-- So many faults are counted. -/
  faults : p.faults = base.faults + calls before
  /-- The last diagnostic is the newest one. -/
  last : p.last = (numbered base.faults before).getLast?.or base.last
  /-- What programs noted was noted in these turns. -/
  marks : p.marks = base.marks ++ before.filterMap Turn.notes?

theorem tallied_refl (p : Process) : Tallied p [] p where
  diagnostics := (List.append_nil _).symm
  faults := rfl
  last := rfl
  marks := (List.append_nil _).symm

section Tally

variable {base : Process} {before : List Turn} {p q : Process} {t : Turn}

theorem Tallied.of_same (tallied : Tallied base before p) (trace : q.trace = p.trace)
    (faults : q.faults = p.faults) (last : q.last = p.last) : Tallied base before q where
  diagnostics := by
    rw [← tallied.diagnostics]
    exact congrArg (fun l : List Event => (l.filterMap Event.made?).reverse) trace
  faults := faults.trans tallied.faults
  last := last.trans tallied.last
  marks := by
    rw [← tallied.marks]
    exact congrArg (fun l : List Event => (l.filter Event.isVisible).reverse) trace

/-- A turn in which nothing is reported and nothing noted. -/
theorem Tallied.turn (tallied : Tallied base before p) (makes : t.makes? = none)
    (notes : t.notes? = none) : Tallied base (before ++ [t]) p where
  diagnostics := by
    rw [numbered_snoc_of_none makes]
    exact tallied.diagnostics
  faults := by
    rw [calls_snoc_of_none makes]
    exact tallied.faults
  last := by
    rw [numbered_snoc_of_none makes]
    exact tallied.last
  marks := by
    rw [List.filterMap_append, List.filterMap_cons_none notes, List.filterMap_nil, List.append_nil]
    exact tallied.marks

/-- A turn in which something is noted. -/
theorem Tallied.note {e : Event} (tallied : Tallied base before p) (makes : t.makes? = none)
    (notes : t.notes? = some e) (visible : e.isVisible = true) :
    Tallied base (before ++ [t]) (p.after e) where
  diagnostics := by
    have none : e.made? = none := by
      cases e with
      | diagnosed d => cases visible
      | _ => rfl
    rw [numbered_snoc_of_none makes, ← tallied.diagnostics]
    exact congrArg List.reverse (List.filterMap_cons_none none)
  faults := by
    rw [calls_snoc_of_none makes]
    exact tallied.faults
  last := by
    rw [numbered_snoc_of_none makes]
    exact tallied.last
  marks := by
    rw [List.filterMap_append, List.filterMap_cons_some notes, ← List.append_assoc,
      ← tallied.marks]
    show ((e :: p.trace).filter Event.isVisible).reverse = _
    rw [List.filter_cons_of_pos visible, List.reverse_cons]
    rfl

/-- A turn in which a fault is reported, once the diagnostic is on record. -/
theorem Tallied.report {make : Nat → Diagnostic} (tallied : Tallied base before p)
    (makes : t.makes? = some make) (notes : t.notes? = none) :
    Tallied base (before ++ [t]) (p.recorded (make (base.faults + calls before + 1))) where
  diagnostics := by
    have made : (Event.diagnosed (make (base.faults + calls before + 1))).made? = some _ := rfl
    rw [numbered_snoc makes, ← List.append_assoc, ← tallied.diagnostics]
    show ((Event.diagnosed _ :: p.trace).filterMap Event.made?).reverse = _
    rw [List.filterMap_cons_some made, List.reverse_cons]
    rfl
  faults := by
    rw [calls_append, calls_cons_of_makes? makes, ← Nat.add_assoc, ← tallied.faults]
    rfl
  last := by
    rw [numbered_snoc makes, List.getLast?_concat]
    rfl
  marks := by
    rw [List.filterMap_append, List.filterMap_cons_none notes, List.filterMap_nil, List.append_nil,
      ← tallied.marks]
    rfl

end Tally

/-! ## Operations with their turns -/

/-- In each of the turns, the process agrees with the turns before, and a hook is told of what was
delivered. -/
def Witnessed (base : Process) : List Turn → List Turn → Prop
  | _, [] => True
  | before, t :: rest =>
    (Tallied base before t.found ∧ Heard base.faults t.author before) ∧
      Witnessed base (before ++ [t]) rest

theorem Witnessed.append {base : Process} {before first second : List Turn}
    (h : Witnessed base before first)
    (h' : Witnessed base (before ++ first) second) : Witnessed base before (first ++ second) := by
  induction first generalizing before with
  | nil => simpa using h'
  | cons t rest ih =>
    refine ⟨h.1, ih h.2 ?_⟩
    rw [List.append_assoc]
    exact h'

theorem Witnessed.at {base : Process} {before earlier later : List Turn} {t : Turn}
    (h : Witnessed base before (earlier ++ t :: later)) :
    Tallied base (before ++ earlier) t.found ∧ Heard base.faults t.author (before ++ earlier) := by
  induction earlier generalizing before with
  | nil =>
    rw [List.append_nil]
    exact h.1
  | cons u rest ih =>
    have := ih h.2
    rw [List.append_assoc] at this
    exact this

section Tallying

variable {base : Process} {α β : Type} {known : List Turn → Prop} {act : Run Process α}
  {turns : Process → List Turn}

/-- An operation with its turns, from a process that agrees with the turns before, ends in one that
agrees with all of them, and so do the processes in between at each turn. -/
def Tallies (base : Process) (known : List Turn → Prop) (act : Run Process α)
    (turns : Process → List Turn) : Prop :=
  ∀ before p, known before → Tallied base before p →
    Witnessed base before (turns p) ∧ Tallied base (before ++ turns p) (act p).state

/-- What is known stays known. -/
def Lasting (known : List Turn → Prop) : Prop :=
  ∀ before turns, known before → known (before ++ turns)

theorem lasting_heard (author : Author) : Lasting (Heard base.faults author) :=
  fun _ turns heard d told => (heard d told).append turns

theorem Tallies.mono {known' : List Turn → Prop} (h : Tallies base known act turns)
    (le : ∀ before, known' before → known before) : Tallies base known' act turns :=
  fun before p knows => h before p (le before knows)

/-- An operation that reports nothing and notes nothing has no turns. -/
theorem Tallies.quiet (same : ∀ p, (act p).state.trace = p.trace ∧
    (act p).state.faults = p.faults ∧ (act p).state.last = p.last) :
    Tallies base known act fun _ => [] := by
  intro before p _ tallied
  obtain ⟨trace, faults, last⟩ := same p
  rw [List.append_nil]
  exact ⟨trivial, tallied.of_same trace faults last⟩

theorem Tallies.bind (lasting : Lasting known) {next : α → Run Process β}
    {after : α → Process → List Turn} (first : Tallies base known act turns)
    (second : ∀ a, Tallies base known (next a) (after a)) :
    Tallies base known (act >>= next) fun p => turns p ++ (act p).onwards after := by
  intro before p knows tallied
  have done := first before p knows tallied
  dsimp only
  rw [Run.bind_apply]
  cases ended : act p with
  | returned a q =>
    rw [ended] at done
    have rest := second a _ q (lasting before (turns p) knows) done.2
    rw [List.append_assoc] at rest
    exact ⟨done.1.append rest.1, rest.2⟩
  | unwinding payload q =>
    rw [ended] at done
    show Witnessed base before (turns p ++ []) ∧ Tallied base (before ++ (turns p ++ [])) q
    rw [List.append_nil]
    exact done
  | aborted cause q =>
    rw [ended] at done
    show Witnessed base before (turns p ++ []) ∧ Tallied base (before ++ (turns p ++ [])) q
    rw [List.append_nil]
    exact done

/-- What follows without a turn. -/
theorem Tallies.finish {next : α → Run Process β} (first : Tallies base known act turns)
    (second : ∀ a, Tallies base (fun _ => True) (next a) fun _ => []) :
    Tallies base known (act >>= next) turns := by
  intro before p knows tallied
  have done := first before p knows tallied
  refine ⟨done.1, Run.bind_state (Q := Tallied base (before ++ turns p)) done.2 ?_⟩
  intro a q between
  have rest := (second a _ q trivial between).2
  rw [List.append_nil] at rest
  exact rest

/-- What is done with the state that is found. -/
theorem Tallies.get {next : Process → Run Process β} (h : ∀ p, Tallies base known (next p) turns) :
    Tallies base known (Run.get >>= next) turns :=
  fun before p => h p before p

theorem Tallies.forAll (lasting : Lasting known) {step : β → Run Process Unit}
    {turns : β → Process → List Turn} {l : List β}
    (h : ∀ b ∈ l, Tallies base known (step b) (turns b)) :
    Tallies base known (Run.forAll step l) (along step turns l) := by
  induction l with
  | nil => exact .quiet fun _ => ⟨rfl, rfl, rfl⟩
  | cons b rest ih =>
    apply Tallies.bind lasting (h b (List.mem_cons_self ..))
    intro _
    exact ih fun c among => h c (List.mem_cons_of_mem b among)

theorem Tallies.catching {act : Run Process Unit} (h : Tallies base known act turns) :
    Tallies base known (do let _ ← catching act) turns := by
  intro before p knows tallied
  have done := h before p knows tallied
  show _ ∧ Tallied base _ ((Run.catchingWith panicCaught act p).andThen _).state
  unfold Run.catchingWith
  cases ended : act p with
  | returned a q =>
    rw [ended] at done
    exact done
  | unwinding payload q =>
    rw [ended] at done
    exact ⟨done.1, done.2.of_same rfl rfl rfl⟩
  | aborted cause q =>
    rw [ended] at done
    exact done

end Tallying

/-! ## Reports -/

section Reports

variable {base : Process} {performer : Performer} {observe : Observer}

/-- A performer keeps the tally, and an observer sees its turns. -/
def Watches (base : Process) (observe : Observer) (performer : Performer) : Prop :=
  ∀ author actions,
    Tallies base (Heard base.faults author) (performer actions) (observe author actions)

theorem emitWith_tallies (h : Watches base observe performer) (e : Log.Entry) :
    Tallies base (fun _ => True) (emitWith performer e) (emitTurns observe e) := by
  have printed : Tallies base (fun _ => True) (print e) fun _ => [] :=
    .quiet fun _ => ⟨rfl, rfl, rfl⟩
  have withheld : Tallies base (fun _ => True) (pure () : Run Process Unit) fun _ => [] :=
    .quiet fun _ => ⟨rfl, rfl, rfl⟩
  intro before p knows
  show Tallied base before p → Witnessed base before (emitTurns observe e p) ∧ Tallied base _
    ((if p.log.admits e.level then _ else pure () : Run Process Unit) p).state
  unfold emitTurns
  by_cases admitted : p.log.admits e.level = true
  · rw [if_pos admitted, if_pos admitted]
    cases p.sink with
    | none => exact printed before p knows
    | some sink => exact h (.sink e) (sink.react e) before p nofun
  · rw [if_neg admitted, if_neg admitted]
    exact withheld before p knows

theorem writeWith_tallies (h : Watches base observe performer) (level : Log.Level)
    (target : Option String) (message : String) (fields : List (String × Log.FieldValue)) :
    Tallies base (fun _ => True) (writeWith performer level target message fields)
      (writeTurns observe level target message fields) :=
  fun before p => emitWith_tallies h _ before p

/-- Hooks are told of what was delivered. -/
theorem tellWith_tallies (h : Watches base observe performer) (d : Diagnostic) (hook : Hook) :
    Tallies base (Delivers base.faults · d) (tellWith performer d hook)
      (observe (.hook d) (hook.react d)) := by
  refine .catching ((h (.hook d) (hook.react d)).mono ?_)
  rintro before delivered _ ⟨⟩
  exact delivered

/-- What is done with a diagnostic that is on record: it is logged, and the hooks are told. -/
theorem told_tallies (h : Watches base observe performer) (d : Diagnostic) :
    Tallies base (Delivers base.faults · d)
      (do
        writeWith performer d.severity.level (some "tether::fault") d.text (diagnosticFields d)
        Run.forAll (tellWith performer d) (← Run.get).hooks)
      fun p =>
        writeTurns observe d.severity.level (some "tether::fault") d.text (diagnosticFields d) p ++
          (writeWith performer d.severity.level (some "tether::fault") d.text
            (diagnosticFields d) p).onwards fun _ q =>
              along (tellWith performer d) (fun hook => observe (.hook d) (hook.react d)) q.hooks
                q := by
  have lasting : Lasting (Delivers base.faults · d) :=
    fun _ turns delivered => delivered.append turns
  apply Tallies.bind lasting ((writeWith_tallies h _ _ _ _).mono fun _ _ => trivial)
  intro _
  exact fun before q =>
    Tallies.forAll lasting (l := q.hooks) (fun hook _ => tellWith_tallies h d hook) before q

variable {before : List Turn} {p : Process} {t : Turn}

/-- A report that is begun in a turn, up to its end: `rest` is what comes of the diagnostic when
it was delivered. -/
theorem reported_tallies (h : Watches base observe performer) (fault : Fault) (severity : Severity)
    {rest : Diagnostic → Run Process Unit}
    (quiet : ∀ d, Tallies base (fun _ => True) (rest d) fun _ => [])
    (makes : t.makes? = some fun n => ⟨fault, severity, n, p.thread.name⟩)
    (notes : t.notes? = none) (tallied : Tallied base before p) :
    Witnessed base (before ++ [t]) (reportTurns performer observe fault severity p) ∧
      Tallied base (before ++ [t] ++ reportTurns performer observe fault severity p)
        ((do
          let d ← diagnose fault severity
          deliverWith performer d
          rest d : Run Process Unit) p).state := by
  have recorded := tallied.report makes notes
  have delivers := delivers_snoc makes base.faults before
  rw [← tallied.faults] at recorded delivers
  exact (told_tallies h (p.diagnosticOf fault severity)).finish
    (fun _ => quiet (p.diagnosticOf fault severity)) _ _ delivers recorded

end Reports

/-! ## Actions -/

section Actions

variable {base : Process} {α : Type} {performer : Performer} {observe : Observer}

theorem raise_quiet (d : Diagnostic) :
    Tallies base (fun _ => True) (raise d : Run Process α) fun _ => [] := by
  refine .get fun p => ?_
  by_cases aborts : p.activeConfig.diagnostics.abortOnFatal = true
  · rw [if_pos aborts]
    exact .quiet fun _ => ⟨rfl, rfl, rfl⟩
  · rw [if_neg aborts]
    exact .quiet fun _ => ⟨rfl, rfl, rfl⟩

/-- How a report ends. -/
theorem reportEnd_quiet (severity : Severity) (d : Diagnostic) :
    Tallies base (fun _ => True) (do
      if severity = .fatal && !(← Run.get).isUnwinding then raise d : Run Process Unit)
      fun _ => [] := by
  refine .get fun p => ?_
  by_cases fatal : (severity = .fatal && !p.isUnwinding) = true
  · rw [if_pos fatal]
    exact raise_quiet d
  · rw [if_neg fatal]
    exact .quiet fun _ => ⟨rfl, rfl, rfl⟩

/-- How a report ends that never comes back. -/
theorem failEnd_quiet (d : Diagnostic) :
    Tallies base (fun _ => True) (do
      if (← Run.get).isUnwinding then Run.abort (.fatal d) else raise d : Run Process α)
      fun _ => [] := by
  refine .get fun p => ?_
  by_cases unwinding : p.isUnwinding = true
  · rw [if_pos unwinding]
    exact .quiet fun _ => ⟨rfl, rfl, rfl⟩
  · rw [if_neg unwinding]
    exact raise_quiet d

/-- An action that is neither a report nor a note has one turn. -/
theorem silent_tallies {author : Author} {a : Action} {act : Run Process Unit}
    (makes : ∀ p, (⟨author, some a, p⟩ : Turn).makes? = none)
    (notes : ∀ p, (⟨author, some a, p⟩ : Turn).notes? = none)
    {turns : Process → List Turn} (h : Tallies base (fun _ => True) act turns) :
    Tallies base (Heard base.faults author) act fun p => ⟨author, some a, p⟩ :: turns p := by
  intro before p heard tallied
  have done := h _ p trivial (tallied.turn (makes p) (notes p))
  rw [List.append_assoc] at done
  exact ⟨⟨⟨tallied, heard⟩, done.1⟩, done.2⟩

/-- An action that notes something has one turn. -/
theorem noting_tallies {author : Author} {a : Action} {act : Run Process Unit}
    (makes : ∀ p, (⟨author, some a, p⟩ : Turn).makes? = none)
    (noted : ∀ p, ∃ e, (⟨author, some a, p⟩ : Turn).notes? = some e ∧ e.isVisible = true ∧
      (act p).state.trace = e :: p.trace ∧ (act p).state.faults = p.faults ∧
      (act p).state.last = p.last) :
    Tallies base (Heard base.faults author) act fun p => [⟨author, some a, p⟩] := by
  intro before p heard tallied
  obtain ⟨e, notes, visible, trace, faults, last⟩ := noted p
  refine ⟨⟨⟨tallied, heard⟩, trivial⟩, ?_⟩
  exact (tallied.note (makes p) notes visible).of_same trace faults last

/-- An action that reports a fault has a turn, and then come those of its report. -/
theorem reporting_tallies {author : Author} {a : Action} {act : Run Process Unit} {fault : Fault}
    {severity : Severity}
    (h : ∀ before p, Tallied base before p →
      Witnessed base (before ++ [⟨author, some a, p⟩])
          (reportTurns performer observe fault severity p) ∧
        Tallied base (before ++ [⟨author, some a, p⟩] ++
          reportTurns performer observe fault severity p) (act p).state) :
    Tallies base (Heard base.faults author) act fun p =>
      ⟨author, some a, p⟩ :: reportTurns performer observe fault severity p := by
  intro before p heard tallied
  have done := h before p tallied
  rw [List.append_assoc] at done
  exact ⟨⟨⟨tallied, heard⟩, done.1⟩, done.2⟩

theorem performOne_tallies (h : Watches base observe performer) (author : Author) (a : Action) :
    Tallies base (Heard base.faults author) (performOne performer a) fun p =>
      ⟨author, some a, p⟩ :: actionTurns performer observe a p := by
  cases a with
  | note event visible =>
    exact noting_tallies (fun _ => rfl) fun p => ⟨event, rfl, visible, rfl, rfl, rfl⟩
  | emit level target message fields =>
    exact silent_tallies (fun _ => rfl) (fun _ => rfl)
      (writeWith_tallies h level target message fields)
  | unregister name =>
    refine noting_tallies (fun _ => rfl) fun p => ⟨_, rfl, rfl, ?_⟩
    show ((unregisterNamed name p).andThen fun removed => note (.unhooked name removed)).state.trace
      = _ ∧ ((unregisterNamed name p).andThen fun removed =>
        note (.unhooked name removed)).state.faults = _ ∧
      ((unregisterNamed name p).andThen fun removed => note (.unhooked name removed)).state.last = _
    unfold unregisterNamed
    rw [Run.bind_apply]
    dsimp only [Run.get, Outcome.andThen]
    cases p.hookNamed? name with
    | none => exact ⟨rfl, rfl, rfl⟩
    | some id => exact ⟨rfl, rfl, rfl⟩
  | countFaults => exact noting_tallies (fun _ => rfl) fun p => ⟨_, rfl, rfl, rfl, rfl, rfl⟩
  | report fault severity =>
    exact reporting_tallies fun before p tallied =>
      reported_tallies h fault severity (reportEnd_quiet severity) rfl rfl tallied
  | fail fault =>
    exact reporting_tallies fun before p tallied =>
      reported_tallies h fault .fatal failEnd_quiet rfl rfl tallied
  | _ =>
    exact silent_tallies (fun _ => rfl) (fun _ => rfl)
      (.quiet fun _ => ⟨rfl, rfl, rfl⟩)

/-- A program that came to its end has one more turn. -/
theorem Tallies.ending {author : Author} {act : Run Process Unit} {turns : Process → List Turn}
    (h : Tallies base (Heard base.faults author) act turns) :
    Tallies base (Heard base.faults author) act fun p =>
      turns p ++ (act p).onwards fun _ q => [⟨author, none, q⟩] := by
  have last : Tallies base (Heard base.faults author) (pure () : Run Process Unit)
      fun q => [⟨author, none, q⟩] := by
    intro before q heard tallied
    exact ⟨⟨⟨tallied, heard⟩, trivial⟩, tallied.turn rfl rfl⟩
  have both := h.bind (lasting_heard author) fun _ => last
  have same : (act >>= fun _ => pure ()) = act := bind_pure_unit
  rw [same] at both
  exact both

/-- However deep actions nest, they keep the tally. -/
theorem perform_tallies (depth : Nat) : Watches base (turns depth) (perform depth) := by
  induction depth with
  | zero =>
    intro author actions
    have stopped : Tallies base (Heard base.faults author) (perform 0 actions) fun _ => [] := by
      cases actions with
      | nil => exact .quiet fun _ => ⟨rfl, rfl, rfl⟩
      | cons a rest => exact .quiet fun _ => ⟨rfl, rfl, rfl⟩
    exact stopped.ending
  | succ depth ih =>
    intro author actions
    have whole : perform (depth + 1) actions = Run.forAll (performOne (perform depth)) actions := by
      cases actions <;> rfl
    refine Tallies.ending ?_
    rw [whole]
    exact .forAll (lasting_heard author) fun a _ => performOne_tallies ih author a

end Actions

/-! ## Whose turns they are -/

section Authors

variable {performer : Performer} {observe : Observer} {t : Turn} {p : Process}

/-- The turns of sinks and hooks, and those in between, are not those of the code that both
serve. -/
def Serves (observe : Observer) : Prop :=
  ∀ author actions p, author ≠ .caller → ∀ t ∈ observe author actions p, t.author ≠ .caller

theorem mem_onwards {α : Type} {o : Outcome Process α} {next : α → Process → List Turn}
    (member : t ∈ o.onwards next) : ∃ a q, t ∈ next a q := by
  cases o with
  | returned a q => exact ⟨a, q, member⟩
  | unwinding payload q => cases member
  | aborted cause q => cases member

/-- The turns of a loop are those of its rounds. -/
theorem mem_along {β : Type} {act : β → Run Process Unit} {turns : β → Process → List Turn}
    {l : List β} (member : t ∈ along act turns l p) : ∃ b q, t ∈ turns b q := by
  induction l generalizing p with
  | nil => cases member
  | cons b rest ih =>
    rcases List.mem_append.1 member with first | later
    · exact ⟨b, p, first⟩
    · obtain ⟨_, q, there⟩ := mem_onwards later
      exact ih there

theorem writeTurns_serve (h : Serves observe) {level : Log.Level} {target : Option String}
    {message : String} {fields : List (String × Log.FieldValue)}
    (member : t ∈ writeTurns observe level target message fields p) : t.author ≠ .caller := by
  unfold writeTurns emitTurns at member
  by_cases admitted : p.log.admits level = true
  · rw [if_pos admitted] at member
    cases sunk : p.sink with
    | none =>
      rw [sunk] at member
      cases member
    | some sink =>
      rw [sunk] at member
      exact h (.sink _) _ _ nofun t member
  · rw [if_neg admitted] at member
    cases member

theorem reportTurns_serve (h : Serves observe) {fault : Fault} {severity : Severity}
    (member : t ∈ reportTurns performer observe fault severity p) : t.author ≠ .caller := by
  obtain ⟨d, q, member⟩ := mem_onwards member
  rcases List.mem_append.1 member with written | told
  · exact writeTurns_serve h written
  · obtain ⟨_, u, there⟩ := mem_onwards told
    obtain ⟨hook, v, there⟩ := mem_along there
    exact h (.hook d) _ _ nofun t there

theorem turns_serve (depth : Nat) : Serves (turns depth) := by
  induction depth with
  | zero =>
    intro author actions p other t member
    obtain ⟨_, q, there⟩ := mem_onwards member
    rw [List.mem_singleton.1 there]
    exact other
  | succ depth ih =>
    intro author actions p other t member
    rcases List.mem_append.1 member with during | ending
    · obtain ⟨a, q, there⟩ := mem_along during
      rcases List.mem_cons.1 there with rfl | nested
      · exact other
      · cases a with
        | emit level target message fields => exact writeTurns_serve ih nested
        | report fault severity => exact reportTurns_serve ih nested
        | fail fault => exact reportTurns_serve ih nested
        | _ => cases nested
    · obtain ⟨_, q, there⟩ := mem_onwards ending
      rw [List.mem_singleton.1 there]
      exact other

end Authors

/-- A report makes its diagnostic, and all others that are made meanwhile come of what sinks and
hooks do. -/
theorem reportWith_numbered (depth : Nat) (fault : Fault) (severity : Severity) (p : Process) :
    ∃ others, (∀ t ∈ others, t.author ≠ .caller) ∧
      (reportWith (perform depth) fault severity p).state.diagnostics =
        p.diagnostics ++
          p.diagnosticOf fault severity :: numbered (p.faults + 1) others := by
  let begun : Turn := ⟨.caller, some (.report fault severity), p⟩
  let others := reportTurns (perform depth) (turns depth) fault severity p
  have makes : begun.makes? = some fun n => ⟨fault, severity, n, p.thread.name⟩ := rfl
  obtain ⟨-, tallied⟩ := reported_tallies (perform_tallies depth) fault severity
    (reportEnd_quiet severity) makes rfl p.tallied_refl
  refine ⟨others, fun t => reportTurns_serve (turns_serve depth), ?_⟩
  have numbers := numbered_cons makes p.faults others
  exact tallied.diagnostics.trans (congrArg _ numbers)

end Process

/-! ## Whole runs -/

namespace Code

open Process Turn

theorem run_tallies (base : Process) (depth : Nat) (code : Code) :
    Tallies base (Heard base.faults .caller) (code.run depth) (code.turns depth) := by
  induction code with
  | acts actions => exact perform_tallies depth .caller actions
  | andThen first second ih ih' => exact ih.bind (lasting_heard .caller) fun _ => ih'
  | catching body ih => exact ih.catching
  | atEnd body last ih ih' =>
    intro before p heard tallied
    have done := ih before p heard tallied
    unfold run turns Run.atEnd
    cases ended : body.run depth p with
    | returned a q =>
      rw [ended] at done
      have rest := ih' _ q (lasting_heard .caller before (body.turns depth p) heard) done.2
      rw [List.append_assoc] at rest
      refine ⟨done.1.append rest.1, ?_⟩
      dsimp only
      rw [Outcome.state_andThen_returned]
      exact rest.2
    | unwinding payload q =>
      rw [ended] at done
      have rest := ih' _ q (lasting_heard .caller before (body.turns depth p) heard) done.2
      rw [List.append_assoc] at rest
      refine ⟨done.1.append rest.1, ?_⟩
      have passed : (Run.passing payload (last.run depth) q : Outcome Process Unit).state =
          (last.run depth q).state := by
        unfold Run.passing
        cases last.run depth q <;> rfl
      dsimp only
      rw [passed]
      exact rest.2
    | aborted cause q =>
      rw [ended] at done
      dsimp only
      rw [List.append_nil]
      exact done

end Code

/-- What a program finds at its turn, where `before` are the turns before it. -/
structure Turn.Informed (before : List Turn) (t : Turn) : Prop where
  /-- The diagnostics that were made are those of the reports begun, numbered in their order. -/
  diagnostics : t.found.diagnostics = numbered 0 before
  /-- As many faults are counted as reports were begun. -/
  faults : t.found.faults = calls before
  /-- Before the first report there is no last diagnostic. -/
  unreported : calls before = 0 → t.found.last = none
  /-- From then on the last diagnostic is the newest one, whose number is the count of faults. -/
  last : 0 < calls before → ∃ d, t.found.last = some d ∧
    t.found.diagnostics.getLast? = some d ∧ d.sequence = t.found.faults
  /-- A hook is told of the diagnostic of a report that was begun before, by its own number, and
  if others were begun since then the last diagnostic is a later one. -/
  told : ∀ d, t.author = .hook d → ∃ earlier call between make,
    before = earlier ++ call :: between ∧ call.makes? = some make ∧ d = make (calls earlier + 1) ∧
      t.found.faults = d.sequence + calls between ∧
      (0 < calls between → ∃ newest, t.found.last = some newest ∧ d.sequence < newest.sequence)

theorem Process.Tallied.informed {p : Process} {before : List Turn} {t : Turn}
    (tallied : Process.Tallied p.unreported before t.found) (heard : Turn.Heard 0 t.author before) :
    t.Informed before := by
  have faults : t.found.faults = Turn.calls before := tallied.faults.trans (Nat.zero_add _)
  have newest : t.found.last = (Turn.numbered 0 before).getLast? :=
    tallied.last.trans (Option.or_none ..)
  have last (some : 0 < Turn.calls before) : ∃ d, t.found.last = .some d ∧
      t.found.diagnostics.getLast? = .some d ∧ d.sequence = t.found.faults := by
    obtain ⟨d, there, sequence⟩ := Turn.newest_of_pos 0 some
    refine ⟨d, newest.trans there, ?_, ?_⟩
    · rw [tallied.diagnostics]
      exact there
    · rw [faults, sequence, Nat.zero_add]
  constructor
  case diagnostics => exact tallied.diagnostics
  case faults => exact faults
  case unreported =>
    intro none
    rw [newest, List.getLast?_eq_none_iff, ← List.length_eq_zero_iff, Turn.length_numbered]
    exact none
  case last => exact last
  case told =>
    intro d hook
    obtain ⟨earlier, call, between, make, same, makes, rfl⟩ := heard d hook
    have sequence := Turn.sequence_of_makes? makes (0 + Turn.calls earlier + 1)
    have counted : Turn.calls before = Turn.calls earlier + (Turn.calls between + 1) := by
      rw [same, Turn.calls_append, Turn.calls_cons_of_makes? makes]
    rw [Nat.zero_add] at sequence ⊢
    refine ⟨earlier, call, between, make, same, makes, rfl, by omega, fun later => ?_⟩
    obtain ⟨newest, here, -, number⟩ := last (by omega)
    exact ⟨newest, here, by omega⟩

/-- However reports nest and however they end: at every turn of the code that reports, of a sink or
of a hook, and at the end, the diagnostics that were made are those of the reports begun so far,
numbered from one on in their order; as many faults are counted; and the last diagnostic is the
newest one. A hook that runs after others reported is still told of its own diagnostic. -/
theorem Code.run_numbered (depth : Nat) (code : Code) (p : Process) :
    (∀ before t after, code.turns depth p.unreported = before ++ t :: after → t.Informed before) ∧
      Process.Tallied p.unreported (code.turns depth p.unreported)
        (code.run depth p.unreported).state ∧
      ∀ n d, (code.run depth p.unreported).state.diagnostics[n]? = some d → d.sequence = n + 1 := by
  obtain ⟨witnessed, tallied⟩ := code.run_tallies p.unreported depth [] p.unreported nofun
    p.unreported.tallied_refl
  refine ⟨fun before t after split => ?_, tallied, fun n d there => ?_⟩
  · rw [split] at witnessed
    obtain ⟨found, heard⟩ := witnessed.at
    exact found.informed heard
  · rw [tallied.diagnostics] at there
    have sequence : d.sequence = 0 + n + 1 := Turn.sequence_of_getElem? there
    rw [Nat.zero_add] at sequence
    exact sequence

/-- The first of two hooks reports in turn when it is told of the first diagnostic. Both hooks are
told of the second one then, and when the second hook is told of the first one after all, that is
not the last one any more. -/
example :
    let hooks : List Hook :=
      [⟨1, fun d => if d.sequence = 1 then [.report (.doubleFree "Hook") .warning] else []⟩,
        ⟨2, fun _ => []⟩]
    ((Code.acts [.report (.doubleFree "Thing") .fatal]).turns 2 { hooks := hooks }).map (fun t =>
        (match t.author with | .hook d => d.sequence | _ => 0, t.found.last.map (·.sequence))) =
      [(0, none), (1, some 1), (2, some 2), (2, some 2), (1, some 2), (1, some 2)] := by
  decide +kernel

end Custody
