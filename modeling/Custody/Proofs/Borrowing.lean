import Custody.Proofs.Projections

/-!
# Writing through handles that are the only ones

A shared handle may be written through exactly if it is the only one: `Moment.Has.grants`. All other
handles then refer to other cells (`Moment.Lone.elsewhere`), so those that point into the values
that they keep alive see nothing of the change. A handle that was narrowed unchecked may point
anywhere, also into the value of a handle that is the only one (`Client.exists_reached_visible`).

As long as a handle that is the only one is not used, this remains so: whatever refers to its cell
later was had from the handle itself (`Client.Reached.stems_of_lone`), and while it is set aside no
other handle comes to refer to the cell at all (`Client.Reached.lent`).
-/

namespace Custody

open Machine

namespace Moment

variable {t : Moment} {h g : Handle} {l k : Link}

/-- All other handles refer to other cells than a shared one that is the only one. -/
theorem Lone.elsewhere (lone : t.Lone h.qualifier l.cell) (balanced : t.Balanced) (has : t.Has h)
    (shared : h.qualifier.isShared = true) (link : h.link = some l) :
    ∀ g ∈ t.handles.erase h, ∀ k, g.link = some k → k.cell ≠ l.cell := by
  intro g member k refers same
  have books : t.client.machine.Books (t.pending ++ t.client.duties) := balanced.balanced.books
  have there : t.Has g := t.mem_handles.1 (List.mem_of_mem_erase member)
  obtain ⟨owned, unobserved⟩ := lone
  have counted (q : Qualifier) :
      t.references q l.cell = refs q l.cell [h] + refs q l.cell (t.handles.erase h) := by
    rw [← t.refs_handles, refs_perm q l.cell (List.perm_cons_erase (t.mem_handles.2 has)),
      refs_cons]
  have self : refs h.qualifier l.cell [h] = 1 := refs_of_link_self link
  have other : 0 < refs g.qualifier l.cell (t.handles.erase h) := by
    refine List.countP_pos_iff.2 ⟨g, member, ?_⟩
    simp [Handle.refersTo, refers, same]
  -- The block admits no other handles than such as this one, and observers.
  have admitted : g.qualifier = h.qualifier ∨ g.qualifier = .weak := by
    obtain ⟨cell, found, governed, -, law⟩ := books.found_of_seen has.seen link
    obtain ⟨s, state, kind⟩ := governed.exists_of_isShared shared
    have positive := there.seen k refers
    rw [same] at positive
    have only := law.only g.qualifier
    rw [state] at only
    rw [← kind]
    by_contra neither
    have none := only fun member => neither (eq_of_mem_admitted member)
    omega
  rcases admitted with is | is
  · have counted := counted h.qualifier
    rw [is] at other
    omega
  · have counted := counted .weak
    rw [is] at other
    omega

/-- So a handle that refers to the cell is the one that is the only one. -/
theorem Lone.eq (lone : t.Lone h.qualifier l.cell) (balanced : t.Balanced) (has : t.Has h)
    (shared : h.qualifier.isShared = true) (link : h.link = some l) (there : t.Has g)
    (refers : g.link = some k) (same : k.cell = l.cell) : g = h := by
  by_contra other
  have member : g ∈ t.handles.erase h :=
    (List.mem_erase_of_ne other).2 (t.mem_handles.2 there)
  exact lone.elsewhere balanced has shared link g member k refers same

/-- What a shared handle may be used for at a moment, if it refers to something. -/
structure Grants (t : Moment) (h : Handle) (l : Link) : Prop where
  /-- The value that a strong handle points at is changed if it is the only one and there is no
  observer, and is left alone otherwise. -/
  strong : h.qualifier = .strong → ∀ f, changeIfExclusive h f t.client.machine =
    if t.references .strong l.cell = 1 ∧ t.references .weak l.cell = 0 then
      .returned true { t.client.machine with memory := t.client.machine.memory.change l.target f }
    else .returned false t.client.machine
  /-- The value that a handle on one thread points at is changed if it is the only one. -/
  handle : h.qualifier = .handle → ∀ f, changeIfExclusive h f t.client.machine =
    if t.references .handle l.cell = 1 then
      .returned true { t.client.machine with memory := t.client.machine.memory.change l.target f }
    else .returned false t.client.machine
  /-- The change is not seen through any other handle, where both point into the values that they
  keep alive. -/
  hidden : ∀ f n, changeIfExclusive h f t.client.machine = .returned true n →
    l.target.cell = l.cell → ∀ g ∈ t.handles.erase h, ∀ k, g.link = some k →
      k.target.cell = k.cell → g.value? n.memory = g.value? t.client.machine.memory

/-- A change of one value is no change of another. -/
theorem read?_change {m : Memory} {p q : Place} (other : q.cell ≠ p.cell) (f : Value → Value) :
    (m.change p f).read? q = m.read? q := by
  unfold Memory.read? Memory.change
  cases found : m.cell? p.cell with
  | none => rfl
  | some cell =>
    dsimp only
    rw [Memory.cell?_setCell_of_ne _ _ other]

/-- Nobody observes a value on one thread. -/
theorem Has.lone_handle (has : t.Has h) (balanced : t.Balanced) (owns : h.qualifier = .handle)
    (link : h.link = some l) : t.Lone .handle l.cell ↔ t.references .handle l.cell = 1 := by
  have books : t.client.machine.Books (t.pending ++ t.client.duties) := balanced.balanced.books
  obtain ⟨cell, found, governed, -, law⟩ := books.found_of_seen has.seen link
  rw [owns] at governed
  obtain ⟨count, state⟩ : ∃ count, cell.state = some (.handle count) := governed
  rw [state] at law
  have law : (t.tally l.cell).LocalLaw count := law
  have unobserved : (t.tally l.cell).refs .weak = 0 := law.only .weak (by decide)
  rw [refs_tally] at unobserved
  exact and_iff_left unobserved

/-- A shared handle that is there at a balanced moment is granted what it should be. -/
theorem Has.grants (has : t.Has h) (balanced : t.Balanced) (shared : h.qualifier.isShared = true)
    (link : h.link = some l) : t.Grants h l := by
  have answer (f : Value → Value) : changeIfExclusive h f t.client.machine =
      if t.Lone h.qualifier l.cell then
        .returned true { t.client.machine with memory := t.client.machine.memory.change l.target f }
      else .returned false t.client.machine := by
    have target : h.target? = some l.target := by
      unfold Handle.target?
      rw [link]
      rfl
    unfold changeIfExclusive
    rw [target]
    dsimp only
    rw [Run.bind_apply, has.isExclusive balanced shared link]
    by_cases lone : t.Lone h.qualifier l.cell
    · rw [if_pos lone, decide_eq_true lone]
      rfl
    · rw [if_neg lone, decide_eq_false lone]
      rfl
  constructor
  · intro owns f
    rw [answer f, owns]
    rfl
  · intro owns f
    rw [answer f, owns]
    exact if_congr (has.lone_handle balanced owns link) rfl rfl
  · intro f n granted own g member k refers points
    rw [answer f] at granted
    by_cases lone : t.Lone h.qualifier l.cell
    · rw [if_pos lone] at granted
      cases granted
      have apart : k.target.cell ≠ l.target.cell := by
        rw [points, own]
        exact lone.elsewhere balanced has shared link g member k refers
      have target : g.target? = some k.target := by
        unfold Handle.target?
        rw [refers]
        rfl
      unfold Handle.value?
      rw [target]
      cases g.ownership with
      | weak => rfl
      | _ => exact read?_change apart f
    · rw [if_neg lone] at granted
      cases granted

end Moment

/-! ## As long as the handle is not used -/

namespace Handle.Stems

variable {root : Handle → Prop} {h : Handle}

/-- A handle stems from one that refers to the same cell. -/
theorem refers (stems : h.Stems root) {l : Link} (link : h.link = some l) :
    h.Stems fun g => root g ∧ ∃ k, g.link = some k ∧ k.cell = l.cell := by
  induction stems generalizing l with
  | root is => exact .root ⟨is, l, link, rfl⟩
  | empty none => cases none.symm.trans link
  | held o stems ih => exact (ih link).held o
  | narrowed kind target stems ih =>
    obtain ⟨k, refers, rfl⟩ := Option.map_eq_some_iff.1 link
    exact (ih refers).narrowed kind target

end Handle.Stems

/-- A handle of a client before that refers to a cell that was there then is one that it held, or
lay inside a value. -/
theorem Root.before {c : Client} {m : Machine} {g : Handle} {k : Link} (root : Root c m g)
    (refers : g.link = some k) (there : (c.machine.memory.cell? k.cell).isSome) :
    g ∈ c.held ∨ g ∈ c.machine.memory.handles := by
  cases root with
  | held is => exact .inl is
  | stocked is => exact .inr (Memory.mem_handles.2 is)
  | born o found new =>
    cases refers
    rw [new] at there
    cases there

namespace Client

variable {p : Process} {c : Client} {u : Moment} {h g : Handle} {l k : Link}

/-- Whatever comes to refer later to the cell of a handle that is the only one was had from it. -/
theorem Reached.stems_of_lone (reached : Reached c u) (balanced : c.Balanced)
    (has : ({ client := c } : Moment).Has h) (shared : h.qualifier.isShared = true)
    (link : h.link = some l) (lone : ({ client := c } : Moment).Lone h.qualifier l.cell)
    (there : u.Has g) (refers : g.link = some k) (same : k.cell = l.cell) : g.Stems (· = h) := by
  have raised := reached.raised
  have sole {f : Handle} {j : Link} (there : ({ client := c } : Moment).Has f)
      (refers : f.link = some j) (same : j.cell = l.cell) : f = h :=
    lone.eq balanced has shared link there refers same
  have found : (c.machine.memory.cell? l.cell).isSome := by
    have books : c.machine.Books _ := balanced.balanced.books
    obtain ⟨cell, found, -⟩ := books.found_of_seen has.seen link
    exact found ▸ rfl
  have descends (stems : Descends c u.client.machine g) : g.Stems (· = h) := by
    refine (stems.refers refers).bind fun f root => ?_
    obtain ⟨root, j, refers', same'⟩ := root
    rw [same] at same'
    refine .root (sole ?_ refers' same')
    rcases root.before refers' (same' ▸ found) with held | stocked
    · exact .inl held
    · exact .inr (.inr (.inl (Memory.mem_handles.1 stocked)))
  rcases there with held | forgotten | stocked | pending
  · exact descends (raised.client.held g held)
  · obtain ⟨more, all, descend⟩ := raised.client.forgotten
    rw [all] at forgotten
    rcases List.mem_append.1 forgotten with new | old
    · exact descends (descend g new)
    · exact .root (sole (.inr (.inl old)) refers same)
  · exact descends (raised.client.machine.stocked g stocked)
  · exact descends (raised.pending g pending)

/-- A client that has set a handle aside, which is still there but cannot be used. -/
def setAside (c : Client) (h : Handle) : Client :=
  { c with held := c.held.erase h, forgotten := h :: c.forgotten }

/-- While a handle that is the only one is set aside, no other comes to refer to its cell. -/
theorem Reached.lent (reached : Reached (c.setAside h) u) (balanced : c.Balanced)
    (held : h ∈ c.held) (shared : h.qualifier.isShared = true) (link : h.link = some l)
    (lone : ({ client := c } : Moment).Lone h.qualifier l.cell) :
    u.Has h ∧ u.Lone h.qualifier l.cell ∧
      ∀ g ∈ u.handles.erase h, ∀ k, g.link = some k → k.cell ≠ l.cell := by
  have has : ({ client := c } : Moment).Has h := .inl held
  have books : c.machine.Books _ := balanced.balanced.books
  obtain ⟨cell, found, -⟩ := books.found_of_seen has.seen link
  have apart {f : Handle} {j : Link}
      (among : f ∈ c.held.erase h ∨ f ∈ c.forgotten ∨ f ∈ c.machine.memory.handles)
      (refers : f.link = some j) : j.cell ≠ l.cell := by
    refine lone.elsewhere balanced has shared link f ?_ j refers
    show f ∈ (c.held ++ c.forgotten ++ c.machine.memory.handles ++ []).erase h
    rw [List.append_nil, List.append_assoc, List.erase_append_left _ held, List.mem_append,
      List.mem_append]
    exact among
  obtain ⟨⟨machine, holds, more, forgotten, lost⟩, pending⟩ := reached.raised
  have forgotten : u.client.forgotten = more ++ h :: c.forgotten := forgotten
  have descends {g : Handle} {k : Link} (stems : Descends (c.setAside h) u.client.machine g)
      (refers : g.link = some k) : k.cell ≠ l.cell := by
    intro same
    obtain ⟨f, j, root, refers', same'⟩ := stems.cell refers
    rw [same] at same'
    have there : (c.machine.memory.cell? j.cell).isSome := by
      rw [same', found]
      rfl
    rcases root.before refers' there with kept | stocked
    · exact apart (.inl kept) refers' same'
    · exact apart (.inr (.inr stocked)) refers' same'
  let others := u.client.held ++ (more ++ c.forgotten) ++ u.client.machine.memory.handles ++
    dropped u.pending
  have all : u.handles.Perm (h :: others) := by
    have first : (u.client.held ++ u.client.forgotten).Perm
        (h :: (u.client.held ++ (more ++ c.forgotten))) := by
      rw [forgotten, ← List.append_assoc, ← List.append_assoc]
      exact List.perm_middle
    exact (first.append_right _).append_right _
  have elsewhere : ∀ g ∈ others, ∀ k, g.link = some k → k.cell ≠ l.cell := by
    intro g member k refers
    simp only [others, List.mem_append] at member
    rcases member with ((kept | new | old) | stocked) | pends
    · exact descends (holds g kept) refers
    · exact descends (lost g new) refers
    · exact apart (.inr (.inl old)) refers
    · exact descends (machine.stocked g (Memory.mem_handles.1 stocked)) refers
    · exact descends (pending g (mem_dropped.1 pends)) refers
  have counted (q : Qualifier) : u.references q l.cell = refs q l.cell [h] := by
    have none : refs q l.cell others = 0 := by
      refine refs_eq_zero_iff.2 fun g member => ?_
      cases refers : g.link with
      | none => simp [Handle.refersTo, refers]
      | some k =>
        have other := elsewhere g member k refers
        simp [Handle.refersTo, refers, other]
    rw [← u.refs_handles, refs_perm q l.cell all, refs_cons, none, Nat.add_zero]
  refine ⟨.inr (.inl ?_), ⟨?_, ?_⟩, ?_⟩
  · rw [forgotten]
    exact List.mem_append_right _ (List.mem_cons_self ..)
  · rw [counted]
    exact refs_of_link_self link
  · rw [counted]
    refine refs_of_qualifier_ne l.cell fun observes => ?_
    rw [← observes] at shared
    cases shared
  · intro g member
    have rest : (u.handles.erase h).Perm others := by
      have erased := all.erase h
      rw [List.erase_cons_head] at erased
      exact erased
    exact elsewhere g (rest.mem_iff.1 member)

/-- **In every run**, a shared handle may be written through exactly if it is the only one and
nobody observes, and then no other handle that points into the value that it keeps alive sees the
change. From then on whatever refers to the cell was had from this handle; and while the handle is
set aside, no other handle refers to it. -/
theorem run_borrows (p : Process) :
    (∀ t, Reached (start p) t → ∀ h l, t.Has h → h.qualifier.isShared = true →
      h.link = some l → t.Grants h l) ∧
    ∀ ops c, run ops (start p) = .returned () c → ∀ h l, ({ client := c } : Moment).Has h →
      h.qualifier.isShared = true → h.link = some l →
      ({ client := c } : Moment).Lone h.qualifier l.cell →
        (∀ u, Reached c u → ∀ g k, u.Has g → g.link = some k → k.cell = l.cell →
          g.Stems (· = h)) ∧
        (h ∈ c.held → ∀ u, Reached (c.setAside h) u → u.Has h ∧ u.Lone h.qualifier l.cell ∧
          ∀ g ∈ u.handles.erase h, ∀ k, g.link = some k → k.cell ≠ l.cell) := by
  have first := start_balanced p
  constructor
  · intro t reached h l has shared link
    exact has.grants (reached.balanced first) shared link
  · intro ops c done h l has shared link lone
    have balanced : c.Balanced := (Reached.rest done).balanced first
    constructor
    · intro u reached g k there refers same
      exact reached.stems_of_lone balanced has shared link lone there refers same
    · intro held u reached
      exact reached.lent balanced held shared link lone

/-- A handle that is the only one is set aside. It is not cloned then, and it stays the only one
while another value is created; if it is not set aside, it is cloned. -/
theorem exists_run_borrows : ∃ ops more c d e h l, run ops (start {}) = .returned () c ∧
    h ∈ c.held ∧ h.link = some l ∧ ({ client := c } : Moment).Grants h l ∧
      ({ client := c } : Moment).Lone h.qualifier l.cell ∧
        run more c = .returned () d ∧ d.held.length = 3 ∧
          (∀ g k, ({ client := d } : Moment).Has g → g.link = some k → k.cell = l.cell →
            g.Stems (· = h)) ∧
        run more (c.setAside h) = .returned () e ∧ e.held.length = 1 ∧
          ({ client := e } : Moment).Lone h.qualifier l.cell := by
  let h : Handle := .whole (.block .strong) .num 0
  let ops : List Operation := [.create (.block .strong) systemAllocator (.num 1) false]
  let more : List Operation := [.clone h, .create (.block .strong) systemAllocator (.num 2) false]
  have ran : ∃ c d e, run ops (start {}) = .returned () c ∧ h ∈ c.held ∧
      ({ client := c } : Moment).Lone .strong 0 ∧ run more c = .returned () d ∧
        d.held.length = 3 ∧ run more (c.setAside h) = .returned () e ∧ e.held.length = 1 := by
    refine ⟨_, _, _, Outcome.eq_returned (o := run ops (start {})) ?_, ?_, ?_,
      Outcome.eq_returned ?_, ?_, Outcome.eq_returned ?_, ?_⟩ <;> decide +kernel
  obtain ⟨c, d, e, done, held, lone, used, all, lent, other⟩ := ran
  obtain ⟨grants, later⟩ := run_borrows {}
  have granted := grants { client := c } (.rest done) h _ (.inl held) rfl rfl
  obtain ⟨stems, aside⟩ := later ops c done h _ (.inl held) rfl rfl lone
  exact ⟨ops, more, c, d, e, h, _, done, held, rfl, granted, lone, used, all,
    stems _ (.rest used), lent, other, (aside held _ (.rest lent)).2.1⟩

/-- A handle was narrowed unchecked to the value of another one, which is the only one to keep it
alive. A change that is made through the one is seen through the other. -/
theorem exists_reached_visible : ∃ t h g n, Reached (start {}) t ∧ t.Has h ∧
    h.qualifier.isShared = true ∧ changeIfExclusive h (·.setTo (.number 9)) t.client.machine =
      .returned true n ∧ g ∈ t.handles.erase h ∧ g.qualifier = .strong ∧
        g.value? n.memory ≠ g.value? t.client.machine.memory := by
  let h : Handle := .whole (.block .strong) .num 0
  let other : Handle := .whole (.block .strong) .num 1
  let g : Handle := other.narrowed .num ⟨0, []⟩
  let ops : List Operation :=
    [.create (.block .strong) systemAllocator (.num 1) false,
      .create (.block .strong) systemAllocator (.num 2) false,
      .narrow other .num ⟨0, []⟩ false]
  have ran : ∃ c, run ops (start {}) = .returned () c ∧ h ∈ c.held ∧
      ({ client := c } : Moment).Lone .strong 0 ∧
        g ∈ ({ client := c } : Moment).handles.erase h ∧
          g.value? (c.machine.memory.change ⟨0, []⟩ (·.setTo (.number 9))) ≠
            g.value? c.machine.memory := by
    refine ⟨_, Outcome.eq_returned (o := run ops (start {})) ?_, ?_, ?_, ?_, ?_⟩ <;>
      decide +kernel
  obtain ⟨c, done, held, lone, there, seen⟩ := ran
  have balanced := (Reached.rest done).balanced (start_balanced {})
  have grants := Moment.Has.grants (h := h) (.inl held) balanced rfl rfl
  have changed := (grants.strong rfl (·.setTo (.number 9))).trans (if_pos lone)
  exact ⟨_, h, g, _, .rest done, .inl held, rfl, changed, there, rfl, seen⟩

end Client

end Custody
