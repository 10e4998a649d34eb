import Custody.Handle.Access
import Custody.Text.Quoted

/-!
# Looking at handles and control blocks

What can be told of a handle and of the control block behind it without touching the value:
counts, names, layouts, and the way they are shown.
-/

namespace Custody

/-- A handle in brief. -/
structure Brief where
  /-- Its qualifier. -/
  qualifier : Qualifier
  /-- Whether it is empty. -/
  isEmpty : Bool
  /-- The counts that it tells. -/
  counts : List Word
  deriving DecidableEq, Inhabited

/-- A handle in brief: strong handles and observers tell how many owners and observers there
are, local handles how many owners. -/
def Handle.brief (h : Handle) (m : Memory) : Brief :=
  let counts :=
    match h.ownership with
    | .block .strong | .weak => [h.owners m, h.observers m]
    | .block .handle => [h.owners m]
    | .unique _ | .block .own | .block .discard | .block .collect => []
  ⟨h.qualifier, h.isEmpty, counts⟩

/-- How a layout is shown. -/
def Layout.shown (l : Layout) : String :=
  "Layout \x7b size: " ++ toString l.size ++ ", align: " ++ toString l.align ++ " (1 << " ++
    toString l.alignExponent ++ ") \x7d"

/-- What can be told of a control block. -/
structure BlockView where
  /-- The state. -/
  state : BlockState
  /-- The type of the value. -/
  kind : Kind
  /-- The name of the allocator. -/
  allocator : String
  /-- The layout of the block with its value. -/
  layout : Layout
  deriving DecidableEq, Inhabited

/-- How a control block is shown. -/
def BlockView.shown (b : BlockView) : String :=
  "ControlBlock \x7b state: " ++ b.state.shown ++ ", type_name: " ++ Text.quoted b.kind.name ++
    ", allocator: " ++ Text.quoted b.allocator ++ ", layout: " ++ b.layout.shown ++ " \x7d"

namespace Memory

/-- What can be told of the control block of a cell. -/
def blockView? (m : Memory) (c : CellId) : Option BlockView := do
  let cell ← m.cell? c
  let state ← cell.state
  return ⟨state, cell.kind, cell.home.elim "" m.allocatorName, cell.layout⟩

/-- The memory with the counts of a control block overwritten. -/
def setCounts (m : Memory) (c : CellId) (owners observers : Option Word) : Memory :=
  match m.cell? c with
  | none => m
  | some cell =>
    m.setCell c { cell with state := cell.state.map (·.withCounts owners observers) }

end Memory

/-- The control block of a handle that has one and was not narrowed. -/
def Handle.blockView? (h : Handle) (m : Memory) : Option BlockView :=
  h.wholeBlock?.bind m.blockView?

end Custody
