import Custody.Block.State
import Custody.Config.Basic
import Custody.Config.Environment
import Custody.Context
import Custody.Fault
import Custody.Handle.Access
import Custody.Handle.Basic
import Custody.Handle.Convert
import Custody.Handle.Create
import Custody.Handle.Extent
import Custody.Handle.Inspect
import Custody.Handle.Narrow
import Custody.Handle.Neighbours
import Custody.Handle.Qualifier
import Custody.Handle.Raw
import Custody.Handle.Share
import Custody.Log.Entry
import Custody.Log.Json
import Custody.Log.Level
import Custody.Log.Logger
import Custody.Machine.Basic
import Custody.Machine.Storage
import Custody.Memory.Basic
import Custody.Nothing.Registry
import Custody.Process.Event
import Custody.Process.Outcome
import Custody.Process.Printout
import Custody.Process.Report
import Custody.Process.Startup
import Custody.Process.State
import Custody.Proofs.Abreast
import Custody.Proofs.Aside
import Custody.Proofs.Blocks
import Custody.Proofs.Books
import Custody.Proofs.Borrowing
import Custody.Proofs.Capacity
import Custody.Proofs.Carving
import Custody.Proofs.Cascade
import Custody.Proofs.Census
import Custody.Proofs.Chunks
import Custody.Proofs.Client
import Custody.Proofs.Collected
import Custody.Proofs.Complete
import Custody.Proofs.Conduct
import Custody.Proofs.Continuity
import Custody.Proofs.Conversions
import Custody.Proofs.CountChanges
import Custody.Proofs.Counting
import Custody.Proofs.Courses.Basic
import Custody.Proofs.Courses.Moving
import Custody.Proofs.Courses.Releasing
import Custody.Proofs.Creating
import Custody.Proofs.Dedicated
import Custody.Proofs.Delivery
import Custody.Proofs.Descent
import Custody.Proofs.Directions
import Custody.Proofs.Endowing
import Custody.Proofs.Entrusted
import Custody.Proofs.Exclusive
import Custody.Proofs.Fencing
import Custody.Proofs.Frame
import Custody.Proofs.Granting
import Custody.Proofs.History
import Custody.Proofs.Homecoming
import Custody.Proofs.Indifference
import Custody.Proofs.Initializing
import Custody.Proofs.Json.Grammar
import Custody.Proofs.Json.Reader
import Custody.Proofs.Laws
import Custody.Proofs.Leaks
import Custody.Proofs.Ledgers
import Custody.Proofs.LettingGo
import Custody.Proofs.Likeness
import Custody.Proofs.Lineage
import Custody.Proofs.Loans
import Custody.Proofs.LocalGroups
import Custody.Proofs.Lockstep
import Custody.Proofs.LogLines
import Custody.Proofs.Moments
import Custody.Proofs.Moves
import Custody.Proofs.Moving
import Custody.Proofs.Narrowing
import Custody.Proofs.Nothings
import Custody.Proofs.Numbering
import Custody.Proofs.Operations
import Custody.Proofs.Outcome
import Custody.Proofs.Passing
import Custody.Proofs.Pasts
import Custody.Proofs.Placement
import Custody.Proofs.Projections
import Custody.Proofs.Raising
import Custody.Proofs.Refusals
import Custody.Proofs.Registration
import Custody.Proofs.Releasing
import Custody.Proofs.Renewal
import Custody.Proofs.Repaying
import Custody.Proofs.Replacements
import Custody.Proofs.Reporting
import Custody.Proofs.Requests
import Custody.Proofs.Scope
import Custody.Proofs.Settings
import Custody.Proofs.Settling
import Custody.Proofs.Sharing
import Custody.Proofs.Silence
import Custody.Proofs.Situations
import Custody.Proofs.SoleHandles
import Custody.Proofs.Sound
import Custody.Proofs.Steps
import Custody.Proofs.Stored
import Custody.Proofs.Tags
import Custody.Proofs.Tally
import Custody.Proofs.Tending
import Custody.Proofs.Threads
import Custody.Proofs.Transferring
import Custody.Proofs.Turns
import Custody.Proofs.Twins
import Custody.Proofs.Unwinding
import Custody.Proofs.Upgrades
import Custody.Proofs.Upkeep
import Custody.Proofs.WriteOffs
import Custody.Release.Settle
import Custody.Release.Task
import Custody.Release.Teardown
import Custody.Session.Allocators
import Custody.Session.Basic
import Custody.Session.Contexts
import Custody.Session.Diagnosing
import Custody.Session.Handles
import Custody.Session.Logging
import Custody.Session.Slots
import Custody.Session.Startup
import Custody.Session.Storage
import Custody.Session.Trouble
import Custody.Slab
import Custody.Storage.Allocator
import Custody.Storage.Arena
import Custody.Storage.Cursor
import Custody.Storage.Heap
import Custody.Storage.Layout
import Custody.Storage.Ledger
import Custody.Storage.Request
import Custody.Text.Blank
import Custody.Text.Decimal
import Custody.Text.Extender
import Custody.Text.Hex
import Custody.Text.Keyword
import Custody.Text.Lines
import Custody.Text.Printable
import Custody.Text.Quoted
import Custody.Text.SourcePlace
import Custody.Value.Basic
import Custody.Value.Destruction
import Custody.Value.Kind
import Custody.Word
