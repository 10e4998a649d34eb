import Custody.Word

/-!
# Allocation counters

Every allocator counts what it hands out and what comes back. The counters are words and wrap;
`Ledger.live` subtracts with a stop at zero, one counter after the other, so that it never
shows more than was allocated.
-/

namespace Custody

/-- The counters of an allocator. -/
structure Ledger where
  /-- Allocations that succeeded. -/
  allocations : Word := 0
  /-- Allocations given back. -/
  deallocations : Word := 0
  /-- Allocations given back without being freed. -/
  retirements : Word := 0
  /-- Allocations made with a destructor. -/
  collected : Word := 0
  /-- Live allocations written off by releases. -/
  abandoned : Word := 0
  /-- Bytes handed out. -/
  bytes : Word := 0
  /-- Releases that released something. -/
  bulkReleases : Word := 0
  deriving DecidableEq, Inhabited

namespace Ledger

/-- Allocations handed out one by one that have not come back. -/
def live (l : Ledger) : Word :=
  Word.saturatingSub (Word.saturatingSub (Word.saturatingSub (Word.saturatingSub
    l.allocations l.deallocations) l.retirements) l.collected) l.abandoned

/-- One more allocation, with or without a destructor. -/
def allocate (l : Ledger) (size : Nat) (collected : Bool) : Ledger :=
  { l with
    allocations := l.allocations + 1
    bytes := l.bytes + UInt64.ofNat size
    collected := if collected then l.collected + 1 else l.collected }

/-- One more allocation given back. -/
def deallocate (l : Ledger) : Ledger := { l with deallocations := l.deallocations + 1 }

/-- One more allocation retired. -/
def retire (l : Ledger) : Ledger := { l with retirements := l.retirements + 1 }

/-- One more release, which wrote off some live allocations. -/
def writeOff (l : Ledger) (leaked : Word) : Ledger :=
  { l with bulkReleases := l.bulkReleases + 1, abandoned := l.abandoned + leaked }

/-- The number of live allocations is what was allocated less all that is accounted for. -/
theorem toNat_live (l : Ledger) :
    l.live.toNat = l.allocations.toNat -
      (l.deallocations.toNat + l.retirements.toNat + l.collected.toNat + l.abandoned.toNat) := by
  simp only [live, Word.toNat_saturatingSub]
  omega

end Ledger

end Custody
