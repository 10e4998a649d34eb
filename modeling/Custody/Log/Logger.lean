import Custody.Log.Json

/-!
# What the log lets through

The switches of the log: whether it is on at all, how severe an entry must be, and the format
of the lines it prints. An entry passes when the log is on, the entry's level is not `off`, and
it is at least as severe as the threshold. A threshold of `off` therefore stops everything.
-/

namespace Custody.Log

/-- The switches of the log. -/
structure Switches where
  /-- Whether anything is let through. -/
  enabled : Bool := true
  /-- The least severe level that is let through. -/
  threshold : Level := .info
  /-- The layout of printed lines. -/
  format : Format := .plain
  deriving DecidableEq, Inhabited

/-- Whether an entry of a level is let through. -/
def Switches.admits (s : Switches) (level : Level) : Bool :=
  level != .off && s.enabled && s.threshold.rank ≤ level.rank

theorem Switches.admits_off (s : Switches) : s.admits .off = false := rfl

theorem Switches.admits_of_threshold_off (s : Switches) (h : s.threshold = .off) (level : Level) :
    s.admits level = false := by
  cases level <;> simp [admits, h, Level.rank]

end Custody.Log
