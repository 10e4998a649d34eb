/-!
# Ownership qualifiers

The eight ways in which a pointer may refer to a value, and what each of them promises: whether
it keeps the value alive, whether several of a kind may own one value, whether the value lies
behind a control block, and whether the pointer may go to another thread.
-/

namespace Custody

/-- The way in which a pointer refers to a value. -/
inductive Qualifier
  /-- Without ownership, and unchecked. -/
  | raw
  /-- As the only owner, without a control block. -/
  | unique
  /-- As the only owner; its storage is given back at once. -/
  | own
  /-- As the only owner; its storage is retired. -/
  | discard
  /-- As the only owner; destroyed when the allocator is released. -/
  | collect
  /-- As one of several owners, on any thread. -/
  | strong
  /-- As an observer of values owned by strong handles. -/
  | weak
  /-- As one of several owners on one thread. -/
  | handle
  deriving DecidableEq, Inhabited

namespace Qualifier

/-- All qualifiers, in order. -/
def all : List Qualifier := [raw, unique, own, discard, collect, strong, weak, handle]

/-- The lower-case name. -/
def name : Qualifier → String
  | raw => "raw"
  | unique => "unique"
  | own => "own"
  | discard => "discard"
  | collect => "collect"
  | strong => "strong"
  | weak => "weak"
  | handle => "handle"

/-- The name with a capital letter, under which a pointer is shown. -/
def title : Qualifier → String
  | raw => "Raw"
  | unique => "Unique"
  | own => "Own"
  | discard => "Discard"
  | collect => "Collect"
  | strong => "Strong"
  | weak => "Weak"
  | handle => "Handle"

/-- The qualifier of a lower-case name. -/
def parse? (text : String) : Option Qualifier := all.find? fun q => q.name == text

/-- Whether such a pointer keeps the value alive. -/
def isOwning : Qualifier → Bool
  | raw | weak => false
  | _ => true

/-- Whether several such pointers may own one value. -/
def isShared : Qualifier → Bool
  | strong | handle => true
  | _ => false

/-- Whether the value lies behind a control block. -/
def hasControlBlock : Qualifier → Bool
  | raw | unique => false
  | _ => true

/-- Whether such a pointer may go to another thread. -/
def isThreadSafe : Qualifier → Bool
  | raw | handle => false
  | _ => true

/-- What may be shared is owned. -/
theorem isOwning_of_isShared {q : Qualifier} (h : q.isShared) : q.isOwning := by
  cases q <;> simp_all [isShared, isOwning]

theorem mem_all (q : Qualifier) : q ∈ all := by cases q <;> decide

end Qualifier

end Custody
