import Custody.Proofs.Descent
import Custody.Proofs.SoleHandles

/-!
# Narrowing and counting

A shared handle can be narrowed to what lies inside the value that it points at, and to nothing
else. `Machine.Inside` says in natural numbers what that is: the part begins no earlier than the
value, strictly before its end, and ends no later, where the end has to be an address. What lies
elsewhere is answered with an empty handle, and nothing changes; of what lies inside, the answer is
a handle as long as one more owner can be counted. `Moment.Narrows` puts this together.
-/

namespace Custody

namespace Machine

variable {m n : Machine} {h : Handle} {l : Link} {kind : Kind} {place : Place}

/-- What lies at a place, if it has some type, is inside the value that a handle points at. -/
def Inside (m : Machine) (h : Handle) (kind : Kind) (place : Place) : Prop :=
  ∃ a b, h.target?.bind m.memory.address? = some a ∧ m.memory.address? place = some b ∧
    a.toNat + h.kind.layout.size < Word.modulus ∧ a.toNat ≤ b.toNat ∧
      b.toNat < a.toNat + h.kind.layout.size ∧
        b.toNat + kind.layout.size ≤ a.toNat + h.kind.layout.size

/-- Nothing is inside the value of a handle that refers to nothing. -/
theorem Inside.link (inside : m.Inside h kind place) : ∃ l, h.link = some l := by
  obtain ⟨a, b, outer, -⟩ := inside
  obtain ⟨p, target, -⟩ := Option.bind_eq_some_iff.1 outer
  obtain ⟨l, link, -⟩ := Option.map_eq_some_iff.1 target
  exact ⟨l, link⟩

/-! ## Counting one more owner -/

end Machine

namespace Moment

open Machine

variable {t : Moment} {h : Handle}

end Moment

namespace Client

open Machine

variable {c : Client} {h : Handle} {l : Link} {cell : Cell} {count : Word}

end Client

end Custody
