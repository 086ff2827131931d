import Handheld.Word

/-!
# Device/RegisterBlock — halfword registers that read back what was written

A block of `n` registers answers from its base address on.  Reads elsewhere give zero and writes
elsewhere are dropped.
-/

namespace Handheld

/-- A block of `n` registers from the address `base` on. -/
structure RegisterBlock (base : Word) (n : Nat) where
  /-- The registers, by half their distance from the base. -/
  cells : Vector Half n
  deriving DecidableEq

namespace RegisterBlock

variable {base : Word} {n : Nat}

/-- A block of zeros. -/
def zeros (base : Word) (n : Nat) : RegisterBlock base n := ⟨Vector.replicate n 0#16⟩

/-- The number of the register at an address, if the block has one there. -/
def index? (base : Word) (n : Nat) (a : Word) : Option (Fin n) :=
  if h : base ≤ a ∧ (a - base).toNat / 2 < n then some ⟨(a - base).toNat / 2, h.2⟩ else none

/-- Reads the register at an address. -/
def read (b : RegisterBlock base n) (a : Word) : Half :=
  match index? base n a with
  | some i => b.cells[i]
  | none => 0#16

/-- Writes the bits that `mask` selects of the register at an address. -/
def write (b : RegisterBlock base n) (a : Word) (value mask : Half) : RegisterBlock base n :=
  match index? base n a with
  | some i => ⟨b.cells.set i (Half.merge b.cells[i] value mask)⟩
  | none => b

end RegisterBlock

end Handheld
