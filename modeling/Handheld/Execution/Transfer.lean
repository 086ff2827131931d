import Handheld.Execution.Context

/-!
# Execution/Transfer — loads, stores and exchanges of one register

The offset and the stored value are read before anything is written.  A load writes the base back
before its destination, so a base that is also the destination ends up with the loaded value.
-/

namespace Handheld.Context

variable {M : Type}

/-- The address of a transfer and the address that is written back. -/
def transferAddresses (c : Context M) (mode : Addressing) (offset : Word) : Word × Word :=
  let base := c.read mode.base
  let moved := if mode.up then base + offset else base - offset
  (if mode.early then moved else base, moved)

/-- Writes the moved address back to the base register, if the addressing asks for it. -/
def writeBack (c : Context M) (mode : Addressing) (moved : Word) : Context M :=
  if !mode.early || mode.writeBack then c.write mode.base moved else c

/-- What a store finds in a register; the program counter has moved on by four. -/
def stored (c : Context M) (n : Register) : Word := if n = .pc then c.pc + 4 else c.read n

variable [Memory M]

/-- Loads a register. -/
def load (c : Context M) (kind : LoadKind) (mode : Addressing) (rd : Register) (offset : Operand) :
    Context M :=
  let (a, moved) := c.transferAddresses mode (c.operand offset).1
  let (v, c) := c.loadKind kind a
  (c.writeBack mode moved).write rd v

/-- Stores a register. -/
def store (c : Context M) (kind : StoreKind) (mode : Addressing) (rd : Register)
    (offset : Operand) : Context M :=
  let v := c.stored rd
  let (a, moved) := c.transferAddresses mode (c.operand offset).1
  (c.storeKind kind a v).writeBack mode moved

/-- Loads a word relative to the aligned program counter. -/
def loadFromPc (c : Context M) (rd : Register) (offset : Word) : Context M :=
  let (v, c) := c.loadWord (c.pc.alignWord + offset)
  c.write rd v

/-- Exchanges a register with memory. -/
def swap (c : Context M) (byte : Bool) (base rd rm : Register) : Context M :=
  let a := c.read base
  let v := c.read rm
  if byte then
    let (old, c) := c.loadByte a
    (c.storeByte a (v.byte 0)).write rd (old.setWidth 32)
  else
    let (old, c) := c.loadRotated a
    (c.storeWord a v).write rd old

end Handheld.Context
