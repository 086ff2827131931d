import Handheld.Execution.Context

/-!
# Execution/Multiply — products of one and two words

All operands are read before any result is written, so a destination may be an operand.  Flags, if
asked for, tell the sign and the vanishing of the whole product; carry and overflow stay.
-/

namespace Handheld.Context

variable {M : Type}

/-- Records the sign and the vanishing of a product, if asked to. -/
def setProductFlags (c : Context M) (setFlags negative zero : Bool) : Context M :=
  if setFlags then c.setFlags (c.flags.setResult negative zero) else c

/-- Multiplies, and adds a register if one is given. -/
def multiply (c : Context M) (setFlags : Bool) (rd rs rm : Register) (addend : Option Register) :
    Context M :=
  let v := c.read rm * c.read rs + (match addend with
    | some rn => c.read rn
    | none => 0#32)
  (c.write rd v).setProductFlags setFlags v.msb (v == 0)

/-- A register extended to a double. -/
def extended (c : Context M) (signed : Bool) (n : Register) : Double :=
  if signed then (c.read n).signExtend 64 else (c.read n).setWidth 64

/-- Multiplies to a double in two registers, and adds their former content if asked to. -/
def multiplyLong (c : Context M) (signed accumulate setFlags : Bool) (high low rs rm : Register) :
    Context M :=
  let former := if accumulate then Double.ofWords (c.read low) (c.read high) else 0#64
  let v := c.extended signed rm * c.extended signed rs + former
  let c := (c.write low (Double.lowWord v)).write high (Double.highWord v)
  c.setProductFlags setFlags v.msb (v == 0)

end Handheld.Context
