import Handheld.Word
import Handheld.Text.Hex

/-!
# Execution/Fault — why an instruction cannot be executed

Both faults name the address and the word found there.
-/

namespace Handheld

/-- Why an instruction cannot be executed. -/
inductive Fault where
  /-- The word encodes no instruction. -/
  | undefined (address word : Word)
  /-- The instruction addresses a coprocessor, and none is attached. -/
  | unimplemented (address word : Word)
  deriving DecidableEq

namespace Fault

/-- The message for a fault. -/
def message : Fault → String
  | undefined a w =>
    "Undefined instruction " ++ Text.hexPadded 8 w.toNat ++ " at " ++ Text.hexPadded 8 a.toNat
  | unimplemented a w =>
    "Unimplemented instruction " ++ Text.hexPadded 8 w.toNat ++ " at " ++ Text.hexPadded 8 a.toNat

end Fault

end Handheld
