import Handheld.Registers.Basic

/-!
# Registers/Exception — entering the handler of an exception

Taking an exception switches to the mode of its handler, saves the interrupted status there, puts
the return address into that mode's link register, masks interrupts and selects wide code.  The
other flags stay as they were.
-/

namespace Handheld.Registers

/-- Enters the mode of a handler, to return to `link`.  The program counter stays. -/
def enterException (r : Registers) (handler : Mode) (link : Word) : Registers :=
  let r := (r.switchMode handler).writeSavedStatus r.status
  (r.write .link link).setFlags r.flags.onException

end Handheld.Registers
