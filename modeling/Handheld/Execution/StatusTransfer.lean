import Handheld.Execution.Context

/-!
# Execution/StatusTransfer — reading and writing the status words

A write to the current status never changes the width of instructions, and in user mode it changes
the condition flags only.  A write to the saved status is lost in a mode that saves none, and a read
there gives the current status.
-/

namespace Handheld

namespace Psr

/-- The bits of the status that an instruction may write in a mode. -/
def writable (m : Mode) : Word :=
  if m = .user then 0xF0000000#32 else ~~~0x20#32

end Psr

namespace Context

variable {M : Type}

/-- Reads the status or the saved status. -/
def readStatus (c : Context M) (saved : Bool) (rd : Register) : Context M :=
  c.write rd (if saved then c.registers.savedStatus else c.registers.status).toWord

/-- Writes the bits of the status, or the saved status, that `mask` selects. -/
def writeStatus (c : Context M) (saved : Bool) (mask : Word) (data : Operand) : Context M :=
  let v := (c.operand data).1
  c.mapRegisters fun r =>
    if saved then r.writeSavedStatus (r.savedStatus.patch mask v)
    else r.writeStatus (r.status.patch (mask &&& Psr.writable r.mode) v)

end Context

end Handheld
