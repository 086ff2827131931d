import Handheld.Registers.Basic
import Handheld.Interrupt.Controller
import Handheld.Text.Hex

/-!
# Snapshot/Basic — the state of the processor set down

A snapshot holds the registers, the cycle counter and the interrupt controller; memories and devices
are not part of it.  It repeats the mode and the width of instructions, which the status word tells
too, so a snapshot from elsewhere can disagree with itself; `Snapshot.Rejection` names how.
-/

namespace Handheld

/-- The state of the processor. -/
structure Snapshot where
  /-- The version of the format. -/
  version : String
  /-- The visible registers. -/
  registers : Vector Word 16
  /-- The status word. -/
  status : Word
  /-- The stored banks. -/
  banks : Vector Bank 6
  /-- The mode. -/
  mode : Mode
  /-- Instructions are narrow. -/
  thumb : Bool
  /-- The cycle counter. -/
  cycles : Double
  /-- The registers of the interrupt controller. -/
  interrupts : Controller.Image
  /-- The processor waits for a request. -/
  halted : Bool
  deriving DecidableEq

namespace Snapshot

/-- The version of the format that is written and accepted. -/
def currentVersion : String := "1.0"

/-- Why a snapshot is not accepted. -/
inductive Rejection where
  /-- It has another version. -/
  | version (found : String)
  /-- The status word encodes no mode. -/
  | invalidMode (bits : BitVec 5)
  /-- The status word encodes another mode. -/
  | modeMismatch (mode : Mode) (status : Word)
  /-- The status word tells another width of instructions. -/
  | thumbMismatch (status : Word)
  deriving DecidableEq

namespace Rejection

/-- The message for a snapshot that is not accepted. -/
def message : Rejection → String
  | version found =>
    "Snapshot version mismatch: expected " ++ currentVersion ++ ", found " ++ found
  | invalidMode bits => "Invalid processor mode " ++ Text.hexPadded 2 bits.toNat
  | modeMismatch mode status =>
    "Snapshot mode " ++ Text.hexPadded 2 mode.code.toNat ++ " does not match status register " ++
      Text.hexPadded 8 status.toNat
  | thumbMismatch status =>
    "Snapshot thumb flag does not match status register " ++ Text.hexPadded 8 status.toNat

end Rejection

/-- The registers that a snapshot describes.  The version is looked at first, then whether the
status word encodes a mode, then whether mode and width agree with it. -/
def registers? (s : Snapshot) : Except Rejection Registers :=
  let p := Psr.ofWord s.status
  if s.version ≠ currentVersion then .error (.version s.version)
  else
    match Registers.ofParts? s.registers p s.banks with
    | none => .error (.invalidMode p.modeBits)
    | some r =>
      if r.mode ≠ s.mode then .error (.modeMismatch s.mode s.status)
      else if r.flags.thumb ≠ s.thumb then .error (.thumbMismatch s.status)
      else .ok r

end Snapshot

end Handheld
